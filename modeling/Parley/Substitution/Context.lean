import Parley.Reading.Basic
import Parley.Text.Blank
import Parley.Text.Search

/-!
# Whom a run talks to

The *context* of a run is what is known of its recipient: an address, perhaps a contact, and named values
such as earlier answers or the variables of an event. Some values are always there – the *standing*
ones: the names of the contact, the address, today's date and the time.
-/

namespace Parley

open Reading

/-- A person behind an address. -/
structure Contact where
  name : Option String := none
  /-- The name that the person goes by in the chat. -/
  whatsappName : Option String := none
  firstName : Option String := none
  lastName : Option String := none
  company : Option String := none
  deriving DecidableEq, Repr

/-- What a run knows of its recipient. -/
structure Context where
  recipient : String
  contact : Option Contact := none
  values : Dict String := []
  deriving DecidableEq, Repr

/-- The first of two texts that is not empty. -/
def orElseText (first : Option String) (other : String) : String :=
  match first with
  | some s => if s = "" then other else s
  | none => other

namespace Contact

/-- Reads a contact; what is not a dictionary is the issue given. -/
def readerAs (otherwise : IssueKind) : Reader Contact :=
  Reader.record otherwise fun fs =>
    Contact.mk
      <$> fs.textOrNull "name"
      <*> fs.textOrNull "whatsapp_name"
      <*> fs.textOrNull "first_name"
      <*> fs.textOrNull "last_name"
      <*> fs.textOrNull "company"

/-- Writes a contact. -/
def write (c : Contact) : Value :=
  .dict [("name", .ofText? c.name), ("whatsapp_name", .ofText? c.whatsappName),
    ("first_name", .ofText? c.firstName), ("last_name", .ofText? c.lastName),
    ("company", .ofText? c.company)]

/-- The name that is shown. -/
def displayName (c : Contact) : String := orElseText c.whatsappName (c.name.getD "")

end Contact

namespace Context

/-- Reads a context. -/
def reader : Reader Context :=
  Reader.record .notRecord fun fs =>
    Context.mk
      <$> fs.required "recipient" Reader.text
      <*> fs.withDefault "contact" none (Reader.orNull (Contact.readerAs .notRecord))
      <*> fs.textDict "values"

/-- Writes a context. -/
def write (c : Context) : Value :=
  .dict [("recipient", .str c.recipient),
    ("contact", match c.contact with
      | some contact => contact.write
      | none => .null),
    ("values", .ofTextDict c.values)]

/-- The context with more values, which replace those of the same name. -/
def withValues (c : Context) (more : Dict String) : Context :=
  { c with values := c.values.merge more }

/-- The values that are always there. A name that is not known is made from the name that is shown: its
first word and the other ones. -/
def standing (c : Context) (now : Moment) : Dict String :=
  let contact := c.contact.getD {}
  let shown := contact.displayName
  let words := Text.words shown
  [("name", if shown = "" then c.recipient else shown),
    ("phone", c.recipient),
    ("first_name", orElseText contact.firstName (words.headD "")),
    ("last_name", orElseText contact.lastName (Text.joinWith " " (words.drop 1))),
    ("company", contact.company.getD ""),
    ("date", now.dateText),
    ("time", now.timeText)]

end Context

end Parley
