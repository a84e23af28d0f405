import Parley.Step.Reader
import Parley.Step.Writer

/-!
# Transcripts

A transcript is what a preview chat shows: entries one below the other, some from the user and some from
the automation. It can be written as a page of text, with a heading, the time of each entry, and what is
attached to it.
-/

namespace Parley

open Reading

/-- One line of a chat. -/
structure Entry where
  id : String
  text : String
  fromUser : Bool := false
  /-- `inbound`, `message` or `status`, or whatever else a writer of transcripts says. -/
  kind : String := "message"
  step : Option String := none
  attachments : List Attachment := []
  buttons : List Button := []
  metadata : Fields := []
  time : Moment

namespace Entry

/-- Reads an entry. One without an id or a time gets those given. -/
def readerWith (id : String) (now : Moment) : Reader Entry :=
  Reader.record .notRecord fun fs =>
    Entry.mk
      <$> fs.withDefault "id" id Reader.text
      <*> fs.required "text" Reader.text
      <*> fs.withDefault "from_user" false Reader.truth
      <*> fs.withDefault "kind" "message" Reader.text
      <*> fs.textOrNull "step_id"
      <*> fs.withDefault "attachments" [] (Reader.listOf Attachment.reader)
      <*> fs.withDefault "buttons" [] (Reader.listOf Button.reader)
      <*> fs.dict "metadata"
      <*> fs.withDefault "timestamp" now Reader.moment

/-- Writes an entry. -/
def write (e : Entry) : Value :=
  .dict [("id", .str e.id), ("text", .str e.text), ("from_user", .bool e.fromUser),
    ("kind", .str e.kind), ("step_id", .ofText? e.step),
    ("attachments", .list (e.attachments.map (Attachment.write .full))),
    ("buttons", .list (e.buttons.map (Button.write .full))),
    ("metadata", .dict (Value.finiteFields e.metadata)), ("timestamp", .str e.time.toText)]

/-- The line of the entry itself. -/
def headline (e : Entry) : String :=
  let time := e.time.shortTime
  if e.fromUser then "**[" ++ time ++ "] You:** " ++ e.text
  else if e.kind = "status" then "_[" ++ time ++ "] " ++ e.text ++ "_"
  else "**[" ++ time ++ "] Bot:** " ++ e.text

end Entry

/-- The line of an attachment: its kind and its name, or where it is. -/
def Attachment.line (a : Attachment) : String :=
  let name := match a.filename with
    | some name => if name = "" then a.url else name
    | none => a.url
  "  - 📎 " ++ a.kind ++ ": " ++ name

/-- Where a button leads outside the chat. -/
def Button.outside? (b : Button) : Option String :=
  (match b.kind with
    | .automation => none
    | .link => b.url
    | .phone => b.phone).filter (· != "")

/-- The line of a button. -/
def Button.line (index : Nat) (b : Button) : String :=
  "  - [" ++ toString index ++ "] `" ++ b.text ++ "` (" ++ b.kind.word ++ ")" ++
    match b.outside? with
    | some target => " → " ++ target
    | none => ""

/-- The lines of an entry, with an empty one at the end. -/
def Entry.lines (e : Entry) : List String :=
  e.headline :: e.attachments.map Attachment.line ++
    e.buttons.mapIdx Button.line ++ [""]

/-- A chat. -/
abbrev Transcript := List Entry

namespace Transcript

/-- The entry of an id. -/
def entry? (t : Transcript) (id : String) : Option Entry := t.find? fun e => e.id == id

/-- What did not come from the user. -/
def outbound (t : Transcript) : List Entry := t.filter fun e => !e.fromUser

/-- The heading of a page if no other is given. -/
def defaultTitle : String := "Automation Preview"

/-- The transcript as a page of text. -/
def page (t : Transcript) (title : String) : String :=
  Text.joinWith "\n" (["# " ++ title, ""] ++ t.flatMap Entry.lines)

/-- Writes a transcript. -/
def write (t : Transcript) : Value := .dict [("entries", .list (t.map Entry.write))]

end Transcript

end Parley
