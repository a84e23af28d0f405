import Parley.Proofs.Dictionary
import Parley.Proofs.Substitution.Pieces

/-!
# Which value comes in the place of a token

Three sources know values by name: the standing values, the values of a template and those of the context. For
a name that is no number they are asked in this order, and the first one that has an entry decides: if its entry
is empty, the token stays as it is written, whatever the sources behind it have to say. So a token stays for one
of two reasons. Either nobody knows a value, or an empty entry hides one
(`Parley.Bindings.left_iff_unknown_or_hidden`). For a variable to which a positional token leads it is the same
with the last two sources.

Whatever comes in the place of a token is not empty, so a text does not become empty when it is resolved
(`Parley.Bindings.resolve_ne_empty`).
-/

namespace Parley

/-! ### Sources -/

/-- Dictionaries of values, from the one that is asked first to the one that is asked last. -/
abbrev Sources := List (Dict String)

namespace Sources

variable {sources : Sources} {name : String}

/-- The first entry under a name. -/
def first? (sources : Sources) (name : String) : Option String :=
  sources.findSome? fun source => source.get? name

/-- No source has an entry under the name that is not empty. -/
def Unknown (sources : Sources) (name : String) : Prop :=
  ∀ source ∈ sources, ∀ value, source.get? name = some value → value = ""

/-- The first entry under the name is empty, although another source has one that is not. -/
def Hidden (sources : Sources) (name : String) : Prop :=
  sources.first? name = some "" ∧ ¬sources.Unknown name

theorem first?_cons (source : Dict String) (sources : Sources) (name : String) :
    first? (source :: sources) name = (source.get? name).or (first? sources name) := by
  unfold first?
  rw [List.findSome?_cons]
  cases source.get? name <;> rfl

theorem first?_nil (name : String) : first? [] name = none := rfl

/-- An entry that is not empty counts. -/
theorem filter_some {value : String} (some_char : value ≠ "") :
    (some value).filter (· != "") = some value :=
  Option.filter_some_pos (bne_iff_ne.mpr some_char)

/-- **There are two reasons for having no value**: nobody knows one, or an empty entry hides it. -/
theorem filter_first?_eq_none_iff :
    (sources.first? name).filter (· != "") = none ↔ sources.Unknown name ∨ sources.Hidden name := by
  constructor
  · intro nothing
    by_cases unknown : sources.Unknown name
    · exact .inl unknown
    · refine .inr ⟨?_, unknown⟩
      cases first : sources.first? name with
      | none =>
        refine absurd (fun source mem value found => ?_) unknown
        have absent := List.findSome?_eq_none_iff.mp first source mem
        cases absent.symm.trans found
      | some value =>
        by_cases blank : value = ""
        · rw [blank]
        · rw [first, filter_some blank] at nothing
          cases nothing
  · rintro (unknown | ⟨hidden, -⟩)
    · cases first : sources.first? name with
      | none => rfl
      | some value =>
        obtain ⟨source, mem, found⟩ := List.exists_of_findSome?_eq_some first
        rw [unknown source mem value found]
        rfl
    · rw [hidden]
      rfl

end Sources

/-! ### What comes in the place of a token -/

/-- A piece of a text with its token replaced, if anything comes in its place. -/
def Piece.replaced (instead : String → Option String) : Piece → List Char
  | char c => [c]
  | token raw name => ((instead name).map String.toList).getD raw

namespace Bindings

variable (b : Bindings) {name asked : String} {position : Nat}

/-- The value of a variable with its own tokens replaced. -/
def inside (value : String) : String :=
  String.ofList (Rendering.ofPieces b.renderInner (Text.piecesOf value.toList)).chars

/-- The variable for which a positional token stands. -/
def asked? (position : Nat) : Option String :=
  if position = 0 then none else b.variableNames[position - 1]?

/-- A number leads to no variable if it is zero or there are not so many variables. -/
theorem asked?_eq_none_iff : b.asked? position = none ↔ position = 0 ∨ b.variableNames.length < position := by
  unfold asked?
  split
  · simp [*]
  · rw [List.getElem?_eq_none_iff]
    omega

/-- What comes in the place of a token of a name; none if the token stays as it is written. -/
def instead? (name : String) : Option String :=
  match Text.digits? name.toList with
  | none => b.direct? name
  | some position => (b.asked? position).bind fun asked => (b.named? asked).map b.inside

theorem instead?_of_name (no_number : Text.digits? name.toList = none) :
    b.instead? name = b.direct? name := by
  rw [instead?, no_number]

theorem instead?_of_position (number : Text.digits? name.toList = some position) (first : 1 ≤ position)
    (leads : b.variableNames[position - 1]? = some asked) :
    b.instead? name = (b.named? asked).map b.inside := by
  have stands : b.asked? position = some asked := (if_neg (by omega)).trans leads
  rw [instead?, number]
  dsimp only
  rw [stands, Option.bind_some]

theorem chars_fill (raw : List Char) (name : String) (value : Option String) :
    (fill raw name value).chars = (value.map String.toList).getD raw := by
  cases value <;> rfl

theorem toList_ne_nil_of_filter {value : String} {entry : Option String}
    (h : entry.filter (· != "") = some value) : value.toList ≠ [] := by
  have kept : (value != "") = true := (Option.filter_eq_some_iff.mp h).2
  exact fun nil => bne_iff_ne.mp kept (String.toList_eq_nil_iff.mp nil)

/-- A piece inside the value of a variable does not become empty. -/
theorem chars_renderInner_ne_nil {p : Piece} (filled : p.written ≠ []) : (b.renderInner p).chars ≠ [] := by
  cases p with
  | char c => exact filled
  | token raw name =>
    rw [renderInner, chars_fill]
    cases standing : b.standing? name with
    | some value => exact toList_ne_nil_of_filter standing
    | none =>
      cases named : b.named? name with
      | some value => exact toList_ne_nil_of_filter named
      | none => exact filled

/-- **The value of a variable does not become empty** when its tokens are replaced. -/
theorem inside_ne_empty {value : String} (some_char : value ≠ "") : b.inside value ≠ "" := by
  unfold inside
  rw [Rendering.chars_ofPieces, ne_eq, String.ofList_eq_empty_iff]
  refine Text.flatMap_piecesOf_ne_nil (fun _ => b.chars_renderInner_ne_nil) fun nil => ?_
  exact some_char (String.toList_eq_nil_iff.mp nil)

theorem inside_empty : b.inside "" = "" := by
  unfold inside
  rw [String.toList_empty, Text.piecesOf_nil]
  rfl

/-- What comes in the place of a token is not empty. -/
theorem instead?_ne_empty (name : String) : b.instead? name ≠ some "" := by
  unfold instead?
  cases Text.digits? name.toList with
  | none =>
    dsimp only
    unfold direct?
    split
    · exact fun blank => toList_ne_nil_of_filter blank rfl
    · exact fun blank => toList_ne_nil_of_filter blank rfl
  | some position =>
    dsimp only
    intro blank
    obtain ⟨asked, -, found⟩ := Option.bind_eq_some_iff.mp blank
    obtain ⟨value, named, empty⟩ := Option.map_eq_some_iff.mp found
    have some_char : value ≠ "" := fun eq => toList_ne_nil_of_filter named (by rw [eq]; rfl)
    exact b.inside_ne_empty some_char empty

/-- A positional token is replaced by the value of its variable, unless it has none. -/
theorem chars_renderPositional (raw : List Char) (name : String) (position : Nat) :
    (b.renderPositional raw name position).chars =
      (((b.asked? position).bind fun asked => (b.named? asked).map b.inside).map String.toList).getD raw := by
  unfold renderPositional
  rw [show (if position = 0 then none else b.variableNames[position - 1]?) = b.asked? position from rfl]
  cases b.asked? position with
  | none => rfl
  | some asked =>
    -- what is empty after its tokens are replaced was empty before
    have inner : (Rendering.ofPieces b.renderInner
        (Text.piecesOf ((b.named.get? asked).getD "").toList)).chars =
          (b.inside ((b.named.get? asked).getD "")).toList := String.toList_ofList.symm
    simp only [Option.bind_some, named?]
    rw [apply_ite Rendering.chars, inner]
    cases entry : b.named.get? asked with
    | none =>
      rw [Option.getD_none, b.inside_empty]
      rfl
    | some value =>
      by_cases blank : value = ""
      · rw [blank, Option.getD_some, b.inside_empty]
        rfl
      · have filled : (b.inside value).toList ≠ [] := fun nil =>
          b.inside_ne_empty blank (String.toList_eq_nil_iff.mp nil)
        rw [Option.getD_some, List.isEmpty_eq_false_iff.mpr filled, if_neg Bool.false_ne_true,
          Sources.filter_some blank]
        rfl

theorem chars_render (p : Piece) : (b.render p).chars = p.replaced b.instead? := by
  cases p with
  | char c => rfl
  | token raw name =>
    rw [render, Piece.replaced, instead?]
    cases Text.digits? name.toList with
    | none => exact chars_fill raw name _
    | some position => exact b.chars_renderPositional raw name position

/-- **A resolved text** is the text with its tokens replaced, where anything comes in their place. -/
theorem toList_resolve (text : String) :
    (b.resolve text).text.toList = (Text.piecesOf text.toList).flatMap (Piece.replaced b.instead?) := by
  show (String.ofList _).toList = _
  rw [String.toList_ofList, Rendering.chars_ofPieces]
  exact List.flatMap_congr fun p _ => b.chars_render p

/-- **A text that is not empty does not become empty.** -/
theorem resolve_ne_empty {text : String} (some_char : text ≠ "") : (b.resolve text).text ≠ "" := by
  have filled : ∀ p : Piece, p.written ≠ [] → p.replaced b.instead? ≠ [] := by
    intro p filled
    cases p with
    | char c => exact filled
    | token raw name =>
      rw [Piece.replaced]
      cases found : b.instead? name with
      | none => exact filled
      | some value =>
        intro nil
        have empty : value = "" := String.toList_eq_nil_iff.mp nil
        exact b.instead?_ne_empty name (empty ▸ found)
  have chars := Text.flatMap_piecesOf_ne_nil filled fun nil => some_char (String.toList_eq_nil_iff.mp nil)
  rw [← b.toList_resolve] at chars
  exact fun empty => chars (by rw [empty]; rfl)

/-! ### Which tokens are left -/

section OfContext

variable {context : Context} {now : Moment} {names : List String} {values : Dict String}

theorem get?_named_ofContext (distinct : values.keys.Nodup) (name : String) :
    (ofContext context now names values).named.get? name = Sources.first? [values, context.values] name := by
  rw [Sources.first?_cons, Sources.first?_cons, Sources.first?_nil, Option.or_none]
  exact Dict.get?_merge distinct

theorem named?_ofContext (distinct : values.keys.Nodup) (name : String) :
    (ofContext context now names values).named? name =
      (Sources.first? [values, context.values] name).filter (· != "") := by
  rw [named?, get?_named_ofContext distinct]

/-- For a name that is no number the standing values are asked before the others. -/
theorem direct?_ofContext (distinct : values.keys.Nodup) (name : String) :
    (ofContext context now names values).direct? name =
      (Sources.first? [context.standing now, values, context.values] name).filter (· != "") := by
  rw [direct?, Sources.first?_cons]
  cases entry : (context.standing now).get? name with
  | none =>
    have absent : ¬(ofContext context now names values).standing.has name = true :=
      Dict.has_iff_mem_keys.not.mpr (Dict.get?_eq_none_iff.mp entry)
    rw [if_neg absent, named?_ofContext distinct, Option.none_or]
  | some value =>
    have found : (ofContext context now names values).standing.get? name = some value := entry
    have present : (ofContext context now names values).standing.has name = true :=
      Dict.has_iff_mem_keys.mpr (Dict.mem_keys_of_get? found)
    rw [if_pos present, standing?, found, Option.some_or]

/-- **Which tokens are left as they are written.** A text is resolved by putting something in the place of some
of its tokens. A token whose name is no number is left for one of two reasons: none of the standing values, the
values of the template and those of the context has an entry under the name that is not empty; or the first of
them that has an entry has an empty one, which hides that of another. A positional token with a variable is left
for one of the same two reasons, which concern the values of the template and of the context under the name of
the variable. -/
theorem left_iff_unknown_or_hidden (context : Context) (now : Moment) (names : List String)
    (values : Dict String) (distinct : values.keys.Nodup) :
    let b := ofContext context now names values
    (∀ text, (b.resolve text).text.toList =
      (Text.piecesOf text.toList).flatMap (Piece.replaced b.instead?)) ∧
    (∀ name, Text.digits? name.toList = none →
      (b.instead? name = none ↔
        Sources.Unknown [context.standing now, values, context.values] name ∨
          Sources.Hidden [context.standing now, values, context.values] name)) ∧
    ∀ name position asked, Text.digits? name.toList = some position → 1 ≤ position →
      names[position - 1]? = some asked →
      (b.instead? name = none ↔
        Sources.Unknown [values, context.values] asked ∨ Sources.Hidden [values, context.values] asked) := by
  intro b
  refine ⟨b.toList_resolve, fun name no_number => ?_, fun name position asked number first leads => ?_⟩
  · rw [← Sources.filter_first?_eq_none_iff, ← direct?_ofContext distinct, b.instead?_of_name no_number]
  · rw [← Sources.filter_first?_eq_none_iff, ← named?_ofContext distinct,
      b.instead?_of_position number first leads, Option.map_eq_none_iff]

/-- The first name of a subscriber without a contact, and a variable that a template leaves empty: both are
known, and both tokens are left. -/
theorem left_iff_unknown_or_hidden_subscriber :
    let context : Context := ⟨"+1", none, [("first_name", "John"), ("code", "X1")]⟩
    let b := ofContext context ⟨0, none⟩ ["code"] [("code", "")]
    Dict.keys [("code", "")] = ["code"] ∧ b.instead? "first_name" = none ∧ b.instead? "1" = none ∧
    context.values.get? "first_name" = some "John" ∧ context.values.get? "code" = some "X1" := by
  intro context b
  have distinct : (Dict.keys [("code", "")]).Nodup := List.nodup_singleton _
  obtain ⟨-, plain, positional⟩ :=
    left_iff_unknown_or_hidden context ⟨0, none⟩ ["code"] [("code", "")] distinct
  have named : context.values.get? "first_name" = some "John" := by decide
  have code : context.values.get? "code" = some "X1" := by decide
  have hides : Sources.Hidden [context.standing ⟨0, none⟩, [("code", "")], context.values] "first_name" := by
    refine ⟨by decide +kernel, fun unknown => ?_⟩
    exact absurd (unknown context.values (by simp) "John" named) (by decide)
  have hides' : Sources.Hidden [[("code", "")], context.values] "code" := by
    refine ⟨by decide, fun unknown => ?_⟩
    exact absurd (unknown context.values (by simp) "X1" code) (by decide)
  exact ⟨rfl, (plain "first_name" (by decide)).mpr (.inr hides),
    (positional "1" 1 "code" (by decide) (Nat.le_refl 1) rfl).mpr (.inr hides'), named, code⟩

end OfContext

end Bindings

end Parley
