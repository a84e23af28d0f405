import Parley.Proofs.Substitution.TokenByToken

/-!
# What a resolved text reports

A resolved text reports the tokens that were left as they are written: as *undefined* the numbers that lead to no
variable, as *missing* the others, and with them those inside the values of variables. Both reports are read off the
tokens of the text alone, in their order and without repetition (`Parley.Bindings.reports_exactly`). A text that
reports nothing is one in which every token was replaced, down to those inside the values.
-/

namespace Parley

namespace Text

/-- Whether a name is a number that leads to no variable, if there are so many variables. -/
def isStray (count : Nat) (name : String) : Bool :=
  match digits? name.toList with
  | some position => position < 1 || count < position
  | none => false

theorem strays_eq (count : Nat) (text : String) :
    strays count text = ((tokenNames text).filter (isStray count)).eraseDups := by
  have stray (p : Piece) : p.stray? count = (p.name?).filter (isStray count) := by
    rcases p with c | ⟨raw, name⟩
    · rfl
    · rw [Piece.stray?, Piece.name?, Option.filter_some, isStray]
      rcases digits? name.toList with _ | position
      · rfl
      · simp only [Nat.lt_one_iff, Bool.or_eq_true, decide_eq_true_eq]
  rw [strays, distinct_eq_eraseDups, tokenNames, namesIn_eq, List.filter_filterMap, funext stray]

end Text

namespace Bindings

open Step (tokenText)

variable (b : Bindings) {name : String}

/-! ### Inside the value of a variable -/

/-- What comes in the place of a token inside the value of a variable; none if it stays as it is written. -/
def within? (name : String) : Option String := (b.standing? name).or (b.named? name)

theorem within?_ne_empty (name : String) : b.within? name ≠ some "" := by
  intro blank
  rcases Option.or_eq_some_iff.mp blank with standing | ⟨-, named⟩
  · exact toList_ne_nil_of_filter standing rfl
  · exact toList_ne_nil_of_filter named rfl

/-- The value of the variable to which a number leads, as it is before its tokens are replaced. -/
def raw? (name : String) : Option String :=
  (Text.digits? name.toList).bind fun position =>
    (b.asked? position).map fun asked => (b.named.get? asked).getD ""

/-- The tokens that are left inside the value of the variable to which a number leads. -/
def leftInside (name : String) : List String :=
  ((b.raw? name).elim [] Text.tokenNames).filter fun inner => (b.within? inner).isNone

theorem toList_inside (raw : String) :
    (b.inside raw).toList = (Text.piecesOf raw.toList).flatMap (Piece.replaced b.within?) := by
  rw [inside, String.toList_ofList, Rendering.chars_ofPieces]
  refine List.flatMap_congr fun p _ => ?_
  rcases p with c | ⟨written, name⟩
  · rfl
  · exact chars_fill written name _

theorem missing_fill (written : List Char) (name : String) (value : Option String) :
    (fill written name value).missing = if value.isNone then [name] else [] := by
  cases value <;> rfl

/-- The tokens that are missing inside a value are those that are left. -/
theorem missing_inside (raw : String) :
    (Rendering.ofPieces b.renderInner (Text.piecesOf raw.toList)).missing =
      (Text.tokenNames raw).filter fun inner => (b.within? inner).isNone := by
  have one (p : Piece) : (b.renderInner p).missing =
      ((p.name?).filter fun inner => (b.within? inner).isNone).toList := by
    rcases p with c | ⟨written, name⟩
    · rfl
    · rw [renderInner, missing_fill, Piece.name?, Option.filter_some, within?]
      split <;> rfl
  rw [Rendering.missing_ofPieces, Text.tokenNames, Text.namesIn_eq, List.filter_filterMap,
    List.filterMap_eq_flatMap_toList, funext one]

/-! ### The report of a token -/

/-- What is missing on account of a token: what is left inside the value it leads to, and the token itself if it is
left and leads to a variable or is no number. -/
def missingFor (name : String) : List String :=
  b.leftInside name ++
    if (b.instead? name).isNone && !Text.isStray b.variableNames.length name then [name] else []

/-- Nothing comes in the place of a number with a variable just if its value is empty. -/
theorem isNone_instead?_of_asked {position : Nat} {asked : String}
    (number : Text.digits? name.toList = some position) (leads : b.asked? position = some asked) :
    (b.instead? name).isNone = (b.inside ((b.named.get? asked).getD "")).toList.isEmpty := by
  have value : b.value name = b.inside ((b.named.get? asked).getD "") := by
    rw [Bindings.value, number]
    dsimp only
    rw [leads, Option.map_some, Option.getD_some]
  rw [b.instead?_eq, ← value, Bool.eq_iff_iff, Option.isNone_iff_eq_none, List.isEmpty_iff,
    String.toList_eq_nil_iff, Option.filter_some]
  by_cases blank : b.value name = ""
  · simp [blank]
  · simp [blank]

theorem missing_render (p : Piece) : (b.render p).missing = (p.name?).elim [] b.missingFor := by
  rcases p with c | ⟨written, name⟩
  · rfl
  · rw [render, Piece.name?, Option.elim_some, missingFor, leftInside, raw?]
    rcases number : Text.digits? name.toList with _ | position
    · -- no number: the token itself is missing if it has no value
      have no_stray : Text.isStray b.variableNames.length name = false := by rw [Text.isStray, number]
      dsimp only
      rw [missing_fill, b.instead?_of_name number, no_stray, Bool.not_false, Bool.and_true]
      rfl
    · dsimp only [Option.bind_some]
      rw [renderPositional, ← asked?]
      rcases leads : b.asked? position with _ | asked
      · -- it leads nowhere: undefined, and so not missing
        have stray : Text.isStray b.variableNames.length name = true := by
          rw [Text.isStray, number]
          simpa [Nat.lt_one_iff] using b.asked?_eq_none_iff.mp leads
        rw [stray, Bool.not_true, Bool.and_false]
        rfl
      · have no_stray : Text.isStray b.variableNames.length name = false := by
          rw [Text.isStray, number]
          have there : b.asked? position ≠ none := by rw [leads]; exact Option.some_ne_none asked
          simpa [Nat.lt_one_iff, not_or] using mt b.asked?_eq_none_iff.mpr there
        have left := b.isNone_instead?_of_asked number leads
        rw [inside, String.toList_ofList] at left
        rw [left, no_stray, Bool.not_false, Bool.and_true, Option.map_some, Option.elim_some, ← b.missing_inside]
        dsimp only
        split <;> simp

/-! ### The two reports -/

theorem missing_resolve (text : String) :
    (b.resolve text).missing = ((Text.tokenNames text).flatMap b.missingFor).eraseDups := by
  have tokens : (Text.piecesOf text.toList).flatMap (fun p => (b.render p).missing) =
      (Text.tokenNames text).flatMap b.missingFor := by
    rw [Text.tokenNames, Text.namesIn_eq, List.filterMap_eq_flatMap_toList, List.flatMap_assoc]
    refine List.flatMap_congr fun p _ => ?_
    rw [b.missing_render]
    rcases p.name? with _ | name
    · rfl
    · exact (List.flatMap_singleton b.missingFor name).symm
  show Text.distinct _ = _
  rw [Text.distinct_eq_eraseDups, Rendering.missing_ofPieces, tokens]

/-- A token that nothing is reported for is replaced, and so is each token of the value it leads to. -/
theorem replaced_of_unreported (nothing : b.missingFor name = [])
    (no_stray : Text.isStray b.variableNames.length name = false) :
    (∃ value, value ≠ "" ∧ b.instead? name = some value) ∧
      ∀ raw, b.raw? name = some raw → ∀ inner ∈ Text.tokenNames raw,
        ∃ value, value ≠ "" ∧ b.within? inner = some value := by
  obtain ⟨inside, itself⟩ := List.append_eq_nil_iff.mp nothing
  constructor
  · rcases found : b.instead? name with _ | value
    · rw [found, no_stray] at itself
      cases itself
    · exact ⟨value, fun blank => b.instead?_ne_empty name (blank ▸ found), rfl⟩
  · intro raw leads inner token
    rcases found : b.within? inner with _ | value
    · rw [leftInside, leads, Option.elim_some, List.filter_eq_nil_iff] at inside
      exact absurd (by rw [found, Option.isNone_none]) (inside inner token)
    · exact ⟨value, fun blank => b.within?_ne_empty inner (blank ▸ found), rfl⟩

/-- **Both reports are exact.** A resolved text is the text with something in the place of some of its tokens, and
so is what comes in the place of a number that leads to a variable. Reported as undefined are the numbers of the
text that lead to no variable; reported as missing are the other tokens of the text that are left, and those left
inside the value to which a number leads: each of them once, in the order in which they are first met. So a text
that reports nothing is one in which each token was replaced by a value that is not empty, and each token of each
value that was used. -/
theorem reports_exactly (context : Context) (now : Moment) (names : List String) (values : Dict String)
    (text : String) :
    let b := ofContext context now names values
    let r := b.resolve text
    r.text.toList = (Text.piecesOf text.toList).flatMap (Piece.replaced b.instead?) ∧
    (∀ raw, (b.inside raw).toList = (Text.piecesOf raw.toList).flatMap (Piece.replaced b.within?)) ∧
    r.undefined = ((Text.tokenNames text).filter (Text.isStray names.length)).eraseDups ∧
    r.missing = ((Text.tokenNames text).flatMap b.missingFor).eraseDups ∧
    (r.missing = [] → r.undefined = [] → ∀ name ∈ Text.tokenNames text,
      (∃ value, value ≠ "" ∧ b.instead? name = some value) ∧
      ∀ raw, b.raw? name = some raw → ∀ inner ∈ Text.tokenNames raw,
        ∃ value, value ≠ "" ∧ b.within? inner = some value) := by
  intro b r
  have undefined : r.undefined = ((Text.tokenNames text).filter (Text.isStray names.length)).eraseDups :=
    (b.undefined_resolve text).trans (Text.strays_eq names.length text)
  have missing : r.missing = ((Text.tokenNames text).flatMap b.missingFor).eraseDups := b.missing_resolve text
  refine ⟨b.toList_resolve text, b.toList_inside, undefined, missing,
    fun none_missing none_undefined name mem => ?_⟩
  -- what is left of the token or of the value it leads to would be reported
  have no_stray : Text.isStray names.length name = false := by
    refine Bool.eq_false_iff.mpr fun stray => ?_
    have reported := List.mem_eraseDups.mpr (List.mem_filter.mpr ⟨mem, stray⟩)
    rw [← undefined, none_undefined] at reported
    exact List.not_mem_nil reported
  have nothing : b.missingFor name = [] := by
    refine List.eq_nil_iff_forall_not_mem.mpr fun other left => ?_
    have reported := List.mem_eraseDups.mpr (List.mem_flatMap.mpr ⟨name, mem, left⟩)
    rw [← missing, none_missing] at reported
    exact List.not_mem_nil reported
  exact b.replaced_of_unreported nothing no_stray

/-- A number that leads to a variable whose value is a token, and nothing to report. -/
theorem reports_exactly_nested :
    let b := ofContext ⟨"+1", none, [("code", "X1")]⟩ ⟨0, none⟩ ["v"] [("v", tokenText "code")]
    (b.resolve (tokenText "1")).missing = [] ∧ (b.resolve (tokenText "1")).undefined = [] ∧
    (∃ value, value ≠ "" ∧ b.instead? "1" = some value) ∧
    ∃ value, value ≠ "" ∧ b.within? "code" = some value := by
  intro b
  have none_missing : (b.resolve (tokenText "1")).missing = [] := by decide +kernel
  have none_undefined : (b.resolve (tokenText "1")).undefined = [] := by decide +kernel
  obtain ⟨-, -, -, -, replaced⟩ :=
    reports_exactly ⟨"+1", none, [("code", "X1")]⟩ ⟨0, none⟩ ["v"] [("v", tokenText "code")] (tokenText "1")
  obtain ⟨outer, inner⟩ := replaced none_missing none_undefined "1" (by decide +kernel)
  exact ⟨none_missing, none_undefined, outer,
    inner (tokenText "code") (by decide +kernel) "code" (by decide +kernel)⟩

end Bindings

end Parley
