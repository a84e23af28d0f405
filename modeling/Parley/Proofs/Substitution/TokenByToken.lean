import Parley.Proofs.Substitution.Places
import Parley.Proofs.Substitution.Undefined
import Parley.Proofs.Substitution.Values
import Parley.Proofs.Text.Distinct

/-!
# Substitution goes token by token

What becomes of a token depends on its name and on nothing else in the text, and what comes in its place is not
looked through again. So a text may be cut wherever no token spans the cut, its parts resolved by themselves and put
together again, the reports as well as the texts (`Parley.Bindings.resolve_token_by_token`). Whoever can choose a
value – a name in a contact, an answer – can therefore not choose which tokens there are.
-/

namespace Parley

namespace Rendering

/-- Rendering one list of pieces after another. -/
theorem ofPieces_append (render : Piece → Rendering) (first second : List Piece) :
    ofPieces render (first ++ second) = (ofPieces render first).append (ofPieces render second) := by
  simp only [ofPieces_eq, List.flatMap_append, append]

/-- Characters that are rendered as they are. -/
theorem ofPieces_chars {render : Piece → Rendering} (plain : ∀ c, render (.char c) = { chars := [c] })
    (cs : List Char) : ofPieces render (cs.map .char) = { chars := cs } := by
  rw [ofPieces_eq]
  simp [List.flatMap_map, plain]

end Rendering

namespace Bindings

open Step (tokenText)

variable (b : Bindings)

/-- The value of a token: for a number the value of its variable with its own tokens replaced, for another name the
standing value or, if there is none, the named one. Empty if there is no value. -/
def value (name : String) : String :=
  match Text.digits? name.toList with
  | some position => ((b.asked? position).map fun asked => b.inside ((b.named.get? asked).getD "")).getD ""
  | none => ((b.standing.get? name).or (b.named.get? name)).getD ""

/-- An empty entry counts like none. -/
theorem filter_getD (entry : Option String) :
    (some (entry.getD "")).filter (· != "") = entry.filter (· != "") := by
  cases entry <;> rfl

/-- **What comes in the place of a token** is its value, unless that is empty. -/
theorem instead?_eq (name : String) : b.instead? name = (some (b.value name)).filter (· != "") := by
  unfold instead? value
  rcases Text.digits? name.toList with _ | position
  · dsimp only
    rw [filter_getD, direct?]
    rcases entry : b.standing.get? name with _ | standing
    · have absent : ¬b.standing.has name = true := Dict.has_iff_mem_keys.not.mpr (Dict.get?_eq_none_iff.mp entry)
      rw [if_neg absent, Option.none_or, named?]
    · have present : b.standing.has name = true :=
        Dict.has_iff_mem_keys.mpr (Dict.mem_keys_of_get? entry)
      rw [if_pos present, Option.some_or, standing?, entry]
  · dsimp only
    rcases b.asked? position with _ | asked
    · rfl
    · -- what is empty after its tokens are replaced was empty before
      rw [Option.bind_some, Option.map_some, Option.getD_some, named?, ← filter_getD]
      by_cases blank : (b.named.get? asked).getD "" = ""
      · rw [blank, b.inside_empty]
        rfl
      · rw [Sources.filter_some blank, Sources.filter_some (b.inside_ne_empty blank), Option.map_some]

variable {s t : String}

/-- The rendering of a text that is cut at a seam. -/
theorem ofPieces_seam (render : Piece → Rendering) (seam : Text.Seam s.toList t.toList) :
    Rendering.ofPieces render (Text.piecesOf (s ++ t).toList) =
      (Rendering.ofPieces render (Text.piecesOf s.toList)).append
        (Rendering.ofPieces render (Text.piecesOf t.toList)) := by
  rw [String.toList_append, Text.piecesOf_append seam, Rendering.ofPieces_append]

theorem text_resolve_append (seam : Text.Seam s.toList t.toList) :
    (b.resolve (s ++ t)).text = (b.resolve s).text ++ (b.resolve t).text := by
  simp only [resolve, ofPieces_seam b.render seam, Rendering.append, String.ofList_append]

theorem missing_resolve_append (seam : Text.Seam s.toList t.toList) :
    (b.resolve (s ++ t)).missing = ((b.resolve s).missing ++ (b.resolve t).missing).eraseDups := by
  simp only [resolve, ofPieces_seam b.render seam, Rendering.append, Text.distinct_append]

theorem undefined_resolve_append (seam : Text.Seam s.toList t.toList) :
    (b.resolve (s ++ t)).undefined = ((b.resolve s).undefined ++ (b.resolve t).undefined).eraseDups := by
  simp only [resolve, ofPieces_seam b.render seam, Rendering.append, Text.distinct_append]

/-- A text without tokens stays as it is. -/
theorem resolve_of_plain (plain : ∀ name, name ∉ Text.tokenNames s) : b.resolve s = { text := s } := by
  have chars := Text.piecesOf_of_namesIn_eq_nil (List.eq_nil_iff_forall_not_mem.mpr plain)
  have rendered : Rendering.ofPieces b.render (s.toList.map .char) = { chars := s.toList } :=
    Rendering.ofPieces_chars (fun _ => rfl) s.toList
  simp only [resolve, chars, rendered, String.ofList_toList]
  rfl

/-- A text that is a token becomes its value. -/
theorem text_resolve_token {name raw : String} (h : Text.Spells name raw.toList) :
    (b.resolve raw).text = if b.value name = "" then raw else b.value name := by
  apply String.toList_injective
  rw [b.toList_resolve, h.piecesOf_alone, List.flatMap_singleton, Piece.replaced, b.instead?_eq]
  by_cases blank : b.value name = ""
  · rw [if_pos blank, blank]
    rfl
  · rw [if_neg blank, Sources.filter_some blank]
    rfl

/-- **Substitution goes token by token.** A text may be cut wherever no token spans the cut: its text and its two
reports are those of the parts. A text in which no token stands at any place is returned as it is, and nothing is
reported. A token that is a whole text is replaced by its value as it is, also when that looks like a token, or
stays if the value is empty. So each token of a text is found, wherever it stands, and nothing else is touched. -/
theorem resolve_token_by_token (context : Context) (now : Moment) (names : List String) (values : Dict String) :
    let b := ofContext context now names values
    (∀ s t : String, Text.Seam s.toList t.toList →
      (b.resolve (s ++ t)).text = (b.resolve s).text ++ (b.resolve t).text ∧
      (b.resolve (s ++ t)).missing = ((b.resolve s).missing ++ (b.resolve t).missing).eraseDups ∧
      (b.resolve (s ++ t)).undefined = ((b.resolve s).undefined ++ (b.resolve t).undefined).eraseDups) ∧
    (∀ s : String, (∀ name raw, Text.Spells name raw → ¬raw <:+: s.toList) →
      b.resolve s = { text := s, missing := [], undefined := [] }) ∧
    (∀ name raw : String, Text.Spells name raw.toList →
      (b.resolve raw).text = if b.value name = "" then raw else b.value name) ∧
    ∀ name before raw after : String, Text.Spells name raw.toList →
      (b.resolve (before ++ (raw ++ after))).text =
        (b.resolve before).text ++
          ((if b.value name = "" then raw else b.value name) ++ (b.resolve after).text) := by
  intro b
  refine ⟨fun s t seam => ?_, fun s plain => ?_, fun name raw h => b.text_resolve_token h,
    fun name before raw after h => ?_⟩
  · exact ⟨b.text_resolve_append seam, b.missing_resolve_append seam, b.undefined_resolve_append seam⟩
  · refine b.resolve_of_plain fun name mem => ?_
    obtain ⟨before, raw, after, spells, eq⟩ := Text.mem_namesIn_iff.mp mem
    exact plain name raw spells ⟨before, after, by rw [List.append_assoc, eq]⟩
  · have seam := h.seam_before before.toList after.toList
    rw [← String.toList_append] at seam
    rw [b.text_resolve_append seam, b.text_resolve_append (h.seam_after after.toList), b.text_resolve_token h]

/-- A contact whose name looks like a token: the name is put in as it is. -/
theorem resolve_token_by_token_impostor :
    let context : Context := ⟨"+1", some { name := some (tokenText "phone") }, []⟩
    let b := ofContext context ⟨0, none⟩ [] []
    Text.Spells "name" (tokenText "name").toList ∧
    (b.resolve ("Dear " ++ (tokenText "name" ++ "!"))).text =
      (b.resolve "Dear ").text ++ (tokenText "phone" ++ (b.resolve "!").text) := by
  intro context b
  have spells : Text.Spells "name" (tokenText "name").toList :=
    Text.spells_tokenText ⟨by decide, List.all_eq_true.mp (by decide)⟩
  have value : b.value "name" = tokenText "phone" := by decide +kernel
  obtain ⟨-, -, -, found⟩ := resolve_token_by_token context ⟨0, none⟩ [] []
  refine ⟨spells, ?_⟩
  have result := found "name" "Dear " (tokenText "name") "!" spells
  rwa [value, if_neg (by decide)] at result

end Bindings

end Parley
