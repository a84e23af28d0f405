import Parley.Proofs.Text.LowerTwice
import Parley.Proofs.Trigger.Padding

/-!
# Keywords in canonical form

The keywords that are taken from the list of a step are canonical: none is empty, none has a comma or white space at its
ends, and each is in lower case. So they can be written into a list again, with nothing but commas between them, and are
the same keywords when they are taken from it (`Parley.Step.keywordTokens_canonical`). This rests on what trimming and
lower case leave alone: neither brings a comma into a keyword, and what is in lower case stays as it is.
-/

namespace Parley

namespace Text

variable {mark : Char} {cs piece : List Char} {texts : List String} {s word : String}

/-! ### Pieces between commas -/

theorem pieces_eq_splitOn (mark : Char) (cs : List Char) : pieces mark cs = cs.splitOn mark := by
  induction cs with
  | nil => rw [pieces, List.splitOn_nil]
  | cons c rest ih =>
    rw [pieces, List.splitOn_cons_eq_if_modifyHead, ih]
    refine if_congr Iff.rfl rfl ?_
    obtain ⟨first, others, eq⟩ := List.exists_cons_of_ne_nil (List.splitOn_ne_nil mark rest)
    rw [eq]
    rfl

/-- No piece holds the mark at which the text is cut. -/
theorem mark_not_mem_of_mem_pieces (mem : piece ∈ pieces mark cs) : mark ∉ piece := by
  induction cs generalizing piece with
  | nil => simp_all [pieces]
  | cons c rest ih =>
    unfold pieces at mem
    split at mem
    · rcases List.mem_cons.mp mem with rfl | later
      · exact List.not_mem_nil
      · exact ih later
    · rename_i other
      split at mem
      · rw [List.mem_singleton.mp mem]
        exact fun same => other (beq_iff_eq.mpr (List.mem_singleton.mp same).symm)
      · rename_i first others eq
        rcases List.mem_cons.mp mem with rfl | later
        · have free : mark ∉ first := ih (eq ▸ List.mem_cons_self)
          exact fun same => (List.mem_cons.mp same).elim (fun h => other (beq_iff_eq.mpr h.symm)) free
        · exact ih (eq ▸ List.mem_cons_of_mem _ later)

theorem comma_not_mem_of_mem_commaPieces (mem : word ∈ commaPieces s) : ',' ∉ word.toList := by
  obtain ⟨piece, there, rfl⟩ := List.mem_map.mp mem
  rw [String.toList_ofList]
  exact mark_not_mem_of_mem_pieces there

theorem comma_not_mem_trim (free : ',' ∉ s.toList) : ',' ∉ (trim s).toList := by
  obtain ⟨front, back, eq, -, -⟩ := exists_eq_padded s.toList
  rw [toList_trim]
  intro mem
  rw [eq] at free
  exact free (List.mem_append_right front (List.mem_append_left back mem))

/-- **Texts with commas in between** are cut into the texts again. -/
theorem commaPieces_joinWith (free : ∀ t ∈ texts, ',' ∉ t.toList) (some_text : texts ≠ []) :
    commaPieces (joinWith "," texts) = texts := by
  have apart : ∀ piece ∈ texts.map String.toList, ',' ∉ piece := List.forall_mem_map.mpr free
  have joined : (joinWith "," texts).toList = [','].intercalate (texts.map String.toList) :=
    String.toList_intercalate
  rw [commaPieces, pieces_eq_splitOn, joined, List.splitOn_intercalate ',' apart (by simpa using some_text),
    List.map_map]
  exact (List.map_congr_left fun t _ => String.ofList_toList).trans (List.map_id texts)

/-! ### Keywords -/

/-- **A keyword in canonical form.** -/
structure IsKeyword (word : String) : Prop where
  filled : word ≠ ""
  whole : ',' ∉ word.toList
  trimmed : Trimmed word.toList
  small : lower word = word

/-- What stands between commas becomes a keyword, unless it is blank. -/
theorem isKeyword_lower_trim (free : ',' ∉ s.toList) (some_char : trim s ≠ "") : IsKeyword (lower (trim s)) where
  filled empty := by
    obtain ⟨c, head, -⟩ := (trimmed_lower_trim some_char).head
    rw [empty] at head
    cases head
  whole := comma_not_mem_lower (comma_not_mem_trim free)
  trimmed := trimmed_lower_trim some_char
  small := lower_lower _

theorem IsKeyword.trim_eq (h : IsKeyword word) : trim word = word := by
  rw [trim, h.trimmed.trimChars_eq, String.ofList_toList]

end Text

open Text (IsKeyword)

/-- The keywords of settings are in canonical form. -/
theorem Settings.isKeyword_of_mem {s : Settings} {word : String} (mem : word ∈ s.keywordTokens) : IsKeyword word := by
  unfold keywordTokens at mem
  split at mem
  · exact absurd mem List.not_mem_nil
  · obtain ⟨k, listed, some_char, rfl⟩ := Text.mem_keywords_iff.mp mem
    exact Text.isKeyword_lower_trim (Text.comma_not_mem_of_mem_commaPieces listed) some_char

/-- **Keywords in canonical form** are taken from their list as they are. -/
theorem Settings.keywordTokens_joinWith {s : Settings} {words : List String}
    (canonical : ∀ word ∈ words, IsKeyword word) (listed : s.triggerKeywords = some (Text.joinWith "," words)) :
    s.keywordTokens = words := by
  simp only [keywordTokens, listed]
  by_cases none_listed : words = []
  · rw [none_listed]
    rfl
  · have trimmed : words.map Text.trim = words :=
      (List.map_congr_left fun word mem => (canonical word mem).trim_eq).trans (List.map_id words)
    have filled : words.filter (· != "") = words :=
      List.filter_eq_self.mpr fun word mem => bne_iff_ne.mpr (canonical word mem).filled
    have small : words.map Text.lower = words :=
      (List.map_congr_left fun word mem => (canonical word mem).small).trans (List.map_id words)
    rw [Text.commaPieces_joinWith (fun word mem => (canonical word mem).whole) none_listed, trimmed, filled, small]

namespace Step

/-- **Keywords are canonical.** Whatever the list of a step is, none of the keywords taken from it is empty, none has a
comma or white space at its ends, and each is its own lower case; and a step that lists these keywords with commas in
between has exactly the same ones. -/
theorem keywordTokens_canonical (s : Step) :
    (∀ word ∈ s.keywordTokens, word ≠ "" ∧ ',' ∉ word.toList ∧ Text.Trimmed word.toList ∧ Text.lower word = word) ∧
      ∀ t : Step, t.body.settings.triggerKeywords = some (Text.joinWith "," s.keywordTokens) →
        t.keywordTokens = s.keywordTokens := by
  have canonical : ∀ word ∈ s.keywordTokens, IsKeyword word := fun word => Settings.isKeyword_of_mem
  refine ⟨fun word mem => ?_, fun t listed => Settings.keywordTokens_joinWith canonical listed⟩
  obtain ⟨filled, whole, trimmed, small⟩ := canonical word mem
  exact ⟨filled, whole, trimmed, small⟩

/-- A list with capital letters that have several lower cases, and with empty places. -/
theorem keywordTokens_canonical_capitals :
    let s : Step := { id := "a", body := .branch { triggerKeywords := some " ΠΡΟΣ ,\u2003, İzmir," } }
    let t : Step := { id := "b", body := .branch { triggerKeywords := some "προς,i̇zmir" } }
    s.keywordTokens = ["προς", "i̇zmir"] ∧ t.keywordTokens = s.keywordTokens := by
  intro s t
  have words : s.keywordTokens = ["προς", "i̇zmir"] := by decide +kernel
  exact ⟨words, (keywordTokens_canonical s).2 t (by rw [words]; rfl)⟩

end Step

end Parley
