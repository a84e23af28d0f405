import Parley.Proofs.Substitution.Values

/-!
# The detour over a variable

A name can be asked for in two ways: by a token of its own, or by a positional token of a variable whose value is
that token. The two ways look at the same sources, but not in the same way. Where the token stands by itself, a
standing value counts also when it is empty; inside the value of a variable it then counts for nothing, and the
other sources are asked. This is the only way in which the detour can make a difference
(`Parley.Bindings.detour_eq_iff`).
-/

namespace Parley.Bindings

variable (b : Bindings)

/-! ### One more value -/

open Step (tokenText)

/-- The template or the context knows a value of a name, but an empty standing value stands before it. -/
def Overshadowed (context : Context) (now : Moment) (values : Dict String) (name value : String) : Prop :=
  (context.standing now).get? name = some "" ∧ Sources.first? [values, context.values] name = some value ∧
    value ≠ ""

/-- The ways to give one more name a value: among the values of the template, or among those of the context if
the template has none under the name. -/
inductive Extends (context : Context) (values : Dict String) (name value : String) :
    Context → Dict String → Prop where
  | byTemplate : Extends context values name value context (values.put name value)
  | byContext (free : name ∉ values.keys) :
    Extends context values name value (context.withValues [(name, value)]) values

section Extends

variable {context context' : Context} {now : Moment} {values values' : Dict String} {v value : String}

theorem Extends.standing (more : Extends context values v value context' values') :
    context'.standing now = context.standing now := by
  cases more <;> rfl

theorem Extends.distinct (more : Extends context values v value context' values')
    (distinct : values.keys.Nodup) : values'.keys.Nodup := by
  cases more with
  | byTemplate => exact Dict.nodup_keys_put distinct
  | byContext => exact distinct

theorem Extends.first?_eq (more : Extends context values v value context' values') (name : String) :
    Sources.first? [values', context'.values] name =
      if name = v then some value else Sources.first? [values, context.values] name := by
  simp only [Sources.first?_cons, Sources.first?_nil, Option.or_none]
  cases more with
  | byTemplate =>
    rw [Dict.get?_put]
    split <;> rfl
  | byContext free =>
    have put : (context.withValues [(v, value)]).values.get? name =
        if name = v then some value else context.values.get? name := Dict.get?_put
    rw [put]
    split
    · rename_i same
      rw [same, Dict.get?_eq_none_iff.mpr free, Option.none_or]
    · rfl

end Extends

/-! ### Both ways -/

/-- A token that is a whole text becomes what comes in its place. -/
theorem resolve_tokenText {name : String} (h : Text.IsName name) :
    (b.resolve (tokenText name)).text = (b.instead? name).getD (tokenText name) := by
  apply String.toList_injective
  rw [b.toList_resolve, Text.piecesOf_tokenText h, List.flatMap_singleton, Piece.replaced]
  cases b.instead? name <;> rfl

/-- A token that is the whole value of a variable becomes the standing value, if that is not empty, or else the
named one. -/
theorem inside_tokenText {name : String} (h : Text.IsName name) :
    b.inside (tokenText name) = ((b.standing? name).or (b.named? name)).getD (tokenText name) := by
  apply String.toList_injective
  rw [inside, String.toList_ofList, Rendering.chars_ofPieces, Text.piecesOf_tokenText h,
    List.flatMap_singleton, renderInner, chars_fill]
  cases (b.standing? name).or (b.named? name) <;> rfl

section Detour

variable {context context' : Context} {now : Moment} {names names' : List String}
  {values values' : Dict String} {name v number : String} {position : Nat}

/-- The direct way: a standing value counts, even if it is empty. -/
theorem resolve_direct (distinct : values.keys.Nodup) (is_name : Text.IsName name)
    (no_number : Text.digits? name.toList = none) :
    ((ofContext context now names values).resolve (tokenText name)).text =
      ((Sources.first? [context.standing now, values, context.values] name).filter (· != "")).getD
        (tokenText name) := by
  rw [resolve_tokenText _ is_name, instead?_of_name _ no_number, direct?_ofContext distinct]

/-- The way over a variable whose value is the token: a standing value counts only if it is not empty. -/
theorem resolve_detour (distinct : values.keys.Nodup) (is_name : Text.IsName name) (other : v ≠ name)
    (more : Extends context values v (tokenText name) context' values')
    (digits : Text.digits? number.toList = some position) (first : 1 ≤ position)
    (leads : names'[position - 1]? = some v) :
    ((ofContext context' now names' values').resolve (tokenText number)).text =
      ((((context.standing now).get? name).filter (· != "")).or
        ((Sources.first? [values, context.values] name).filter (· != ""))).getD (tokenText name) := by
  have distinct' := more.distinct distinct
  have raw : (ofContext context' now names' values').named? v = some (tokenText name) := by
    rw [named?_ofContext distinct', more.first?_eq, if_pos rfl]
    exact Sources.filter_some (by simp [tokenText])
  rw [resolve_tokenText _ (Text.isName_of_digits? digits), instead?_of_position _ digits first leads, raw,
    Option.map_some, Option.getD_some, inside_tokenText _ is_name, named?_ofContext distinct', more.first?_eq,
    if_neg (Ne.symm other)]
  show (Option.or (((context'.standing now).get? name).filter (· != "")) _).getD _ = _
  rw [more.standing]

/-- **When the detour over a variable makes no difference.** Take a name that is no number, the text that is its
token, and a variable of another name whose value is this text. The token itself and a positional token of the
variable give the same text, unless the name has a value that is overshadowed by an empty standing value: then
the token is left as it is written, while the detour finds the value. -/
theorem detour_eq_iff (context context' : Context) (now : Moment) (names names' : List String)
    (values values' : Dict String) (distinct : values.keys.Nodup) (name v number : String) (position : Nat)
    (is_name : Text.IsName name) (no_number : Text.digits? name.toList = none) (other : v ≠ name)
    (more : Extends context values v (tokenText name) context' values')
    (digits : Text.digits? number.toList = some position) (first : 1 ≤ position)
    (leads : names'[position - 1]? = some v) :
    let direct := ((ofContext context now names values).resolve (tokenText name)).text
    let detour := ((ofContext context' now names' values').resolve (tokenText number)).text
    (direct = detour ↔ ∀ value, Overshadowed context now values name value → value = tokenText name) ∧
    ∀ value, Overshadowed context now values name value → direct = tokenText name ∧ detour = value := by
  intro direct detour
  have straight : direct = _ := resolve_direct distinct is_name no_number
  have around : detour = _ := resolve_detour distinct is_name other more digits first leads
  have overshadowed : ∀ value, Overshadowed context now values name value →
      direct = tokenText name ∧ detour = value := by
    rintro value ⟨standing, named, some_value⟩
    rw [Sources.first?_cons, standing] at straight
    rw [standing, named, Sources.filter_some some_value] at around
    exact ⟨straight, around⟩
  refine ⟨⟨fun same value shadow => ?_, fun none_lost => ?_⟩, overshadowed⟩
  · obtain ⟨left, found⟩ := overshadowed value shadow
    rw [← found, ← same, left]
  · rw [straight, around, Sources.first?_cons]
    -- only an empty standing value is taken in one way and passed over in the other
    cases standing : (context.standing now).get? name with
    | none => rfl
    | some s =>
      by_cases blank : s = ""
      · subst blank
        cases named : Sources.first? [values, context.values] name with
        | none => rfl
        | some value =>
          by_cases empty : value = ""
          · rw [empty]
            rfl
          · rw [Sources.filter_some empty]
            exact (none_lost value ⟨standing, named, empty⟩).symm
      · rw [Option.some_or, Sources.filter_some blank]
        rfl

/-- The company of an event without a contact is left where its token stands, and found over a variable. -/
theorem detour_eq_iff_company :
    let context : Context := ⟨"+1", none, [("company", "Acme")]⟩
    let values := Dict.put [] "v" (tokenText "company")
    Extends context [] "v" (tokenText "company") context values ∧
    ((ofContext context ⟨0, none⟩ [] []).resolve (tokenText "company")).text = tokenText "company" ∧
    ((ofContext context ⟨0, none⟩ ["v"] values).resolve (tokenText "1")).text = "Acme" := by
  intro context values
  have more : Extends context [] "v" (tokenText "company") context values := .byTemplate
  have distinct : (Dict.keys ([] : Dict String)).Nodup := List.nodup_nil
  have shadow : Overshadowed context ⟨0, none⟩ [] "company" "Acme" :=
    ⟨by decide +kernel, by decide, by decide⟩
  obtain ⟨-, ways⟩ := detour_eq_iff context context ⟨0, none⟩ [] ["v"] [] values distinct "company" "v" "1" 1
    ⟨by decide, List.all_eq_true.mp (by decide)⟩ (by decide) (by decide) more (by decide) (Nat.le_refl 1) rfl
  exact ⟨more, ways "Acme" shadow⟩

end Detour

end Parley.Bindings
