import Mathlib.Data.List.TakeWhile
import PageSearch.Field.Name
import PageSearch.Proofs.Text.Search

/-!
# Weights of fields

A field is read at its first caret: the name stands before it, and the weight after it (`split`). A name that gets a
weight has this weight, whatever it had before, unless the weight is one: then the name is left as it is, with the
weight that it has (`split_weighted`). So it has the wanted weight, except for a caret that the weight one leaves in it
(`isWeighted_weighted_iff`).
-/

namespace PageSearch.Field

/-- The name of a field and its weight, if it has one. -/
def split (field : String) : String × Option String :=
  match Text.cutAt? ['^'] field.toList with
  | some (name, weight) => (String.ofList name, some (String.ofList weight))
  | none => (field, none)

/-- A field has the name of another one, without its weight, and has the given weight, which is left out if it is
one. -/
def IsWeighted (name : String) (weight : Float) (field : String) : Prop :=
  split field = (unweighted name, if weight == 1 then none else some (Value.readingLayout.floatText weight))

/-! ### The first caret -/

theorem cutAt?_caret_iff {field name weight : List Char} :
    Text.cutAt? ['^'] field = some (name, weight) ↔ field = name ++ '^' :: weight ∧ '^' ∉ name := by
  rw [Text.cutAt?_eq_some_iff (List.cons_ne_nil _ _), List.dropLast_concat, List.append_assoc]
  simp [List.singleton_infix_iff]

theorem unweighted_append {name : List Char} (h : '^' ∉ name) (weight : List Char) :
    unweighted (String.ofList (name ++ '^' :: weight)) = String.ofList name := by
  have hname : ∀ c ∈ name, (c != '^') = true := by
    intro c hc
    rw [bne_iff_ne]
    rintro rfl
    exact h hc
  rw [unweighted, String.toList_ofList, List.takeWhile_append_of_pos hname, List.takeWhile_cons_of_neg (by decide),
    List.append_nil]

theorem unweighted_eq_self {field : String} (h : '^' ∉ field.toList) : unweighted field = field := by
  have hall : field.toList.takeWhile (· != '^') = field.toList := by
    rw [List.takeWhile_eq_self_iff]
    intro c hc
    rw [bne_iff_ne]
    rintro rfl
    exact h hc
  rw [unweighted, hall, String.ofList_toList]

theorem not_mem_unweighted (field : String) : '^' ∉ (unweighted field).toList := by
  rw [unweighted, String.toList_ofList]
  intro h
  have hcaret := List.mem_takeWhile_imp h
  simp at hcaret

theorem split_append {name : List Char} (h : '^' ∉ name) (weight : List Char) :
    split (String.ofList (name ++ '^' :: weight)) = (String.ofList name, some (String.ofList weight)) := by
  rw [split, String.toList_ofList, cutAt?_caret_iff.2 ⟨rfl, h⟩]

theorem split_of_not_mem {field : String} (h : '^' ∉ field.toList) : split field = (field, none) := by
  have hnone : Text.cutAt? ['^'] field.toList = none := by
    rw [Text.cutAt?_eq_none_iff, List.singleton_infix_iff]
    exact h
  rw [split, hnone]

/-- A field without a caret is a name, and another one has its first caret somewhere. -/
theorem not_mem_or_exists_caret (field : String) : '^' ∉ field.toList ∨
    ∃ name weight, field = String.ofList (name ++ '^' :: weight) ∧ '^' ∉ name := by
  by_cases h : '^' ∈ field.toList
  · obtain ⟨name, weight, hfield, hname⟩ := List.eq_append_cons_of_mem h
    exact .inr ⟨name, weight, by rw [← hfield, String.ofList_toList], hname⟩
  · exact .inl h

/-! ### Fields that get a weight -/

theorem split_eq (field : String) : split field = (unweighted field, (split field).2) := by
  rcases not_mem_or_exists_caret field with h | ⟨name, weight, rfl, h⟩
  · rw [split_of_not_mem h, unweighted_eq_self h]
  · rw [split_append h, unweighted_append h]

/-- A field has no weight exactly if it has no caret. -/
theorem split_snd_eq_none_iff {field : String} : (split field).2 = none ↔ '^' ∉ field.toList := by
  rcases not_mem_or_exists_caret field with h | ⟨name, weight, rfl, h⟩
  · rw [split_of_not_mem h]
    exact iff_of_true rfl h
  · rw [split_append h, String.toList_ofList]
    exact iff_of_false (Option.some_ne_none _) (not_not_intro (by simp))

/-- **A field that gets a weight** keeps its name. It has the weight, or its own one if the weight is one. -/
theorem split_weighted (name : String) (weight : Float) :
    split (weighted name weight) = (unweighted name,
      if weight == 1 then (split name).2 else some (Value.readingLayout.floatText weight)) := by
  rw [weighted]
  split
  · exact split_eq name
  · have hfield : unweighted name ++ "^" ++ Value.readingLayout.floatText weight =
        String.ofList ((unweighted name).toList ++ '^' :: (Value.readingLayout.floatText weight).toList) := by
      rw [← String.toList_inj]
      simp
    rw [hfield, split_append (not_mem_unweighted name), String.ofList_toList, String.ofList_toList]

/-- **The weight is the wanted one**, except for a caret that the weight one leaves in the name. -/
theorem isWeighted_weighted_iff (name : String) (weight : Float) :
    IsWeighted name weight (weighted name weight) ↔ ((weight == 1) = true → '^' ∉ name.toList) := by
  rw [IsWeighted, split_weighted]
  split
  · next hone => simp [hone, split_snd_eq_none_iff]
  · next hother => simp [hother]

end PageSearch.Field
