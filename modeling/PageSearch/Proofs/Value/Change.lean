import PageSearch.Value.Kind

/-!
# Changing a part of a value

A value is changed at one name of an object, or in all items of a list. Other names keep their values,
and a value keeps its kind: it has fields or items after the change if it had any before, and they are the
changed ones. A field that is put changes no other name, either.
-/

namespace PageSearch

/-- The fields with every value of one name changed. -/
def Fields.change (key : String) (f : Value → Value) (fields : Fields) : Fields :=
  fields.map fun (k, v) => (k, if k = key then f v else v)

/-- The value with the values of one of its fields changed, if it is an object. -/
def Value.changeField (key : String) (f : Value → Value) : Value → Value
  | .obj fields => .obj (Fields.change key f fields)
  | v => v

/-- The value with a field put into it, if it is an object. -/
def Value.putField (key : String) (v : Value) : Value → Value
  | .obj fields => .obj (Fields.put fields key v)
  | w => w

/-- The value with its items changed, if it is a list. -/
def Value.changeItems (f : Value → Value) : Value → Value
  | .list vs => .list (vs.map f)
  | v => v

/-- The value with the values of all its fields changed, if it is an object. -/
def Value.changeValues (f : Value → Value) : Value → Value
  | .obj fields => .obj (fields.map fun (k, v) => (k, f v))
  | v => v

/-! ### Looking names up -/

theorem Fields.lookup_change (key name : String) (f : Value → Value) (fields : Fields) :
    (Fields.change key f fields).lookup name = (fields.lookup name).map fun v => if name = key then f v else v := by
  induction fields with
  | nil => rfl
  | cons field fields ih =>
    obtain ⟨k, v⟩ := field
    have hchange : Fields.change key f ((k, v) :: fields) =
        (k, if k = key then f v else v) :: Fields.change key f fields := rfl
    rw [hchange, List.lookup_cons, List.lookup_cons]
    by_cases hk : name = k
    · subst hk
      simp
    · have hne : (name == k) = false := by simpa using hk
      simp only [hne, ih]

/-- Other fields stay as they are. -/
theorem Fields.getD_change_of_ne {key name : String} (h : name ≠ key) (f : Value → Value) (fields : Fields) :
    (Fields.change key f fields).getD name = fields.getD name := by
  rw [Fields.getD, Fields.getD, Fields.lookup_change]
  simp [h]

theorem Fields.get?_change_of_ne {key name : String} (h : name ≠ key) (f : Value → Value) (fields : Fields) :
    (Fields.change key f fields).get? name = fields.get? name := by
  rw [Fields.get?, Fields.get?, Fields.lookup_change]
  simp [h]

/-- The field itself is changed, unless it is missing and stays so. -/
theorem Fields.getD_change_self (key : String) {f : Value → Value} (hf : f .null = .null) (fields : Fields) :
    (Fields.change key f fields).getD key = f (fields.getD key) := by
  rw [Fields.getD, Fields.getD, Fields.lookup_change]
  cases fields.lookup key with
  | none => exact hf.symm
  | some v => simp

/-! ### Putting fields -/

theorem Fields.put_of_has {key : String} {fields : Fields} (h : fields.has key = true) (v : Value) :
    fields.put key v = Fields.change key (fun _ => v) fields := by
  rw [Fields.put, if_pos h, Fields.change]
  refine List.map_congr_left fun field _ => ?_
  obtain ⟨k, w⟩ := field
  by_cases hk : k = key <;> simp [hk]

theorem Fields.get?_put_self (fields : Fields) (key : String) (v : Value) : (fields.put key v).get? key = some v := by
  by_cases h : fields.has key = true
  · obtain ⟨w, hw⟩ := Option.isSome_iff_exists.1 h
    rw [Fields.put_of_has h, Fields.get?, Fields.lookup_change, hw]
    simp
  · have hnone : fields.lookup key = none := Option.not_isSome_iff_eq_none.1 h
    rw [Fields.put, if_neg h, Fields.get?, List.lookup_append, hnone]
    simp

/-- Putting a field leaves the other fields as they are. -/
theorem Fields.get?_put_of_ne {key name : String} (h : name ≠ key) (fields : Fields) (v : Value) :
    (fields.put key v).get? name = fields.get? name := by
  by_cases hhas : fields.has key = true
  · rw [Fields.put_of_has hhas, Fields.get?_change_of_ne h]
  · have hne : (name == key) = false := by simpa using h
    rw [Fields.put, if_neg hhas, Fields.get?, Fields.get?, List.lookup_append, List.lookup_cons, hne]
    exact Option.or_none

theorem Fields.change_append (key : String) (f : Value → Value) (fields more : Fields) :
    Fields.change key f (fields ++ more) = Fields.change key f fields ++ Fields.change key f more := List.map_append

/-- A field can be put before another one is changed, or after. -/
theorem Fields.change_put_of_ne {key name : String} (h : name ≠ key) (f : Value → Value) (fields : Fields) (v : Value) :
    Fields.change key f (fields.put name v) = (Fields.change key f fields).put name v := by
  have hhas : (Fields.change key f fields).has name = fields.has name := by
    rw [Fields.has, Fields.has, Fields.lookup_change, Option.isSome_map]
  unfold Fields.put
  rw [hhas]
  split
  · unfold Fields.change
    rw [List.map_map, List.map_map]
    refine List.map_congr_left fun field _ => ?_
    obtain ⟨k, w⟩ := field
    by_cases hk : k = name
    · simp [hk, h]
    · simp [hk]
  · rw [Fields.change_append]
    simp [Fields.change, h]

/-! ### Kinds -/

theorem Value.fieldsOrNone_changeField (key : String) (f : Value → Value) (v : Value) :
    (v.changeField key f).fieldsOrNone = v.fieldsOrNone.map (Fields.change key f) := by
  cases v with
  | obj fields => cases fields <;> rfl
  | _ =>
    rw [Value.changeField, Value.fieldsOrNone]
    · split <;> rfl
    · exact fun fields h => nomatch h

/-- The items of a text or an object are texts, which are not changed. -/
theorem Value.itemsOrNone_changeItems {f : Value → Value} (hf : ∀ s, f (.str s) = .str s) (v : Value) :
    (v.changeItems f).itemsOrNone = v.itemsOrNone.map (List.map f) := by
  cases v with
  | list vs => cases vs <;> rfl
  | str s =>
    rw [Value.changeItems, Value.itemsOrNone, Value.items]
    · split
      · simp [Except.map, hf]
      · rfl
    · exact fun vs h => nomatch h
  | obj fields =>
    rw [Value.changeItems, Value.itemsOrNone, Value.items]
    · split
      · simp [Except.map, hf]
      · rfl
    · exact fun vs h => nomatch h
  | _ =>
    rw [Value.changeItems, Value.itemsOrNone]
    · split <;> rfl
    · exact fun vs h => nomatch h

end PageSearch
