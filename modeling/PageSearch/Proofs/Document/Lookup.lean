import PageSearch.Document

/-!
# Nested and flat documents

A name with points should be found in a nested document, where it is a path from object to object, and else in a flat
one, where it is the name of a field (`nestedOrFlat?`). The path is followed as far as it leads, and the whole name is
then looked up in the object where it ends, and not in the document (`find?_eq`). So a document that is nested on the
first part of a path hides the field that it has under the whole name, and a field of that name in the object where the
path ends is found in its place. The two agree exactly if the path leads to a value, or if that object and the
document have the same under the name (`find?_eq_nestedOrFlat?_iff`).
-/

namespace PageSearch.Document

/-- The value that a path leads to, if each part of it is a field of the object that is reached. -/
def along? : List String → Value → Option Value
  | [], v => some v
  | key :: keys, v => (v.get? key).bind (along? keys)

/-- Where a path ends: at the value that it leads to, or at the one that does not have its next part. -/
def endOf : List String → Value → Value
  | [], v => v
  | key :: keys, v =>
    match v.get? key with
    | some w => endOf keys w
    | none => v

/-- The value that a name should have: the one that its path leads to, else the one of the field that has the whole
name. -/
def nestedOrFlat? (document : Value) (key : String) : Option Value :=
  (along? (path key) document).or (document.get? key)

theorem follow_eq (whole : String) (keys : List String) (v : Value) :
    follow whole keys v = (along? keys v).or ((endOf keys v).get? whole) := by
  induction keys generalizing v with
  | nil => rfl
  | cons key keys ih =>
    rw [follow, along?, endOf]
    cases v.get? key with
    | none => rfl
    | some w => exact ih w

/-- **What is found**: the value that the path leads to, else what the object where it ends has under the whole
name. -/
theorem find?_eq (document : Value) (key : String) :
    find? document key = (along? (path key) document).or ((endOf (path key) document).get? key) :=
  follow_eq key (path key) document

/-- **A nested or a flat value is found** exactly if the path of the name leads to a value, or if the object where the
path ends has the same under the whole name as the document. A name without value stands for nothing. -/
theorem find?_eq_nestedOrFlat?_iff (document : Value) (key : String) :
    (find? document key).getD .null = (nestedOrFlat? document key).getD .null ↔
      (∃ v, along? (path key) document = some v) ∨
        ((endOf (path key) document).get? key).getD .null = (document.get? key).getD .null := by
  rw [find?_eq, nestedOrFlat?]
  cases along? (path key) document with
  | none => simp
  | some v => simp

/-- **A flat field is hidden** by an object under the first part of its name, and a field of that object is found in
the place of one that the document does not have. -/
theorem not_find?_eq_nestedOrFlat? :
    let mixed : Value := .obj [("title_lang", .obj [("fr", .str "hiboux")]), ("title_lang.en", .str "owls")]
    let inner : Value := .obj [("title_lang", .obj [("title_lang.en", .str "owls")])]
    nestedOrFlat? mixed "title_lang.en" = some (.str "owls") ∧ find? mixed "title_lang.en" = none ∧
      nestedOrFlat? inner "title_lang.en" = none ∧ find? inner "title_lang.en" = some (.str "owls") :=
  ⟨rfl, rfl, rfl, rfl⟩

end PageSearch.Document
