import PageSearch.Value.Number

/-!
# Equal values

Two values are equal if they are worth the same: numbers of either kind and truth values are compared
as numbers, lists item by item, and objects field by field, in any order.
-/

namespace PageSearch.Value

mutual
/-- Whether two values are equal. -/
def equals : Value → Value → Bool
  | null, null => true
  | str s, str t => s == t
  | list vs, list ws => allEqual vs ws
  | obj fields, obj others => fields.length == others.length && fieldsEqual fields others
  | v, w =>
    match v.asNumber?, w.asNumber? with
    | some m, some n => m.eq n
    | _, _ => false

/-- Whether two lists have equal items. -/
def allEqual : List Value → List Value → Bool
  | [], [] => true
  | v :: vs, w :: ws => equals v w && allEqual vs ws
  | _, _ => false

/-- Whether each field has an equal one of its name among others. -/
def fieldsEqual : List (String × Value) → List (String × Value) → Bool
  | [], _ => true
  | (key, v) :: rest, others =>
    (match others.lookup key with
      | some w => equals v w
      | none => false) && fieldsEqual rest others
end

instance : BEq Value := ⟨equals⟩

end PageSearch.Value
