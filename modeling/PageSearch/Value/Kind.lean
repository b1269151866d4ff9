import PageSearch.Fault
import PageSearch.Text.Search
import PageSearch.Value.Text

/-!
# Values of a demanded kind

What comes from outside may be of any kind. Each function takes a value for what it is asked to be, a
text, a collection, an object or a name, and a value that cannot be that is a fault. Where a value may
be left out, what does not count as true stands for nothing.
-/

namespace PageSearch.Value

/-! ### Texts -/

/-- A text; `fault` says what is wrong with a value of another kind. -/
def asText (fault : Fault) : Value → Outcome String
  | str s => .ok s
  | _ => .error fault

/-- A text that may be left out. -/
def textOrEmpty (fault : Fault) (v : Value) : Outcome String :=
  if v.isTruthy then v.asText fault else .ok ""

/-! ### Collections -/

/-- The items of a list, the characters of a text, or the names of the fields of an object. -/
def items : Value → Outcome (List Value)
  | list vs => .ok vs
  | str s => .ok (s.toList.map fun c => str (String.singleton c))
  | obj fields => .ok (fields.map fun (k, _) => str k)
  | _ => .error .unsuitable

/-- The items of a value that may be left out. -/
def itemsOrNone (v : Value) : Outcome (List Value) := if v.isTruthy then v.items else .ok []

/-- The two items of a pair. -/
def pair (v : Value) : Outcome (Value × Value) := do
  match ← v.items with
  | [a, b] => return (a, b)
  | _ => .error .notAPair

/-- How many characters, items or fields a text, a list or an object has. -/
def size : Value → Outcome Nat
  | str s => .ok s.length
  | list vs => .ok vs.length
  | obj fields => .ok fields.length
  | _ => .error .unsuitable

/-- Whether a text is an item of a list, a part of a text or the name of a field. -/
def holds (v : Value) (s : String) : Outcome Bool :=
  match v with
  | list vs => .ok (vs.any fun w =>
    match w with
    | str t => t == s
    | _ => false)
  | str t => .ok (Text.cutAt? s.toList t.toList).isSome
  | obj fields => .ok (Fields.has fields s)
  | _ => .error .unsuitable

/-! ### Objects and names -/

/-- The fields of an object. -/
def fields : Value → Outcome Fields
  | obj fields => .ok fields
  | _ => .error .notAnObject

/-- The fields of an object that may be left out. -/
def fieldsOrNone (v : Value) : Outcome Fields := if v.isTruthy then v.fields else .ok []

/-- The name of a field that is given as a value. No list and no object is a name. -/
def fieldName : Value → Outcome String
  | list _ | obj _ => .error .unsuitable
  | v => .ok v.text

/-- The value of a field whose name is given as a value: only a text can be the name of one. -/
def lookUp (fields : Fields) : Value → Outcome (Option Value)
  | str s => .ok (Fields.get? fields s)
  | list _ | obj _ => .error .unsuitable
  | _ => .ok none

end PageSearch.Value
