/-!
# Values

Settings, requests, stored documents and answers are all made of `Value`s: what JSON can hold, with
whole numbers and floats kept apart. The fields of an object stay in the order in which they were
put, and a field that is put again keeps its place.
-/

namespace PageSearch

/-- A value of a document. -/
inductive Value where
  /-- Nothing. -/
  | null
  /-- A truth value. -/
  | bool (b : Bool)
  /-- A whole number of any size. -/
  | int (n : Int)
  /-- A float. -/
  | float (x : Float)
  /-- A text. -/
  | str (s : String)
  /-- Values in order. -/
  | list (items : List Value)
  /-- Values by name. -/
  | obj (fields : List (String × Value))
  deriving Inhabited

/-- The fields of an object. -/
abbrev Fields := List (String × Value)

namespace Fields

/-- The value of a field, if there is one of that name. -/
def get? (fields : Fields) (key : String) : Option Value := fields.lookup key

/-- The value of a field, and `null` if there is none. -/
def getD (fields : Fields) (key : String) : Value := (fields.lookup key).getD .null

/-- Whether there is a field of that name. -/
def has (fields : Fields) (key : String) : Bool := (fields.lookup key).isSome

/-- Gives a field a value: in its place if it is there, at the end if it is new. -/
def put (fields : Fields) (key : String) (v : Value) : Fields :=
  if fields.has key then fields.map fun (k, w) => if k == key then (k, v) else (k, w)
  else fields ++ [(key, v)]

/-- Puts several fields, one after the other. -/
def putAll (fields more : Fields) : Fields := more.foldl (fun fs (k, v) => fs.put k v) fields

end Fields

namespace Value

/-- Whether a value counts as true: it is not nothing, not false, not zero and not empty. A float
that is no number counts as true. -/
def isTruthy : Value → Bool
  | null => false
  | bool b => b
  | int n => n != 0
  | float x => !(x == 0)
  | str s => !s.isEmpty
  | list items => !items.isEmpty
  | obj fields => !fields.isEmpty

/-- Whether a value is an object. -/
def isObject : Value → Bool
  | obj _ => true
  | _ => false

/-- The value of a field of an object; `none` if there is no such field or no object. -/
def get? : Value → String → Option Value
  | obj fields, key => Fields.get? fields key
  | _, _ => none

/-- An optional text, with `null` for none. -/
def ofOption {α : Type} (f : α → Value) : Option α → Value
  | some a => f a
  | none => null

/-- A list of texts. -/
def strings (ss : List String) : Value := list (ss.map str)

end Value

end PageSearch
