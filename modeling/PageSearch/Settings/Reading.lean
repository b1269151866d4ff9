import PageSearch.Value.Kind
import PageSearch.Value.Number

/-!
# Reading settings

Each function looks one setting up by its name. A setting that is missing, that has the wrong kind,
or that lies below its least value is not accepted, and a default takes its place. What is replaced
is written on the terminal, which fails for a value without a text.
-/

namespace PageSearch.Settings

/-- The number under a name, if there is one and it is not less than `least`. -/
def acceptedNumber? (fields : Fields) (key : String) (least : Option Number) : Option Number :=
  match (fields.getD key).number? with
  | none => none
  | some n => if least.any fun bound => n.lt bound then none else some n

/-- A number as a value, or the default; a whole number if that is asked for, and else a float. -/
def numberAt (fields : Fields) (key : String) (default : Value) (least : Option Number) (whole : Bool) :
    Outcome Value :=
  match acceptedNumber? fields key least with
  | some n => if whole then n.toInt.map Value.int else n.toFloat.map Value.float
  | none =>
    match fields.getD key with
    | .null => .ok default
    -- the default is written as well
    | v => (Value.list [v, default]).afterWriting default

/-- The same with the least value as a value. Nothing is no bound, and a number is not compared with
what is none. -/
def numberAtLeast (fields : Fields) (key : String) (default least : Value) (whole : Bool) : Outcome Value :=
  match least, least.asNumber? with
  | .null, _ => numberAt fields key default none whole
  | _, some bound => numberAt fields key default (some bound) whole
  | _, none =>
    if (fields.getD key).number?.isSome then .error .unsuitable else numberAt fields key default none whole

/-- A whole number, or the default. Places after the point are dropped. -/
def intAt (fields : Fields) (key : String) (default : Int) (least : Int) : Outcome Int :=
  match acceptedNumber? fields key (some (.int least)) with
  | some n => n.toInt
  | none => (fields.getD key).afterWriting default

/-- A float, if one can be read. -/
def float? (fields : Fields) (key : String) : Outcome (Option Float) :=
  match acceptedNumber? fields key none with
  | some n => n.toFloat.map some
  | none => (fields.getD key).afterWriting none

/-- A float, or the default. -/
def floatAt (fields : Fields) (key : String) (default : Float) : Outcome Float := do
  return (← float? fields key).getD default

/-- A truth value, if one is set. -/
def bool? (fields : Fields) (key : String) : Option Bool :=
  match fields.getD key with
  | .bool b => some b
  | _ => none

/-- A text, if one is set. -/
def text? (fields : Fields) (key : String) : Option String :=
  match fields.getD key with
  | .str s => some s
  | _ => none

/-- What a setting was read as, or the default in the place of its value. -/
def orDefault {α : Type} (found : Option α) (v : Value) (default : α) : Outcome α :=
  match found with
  | some a => .ok a
  | none => v.afterWriting default

/-- A truth value, or the default. -/
def boolAt (fields : Fields) (key : String) (default : Bool) : Outcome Bool :=
  orDefault (bool? fields key) (fields.getD key) default

/-- A text, or the default. -/
def textAt (fields : Fields) (key : String) (default : String) : Outcome String :=
  orDefault (text? fields key) (fields.getD key) default

/-- A text that may be left out. -/
def textOption (fields : Fields) (key : String) : Outcome (Option String) :=
  orDefault ((text? fields key).map some) (fields.getD key) none

/-- The texts among some values that are not empty, each once, in the order of their first
occurrences. -/
def distinctTexts (vs : List Value) : List String :=
  vs.foldl (fun found v =>
    match v with
    | .str s => if s.isEmpty || found.contains s then found else found ++ [s]
    | _ => found) []

/-- A list of texts; a single text is a list of one. -/
def texts (fields : Fields) (key : String) : Outcome (List String) :=
  match fields.getD key with
  | .str s => .ok (distinctTexts [.str s])
  | v => return distinctTexts (← v.itemsOrNone)

/-- The objects in a list; a value of another kind has none. -/
def objects (fields : Fields) (key : String) : List Fields :=
  match fields.getD key with
  | .list vs => vs.filterMap fun v =>
    match v with
    | .obj fs => some fs
    | _ => none
  | _ => []

end PageSearch.Settings
