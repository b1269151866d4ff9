import PageSearch.Decimal.Reading
import PageSearch.Fault
import PageSearch.Value.Basic

/-!
# Numbers in values

What a value is worth as a number: as a whole number, as a float, and as one side of a comparison.
A truth value counts as one or zero where any value may stand for a number, and is none where the
settings ask for one. Whole numbers and floats are compared exactly.
-/

namespace PageSearch

/-- A number of either kind. -/
inductive Number where
  /-- A whole number. -/
  | int (n : Int)
  /-- A float. -/
  | float (x : Float)

namespace Number

/-- Whether `a` is less than `b`. No number is less than what is no number, and no number is
greater. -/
def lt : Number → Number → Bool
  | int m, int n => m < n
  | float x, float y => x < y
  | float x, int n => (Binary.ofFloat x).compareInt n == some .lt
  | int m, float y => (Binary.ofFloat y).compareInt m == some .gt

/-- Whether two numbers are equal. What is no number is not equal to itself. -/
def eq : Number → Number → Bool
  | int m, int n => m == n
  | float x, float y => x == y
  | float x, int n => (Binary.ofFloat x).compareInt n == some .eq
  | int m, float y => (Binary.ofFloat y).compareInt m == some .eq

/-- The whole part of a number. -/
def toInt : Number → Outcome Int
  | int n => .ok n
  | float x =>
    match Binary.ofFloat x with
    | .nan => .error .notANumber
    | b =>
      match b.truncate? with
      | some n => .ok n
      | none => .error .tooLarge

/-- The nearest whole number, the even one of two. -/
def round : Number → Outcome Int
  | int n => .ok n
  | float x =>
    match Binary.ofFloat x with
    | .nan => .error .notANumber
    | b =>
      match b.round? with
      | some n => .ok n
      | none => .error .tooLarge

/-- The nearest float. -/
def toFloat : Number → Outcome Float
  | int n =>
    match floatOfInt? n with
    | some x => .ok x
    | none => .error .tooLarge
  | float x => .ok x

/-- The product with a whole number, which becomes a float first if the other is one. -/
def times (a : Number) (n : Int) : Outcome Number :=
  match a with
  | int m => .ok (int (m * n))
  | float x =>
    match floatOfInt? n with
    | some y => .ok (float (x * y))
    | none => .error .tooLarge

/-- A number as a value. -/
def toValue : Number → Value
  | int n => .int n
  | float x => .float x

end Number

namespace Value

/-- The number that a value is; a truth value is none. -/
def number? : Value → Option Number
  | int n => some (.int n)
  | float x => some (.float x)
  | _ => none

/-- The number that a value counts as; a truth value counts as one or zero. -/
def asNumber? : Value → Option Number
  | bool b => some (.int (if b then 1 else 0))
  | v => v.number?

/-- A value as a float; a text is read as one. -/
def toFloat (v : Value) : Outcome Float :=
  match v.asNumber?, v with
  | some n, _ => n.toFloat
  | none, str s =>
    match Reading.float? s.toList with
    | some x => .ok x
    | none => .error .notANumber
  | none, _ => .error .unsuitable

/-- A value as a whole number; a text is read as one, and a float loses its places. -/
def toInt (v : Value) : Outcome Int :=
  match v.asNumber?, v with
  | some n, _ => n.toInt
  | none, str s =>
    match Reading.int? s.toList with
    | some n => .ok n
    | none => .error .notANumber
  | none, _ => .error .unsuitable

end Value

end PageSearch
