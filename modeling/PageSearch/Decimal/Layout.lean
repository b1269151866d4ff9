import PageSearch.Decimal.Shortest
import PageSearch.Text.Digit

/-!
# How numbers are written

A float is written with the fewest digits that read back. A `Layout` holds the decisions that are
left: up to which power of ten the number is written with a point in its place, and which words
stand for the infinities and for no number.
-/

namespace PageSearch

/-! ### Whole numbers -/

/-- A natural number in decimal. -/
def natText (n : Nat) : String := String.ofList (Nat.toDigits 10 n)

/-- A whole number in decimal, with a minus sign below zero. -/
def intText (n : Int) : String :=
  if n < 0 then "-" ++ natText n.natAbs else natText n.natAbs

/-! ### Floats -/

/-- The decisions on the text of a float. -/
structure Layout where
  /-- The lowest power of ten of a first digit that still has the point in its place. -/
  leastPositional : Int := -4
  /-- The highest power of ten of a first digit that still has the point in its place. -/
  greatestPositional : Int := 15
  /-- The least number of digits of an exponent. -/
  exponentDigits : Nat := 2
  /-- Stands for no number. -/
  nanWord : String
  /-- Stands for the positive infinity. -/
  infinityWord : String

namespace Layout

/-- The exponent, with its sign and with at least the set number of digits. -/
def exponentText (layout : Layout) (e : Int) : String :=
  let digits := Nat.toDigits 10 e.natAbs
  let padding := List.replicate (layout.exponentDigits - digits.length) '0'
  (if e < 0 then "e-" else "e+") ++ String.ofList (padding ++ digits)

/-- A positive decimal: with a point in its place and at least one digit on both sides of it, or
with one digit before the point and an exponent. -/
def decimalText (layout : Layout) (d : Decimal) : String :=
  let digits := Nat.toDigits 10 d.digits
  let count : Int := digits.length
  let power := d.exponent + count - 1
  if layout.leastPositional ≤ power && power ≤ layout.greatestPositional then
    if power < 0 then
      "0." ++ String.ofList (List.replicate (-power - 1).toNat '0' ++ digits)
    else if count ≤ power + 1 then
      String.ofList (digits ++ List.replicate (power + 1 - count).toNat '0') ++ ".0"
    else
      String.ofList (digits.take (power + 1).toNat) ++ "." ++ String.ofList (digits.drop (power + 1).toNat)
  else
    let rest := digits.drop 1
    String.ofList (digits.take 1) ++ (if rest.isEmpty then "" else "." ++ String.ofList rest)
      ++ layout.exponentText power

/-- A float; a negative zero keeps its sign. -/
def floatText (layout : Layout) (x : Float) : String :=
  match Binary.ofFloat x with
  | .nan => layout.nanWord
  | .infinite negative => (if negative then "-" else "") ++ layout.infinityWord
  | .finite negative m e =>
    (if negative then "-" else "") ++ (if m == 0 then "0.0" else layout.decimalText (.ofBinary m e))

end Layout

end PageSearch
