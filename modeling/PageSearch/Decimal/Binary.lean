/-!
# Floats as exact numbers

A float of 64 bits stands for an exact number `± mantissa · 2 ^ exponent`, for an infinity, or for
no number. `Binary.ofFloat` takes the bits apart, and all comparisons and roundings of this module
are made on the exact number, with natural numbers only. `nearestFloat` goes the other way: it
rounds a quotient of natural numbers to the nearest float, of two equally near ones to the one with
the even mantissa.
-/

namespace PageSearch

/-- What the bits of a float stand for. -/
inductive Binary where
  /-- No number. -/
  | nan
  /-- An infinity. -/
  | infinite (negative : Bool)
  /-- The number `± mantissa · 2 ^ exponent`. -/
  | finite (negative : Bool) (mantissa : Nat) (exponent : Int)
  deriving Repr, DecidableEq

namespace Binary

/-- The exponent of the numbers nearest to zero. -/
def leastExponent : Int := -1074

/-- Takes the bits of a float apart. -/
def ofFloat (x : Float) : Binary :=
  let bits := x.toBits.toNat
  let negative := bits / Nat.pow 2 63 == 1
  let field := bits / Nat.pow 2 52 % Nat.pow 2 11
  let fraction := bits % Nat.pow 2 52
  if field == 2047 then
    if fraction == 0 then infinite negative else nan
  else if field == 0 then finite negative fraction leastExponent
  else finite negative (Nat.pow 2 52 + fraction) (leastExponent + (field - 1 : Nat))

/-- `a · 2 ^ e` as a quotient of natural numbers. -/
def ratio (a : Nat) (e : Int) : Nat × Nat := (a * Nat.pow 2 e.toNat, Nat.pow 2 (-e).toNat)

/-- With the sign that is asked for. -/
def signed (negative : Bool) (n : Nat) : Int := if negative then -(n : Int) else n

/-! ### Whole numbers -/

/-- The quotient `num / den`, rounded to the nearest whole number, and to the even one of two. -/
def roundHalfEven (num den : Nat) : Nat :=
  let q := num / den
  let rest := 2 * (num % den)
  if rest < den then q
  else if den < rest then q + 1
  else if q % 2 == 0 then q
  else q + 1

/-- The whole number that is left when the places after the point are dropped; `none` for the
infinities and for no number. -/
def truncate? : Binary → Option Int
  | finite negative m e =>
    let (num, den) := ratio m e
    some (signed negative (num / den))
  | _ => none

/-- The nearest whole number, the even one of two; `none` for the infinities and for no number. -/
def round? : Binary → Option Int
  | finite negative m e =>
    let (num, den) := ratio m e
    some (signed negative (roundHalfEven num den))
  | _ => none

/-- The order of a float and a whole number, compared exactly; `none` for no number. -/
def compareInt (x : Binary) (n : Int) : Option Ordering :=
  match x with
  | nan => none
  | infinite negative => some (if negative then .lt else .gt)
  | finite negative m e =>
    let (num, den) := ratio m e
    some (compare (signed negative num) (n * (den : Int)))

end Binary

/-! ### The nearest float -/

/-- The float nearest to `num / den`, the even one of two; an infinity beyond the greatest float.
The quotient is scaled by a power of two so that its whole part has 53 binary places, or fewer if
the number is so near to zero that floats have fewer there. -/
def nearestFloat (negative : Bool) (num den : Nat) : Float :=
  let sign := if negative then Nat.pow 2 63 else 0
  if num == 0 then Float.ofBits (UInt64.ofNat sign)
  else
    let guess : Int := (num.log2 : Int) - den.log2 - 53
    let tooSmall := Nat.pow 2 53 * den * Nat.pow 2 guess.toNat ≤ num * Nat.pow 2 (-guess).toNat
    let e := max Binary.leastExponent (if tooSmall then guess + 1 else guess)
    let mantissa := Binary.roundHalfEven (num * Nat.pow 2 (-e).toNat) (den * Nat.pow 2 e.toNat)
    let bits := (e - Binary.leastExponent).toNat * Nat.pow 2 52 + mantissa
    Float.ofBits (UInt64.ofNat (sign + min bits (2047 * Nat.pow 2 52)))

/-- The float nearest to a whole number, or `none` if it lies beyond the greatest float. -/
def floatOfInt? (n : Int) : Option Float :=
  let x := nearestFloat (n < 0) n.natAbs 1
  if x.isInf then none else some x

end PageSearch
