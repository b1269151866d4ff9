import PageSearch.Decimal.Binary

/-!
# The fewest digits that read back

`Decimal.ofBinary m e` is the decimal with the fewest digits among those that read back as the
number `m · 2 ^ e`, and of those the nearest. Every decimal strictly between the midpoints to the
two neighbouring floats reads back, and a midpoint does when the mantissa is even.
-/

namespace PageSearch

/-- The number `digits · 10 ^ exponent`. -/
structure Decimal where
  /-- The significant digits, as one number. -/
  digits : Nat
  /-- The power of ten that the last of them counts. -/
  exponent : Int
  deriving Repr, DecidableEq

namespace Decimal

/-- The order of `d` and `a · 2 ^ e`. -/
def compareBinary (d : Decimal) (a : Nat) (e : Int) : Ordering :=
  compare (d.digits * Nat.pow 10 d.exponent.toNat * Nat.pow 2 (-e).toNat)
    (a * Nat.pow 2 e.toNat * Nat.pow 10 (-d.exponent).toNat)

/-- Below a power of two the floats lie twice as close as above it. -/
def isNarrowBelow (m : Nat) (e : Int) : Bool := m == Nat.pow 2 52 && Binary.leastExponent < e

/-- Whether `d` reads back as `m · 2 ^ e`. The midpoints are counted in quarters of `2 ^ e`. -/
def readsBack (m : Nat) (e : Int) (d : Decimal) : Bool :=
  let low := if isNarrowBelow m e then 4 * m - 1 else 4 * m - 2
  let high := 4 * m + 2
  let even := m % 2 == 0
  let fromLow := d.compareBinary low (e - 2)
  let fromHigh := d.compareBinary high (e - 2)
  (fromLow == .gt || (even && fromLow == .eq)) && (fromHigh == .lt || (even && fromHigh == .eq))

/-- The least `k` with `m · 2 ^ e < 10 ^ k`: the number of places before the point. It is found from
the binary logarithm, which is off by at most one place for a float. -/
def places (m : Nat) (e : Int) : Int :=
  let guess := ((m.log2 : Int) + e) * 30103 / 100000
  let below (k : Int) : Bool := compareBinary ⟨1, k⟩ m e == .gt
  if below (guess - 1) then guess - 1
  else if below guess then guess
  else if below (guess + 1) then guess + 1
  else guess + 2

/-- Of the two neighbours of `m · 2 ^ e` among the multiples of `10 ^ unit`, the one that reads
back; of two the nearer, and of two equally near ones the even. -/
def onGrid? (m : Nat) (e : Int) (unit : Int) : Option Decimal :=
  let lower := m * Nat.pow 2 e.toNat * Nat.pow 10 (-unit).toNat / (Nat.pow 2 (-e).toNat * Nat.pow 10 unit.toNat)
  let down : Decimal := ⟨lower, unit⟩
  let up : Decimal := ⟨lower + 1, unit⟩
  match readsBack m e down, readsBack m e up with
  | true, true =>
    match compareBinary ⟨2 * lower + 1, unit⟩ (2 * m) e with
    | .gt => some down
    | .lt => some up
    | .eq => if lower % 2 == 0 then some down else some up
  | true, false => some down
  | false, true => some up
  | false, false => none

/-- Without the zeros it ends with; `fuel` bounds their number. -/
def stripZeros : Nat → Decimal → Decimal
  | 0, d => d
  | fuel + 1, d =>
    if d.digits != 0 && d.digits % 10 == 0 then stripZeros fuel ⟨d.digits / 10, d.exponent + 1⟩ else d

/-- The shortest decimal that reads back as `m · 2 ^ e`, where `m` is not zero. A float has one of
at most 17 digits. -/
def ofBinary (m : Nat) (e : Int) : Decimal :=
  let k := places m e
  match (List.range 17).findSome? fun n => onGrid? m e (k - (n + 1 : Nat)) with
  | some d => stripZeros 20 d
  | none => ⟨m * Nat.pow 2 e.toNat * Nat.pow 5 (-e).toNat, -((-e).toNat : Int)⟩

end Decimal

end PageSearch
