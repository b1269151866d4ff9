/-!
# Punycode

How a label with characters outside of ASCII is written in ASCII. Its ASCII characters come first,
then a hyphen if there are any, and then the others in ascending order, each by how many steps lie
between it and the one before. A step leads to the next position in the label, and after the last
position to the next code point.

The number of steps is written in digits of base 36, the lowest first. How far a digit counts depends
on its place and on a bias, which follows the numbers that came before: a digit below the threshold of
its place ends the number.
-/

namespace PageSearch.Host.Punycode

/-- A code point of ASCII. -/
def isBasic (n : Nat) : Bool := n < 0x80

/-- The first code point that is written by steps. -/
def firstCodePoint : Nat := 0x80

/-- The last code point. -/
def lastCodePoint : Nat := 0x10FFFF

/-! ### Thresholds -/

/-- The bias of the first number. -/
def initialBias : Nat := 72

/-- The least digit that does not end a number, at the given place of it. -/
def threshold (bias place : Nat) : Nat := max 1 (min 26 (36 * (place + 1) - bias))

theorem threshold_pos (bias place : Nat) : 0 < threshold bias place := by
  unfold threshold; omega

/-- The bias after a number: 36 for each time that it can be divided by 35 until it is small, and a
share of what is left. -/
def biasOf (n : Nat) : Nat := if 455 < n then 36 + biasOf (n / 35) else 36 * n / (n + 38)
termination_by n
decreasing_by omega

/-- The bias after a number of steps, in a label that has grown to a length. The first number is much
larger than the others. -/
def adapt (steps length : Nat) (isFirst : Bool) : Nat :=
  let damped := if isFirst then steps / 700 else steps / 2
  biasOf (damped + damped / length)

/-! ### Writing -/

/-- The letter or figure of a digit. -/
def digitOf (d : Nat) : Nat := if d < 26 then 0x61 + d else 0x30 + (d - 26)

/-- The digits of a number, from a place on. -/
def digits (bias place n : Nat) : List Nat :=
  let t := threshold bias place
  if n < t then [digitOf n]
  else digitOf (t + (n - t) % (36 - t)) :: digits bias (place + 1) ((n - t) / (36 - t))
termination_by n
decreasing_by
  have hpos := threshold_pos bias place
  have hdiv := Nat.div_le_self (n - threshold bias place) (36 - threshold bias place)
  omega

/-- How far a label is written. -/
structure Writer where
  /-- What is written. -/
  written : List Nat
  /-- The steps since the last character that is written. -/
  steps : Nat
  /-- The bias of the next number. -/
  bias : Nat
  /-- Whether no number has been written yet. -/
  isFirst : Bool
  /-- How many characters are written. -/
  count : Nat

/-- Goes past a character of the label on the way to those with a code point. -/
def Writer.pass (sought : Nat) (w : Writer) (n : Nat) : Writer :=
  if n < sought then { w with steps := w.steps + 1 }
  else if n == sought then
    { written := w.written ++ digits w.bias 0 w.steps
      steps := 0
      bias := adapt w.steps (w.count + 1) w.isFirst
      isFirst := false
      count := w.count + 1 }
  else w

/-- Writes the characters with each of some code points, the next one that is reached being `next`. -/
def Writer.run (label : List Nat) (w : Writer) (next : Nat) : List Nat → Writer
  | [] => w
  | sought :: rest =>
    let start := { w with steps := w.steps + (sought - next) * (w.count + 1) }
    let passed := label.foldl (Writer.pass sought) start
    run label { passed with steps := passed.steps + 1 } (sought + 1) rest

/-- A label in ASCII. -/
def encode (label : List Nat) : List Nat :=
  let basic := label.filter isBasic
  let others := ((label.filter fun n => !isBasic n).mergeSort).eraseDups
  let start : Writer := ⟨[], 0, initialBias, true, basic.length⟩
  let w := start.run label firstCodePoint others
  basic ++ (if basic.isEmpty then [] else ['-'.toNat]) ++ w.written

/-! ### Reading -/

/-- The value of a digit, which may be a letter of either case. -/
def digitValue? (n : Nat) : Option Nat :=
  if 0x61 ≤ n && n ≤ 0x7A then some (n - 0x61)
  else if 0x41 ≤ n && n ≤ 0x5A then some (n - 0x41)
  else if 0x30 ≤ n && n ≤ 0x39 then some (n - 0x30 + 26)
  else none

/-- How far a label is read. -/
structure Reader where
  /-- The label so far. -/
  label : List Nat
  /-- The position that is reached. -/
  position : Nat
  /-- The code point that is reached. -/
  codePoint : Nat
  /-- The bias of the number that is being read. -/
  bias : Nat
  /-- Whether no number has been read yet. -/
  isFirst : Bool
  /-- The number that is being read, as far as it is. -/
  steps : Nat
  /-- What a digit counts at the place that is reached. -/
  weight : Nat
  /-- The place that is reached in the number. -/
  place : Nat

/-- Puts in the character that is reached after a number of steps. -/
def Reader.insert (r : Reader) (steps : Nat) : Option Reader :=
  let positions := r.label.length + 1
  let position := (r.position + steps) % positions
  let codePoint := r.codePoint + (r.position + steps) / positions
  if lastCodePoint < codePoint then none
  else some {
    label := r.label.take position ++ codePoint :: r.label.drop position
    position := position + 1
    codePoint
    bias := adapt steps positions r.isFirst
    isFirst := false
    steps := 0
    weight := 1
    place := 0 }

/-- Reads a digit. -/
def Reader.read (r : Reader) (n : Nat) : Option Reader := do
  let d ← digitValue? n
  let t := threshold r.bias r.place
  let steps := r.steps + d * r.weight
  if d < t then r.insert steps
  else some { r with steps, weight := r.weight * (36 - t), place := r.place + 1 }

/-- The ASCII characters of a label and its digits: what stands before and after its last hyphen. -/
def parts (s : List Nat) : List Nat × List Nat :=
  let reversed := s.reverse
  let isDigit := fun n => n != '-'.toNat
  (((reversed.dropWhile isDigit).drop 1).reverse, (reversed.takeWhile isDigit).reverse)

/-- The label that is written in ASCII; nothing if a digit is none, if the last number does not end,
or if a code point is too large. -/
def decode? (s : List Nat) : Option (List Nat) := do
  let (basic, numbers) := parts s
  let r ← numbers.foldlM Reader.read ⟨basic, 0, firstCodePoint, initialBias, true, 0, 1, 0⟩
  if r.place == 0 then some r.label else none

end PageSearch.Host.Punycode
