import PageSearch.Decimal.Binary
import PageSearch.Text.Blank
import PageSearch.Text.Digit

/-!
# Reading numbers

The numbers that a text can hold: blanks may stand around it, a sign before it, and one low line
between two digits. Digits of every script count. A float may have a point, an exponent, or be one
of the words for an infinity and for no number.

Whole numbers are only read from texts up to a certain length, and only written as such: a longer one
has no text.
-/

namespace PageSearch.Reading

/-- The ASCII digits, which all digits are written as before reading. -/
def isDigit (c : Char) : Bool := '0' ≤ c && c ≤ '9'

/-- The value of a run of ASCII digits. -/
def natOf (digits : List Char) : Nat :=
  digits.foldl (fun n c => 10 * n + (c.toNat - '0'.toNat)) 0

/-- Drops the low lines that stand between two digits; `none` if one stands elsewhere.
`afterDigit` says that a digit came right before. -/
def joinGroupsFrom (afterDigit : Bool) : List Char → Option (List Char)
  | [] => some []
  | c :: r =>
    if c == '_' then
      if afterDigit && (r.head?.map isDigit == some true) then joinGroupsFrom false r else none
    else (joinGroupsFrom (isDigit c) r).map (c :: ·)

/-- The blanks that may stand around a number: all but the information separators. -/
def isPadding (c : Char) : Bool := Text.isBlank c && !(0x1C ≤ c.toNat && c.toNat ≤ 0x1F)

/-- The text without the blanks around it. -/
def withoutPadding (s : List Char) : List Char :=
  ((s.dropWhile isPadding).reverse.dropWhile isPadding).reverse

/-- The text without the blanks around it and the low lines between its digits, with digits of
every script written in ASCII. -/
def plain? (s : List Char) : Option (List Char) :=
  joinGroupsFrom false ((withoutPadding s).map Text.toPlainDigit)

/-- Splits off a sign: whether it is a minus, and what follows. -/
def takeSign : List Char → Bool × List Char
  | '-' :: r => (true, r)
  | '+' :: r => (false, r)
  | r => (false, r)

/-! ### Whole numbers -/

/-- The most digits that the text of a whole number may have. -/
def digitLimit : Nat := 4300

/-- Whether a whole number has a text. -/
def hasText (n : Int) : Bool := (Nat.toDigits 10 n.natAbs).length ≤ digitLimit

/-- A whole number. -/
def int? (s : List Char) : Option Int := do
  let (negative, digits) := takeSign (← plain? s)
  if digits.isEmpty || !digits.all isDigit || digitLimit < digits.length then none
  else some (Binary.signed negative (natOf digits))

/-! ### Floats -/

/-- The number `digits · 10 ^ exponent`, rounded to the nearest float. Far outside the range of the
floats, of which the binary logarithm gives a rough account, the power is not computed. -/
def floatOfDecimal (negative : Bool) (digits : Nat) (exponent : Int) : Float :=
  let size := (digits.log2 : Int) * 30103 / 100000 + exponent
  if digits == 0 || size < -400 then nearestFloat negative 0 1
  else if 400 < size then nearestFloat negative (Nat.pow 2 1100) 1
  else nearestFloat negative (digits * Nat.pow 10 exponent.toNat) (Nat.pow 10 (-exponent).toNat)

/-- The part after the mark of an exponent. -/
def exponent? (s : List Char) : Option Int :=
  let (negative, digits) := takeSign s
  if digits.isEmpty || !digits.all isDigit then none else some (Binary.signed negative (natOf digits))

/-- An exponent with its mark, or nothing. -/
def exponentPart? : List Char → Option Int
  | [] => some 0
  | c :: r => if c == 'e' || c == 'E' then exponent? r else none

/-- The places after a point, and what follows them. -/
def fractionPart : List Char → List Char × List Char
  | '.' :: r => (r.takeWhile isDigit, r.dropWhile isDigit)
  | r => ([], r)

/-- A float without sign that is written in digits. -/
def positional? (negative : Bool) (s : List Char) : Option Float := do
  let whole := s.takeWhile isDigit
  let (fraction, rest) := fractionPart (s.dropWhile isDigit)
  let exponent ← exponentPart? rest
  if whole.isEmpty && fraction.isEmpty then none
  else some (floatOfDecimal negative (natOf (whole ++ fraction)) (exponent - fraction.length))

/-- A float. -/
def float? (s : List Char) : Option Float := do
  let (negative, body) := takeSign (← plain? s)
  match String.ofList (body.map Char.toLower) with
  | "inf" | "infinity" => some (nearestFloat negative (Nat.pow 2 1100) 1)
  | "nan" => some (0.0 / 0.0)
  | _ => positional? negative body

end PageSearch.Reading
