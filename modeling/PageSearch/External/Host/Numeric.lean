import PageSearch.Decimal.Reading
import PageSearch.Text.Blank
import PageSearch.Text.Digit
import PageSearch.Text.Search

/-!
# Hosts that are given by numbers

Instead of a name a host can be given by its number: four numbers with points between them, or, in
brackets, eight groups of digits of base 16 with colons between them. In the second form two colons
stand for as many zero groups as are missing, and the last two groups may be written in the first form.
-/

namespace PageSearch.Host

/-! ### Four numbers -/

/-- One of the four numbers: below 256 and without a zero in front. -/
def isOctet (s : List Char) : Bool :=
  !s.isEmpty && s.all Reading.isDigit && s.length ≤ 3 && Reading.natOf s ≤ 255 &&
    (s.length == 1 || s.head? != some '0')

/-- Four numbers with points between them. -/
def isIPv4 (s : List Char) : Bool :=
  let numbers := Text.splitWhere (· == '.') s
  numbers.length == 4 && numbers.all isOctet

/-- Whether a host is four runs of digits with points between them. -/
def looksNumeric (s : List Char) : Bool :=
  let runs := Text.splitWhere (· == '.') s
  runs.length == 4 && runs.all fun run => !run.isEmpty && run.all Reading.isDigit

/-! ### Eight groups -/

/-- A group of up to four digits of base 16. -/
def isGroup (s : List Char) : Bool := !s.isEmpty && s.length ≤ 4 && s.all fun c => (Text.hexValue? c).isSome

/-- How many groups some pieces are, if they are groups. The last piece may be two groups in the form
of four numbers, if the address ends with it. -/
def groupCount? (isEnd : Bool) : List (List Char) → Option Nat
  | [] => some 0
  | [s] => if isGroup s then some 1 else if isEnd && isIPv4 s then some 2 else none
  | s :: rest => if isGroup s then (groupCount? isEnd rest).map (· + 1) else none

/-- The pieces between the colons; of nothing there are none. -/
def pieces (s : List Char) : List (List Char) := if s.isEmpty then [] else Text.splitWhere (· == ':') s

/-- Eight groups with colons between them. -/
def isIPv6 (s : List Char) : Bool :=
  match Text.cutAt? [':', ':'] s with
  | none => groupCount? true (pieces s) == some 8
  | some (before, after) =>
    match groupCount? false (pieces before), groupCount? true (pieces after) with
    | some m, some n => m + n < 8
    | _, _ => false

/-- Eight groups, and behind a percent sign perhaps the zone in which they hold. -/
def isZonedIPv6 (s : List Char) : Bool :=
  match Text.cutAt? ['%'] s with
  | none => isIPv6 s
  | some (address, zone) => isIPv6 address && !zone.isEmpty && !zone.contains '%'

end PageSearch.Host
