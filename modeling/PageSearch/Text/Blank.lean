/-!
# Blank characters and words

A query, a stored text and a request parameter are all cut at *blanks*. This module says which
characters are blank, and holds the operations that only look at blankness: trimming both ends,
writing every run of blanks as one space, and listing the words.

Everything works on lists of characters; `trimmed` is the same for `String`.
-/

namespace PageSearch.Text

/-- The blanks: the control characters that move the print position, the four information
separators, and the spaces and line separators of Unicode. -/
def isBlank (c : Char) : Bool :=
  let n := c.toNat
  (0x09 ≤ n && n ≤ 0x0D) || (0x1C ≤ n && n ≤ 0x20) || n == 0x85 || n == 0xA0 || n == 0x1680
    || (0x2000 ≤ n && n ≤ 0x200A) || n == 0x2028 || n == 0x2029 || n == 0x202F || n == 0x205F
    || n == 0x3000

/-- A character of a word. -/
def isSolid (c : Char) : Bool := !isBlank c

/-! ### Trimming -/

/-- Without the blanks it begins with. -/
def trimStart (s : List Char) : List Char := s.dropWhile isBlank

/-- Without the blanks it ends with. -/
def trimEnd : List Char → List Char
  | [] => []
  | c :: r =>
    match trimEnd r with
    | [] => if isBlank c then [] else [c]
    | d :: t => c :: d :: t

/-- Without the blanks at both ends. -/
def trim (s : List Char) : List Char := trimEnd (trimStart s)

/-- Without the blanks at both ends, for a string. -/
def trimmed (s : String) : String := String.ofList (trim s.toList)

/-- Nothing but blanks. -/
def isAllBlank (s : String) : Bool := s.toList.all isBlank

/-! ### Runs of blanks -/

/-- Writes every run of blanks as one space; `inRun` says that a blank came right before, so that
its space is written already. -/
def collapseFrom (inRun : Bool) : List Char → List Char
  | [] => []
  | c :: r =>
    if isBlank c then
      if inRun then collapseFrom true r else ' ' :: collapseFrom true r
    else c :: collapseFrom false r

/-- Writes every run of blanks as one space. -/
def collapse (s : List Char) : List Char := collapseFrom false s

/-! ### Words -/

/-- The pieces between the characters that satisfy `p`; there is always one piece more than there
are such characters. -/
def splitWhere (p : Char → Bool) : List Char → List (List Char)
  | [] => [[]]
  | c :: r =>
    if p c then [] :: splitWhere p r
    else
      match splitWhere p r with
      | [] => [[c]]
      | piece :: pieces => (c :: piece) :: pieces

/-- The words: the maximal runs of characters that are not blank. -/
def words (s : List Char) : List (List Char) :=
  (splitWhere isBlank s).filter fun w => !w.isEmpty

/-- The pieces between the commas. -/
def splitAtCommas (s : String) : List String :=
  (splitWhere (· == ',') s.toList).map String.ofList

end PageSearch.Text
