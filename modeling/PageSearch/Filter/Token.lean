import PageSearch.Text.Blank
import PageSearch.Text.Search
import PageSearch.Value.Kind

/-!
# Filters in the text of a query

A filter is a keyword, a colon and a value, somewhere in the text. Blanks may stand between the
colon and the value, and the value ends at the next blank or at the end of the text. Only the first
place where the keyword and the colon stand counts, whether or not a word begins there.
-/

namespace PageSearch.Filter

/-- A text cut at its first filter of a keyword. -/
structure Cut where
  /-- What stands before the filter. -/
  before : List Char
  /-- The blanks between the colon and the value. -/
  gap : List Char
  /-- The value; it is empty only at the end of the text. -/
  value : List Char
  /-- What stands after the filter. -/
  after : List Char
  deriving DecidableEq

/-- What a filter begins with. -/
def opening (keyword : List Char) : List Char := keyword ++ [':']

/-- Cuts a text at its first filter of a keyword. -/
def cut? (keyword text : List Char) : Option Cut :=
  (Text.cutAt? (opening keyword) text).map fun (before, rest) =>
    let fromValue := rest.dropWhile Text.isBlank
    { before
      gap := rest.takeWhile Text.isBlank
      value := fromValue.takeWhile Text.isSolid
      after := fromValue.dropWhile Text.isSolid }

/-- The text without the filter. -/
def Cut.remainder (c : Cut) : List Char := c.before ++ c.after

/-- The place of a filter in a text, and its value. -/
structure Span where
  /-- The position of the keyword. -/
  start : Nat
  /-- The position after the value. -/
  stop : Nat
  /-- The value. -/
  value : String
  deriving DecidableEq

/-- The span that begins at a position and has an opening of a given width: the blanks and the value
with which the text goes on belong to it. -/
def spanAt (text : List Char) (start width : Nat) : Span :=
  let rest := text.drop (start + width)
  let value := (rest.dropWhile Text.isBlank).takeWhile Text.isSolid
  { start
    stop := start + width + (rest.takeWhile Text.isBlank).length + value.length
    value := String.ofList value }

/-- The place of the first filter of a keyword. -/
def findSpan? (text keyword : String) : Option Span :=
  let sought := opening keyword.toList
  (Text.cutAt? sought text.toList).map fun (before, _) => spanAt text.toList before.length sought.length

/-- The same for values. What is looked for is the text of the keyword, but its size says where the
value begins: for a list or an object that is how many parts it has, so that its value begins within
its text. A keyword without size can be looked for, but not be found. -/
def findSpanIn (text keyword : Value) : Outcome (Option Span) := do
  let s := (← text.asText .notAnObject).toList
  match Text.cutAt? (opening (← keyword.write).toList) s with
  | none => return none
  | some (before, _) => return some (spanAt s before.length ((← keyword.size) + 1))

end PageSearch.Filter
