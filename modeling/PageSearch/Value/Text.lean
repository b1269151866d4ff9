import PageSearch.Decimal.Layout
import PageSearch.Fault
import PageSearch.Text.Quoted
import PageSearch.Value.Basic

/-!
# Values as text

A value has two texts. `Value.text` is for reading: a text stands for itself, and lists and objects
are written on one line with `Value.literal` for their parts. `Value.indented` is JSON over several
lines, two spaces deeper at each level, with the empty list and the empty object on one line.

Both are only the text of a value that has one: a whole number with too many digits cannot be written,
and neither can a value with such a number in it. `Value.write` is the text of a value, or the fault.
Values may be nested as deep as they are: limits of a machine, such as its memory or the depth of its
calls, are no part of what can be written.
-/

namespace PageSearch

namespace Value

/-! ### For reading -/

/-- Floats for reading. -/
def readingLayout : Layout where
  nanWord := "nan"
  infinityWord := "inf"

/-- A list, from the texts of its items. -/
def bracketed (items : List String) : String := "[" ++ ", ".intercalate items ++ "]"

/-- An object, from its names and the texts of their values. -/
def braced (fields : List (String × String)) : String :=
  "\x7b" ++ ", ".intercalate (fields.map fun (k, v) => Text.literal k ++ ": " ++ v) ++ "\x7d"

mutual
/-- A value as a part of a list or an object. -/
def literal : Value → String
  | null => "None"
  | bool b => if b then "True" else "False"
  | int n => intText n
  | float x => readingLayout.floatText x
  | str s => Text.literal s
  | list items => bracketed (literals items)
  | obj fields => braced (fieldLiterals fields)

/-- The items of a list. -/
def literals : List Value → List String
  | [] => []
  | v :: r => literal v :: literals r

/-- The fields of an object. -/
def fieldLiterals : List (String × Value) → List (String × String)
  | [] => []
  | (k, v) :: r => (k, literal v) :: fieldLiterals r
end

/-- The text of a value: a text is itself. -/
def text : Value → String
  | str s => s
  | v => v.literal

/-! ### What can be written -/

mutual
/-- Whether a value has a text. -/
def isWritable : Value → Bool
  | int n => Reading.hasText n
  | list items => allWritable items
  | obj fields => fieldsWritable fields
  | _ => true

/-- Whether some values have texts. -/
def allWritable : List Value → Bool
  | [] => true
  | v :: r => isWritable v && allWritable r

/-- Whether the values of some fields have texts. -/
def fieldsWritable : List (String × Value) → Bool
  | [] => true
  | (_, v) :: r => isWritable v && fieldsWritable r
end

/-- What there is once a value has been written, be it for a person or for a machine. -/
def afterWriting {α : Type} (v : Value) (a : α) : Outcome α :=
  if v.isWritable then .ok a else .error .notANumber

/-- Writes a value. -/
def write (v : Value) : Outcome String := v.afterWriting v.text

/-! ### For machines -/

/-- Floats in JSON. -/
def jsonLayout : Layout where
  nanWord := "NaN"
  infinityWord := "Infinity"

/-- A line break, and the indentation of a level. -/
def lineBreak (level : Nat) : String := "\n" ++ String.ofList (List.replicate (2 * level) ' ')

/-- Lines between an opening and a closing bracket, one level deeper than these. -/
def block (level : Nat) (first last : String) (lines : List String) : String :=
  if lines.isEmpty then first ++ last
  else first ++ lineBreak (level + 1) ++ ("," ++ lineBreak (level + 1)).intercalate lines
    ++ lineBreak level ++ last

mutual
/-- A value as JSON, of which the first line stands at `level`. -/
def indentedAt (level : Nat) : Value → String
  | null => "null"
  | bool b => if b then "true" else "false"
  | int n => intText n
  | float x => jsonLayout.floatText x
  | str s => Text.json s
  | list items => block level "[" "]" (indentedItems (level + 1) items)
  | obj fields => block level "\x7b" "\x7d" (indentedFields (level + 1) fields)

/-- The items of a list, each from its own line on. -/
def indentedItems (level : Nat) : List Value → List String
  | [] => []
  | v :: r => indentedAt level v :: indentedItems level r

/-- The fields of an object, each from its own line on. -/
def indentedFields (level : Nat) : List (String × Value) → List String
  | [] => []
  | (k, v) :: r => (Text.json k ++ ": " ++ indentedAt level v) :: indentedFields level r
end

/-- A value as JSON over several lines. -/
def indented (v : Value) : String := indentedAt 0 v

end Value

end PageSearch
