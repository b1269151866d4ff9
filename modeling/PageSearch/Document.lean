import PageSearch.Text.Blank
import PageSearch.Value.Number
import PageSearch.Value.Text

/-!
# Stored documents

The field of a stored document is found by a name with points. The document may be nested, so that
the points lead from object to object, or flat, so that the whole name is the name of one field.
-/

namespace PageSearch.Document

/-- The parts of a name between its points. -/
def path (key : String) : List String :=
  (Text.splitWhere (· == '.') key.toList).map String.ofList

/-- Follows a path from object to object. Where it does not lead on, the whole name is looked up in
the object that was reached. -/
def follow (whole : String) : List String → Value → Option Value
  | [], v => some v
  | key :: keys, v =>
    match v.get? key with
    | some w => follow whole keys w
    | none => v.get? whole

/-- The value of a field, if the document has one. -/
def find? (document : Value) (key : String) : Option Value := follow key (path key) document

/-- The text of a field that has one: the texts of a list stand one after the other, and nothing is the
empty text. -/
def textAt (document : Value) (key : String) : String :=
  match find? document key with
  | none | some .null => ""
  | some (.list vs) => " ".intercalate ((vs.filter fun v => !v matches .null).map Value.text)
  | some v => v.text

/-- Whether a field has a text. -/
def hasTextAt (document : Value) (key : String) : Bool := ((find? document key).getD .null).isWritable

/-- Writes the value of a field as a text. -/
def writtenAt (document : Value) (key : String) : Outcome String :=
  ((find? document key).getD .null).afterWriting (textAt document key)

/-- The value of a field as a number, as `read` reads it. What is of another kind, or stands for no
number, is none, after it has been written on the terminal; a number that is too large is a fault. -/
def numberAt? {α : Type} (read : Value → Outcome α) (document : Value) (key : String) :
    Outcome (Option α) :=
  match find? document key with
  | none | some .null => .ok none
  | some v =>
    match read v with
    | .ok a => .ok (some a)
    | .error .unsuitable | .error .notANumber => v.afterWriting none
    | .error fault => .error fault

end PageSearch.Document
