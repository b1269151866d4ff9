import PageSearch.Text.Blank
import PageSearch.Value.Kind
import PageSearch.Value.Number

/-!
# Parameters of a request to the service

A parameter comes as a text or as a value of its kind, and what cannot be read counts as missing.
-/

namespace PageSearch.Param

/-- A whole number. A truth value is none, and a value of another kind is read from its text, if it has
one. -/
def int? (v : Value) : Option Int :=
  match v with
  | .null | .bool _ => none
  | .int n => some n
  | v => if v.isWritable then Reading.int? (Text.trim v.text.toList) else none

/-- What stands between the commas of a text, trimmed, without what is empty. -/
def pieces (s : String) : List String :=
  ((Text.splitAtCommas s).map Text.trimmed).filter fun piece => !piece.isEmpty

/-- The texts that a list parameter is made of: one text is split at its commas. -/
def listTexts (v : Value) : Outcome (List String) :=
  match v with
  | .str s => .ok (Text.splitAtCommas s)
  | v => do (← v.items).mapM Value.write

/-- A list of texts: the texts of a list can hold several, with commas between them. An empty list
counts as missing. -/
def list? (v : Value) : Outcome (Option (List String)) :=
  match v with
  | .null => .ok none
  | v => do
    let found := (← listTexts v).flatMap pieces
    return if found.isEmpty then none else some found

/-- The words that unset a flag. -/
def falseWords : List String := ["0", "false", "no", "off"]

/-- Whether a flag is set. It is set by being there, unless its text is one of a few words, in any case. -/
def isSet (v : Value) : Bool :=
  match v with
  | .null => false
  | .bool b => b
  | v => !falseWords.contains (String.ofList ((Text.trim v.text.toList).map Char.toLower))

/-- A flag, whose text is written to compare it with these words. -/
def flag (v : Value) : Outcome Bool := v.afterWriting (isSet v)

end PageSearch.Param
