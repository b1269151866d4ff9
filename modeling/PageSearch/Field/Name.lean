import PageSearch.Decimal.Layout
import PageSearch.Value.Kind
import PageSearch.Value.Number

/-!
# Field names

The name of a stored field may hold the placeholder `%lang%`, which the language of a request takes
the place of. A name may carry a weight after a caret, which says how much a match in the field
counts.
-/

namespace PageSearch.Field

/-- The placeholder for the language. -/
def placeholder : List Char := "%lang%".toList

/-- Puts `value` in the place of every placeholder, from the left on. -/
def fill (value : List Char) : List Char → List Char
  | '%' :: 'l' :: 'a' :: 'n' :: 'g' :: '%' :: r => value ++ fill value r
  | c :: r => c :: fill value r
  | [] => []

/-- The name of a field in a language. The language is a substitution template and is read whether
or not the placeholder occurs, except for the empty name. -/
def localize (name language : String) : Outcome String :=
  if name.isEmpty then .ok ""
  else
    match Template.expand placeholder language.toList with
    | .ok value => .ok (String.ofList (fill value name.toList))
    | .error e => .error (.template e)

/-- The name of a field in a language that is given as a value. A language that does not count as true
is the empty one, and the language of the empty name does not matter. -/
def localizeIn (name : String) (language : Value) : Outcome String :=
  if name.isEmpty then .ok "" else do localize name (← language.textOrEmpty .unsuitable)

/-- The same for a name that is given as a value, too. The language is read first. -/
def localizeValue (name language : Value) : Outcome String :=
  match name with
  | .str s => localizeIn s language
  | v => do
    if v.isTruthy then
      let _ ← localizeIn (String.ofList placeholder) language
      .error .unsuitable
    else return ""

/-! ### Weights -/

/-- The name without its weight. -/
def unweighted (name : String) : String := String.ofList (name.toList.takeWhile (· != '^'))

/-- The name with a weight in the place of any that it has. The weight one is left out, and leaves
the name as it is. -/
def weighted (name : String) (weight : Float) : String :=
  if weight == 1 then name
  else unweighted name ++ "^" ++ Value.readingLayout.floatText weight

/-- The name with a weight, both given as values. Nothing is no weight; a name that gets no weight is
not looked at, and another must be a text. -/
def weightedBy (name weight : Value) : Outcome Value :=
  match weight with
  | .null => .ok name
  | v => do
    let x ← v.toFloat
    if x == 1 then return name else return .str (weighted (← name.asText .notAnObject) x)

end PageSearch.Field
