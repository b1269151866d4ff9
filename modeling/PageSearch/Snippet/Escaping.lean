import PageSearch.Value.Kind

/-!
# Text in HTML

The five characters that HTML gives a meaning to are written as entities.
-/

namespace PageSearch.Snippet

/-- A character in HTML. -/
def escapeChar (c : Char) : List Char :=
  if c == '&' then "&amp;".toList
  else if c == '<' then "&lt;".toList
  else if c == '>' then "&gt;".toList
  else if c == '"' then "&quot;".toList
  else if c == '\'' then "&#x27;".toList
  else [c]

/-- A text in HTML. -/
def escape (text : String) : String := String.ofList (text.toList.flatMap escapeChar)

/-- The same for a value. What does not count as true is the empty text. -/
def escapeValue (text : Value) : Outcome String := return escape (← text.textOrEmpty .notAnObject)

end PageSearch.Snippet
