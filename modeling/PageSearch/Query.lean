import PageSearch.Text.Blank
import PageSearch.Value.Kind

/-!
# Queries

What a request asks for, after the filters have been taken out of its text. A `RawQuery` has values
for its parts, so that a query that is written by hand can be compiled as it is; `Query.raw` gives the
parts of a query that was built from a text.
-/

namespace PageSearch

/-- A query. -/
structure Query where
  /-- The text without its filters. -/
  text : String
  /-- The language of the wanted pages, which the names of the searched fields depend on. -/
  language : String
  /-- The indices to search, each once. -/
  indices : List String := []
  /-- The demanded values, by field. -/
  filters : List (String × String) := []
  /-- Whether hits of one host are not grouped. -/
  groupingBlocked : Bool := false
  deriving DecidableEq

/-- Whether a query has no words. -/
def Query.isEmpty (q : Query) : Bool := Text.isAllBlank q.text

/-- A query whose parts may be of any kind. -/
structure RawQuery where
  /-- The text. -/
  text : Value
  /-- The language. -/
  language : Value
  /-- The indices. -/
  indices : Value := .list []
  /-- The pairs of a field and the value that is demanded of it. -/
  filters : Value := .list []
  /-- Whether hits of one host are not grouped. -/
  groupingBlocked : Value := .bool false

/-- A query with its parts as values. -/
def Query.raw (q : Query) : RawQuery where
  text := .str q.text
  language := .str q.language
  indices := .strings q.indices
  filters := .list (q.filters.map fun (field, value) => .strings [field, value])
  groupingBlocked := .bool q.groupingBlocked

namespace RawQuery

/-- Whether a query has no words. Only a text has any. -/
def isEmpty (q : RawQuery) : Outcome Bool := return Text.isAllBlank (← q.text.asText .notAnObject)

/-- The demanded values, by field. -/
def demands (q : RawQuery) : Outcome (List (String × Value)) := do
  (← q.filters.items).mapM fun filter => do
    let (field, value) ← filter.pair
    return (← field.fieldName, value)

end RawQuery

end PageSearch
