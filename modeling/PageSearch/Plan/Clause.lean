import PageSearch.Value.Basic

/-!
# Clauses of the query language

A query of the search engine is a tree of clauses. `Clause` holds the ones that the plans use, with
`BoolQuery` for the four lists that a hit is judged by, and `toValue` gives the object that the
engine reads.
-/

namespace PageSearch

/-- What a document can be asked to match. -/
inductive Clause where
  /-- Matches every document. -/
  | matchAll
  /-- Matches words in some of the fields, each with its weight, if it has one. `minimum` is the
  share of words that must match, or nothing. -/
  | words (text : Value) (fields : List String) (flags : String) (minimum : Value)
  /-- Matches words in one field. -/
  | someWords (field : String) (text : Value) (boost : Float)
  /-- Matches words in one field that stand next to each other, or up to `slop` places apart. -/
  | phrase (field : String) (text : Value) (slop : Int) (boost : Float)
  /-- Matches the exact value of a field. -/
  | term (field : String) (value : Value)
  /-- Matches the values of a field within bounds. -/
  | range (field : String) (bounds : List (String × Float))

/-- What a document is judged by. -/
structure BoolQuery where
  /-- Must match, and counts. -/
  must : List Clause := []
  /-- Counts if it matches. -/
  should : List Clause := []
  /-- Must match, and does not count. -/
  filter : List Clause := []
  /-- Must not match. -/
  mustNot : List Clause := []

namespace Clause

/-- A clause as the engine reads it. -/
def toValue : Clause → Value
  | matchAll => .obj [("match_all", .obj [])]
  | words text fields flags minimum =>
    .obj [("simple_query_string", .obj (
      [("query", text), ("fields", .strings fields), ("default_operator", .str "and"),
        ("flags", .str flags)]
      ++ if minimum.isTruthy then [("minimum_should_match", minimum)] else []))]
  | someWords field text boost =>
    .obj [("match", .obj [(field, .obj [("query", text), ("boost", .float boost)])])]
  | phrase field text slop boost =>
    .obj [("match_phrase", .obj [(field,
      .obj [("query", text), ("slop", .int slop), ("boost", .float boost)])])]
  | term field value => .obj [("term", .obj [(field, value)])]
  | range field bounds =>
    .obj [("range", .obj [(field, .obj (bounds.map fun (op, x) => (op, .float x)))])]

/-- Clauses as a list. -/
def listValue (clauses : List Clause) : Value := .list (clauses.map toValue)

end Clause

namespace BoolQuery

/-- One of the four lists; an empty one is left out. -/
def part (name : String) (clauses : List Clause) : Fields :=
  if clauses.isEmpty then [] else [(name, Clause.listValue clauses)]

/-- The query as the engine reads it. -/
def toValue (q : BoolQuery) : Value :=
  .obj [("bool", .obj (part "must" q.must ++ part "should" q.should ++ part "filter" q.filter
    ++ part "must_not" q.mustNot))]

end BoolQuery

end PageSearch
