import PageSearch.Settings.Reading

/-!
# Specifications of fields and filters

The settings list the searched fields with their weights, the filters that may stand in the text of
a query, and the ranges that every hit must lie in.
-/

namespace PageSearch

/-- A searched field. -/
structure FieldSpec where
  /-- Its name, which may hold the placeholder for the language. -/
  name : String
  /-- How much a match in it counts. -/
  boost : Float := 1
  /-- Whether words that stand near each other count more. -/
  proximityMatching : Bool := false
  /-- How far apart these words may stand. -/
  proximitySlop : Int := 1
  /-- How much words that stand near each other count. -/
  proximityBoost : Float := 1

/-- A filter `keyword:value` that may stand in the text of a query. -/
structure FilterSpec where
  /-- What stands before the colon. -/
  keyword : String
  /-- The field that must have the value. The language field, the index selector and other names
  that begin with `#` do not filter. -/
  field : Option String := none
  /-- Whether hits of one host are not grouped when the filter is used. -/
  blocksGrouping : Bool := false
  deriving DecidableEq

/-- A range of numbers that a field of each hit must lie in, or must not lie in. -/
structure RangeSpec where
  /-- The field, which may hold the placeholder for the language. -/
  name : String
  /-- The values are greater than this. -/
  gt : Option Float := none
  /-- The values are not less than this. -/
  gte : Option Float := none
  /-- The values are less than this. -/
  lt : Option Float := none
  /-- The values are not greater than this. -/
  lte : Option Float := none
  /-- The values must not lie in the range. -/
  negate : Bool := false

namespace FieldSpec

/-- Reads the specification of a field. -/
def ofFields (d : Fields) : Outcome FieldSpec := do
  return {
    name := ← Settings.textAt d "name" ""
    boost := ← Settings.floatAt d "boost" 1
    proximityMatching := ← Settings.boolAt d "proximity_matching" false
    proximitySlop := ← Settings.intAt d "proximity_slop" 1 0
    proximityBoost := ← Settings.floatAt d "proximity_boost" 1 }

end FieldSpec

namespace FilterSpec

/-- The specification of a filter, with a default for what is missing or malformed. -/
def ofFields (d : Fields) : FilterSpec where
  keyword := (Settings.text? d "keyword").getD ""
  field := Settings.text? d "field"
  blocksGrouping := (Settings.bool? d "block_grouping").getD false

/-- Reads the specification of a filter. -/
def read (d : Fields) : Outcome FilterSpec := do
  return {
    keyword := ← Settings.textAt d "keyword" ""
    field := ← Settings.textOption d "field"
    blocksGrouping := ← Settings.boolAt d "block_grouping" false }

end FilterSpec

namespace RangeSpec

/-- Reads the specification of a range. -/
def ofFields (d : Fields) : Outcome RangeSpec := do
  return {
    name := ← Settings.textAt d "name" ""
    gt := ← Settings.float? d "gt"
    gte := ← Settings.float? d "gte"
    lt := ← Settings.float? d "lt"
    lte := ← Settings.float? d "lte"
    negate := ← Settings.boolAt d "negate" false }

/-- The bounds that are set, by the names of their comparisons. -/
def bounds (spec : RangeSpec) : List (String × Float) :=
  [("gt", spec.gt), ("gte", spec.gte), ("lt", spec.lt), ("lte", spec.lte)].filterMap
    fun (op, bound) => bound.map (op, ·)

end RangeSpec

end PageSearch
