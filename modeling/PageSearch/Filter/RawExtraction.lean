import PageSearch.Filter.Extraction

/-!
# Extraction of values

Filters can also be applied one by one, each with a value that did not come out of a text and may be of
any kind. Their effects are those of the filters in a text; a value only has to be a text where the
indices are read from it.
-/

namespace PageSearch.Filter

/-- What filters say, with values of any kind. -/
structure RawExtraction where
  /-- The text that the filters belong to. -/
  text : Value := .str ""
  /-- The demanded values by field, in order. -/
  filters : List (String × Value) := []
  /-- The chosen language. -/
  language : Value := .null
  /-- The chosen indices. -/
  indices : Option (List String) := none

namespace RawExtraction

/-- Gives a filter its effect. A value that does not count as true has none. -/
def apply (targets : Targets) (spec : FilterSpec) (value : Value) (e : RawExtraction) :
    Outcome RawExtraction :=
  if !value.isTruthy then .ok e
  else
    match targets.effect (spec.field.getD "") with
    | .nothing => .ok e
    | .language => .ok { e with language := value }
    | .indices => do return { e with indices := some (splitIndices (← value.asText .notAnObject)) }
    | .demand field => .ok { e with filters := e.filters ++ [(field, value)] }

end RawExtraction

end PageSearch.Filter
