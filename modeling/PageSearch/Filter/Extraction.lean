import PageSearch.Filter.Token
import PageSearch.Settings.Spec

/-!
# Extraction of filters

The filters of a list of specifications are taken out of a query one after the other, each from the
text that the ones before it have left. A filter on the language field chooses the language, one on
the index selector chooses the indices, and any other demands a value of a field. Names that begin
with `#` are kept for such selectors: a filter on an unknown one is taken out and has no effect.
-/

namespace PageSearch.Filter

/-- The name by which a filter chooses the indices. -/
def defaultIndexSelector : String := "#index"

/-- The two targets of a filter that do not demand a value of a field. Either may be missing. -/
structure Targets where
  /-- The field that chooses the language. -/
  languageField : Option String := some "lang"
  /-- The name that chooses the indices. -/
  indexSelector : Option String := some defaultIndexSelector

/-- What a filter does with its value. -/
inductive Effect where
  /-- Nothing. -/
  | nothing
  /-- Chooses the language. -/
  | language
  /-- Chooses the indices. -/
  | indices
  /-- Demands the value of a field. -/
  | demand (field : String)
  deriving DecidableEq

/-- What a filter on a field does. -/
def Targets.effect (targets : Targets) (field : String) : Effect :=
  if field.isEmpty then .nothing
  else if some field == targets.languageField then .language
  else if some field == targets.indexSelector then .indices
  else if field.toList.head? == some '#' then .nothing
  else .demand field

/-- A query without its filters, and what they say. -/
structure Extraction where
  /-- The rest of the text, trimmed. -/
  text : String
  /-- The demanded values by field, in the order of the specifications. -/
  filters : List (String × String) := []
  /-- The chosen language. -/
  language : Option String := none
  /-- The chosen indices. -/
  indices : Option (List String) := none
  /-- Whether hits of one host are not grouped. -/
  blocksGrouping : Bool := false
  deriving DecidableEq

/-- The indices that a value names: what stands between its commas, trimmed, each once. -/
def splitIndices (value : String) : List String :=
  (Text.splitAtCommas value).foldl (fun found piece =>
    let index := Text.trimmed piece
    if index.isEmpty || found.contains index then found else found ++ [index]) []

/-- Gives a filter its effect. Without a field or a value it has none. -/
def Extraction.apply (targets : Targets) (spec : FilterSpec) (value : String) (e : Extraction) :
    Extraction :=
  if value.isEmpty then e
  else
    match targets.effect (spec.field.getD "") with
    | .nothing => e
    | .language => { e with language := some value }
    | .indices => { e with indices := some (splitIndices value) }
    | .demand field => { e with filters := e.filters ++ [(field, value)] }

/-- Takes the filter of one specification out of the text. -/
def Extraction.step (targets : Targets) (e : Extraction) (spec : FilterSpec) : Extraction :=
  if spec.keyword.isEmpty then e
  else
    match cut? spec.keyword.toList e.text.toList with
    | none => e
    | some c =>
      let rest : Extraction :=
        { e with
          text := String.ofList (Text.trim c.remainder)
          blocksGrouping := e.blocksGrouping || spec.blocksGrouping }
      rest.apply targets spec (String.ofList c.value)

/-- The text of a query that may be left out; what does not count as true is the empty text. -/
def queryText (query : Value) : Outcome String := query.textOrEmpty .notAnObject

/-- Takes the filters of all specifications out of a query. -/
def extract (targets : Targets) (specs : List FilterSpec) (query : String) : Extraction :=
  specs.foldl (Extraction.step targets) { text := Text.trimmed query }

end PageSearch.Filter
