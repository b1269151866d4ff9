import PageSearch.Settings.Spec

/-!
# The settings of the search

One immutable record for the whole service, read once from two objects: the settings of the search
and those of the page of results. What is missing or malformed has a default.
-/

namespace PageSearch

/-- The settings of the search. -/
structure Settings where
  /-- The language of a query that names none. -/
  defaultLanguage : String := "en"
  /-- The field that holds the language of a page. -/
  languageField : String := "lang"
  /-- The field that holds the host of a page, for matching. -/
  hostnameField : String := "warc_target_hostname"
  /-- The field that holds the host of a page, as one term. -/
  hostnameExactField : String := "warc_target_hostname.raw"
  /-- The indices that may be searched; none means any. -/
  indices : List String := []
  /-- The indices that are searched if a request names none that may be. -/
  defaultIndices : List String := []
  /-- How long the engine may search. -/
  timeout : Option String := none
  /-- The most characters of a snippet. -/
  snippetLength : Int := 400
  /-- The most characters of a title. -/
  titleLength : Int := 70
  /-- The number of results of a request that does not say. -/
  resultsPerPage : Int := 10
  /-- How many hits the rescore query sees. -/
  rescoreWindow : Int := 400
  /-- How many documents a simple search collects in a shard. -/
  simpleNodeLimit : Int := 200000
  /-- The fields of a simple search. -/
  mainFields : List FieldSpec := []
  /-- The filters in the text of a query. -/
  queryFilters : List FilterSpec := []
  /-- The ranges of every search. -/
  rangeFilters : List RangeSpec := []
  /-- The slop of a phrase search that does not say. -/
  phraseSlop : Int := 0
  /-- The greatest slop of a phrase search. -/
  phraseMaxSlop : Int := 2
  /-- How many documents a phrase search collects in a shard. -/
  phraseNodeLimit : Int := 10000
  /-- The fields of a phrase search. -/
  phraseFields : List FieldSpec := []

namespace Settings

/-- The indices of a request without any: those that are set, else the first that is allowed. -/
def orFirst (defaults allowed : List String) : List String :=
  if defaults.isEmpty then allowed.take 1 else defaults

/-- Reads the settings of the search and of the page of results. A section that is left out has
only defaults; a section that is no object is a fault. -/
def ofSections (searchSection pageSection : Value) : Outcome Settings := do
  let search ← searchSection.fieldsOrNone
  let indices ← texts search "indices"
  let defaultIndices := orFirst (← texts search "default_indices") indices
  let defaultLanguage ← textAt search "default_language" "en"
  let languageField ← textAt search "language_field" "lang"
  let hostnameField ← textAt search "hostname_field" "warc_target_hostname"
  let hostnameExactField ← textAt search "hostname_exact_field" "warc_target_hostname.raw"
  let timeout ← textOption search "timeout"
  let page ← pageSection.fieldsOrNone
  let snippetLength ← intAt page "snippet_length" 400 1
  let titleLength ← intAt page "title_length" 70 1
  let resultsPerPage ← intAt page "results_per_page" 10 1
  let simple ← (search.getD "default_simple").fieldsOrNone
  let rescoreWindow ← intAt simple "rescore_window" 400 1
  let simpleNodeLimit ← intAt simple "node_limit" 200000 1
  let mainFields ← (objects simple "main_fields").mapM FieldSpec.ofFields
  let queryFilters ← (objects simple "query_filters").mapM FilterSpec.read
  let rangeFilters ← (objects simple "range_filters").mapM RangeSpec.ofFields
  let phrase ← (search.getD "phrase_search").fieldsOrNone
  let phraseSlop ← intAt phrase "slop" 0 0
  let phraseMaxSlop ← intAt phrase "max_slop" 2 0
  let phraseNodeLimit ← intAt phrase "node_limit" 10000 1
  let phraseFields ← (objects phrase "fields").mapM FieldSpec.ofFields
  return {
    defaultLanguage, languageField, hostnameField, hostnameExactField, indices, defaultIndices, timeout
    snippetLength, titleLength, resultsPerPage, rescoreWindow, simpleNodeLimit, mainFields, queryFilters
    rangeFilters, phraseSlop, phraseMaxSlop, phraseNodeLimit, phraseFields }

end Settings

end PageSearch
