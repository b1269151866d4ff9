import PageSearch.Field.Name
import PageSearch.Plan.Clause
import PageSearch.Query
import PageSearch.Settings.Basic

/-!
# Steps of a plan

The lists of clauses and fields that plans are put together from. Each depends on the settings and
on the query alone; the names of the fields are put into the language of the query.
-/

namespace PageSearch.Plan

/-! ### Stored fields -/

/-- The field of the identifier of a page in its collection. -/
def trecIdField : String := "warc_trec_id"

/-- The field of the address of a page. -/
def targetUriField : String := "warc_target_uri"

/-- The field of the rank of a page among all. -/
def pageRankField : String := "page_rank"

/-- The field of the rank of a page among those that are not spam. -/
def spamRankField : String := "spam_rank"

/-- The field of the title. -/
def titleField : String := "title_lang.%lang%"

/-- The field of the text. -/
def bodyField : String := "body_lang.%lang%"

/-- The field of the description. -/
def descriptionField : String := "meta_desc_lang.%lang%"

/-- The stored fields that results are made from. -/
def storedFields : List String :=
  [trecIdField, "warc_target_hostname", targetUriField, pageRankField, spamRankField,
    titleField, bodyField, descriptionField]

/-! ### Words -/

/-- What the text of a query may use in the first stage. -/
def preQueryFlags : List String := ["AND", "OR", "NOT", "PHRASE", "WHITESPACE"]

/-- What the text of a query may use in the second stage. -/
def rescoreFlags : List String := ["AND", "OR", "NOT", "PHRASE", "PREFIX", "WHITESPACE"]

/-- The share of words that must match in the second stage. -/
def rescoreMinimum : Value := .str "30%"

/-- The name of a field in the language of the query. -/
def localize (q : RawQuery) (name : String) : Outcome String := Field.localizeIn name q.language

/-- The names of fields in the language of the query, with their weights if these count. -/
def fieldNames (q : RawQuery) (specs : List FieldSpec) (weighted : Bool) : Outcome (List String) :=
  specs.mapM fun spec => do
    let name ← localize q spec.name
    return if weighted then Field.weighted name spec.boost else name

/-- The words of the query in some fields. -/
def wordsClause (q : RawQuery) (specs : List FieldSpec) (flags : List String) (weighted : Bool)
    (minimum : Value) : Outcome Clause := do
  return .words q.text (← fieldNames q specs weighted) ("|".intercalate flags) minimum

/-! ### Filters -/

/-- The demanded values in the order of the query, and then the language. -/
def termFilters (settings : Settings) (q : RawQuery) : Outcome (List Clause) := do
  let demanded := (← q.demands).map fun (field, value) => Clause.term field value
  return demanded ++ [.term settings.languageField q.language]

/-- A range, if it has a name and a bound. -/
def rangeClause? (q : RawQuery) (spec : RangeSpec) : Outcome (Option Clause) :=
  if spec.name.isEmpty || spec.bounds.isEmpty then .ok none
  else do return some (.range (← localize q spec.name) spec.bounds)

/-- The ranges that hits must lie in (`negate` is false) or must not lie in. -/
def rangeFilters (settings : Settings) (q : RawQuery) (negate : Bool) : Outcome (List Clause) := do
  let clauses ← (settings.rangeFilters.filter (·.negate == negate)).mapM (rangeClause? q)
  return clauses.filterMap id

/-- Adds the filters to a query. -/
def addFilters (settings : Settings) (q : RawQuery) (bool : BoolQuery) : Outcome BoolQuery := do
  let inside ← rangeFilters settings q false
  let outside ← rangeFilters settings q true
  return { bool with
    filter := bool.filter ++ (← termFilters settings q) ++ inside
    mustNot := bool.mustNot ++ outside }

/-- Adds clauses to a list of an object that may have it already. -/
def extendPart (bool : Fields) (name : String) (clauses : List Clause) : Outcome Fields :=
  match (bool.get? name).getD (.list []) with
  | .list present => .ok (bool.put name (.list (present ++ clauses.map Clause.toValue)))
  | _ => .error .notAnObject

/-- Adds the filters to an object that is written by hand. -/
def addFiltersTo (settings : Settings) (q : RawQuery) (bool : Value) : Outcome Value := do
  let added ← addFilters settings q {}
  let withFilter ← extendPart (← bool.fields) "filter" added.filter
  if added.mustNot.isEmpty then return .obj withFilter
  else return .obj (← extendPart withFilter "must_not" added.mustNot)

/-! ### Boosts -/

/-- How much a match of the host counts. -/
def hostBoost : Float := 20

/-- The host that is preferred in a language. -/
def encyclopediaHost (language : Value) : String := language.text ++ ".wikipedia.org"

/-- Prefers pages whose host has words of the query, and the encyclopedia of the language. -/
def hostBoosts (settings : Settings) (q : RawQuery) : List Clause :=
  [.someWords settings.hostnameField q.text hostBoost,
    .term settings.hostnameExactField (.str (encyclopediaHost q.language))]

/-- The same, once the host of the encyclopedia has been written. -/
def writtenHostBoosts (settings : Settings) (q : RawQuery) : Outcome (List Clause) :=
  q.language.afterWriting (hostBoosts settings q)

/-- Prefers pages where the words stand near each other, in the fields that ask for it. -/
def proximityClauses (settings : Settings) (q : RawQuery) : Outcome (List Clause) :=
  (settings.mainFields.filter (·.proximityMatching)).mapM fun spec => do
    return .phrase (← localize q spec.name) q.text spec.proximitySlop (spec.proximityBoost / 2)

/-! ### Phrases -/

/-- The names of the fields of a phrase search. -/
def phraseNames (settings : Settings) (q : RawQuery) : Outcome (List String) :=
  fieldNames q settings.phraseFields false

/-- The words as a phrase, in each field of a phrase search. -/
def phraseClauses (settings : Settings) (q : RawQuery) (slop : Int) : Outcome (List Clause) :=
  settings.phraseFields.mapM fun spec => do
    return .phrase (← localize q spec.name) q.text slop spec.boost

/-- The words, in the fields of a simple search whose names are not excluded. -/
def recallClauses (settings : Settings) (q : RawQuery) (excluded : Value) : Outcome (List Clause) := do
  let clauses ← settings.mainFields.mapM fun spec => do
    let name ← localize q spec.name
    return if ← excluded.holds name then none else some (Clause.someWords name q.text spec.boost)
  return clauses.filterMap id

/-! ### Results -/

/-- The stored fields to return. -/
def sourceFields (q : RawQuery) : Outcome (List String) := storedFields.mapM (localize q)

end PageSearch.Plan
