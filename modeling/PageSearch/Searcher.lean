import PageSearch.Backend.Basic
import PageSearch.Filter.Extraction
import PageSearch.Hit.Result
import PageSearch.Plan.Compile

/-!
# Searching

From the text of a query to an answer: the text is checked, its filters are taken out, a plan is
compiled and given to the backend, and the hits become results. The backend is asked once, and only
when there is a request to ask with.
-/

namespace PageSearch

/-- The two ways of searching. -/
inductive Mode where
  /-- By words. -/
  | simple
  /-- By phrases. -/
  | phrase
  deriving DecidableEq

/-- How a way of searching is noted. -/
def Mode.context : Mode → Context
  | simple => "simple"
  | phrase => "phrase"

/-- What a search is asked with. All of it is as the caller gives it. -/
structure SearchParams where
  /-- The text of the query. -/
  query : Value := .null
  /-- The wanted indices. -/
  indices : Value := .null
  /-- Where the page of results begins. -/
  start : Value := .null
  /-- How many results the page has. -/
  size : Value := .null
  /-- The slop of a phrase search. -/
  slop : Value := .null
  /-- Whether the scores are explained. -/
  explain : Value := .null
  /-- Whether the steps of the search are noted on the terminal. -/
  verbose : Value := .null

/-- The answer to a search. -/
structure Answer where
  /-- The number of all hits, as the engine gives it. -/
  total : Value
  /-- The searched indices. -/
  indices : List String
  /-- The results of the page. -/
  results : List Result

/-- What an answer says about all its results. -/
def Answer.summary (a : Answer) : Value :=
  .obj [("total_results", a.total), ("indices", .strings a.indices)]

/-- An answer as a value. -/
def Answer.toValue (a : Answer) : Value :=
  .obj [("meta", a.summary), ("results", .list (a.results.map Result.toValue))]

namespace Searcher

/-- The words for a query that has no text. -/
def emptyQueryMessage : String := "Empty search query"

/-- The trimmed text of a query, which must be a text that is not blank. -/
def validate (query : Value) : Outcome String :=
  match query with
  | .str s => if Text.isAllBlank s then .error (.invalid emptyQueryMessage) else .ok (Text.trimmed s)
  | _ => .error (.invalid emptyQueryMessage)

/-- The targets of the filters in the text of a query. -/
def targets (settings : Settings) : Filter.Targets where
  languageField := some settings.languageField

/-- The query that a text and the wanted indices make. Filters in the text come first: they can
choose the language and the indices. -/
def buildQuery (settings : Settings) (text : String) (indices : Value) : Outcome Query := do
  let e := Filter.extract (targets settings) settings.queryFilters text
  let requested :=
    match e.indices with
    | some chosen => Value.strings chosen
    | none => indices
  let language := e.language.getD ""
  return {
    text := e.text
    language := if language.isEmpty then settings.defaultLanguage else language
    indices := ← settings.resolveIndices requested
    filters := e.filters
    groupingBlocked := e.blocksGrouping }

/-- The plan for a way of searching. -/
def planFor (settings : Settings) (slop : Value) : Mode → Outcome Plan
  | .simple => .ok .simple
  | .phrase => Plan.ofSlop settings slop

/-- Notes a plan on the terminal: of a phrase search the slop is written. -/
def note (plan : Plan) : Outcome Unit :=
  match plan.slop? with
  | some slop => (Value.int slop).afterWriting ()
  | none => .ok ()

/-- The query of a search, and the request that it is compiled to. -/
def prepare (settings : Settings) (mode : Mode) (params : SearchParams) : Outcome (Query × Request) := do
  let q ← buildQuery settings (← validate params.query) params.indices
  let plan ← planFor settings params.slop mode
  note plan
  let start ← Settings.resolveFrom params.start
  let size ← settings.resolveSize params.size
  let request ← plan.compile settings q.raw (.int start) (.int size) (.bool params.explain.isTruthy)
  return (q, request)

/-- The answer that the hits of the engine make. Its summary is noted on the terminal. -/
def answer [Terminal] (settings : Settings) (q : Query) (res : Value) (verbose : Bool) : Outcome Answer := do
  let (results, total) ← Hit.read settings q.raw res verbose
  let a : Answer := { total, indices := q.indices, results }
  Terminal.outline a.summary
  return a

/-- Searches. The backend is asked only if the request could be made. -/
def search [Terminal] {σ : Type} (settings : Settings) (backend : Backend σ) (mode : Mode)
    (params : SearchParams) (s : σ) : Outcome Answer × σ :=
  match prepare settings mode params with
  | .error fault => (.error fault, s)
  | .ok (q, request) =>
    match backend.execute request mode.context s with
    | (.error fault, s) => (.error fault, s)
    | (.ok res, s) => (answer settings q res params.verbose.isTruthy, s)

end Searcher

end PageSearch
