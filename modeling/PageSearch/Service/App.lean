import PageSearch.Searcher
import PageSearch.Service.Param

/-!
# The search service

The service has a title and a version. It reads the parameters of a request, searches, and turns
the faults that a caller can do something about into refusals with a status.
-/

namespace PageSearch

/-- The title and the version of a service. -/
structure App where
  /-- The title. -/
  title : Value
  /-- The version. -/
  version : Value

namespace App

/-- The service that the settings of the service describe. -/
def ofEnvs (envs : Value) : Outcome App := do
  let fields ← envs.fields
  return { title := fields.getD "app_name", version := fields.getD "version" }

/-- A service must have a title and a version. Both are noted on the terminal. -/
def check (app : App) : Outcome App :=
  if app.title.isTruthy && app.version.isTruthy then (Value.list [app.title, app.version]).afterWriting app
  else .error .untitled

/-- The parameters of a request, as they come. -/
structure Inputs where
  /-- The text of the query. -/
  query : Value := .null
  /-- The text of the query under its short name. -/
  q : Value := .null
  /-- The wanted indices. -/
  index : Value := .null
  /-- Where the page of results begins. -/
  start : Value := .null
  /-- How many results the page has. -/
  size : Value := .null
  /-- The slop of a phrase search. -/
  slop : Value := .null
  /-- Whether the scores are explained. -/
  explain : Value := .null

/-- What a search is asked with, once the parameters are read. The short name of the query counts if
the long one is missing. -/
def searchParams (inputs : Inputs) : Outcome SearchParams := do
  let indices ← Param.list? inputs.index
  let explain ← Param.flag inputs.explain
  return {
    query := match inputs.query with
      | .null => inputs.q
      | v => v
    indices := .ofOption .strings indices
    start := .ofOption .int (Param.int? inputs.start)
    size := .ofOption .int (Param.int? inputs.size)
    slop := .ofOption .int (Param.int? inputs.slop)
    explain := .bool explain }

/-- The fault that the service answers with: a query without text is a bad request, and a failure
of the engine means that the service is not available. -/
def refusal : Fault → Fault
  | .invalid message => .refused 400 message
  | .engineFailed message => .refused 503 message
  | fault => fault

/-- The way of searching of a name; only one name is not the simple search. -/
def modeOf (name : String) : Mode := if name == "phrase" then .phrase else .simple

/-- Searches for what a request asks. -/
def runSearch [Terminal] {σ : Type} (settings : Settings) (backend : Backend σ) (mode : Mode)
    (inputs : Inputs) (s : σ) : Outcome Answer × σ :=
  match searchParams inputs with
  | .error fault => (.error fault, s)
  | .ok params =>
    let (outcome, s) := Searcher.search settings backend mode params s
    (outcome.mapError refusal, s)

end App

end PageSearch
