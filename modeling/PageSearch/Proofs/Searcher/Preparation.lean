import PageSearch.Proofs.Filter.Capture
import PageSearch.Proofs.Plan.Compilation
import PageSearch.Service.App

/-!
# From a search to its request

Before the backend is asked, a search reads its parameters, makes a query of its text and compiles the query.
`exists_of_prepare` says what is known of a query and a request for which all of this succeeded. What the
backend is asked can be seen with a backend that keeps a list of it (`Backend.recorded`): there is nothing in
the list if a step before has failed, and else there is this one request (`runSearch_recorded`).
-/

namespace PageSearch

namespace Searcher

open PageSearch.Filter

variable {settings : Settings} {mode : Mode} {params : SearchParams} {q : Query} {request : Request}

/-! ### Queries -/

/-- The language that a text makes a search use: the one that it chooses, or the default. -/
def activeLanguage (settings : Settings) (text : String) : String :=
  (extract (targets settings) settings.queryFilters text).language.getD settings.defaultLanguage

/-- A chosen language is not empty. -/
theorem ne_of_language_eq_some {targets : Targets} {specs : List FilterSpec} {text language : String}
    (h : (extract targets specs text).language = some language) : language ≠ "" := by
  rw [extract_eq, Extraction.ofCaptures, lastValue?, Option.map_eq_some_iff] at h
  obtain ⟨m, hm, rfl⟩ := h
  have hvalue := (List.mem_filter.1 (List.mem_of_getLast? hm)).2
  simp only [decide_eq_true_eq] at hvalue
  exact hvalue.1

/-- What a search is asked for: the indices that a filter in the text chooses, if there is one, and else those of the
parameters. -/
def requestedIndices (settings : Settings) (text : String) (indices : Value) : Value :=
  match (extract (targets settings) settings.queryFilters text).indices with
  | some chosen => .strings chosen
  | none => indices

/-- The query that a text makes with some indices. -/
def queryWith (settings : Settings) (text : String) (active : List String) : Query where
  text := (extract (targets settings) settings.queryFilters text).text
  language :=
    let language := (extract (targets settings) settings.queryFilters text).language.getD ""
    if language.isEmpty then settings.defaultLanguage else language
  indices := active
  filters := (extract (targets settings) settings.queryFilters text).filters
  groupingBlocked := (extract (targets settings) settings.queryFilters text).blocksGrouping

/-- Only the indices of a query can be a fault. -/
theorem buildQuery_eq (settings : Settings) (text : String) (indices : Value) :
    buildQuery settings text indices =
      (settings.resolveIndices (requestedIndices settings text indices)).map (queryWith settings text) := by
  rw [buildQuery]
  change (settings.resolveIndices (requestedIndices settings text indices) >>= fun active => _) = _
  cases settings.resolveIndices (requestedIndices settings text indices) with
  | error fault => rfl
  | ok active => rfl

/-- **The query** that a text makes has what the filters in the text say. -/
theorem of_buildQuery {text : String} {indices : Value} (h : buildQuery settings text indices = .ok q) :
    let e := extract (targets settings) settings.queryFilters text
    q.text = e.text ∧ q.language = activeLanguage settings text ∧ q.filters = e.filters ∧
      q.groupingBlocked = e.blocksGrouping := by
  intro e
  rw [buildQuery_eq] at h
  obtain ⟨active, -, rfl⟩ := Outcome.map_eq_ok.1 h
  refine ⟨rfl, ?_, rfl, rfl⟩
  rw [activeLanguage, queryWith]
  cases hlanguage : (extract (targets settings) settings.queryFilters text).language with
  | none => rfl
  | some language =>
    have hne := Text.isEmpty_eq_false (ne_of_language_eq_some hlanguage)
    simp only [Option.getD_some, hne, Bool.false_eq_true, if_false]

/-! ### Requests -/

theorem exists_of_validate {query : Value} {text : String} (h : validate query = .ok text) :
    ∃ s, query = .str s ∧ Text.isAllBlank s = false ∧ text = Text.trimmed s := by
  cases query with
  | str s =>
    rw [validate] at h
    split at h
    · cases h
    · rename_i hblank
      exact ⟨s, rfl, Bool.eq_false_iff.2 hblank, (Except.ok.inj h).symm⟩
  | _ => cases h

/-- **A search that can be prepared** has a text, a query, a plan and a page, and its request is compiled
from them. -/
theorem exists_of_prepare (h : prepare settings mode params = .ok (q, request)) :
    ∃ text plan start size, params.query = .str text ∧ Text.isAllBlank text = false ∧
      buildQuery settings (Text.trimmed text) params.indices = .ok q ∧
      planFor settings params.slop mode = .ok plan ∧ Settings.resolveFrom params.start = .ok start ∧
      settings.resolveSize params.size = .ok size ∧
      plan.compile settings q.raw (.int start) (.int size) (.bool params.explain.isTruthy) = .ok request := by
  simp only [prepare, Outcome.bind_eq_ok, Outcome.pure_eq_ok, Prod.mk.injEq] at h
  obtain ⟨trimmed, hvalid, q', hq, plan, hplan, -, -, start, hstart, size, hsize, request', hrequest, rfl, rfl⟩ := h
  obtain ⟨text, hquery, hblank, rfl⟩ := exists_of_validate hvalid
  exact ⟨text, plan, start, size, hquery, hblank, hq, hplan, hstart, hsize, hrequest⟩

end Searcher

/-! ### What the backend is asked -/

/-- The backend, with a list of what it was asked. -/
def Backend.recorded {σ : Type} (backend : Backend σ) : Backend (σ × List Sent) where
  execute request context s :=
    let (outcome, s') := backend.execute request context s.1
    (outcome, (s', s.2 ++ [⟨request, context⟩]))

namespace App

/-- The text of a query: the one under the short name counts if the other is missing. -/
def effectiveQuery (inputs : Inputs) : Value :=
  match inputs.query with
  | .null => inputs.q
  | v => v

/-- What is known of parameters that can be read. -/
theorem of_searchParams {inputs : Inputs} {params : SearchParams} (h : searchParams inputs = .ok params) :
    params.query = effectiveQuery inputs ∧ params.start = .ofOption .int (Param.int? inputs.start) ∧
      params.size = .ofOption .int (Param.int? inputs.size) ∧ params.slop = .ofOption .int (Param.int? inputs.slop) ∧
      ∃ found, params.indices = .ofOption .strings found := by
  simp only [searchParams, Outcome.bind_eq_ok, Outcome.pure_eq_ok] at h
  obtain ⟨found, -, explain, -, rfl⟩ := h
  exact ⟨rfl, rfl, rfl, rfl, found, rfl⟩

section Asking

variable {σ : Type} {settings : Settings} {mode : Mode} {inputs : Inputs} {params : SearchParams} {fault : Fault}

/-- What a search asks the backend for: the prepared request, once, or nothing if the parameters cannot be read or
the request cannot be prepared. -/
def asked (settings : Settings) (mode : Mode) (inputs : Inputs) : List Sent :=
  match searchParams inputs with
  | .error _ => []
  | .ok params =>
    match Searcher.prepare settings mode params with
    | .error _ => []
    | .ok (_, request) => [⟨request, mode.context⟩]

/-- Parameters that cannot be read are the fault of the search. -/
theorem runSearch_of_unread [Terminal] (h : searchParams inputs = .error fault) (backend : Backend σ) (s : σ) :
    runSearch settings backend mode inputs s = (.error fault, s) := by
  rw [runSearch, h]

/-- A request that cannot be prepared is refused. -/
theorem runSearch_of_unprepared [Terminal] (hparams : searchParams inputs = .ok params)
    (h : Searcher.prepare settings mode params = .error fault) (backend : Backend σ) (s : σ) :
    runSearch settings backend mode inputs s = (.error (refusal fault), s) := by
  simp only [runSearch, hparams, Searcher.search, h]
  rfl

theorem asked_of_unprepared (hparams : searchParams inputs = .ok params)
    (h : Searcher.prepare settings mode params = .error fault) : asked settings mode inputs = [] := by
  simp only [asked, hparams, h]

/-- A request that can be prepared is what the backend is asked. -/
theorem asked_of_prepared {q : Query} {request : Request} (hparams : searchParams inputs = .ok params)
    (h : Searcher.prepare settings mode params = .ok (q, request)) :
    asked settings mode inputs = [⟨request, mode.context⟩] := by
  simp only [asked, hparams, h]

/-- What the backend answers is made an answer of the search, and a fault of either is refused. -/
theorem runSearch_of_prepared [Terminal] {q : Query} {request : Request} (hparams : searchParams inputs = .ok params)
    (h : Searcher.prepare settings mode params = .ok (q, request)) (backend : Backend σ) (s : σ) :
    (runSearch settings backend mode inputs s).1 =
      ((backend.execute request mode.context s).1 >>= fun res =>
        Searcher.answer settings q res params.verbose.isTruthy).mapError refusal := by
  unfold runSearch Searcher.search
  simp only [hparams, h]
  rcases backend.execute request mode.context s with ⟨outcome, s'⟩
  cases outcome with
  | error fault => rfl
  | ok res => rfl

/-- **A list of what the backend is asked** has what the search asks for, and changes nothing else. -/
theorem runSearch_recorded [Terminal] (settings : Settings) (backend : Backend σ) (mode : Mode) (inputs : Inputs) (s : σ)
    (log : List Sent) :
    let run := runSearch settings backend mode inputs s
    runSearch settings backend.recorded mode inputs (s, log) =
      (run.1, (run.2, log ++ asked settings mode inputs)) := by
  intro run
  cases hparams : searchParams inputs with
  | error fault => simp only [run, asked, hparams, runSearch_of_unread hparams, List.append_nil]
  | ok params =>
    cases hprepare : Searcher.prepare settings mode params with
    | error fault =>
      simp only [run, asked, hparams, hprepare, runSearch_of_unprepared hparams hprepare, List.append_nil]
    | ok prepared =>
      obtain ⟨q, request⟩ := prepared
      rcases hexecute : backend.execute request mode.context s with ⟨outcome, s'⟩
      simp only [run, asked, runSearch, hparams, Searcher.search, hprepare, Backend.recorded, hexecute]
      cases outcome <;> rfl

end Asking

end App

end PageSearch
