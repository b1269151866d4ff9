import PageSearch.External.Outline
import PageSearch.Proofs.Searcher.Faults
import PageSearch.Proofs.Settings.Indices
import PageSearch.Proofs.Settings.Range

/-!
# Refusals

A request without words is refused before the backend is asked, and no other request is refused for that. The backend
is asked once if the query can be compiled, and not at all if it cannot. If the backend fails, so does the search,
and a failure of the search engine is the only reason for the service to say that it is not available
(`runSearch_refusals`). All of this follows from the ways in which a search can go (`course_runSearch`) and from the
faults that each step can have.
-/

namespace PageSearch

open Outcome

/-! ### Preparing a search -/

namespace Searcher

variable {settings : Settings} {mode : Mode} {params : SearchParams} {text : String}

theorem validate_of_blank {query : Value} (h : ∀ text, query = .str text → Text.isAllBlank text = true) :
    validate query = .error (.invalid emptyQueryMessage) := by
  cases query with
  | str text =>
    unfold validate
    dsimp only
    rw [if_pos (h text rfl)]
  | _ => rfl

theorem validate_of_not_blank (h : Text.isAllBlank text = false) : validate (.str text) = .ok (Text.trimmed text) := by
  unfold validate
  dsimp only
  rw [if_neg (by rw [h]; exact Bool.false_ne_true)]

/-- Any text makes a query, if the wanted indices are a list of texts or missing. -/
theorem exists_buildQuery (settings : Settings) (text : String) (found : Option (List String)) :
    ∃ q, buildQuery settings text (.ofOption .strings found) = .ok q := by
  have hitems : ∃ vs, (requestedIndices settings text (.ofOption .strings found)).itemsOrNone = .ok vs := by
    unfold requestedIndices
    split
    · next chosen _ => exact ⟨_, Settings.itemsOrNone_strings chosen⟩
    · cases found with
      | none => exact ⟨[], rfl⟩
      | some names => exact ⟨_, Settings.itemsOrNone_strings names⟩
  obtain ⟨vs, hvs⟩ := hitems
  rw [buildQuery_eq, Settings.resolveIndices, hvs]
  exact ⟨_, rfl⟩

end Searcher

namespace App

variable {settings : Settings} {mode : Mode} {inputs : Inputs}

/-- What the handlers take for indices: nothing, a text, or texts. -/
def IsIndexParameter (v : Value) : Prop := v = .null ∨ (∃ text, v = .str text) ∨ ∃ texts, v = .strings texts

/-- What a search compiles. -/
structure Compilation where
  /-- The parameters of the search. -/
  params : SearchParams
  /-- The query. -/
  query : Query
  /-- The plan. -/
  plan : Plan
  /-- Where the page begins. -/
  start : Int
  /-- How many results the page has. -/
  size : Int

/-- The request that comes of a compilation, if any does, once the plan is noted. -/
def Compilation.request (c : Compilation) (settings : Settings) : Outcome Request := do
  Searcher.note c.plan
  c.plan.compile settings c.query.raw (.int c.start) (.int c.size) (.bool c.params.explain.isTruthy)

/-- A request with words comes to a compilation: what is compiled is made of its parameters and its text. -/
structure ComesTo (settings : Settings) (mode : Mode) (inputs : Inputs) (text : String) (c : Compilation) : Prop where
  /-- The text is the one that counts. -/
  effective : effectiveQuery inputs = .str text
  /-- The text has words. -/
  not_blank : Text.isAllBlank text = false
  /-- The parameters are read. -/
  params : searchParams inputs = .ok c.params
  /-- The query is made of the trimmed text. -/
  query : Searcher.buildQuery settings (Text.trimmed text) c.params.indices = .ok c.query
  /-- The plan is that of the mode. -/
  plan : Searcher.planFor settings c.params.slop mode = .ok c.plan
  /-- The page begins where it is asked for. -/
  start : Settings.resolveFrom c.params.start = .ok c.start
  /-- The page has as many results as are asked for. -/
  size : settings.resolveSize c.params.size = .ok c.size

/-- **A request is prepared** exactly if it can be compiled. -/
theorem ComesTo.prepare_eq {text : String} {c : Compilation} (h : ComesTo settings mode inputs text c) :
    Searcher.prepare settings mode c.params = (c.request settings).map fun request => (c.query, request) := by
  have hquery : c.params.query = .str text := (of_searchParams h.params).1.trans h.effective
  have hvalid : Searcher.validate c.params.query = .ok (Text.trimmed text) := by
    rw [hquery]
    exact Searcher.validate_of_not_blank h.not_blank
  unfold Searcher.prepare Compilation.request
  simp only [hvalid, h.query, h.plan, h.start, h.size, bind, Except.bind, pure, Except.pure]
  cases Searcher.note c.plan with
  | error fault => rfl
  | ok _ =>
    cases c.plan.compile settings c.query.raw (.int c.start) (.int c.size) (.bool c.params.explain.isTruthy) with
    | error fault => rfl
    | ok request => rfl

theorem ComesTo.not_all_blank {text : String} {c : Compilation} (h : ComesTo settings mode inputs text c)
    (hblank : ∀ text, effectiveQuery inputs = .str text → Text.isAllBlank text = true) : False := by
  have hwords := h.not_blank
  rw [hblank text h.effective] at hwords
  cases hwords

/-- There is only one text that counts. -/
theorem ComesTo.of_effective {text text' : String} {c : Compilation} (h : ComesTo settings mode inputs text c)
    (heffective : effectiveQuery inputs = .str text') : ComesTo settings mode inputs text' c := by
  rw [h.effective] at heffective
  cases heffective
  exact h

/-- What cannot be compiled has something wrong with a value: the slop has no text, or the language is no usable
template. -/
theorem ComesTo.isOfValue {text : String} {c : Compilation} {fault : Fault} (h : ComesTo settings mode inputs text c)
    (hfault : c.request settings = .error fault) : fault.IsOfValue :=
  ((Searcher.failsOnly_note c.plan).bind fun _ _ => Searcher.failsOnly_compile h.plan c.query _ _ _) fault hfault

theorem exists_list? {v : Value} (h : IsIndexParameter v) : ∃ found, Param.list? v = .ok found := by
  rcases h with rfl | ⟨text, rfl⟩ | ⟨texts, rfl⟩
  · exact ⟨none, rfl⟩
  · exact ⟨_, Param.list?_str text⟩
  · have htexts : Param.listTexts (.strings texts) = .ok texts := Value.mapM_write_str texts
    change ∃ found, (Param.listTexts (.strings texts) >>= _) = .ok found
    rw [htexts]
    exact ⟨_, rfl⟩

/-- Parameters of the kinds that the handlers take can be read. -/
theorem exists_searchParams (hindex : IsIndexParameter inputs.index) (hexplain : inputs.explain.isWritable = true) :
    ∃ params, searchParams inputs = .ok params := by
  obtain ⟨found, hfound⟩ := exists_list? hindex
  rw [searchParams, hfound, Param.flag, Value.afterWriting_of_isWritable hexplain]
  exact ⟨_, rfl⟩

theorem exists_comesTo (hsettings : settings.InRange) (mode : Mode) {params : SearchParams} {text : String}
    (heffective : effectiveQuery inputs = .str text) (hblank : Text.isAllBlank text = false)
    (hparams : searchParams inputs = .ok params) : ∃ c, ComesTo settings mode inputs text c := by
  obtain ⟨-, hstart, hsize, hslop, found, hindices⟩ := of_searchParams hparams
  obtain ⟨q, hq⟩ := Searcher.exists_buildQuery settings (Text.trimmed text) found
  obtain ⟨plan, hplan⟩ : ∃ plan, Searcher.planFor settings params.slop mode = .ok plan := by
    cases mode with
    | simple => exact ⟨_, rfl⟩
    | phrase =>
      rw [hslop, Searcher.planFor, Plan.ofSlop, Settings.resolveSlop_ofOption hsettings]
      exact ⟨_, rfl⟩
  have hfrom := Settings.atLeastOne_ofOption 1 (Param.int? inputs.start)
  have hcount := Settings.atLeastOne_ofOption settings.resultsPerPage (Param.int? inputs.size)
  rw [← hstart] at hfrom
  rw [← hsize] at hcount
  rw [← hindices] at hq
  exact ⟨⟨params, q, plan, _, _⟩, ⟨heffective, hblank, hparams, hq, hplan, hfrom, hcount⟩⟩

/-! ### How a search goes -/

variable {σ : Type} {backend : Backend σ} {s : σ}

/-- How a search can go: what comes of it, and what the backend is asked. -/
inductive Course (settings : Settings) (backend : Backend σ) (mode : Mode) (inputs : Inputs) (s : σ) :
    Outcome Answer → List Sent → Prop where
  /-- There are no words. -/
  | blank (h : ∀ text, effectiveQuery inputs = .str text → Text.isAllBlank text = true) :
    Course settings backend mode inputs s (.error (.refused 400 Searcher.emptyQueryMessage)) []
  /-- The query cannot be compiled. -/
  | uncompiled {text : String} {c : Compilation} {fault : Fault} (h : ComesTo settings mode inputs text c)
    (hrequest : c.request settings = .error fault) : Course settings backend mode inputs s (.error fault) []
  /-- The backend fails. -/
  | failed {text : String} {c : Compilation} {request : Request} {fault : Fault}
    (h : ComesTo settings mode inputs text c) (hrequest : c.request settings = .ok request)
    (hexecute : (backend.execute request mode.context s).1 = .error fault) :
    Course settings backend mode inputs s (.error (refusal fault)) [⟨request, mode.context⟩]
  /-- The backend answers, and there is an answer or something wrong with a value in it. -/
  | answered {text : String} {c : Compilation} {request : Request} {res : Value} {outcome : Outcome Answer}
    (h : ComesTo settings mode inputs text c) (hrequest : c.request settings = .ok request)
    (hexecute : (backend.execute request mode.context s).1 = .ok res) (houtcome : FailsOnly Fault.IsOfValue outcome) :
    Course settings backend mode inputs s outcome [⟨request, mode.context⟩]

/-- What the service answers with if something is wrong with a value. -/
theorem failsOnly_mapError {α : Type} {x : Outcome α} (h : FailsOnly Fault.IsOfValue x) :
    FailsOnly Fault.IsOfValue (x.mapError refusal) := by
  cases x with
  | ok a => exact failsOnly_ok a
  | error fault =>
    have hfault := h fault rfl
    change FailsOnly Fault.IsOfValue (.error (refusal fault))
    rw [refusal_of_isOfValue hfault]
    exact failsOnly_error hfault

/-- A search without words does not get to the backend. -/
theorem course_of_blank [Terminal] {params : SearchParams} (hparams : searchParams inputs = .ok params)
    (hblank : ∀ text, effectiveQuery inputs = .str text → Text.isAllBlank text = true) (backend : Backend σ) (s : σ) :
    Course settings backend mode inputs s (runSearch settings backend mode inputs s).1
      (asked settings mode inputs) := by
  have hquery : params.query = effectiveQuery inputs := (of_searchParams hparams).1
  have hprepare : Searcher.prepare settings mode params = .error (.invalid Searcher.emptyQueryMessage) := by
    rw [← hquery] at hblank
    unfold Searcher.prepare
    rw [Searcher.validate_of_blank hblank]
    rfl
  rw [runSearch_of_unprepared hparams hprepare, asked_of_unprepared hparams hprepare]
  exact .blank hblank

/-- A search with words goes as far as its request and the backend let it. -/
theorem ComesTo.course [Terminal] {text : String} {c : Compilation} (h : ComesTo settings mode inputs text c)
    (backend : Backend σ) (s : σ) :
    Course settings backend mode inputs s (runSearch settings backend mode inputs s).1
      (asked settings mode inputs) := by
  have hprepare := h.prepare_eq
  cases hrequest : c.request settings with
  | error fault =>
    rw [hrequest] at hprepare
    rw [runSearch_of_unprepared h.params hprepare, asked_of_unprepared h.params hprepare,
      refusal_of_isOfValue (h.isOfValue hrequest)]
    exact .uncompiled h hrequest
  | ok request =>
    rw [hrequest] at hprepare
    rw [runSearch_of_prepared h.params hprepare, asked_of_prepared h.params hprepare]
    cases hexecute : (backend.execute request mode.context s).1 with
    | error fault => exact .failed h hrequest hexecute
    | ok res => exact .answered h hrequest hexecute (failsOnly_mapError (Searcher.failsOnly_answer _ _ _ _))

/-- **Every search** goes in one of these ways. -/
theorem course_runSearch [Terminal] (hsettings : settings.InRange) (backend : Backend σ) (mode : Mode)
    (hindex : IsIndexParameter inputs.index) (hexplain : inputs.explain.isWritable = true) (s : σ) :
    let run := runSearch settings backend.recorded mode inputs (s, [])
    Course settings backend mode inputs s run.1 run.2.2 := by
  intro run
  have hrecorded : run = ((runSearch settings backend mode inputs s).1,
      ((runSearch settings backend mode inputs s).2, [] ++ asked settings mode inputs)) :=
    runSearch_recorded settings backend mode inputs s []
  rw [hrecorded, List.nil_append]
  obtain ⟨params, hparams⟩ := exists_searchParams hindex hexplain
  by_cases hblank : ∀ text, effectiveQuery inputs = .str text → Text.isAllBlank text = true
  · exact course_of_blank hparams hblank backend s
  · push Not at hblank
    obtain ⟨text, heffective, hwords⟩ := hblank
    obtain ⟨c, hc⟩ := exists_comesTo hsettings mode heffective (Bool.eq_false_iff.2 hwords) hparams
    exact hc.course backend s

/-! ### Refusals -/

/-- A fault that is no refusal is answered with one if it is a failure of the search engine. -/
theorem refusal_eq_refused_iff {fault : Fault} (h : ¬ fault.IsRefusal) {status : Nat} {detail : String} :
    refusal fault = .refused status detail ↔ status = 503 ∧ fault = .engineFailed detail := by
  cases fault with
  | invalid message => exact absurd trivial h
  | refused status detail => exact absurd trivial h
  | engineFailed message =>
    simp only [refusal, Fault.refused.injEq, Fault.engineFailed.injEq]
    constructor
    · rintro ⟨rfl, rfl⟩
      exact ⟨rfl, rfl⟩
    · rintro ⟨rfl, rfl⟩
      exact ⟨rfl, rfl⟩
  | _ => simp [refusal]

theorem ne_refused_of_isOfValue {fault : Fault} (h : fault.IsOfValue) (status : Nat) (detail : String) :
    fault ≠ .refused status detail := by
  rintro rfl
  exact h

/-- A compilation that has a request sends this one. -/
theorem sends_of_ok {c : Compilation} {request : Request} (h : c.request settings = .ok request) (context : String) :
    (∀ request', c.request settings = .ok request' → ([⟨request, context⟩] : List Sent) = [⟨request', context⟩]) ∧
      ∀ fault, c.request settings = .error fault → ([⟨request, context⟩] : List Sent) = [] := by
  rw [h]
  refine ⟨fun request' hrequest' => ?_, fun fault hfault => nomatch hfault⟩
  rw [Except.ok.inj hrequest']

namespace Course

variable {outcome : Outcome Answer} {sents : List Sent}

theorem of_blank (h : Course settings backend mode inputs s outcome sents)
    (hblank : ∀ text, effectiveQuery inputs = .str text → Text.isAllBlank text = true) :
    outcome = .error (.refused 400 Searcher.emptyQueryMessage) ∧ sents = [] := by
  cases h with
  | blank _ => exact ⟨rfl, rfl⟩
  | uncompiled h _ => exact (h.not_all_blank hblank).elim
  | failed h _ _ => exact (h.not_all_blank hblank).elim
  | answered h _ _ _ => exact (h.not_all_blank hblank).elim

/-- If there are words, the backend is asked for what the request comes to. -/
theorem exists_comesTo {text : String} (h : Course settings backend mode inputs s outcome sents)
    (heffective : effectiveQuery inputs = .str text) (hwords : Text.isAllBlank text = false) :
    ∃ c, ComesTo settings mode inputs text c ∧
      (∀ request, c.request settings = .ok request → sents = [⟨request, mode.context⟩]) ∧
      ∀ fault, c.request settings = .error fault → sents = [] := by
  cases h with
  | blank hblank =>
    rw [hblank text heffective] at hwords
    cases hwords
  | uncompiled h hrequest =>
    refine ⟨_, h.of_effective heffective, fun request hrequest' => ?_, fun _ _ => rfl⟩
    rw [hrequest] at hrequest'
    cases hrequest'
  | failed h hrequest _ => exact ⟨_, h.of_effective heffective, sends_of_ok hrequest _⟩
  | answered h hrequest _ _ => exact ⟨_, h.of_effective heffective, sends_of_ok hrequest _⟩

theorem length_le_one (h : Course settings backend mode inputs s outcome sents) : sents.length ≤ 1 := by
  cases h with
  | blank _ => exact zero_le_one
  | uncompiled _ _ => exact zero_le_one
  | failed _ _ _ => exact le_rfl
  | answered _ _ _ _ => exact le_rfl

/-- **The refusals** are those of requests without words and those of failures of the search engine. -/
theorem refused_iff (h : Course settings backend mode inputs s outcome sents)
    (hbackend : ∀ request context s fault, (backend.execute request context s).1 = .error fault → ¬ fault.IsRefusal)
    (status : Nat) (detail : String) :
    outcome = .error (.refused status detail) ↔
      ((∀ text, effectiveQuery inputs = .str text → Text.isAllBlank text = true) ∧ status = 400 ∧
          detail = Searcher.emptyQueryMessage) ∨
        status = 503 ∧
          ∃ sent ∈ sents, (backend.execute sent.request sent.context s).1 = .error (.engineFailed detail) := by
  cases h with
  | blank hblank =>
    constructor
    · intro heq
      cases heq
      exact .inl ⟨hblank, rfl, rfl⟩
    · rintro (⟨-, rfl, rfl⟩ | ⟨-, sent, hsent, -⟩)
      · rfl
      · cases hsent
  | uncompiled h hrequest =>
    have hvalue := h.isOfValue hrequest
    rw [or_iff_right fun hblank => h.not_all_blank hblank.1]
    refine iff_of_false (fun heq => ne_refused_of_isOfValue hvalue _ _ (Except.error.inj heq)) ?_
    rintro ⟨-, sent, hsent, -⟩
    cases hsent
  | failed h hrequest hexecute =>
    rw [or_iff_right fun hblank => h.not_all_blank hblank.1, Except.error.injEq,
      refusal_eq_refused_iff (hbackend _ _ _ _ hexecute)]
    simp only [List.mem_singleton, exists_eq_left, hexecute, Except.error.injEq]
  | answered h hrequest hexecute houtcome =>
    rw [or_iff_right fun hblank => h.not_all_blank hblank.1]
    refine iff_of_false (fun heq => ne_refused_of_isOfValue (houtcome _ heq) _ _ rfl) ?_
    simp only [List.mem_singleton, exists_eq_left, hexecute, reduceCtorEq, and_false, not_false_eq_true]

/-- Whatever the backend fails with is what the search fails with, as the service says it. -/
theorem eq_of_failed (h : Course settings backend mode inputs s outcome sents) {sent : Sent} (hsent : sent ∈ sents)
    {fault : Fault} (hfault : (backend.execute sent.request sent.context s).1 = .error fault) :
    outcome = .error (refusal fault) := by
  cases h with
  | blank _ => cases hsent
  | uncompiled _ _ => cases hsent
  | failed _ _ hexecute =>
    rw [List.mem_singleton.1 hsent, hexecute] at hfault
    rw [Except.error.inj hfault]
  | answered _ _ hexecute _ =>
    rw [List.mem_singleton.1 hsent, hexecute] at hfault
    cases hfault

end Course

/-- **Errors are mapped and the backend is asked once.** For a backend that refuses nothing itself: a request without
words is refused as a bad one, and the backend is not asked. No other request is, and the backend is asked for what
the request comes to if that can be compiled, and for nothing else. The service is not available exactly if the
backend says that the search engine has failed, and whatever error the backend has, there is no answer. -/
theorem runSearch_refusals [Terminal] {searchSection pageSection : Value}
    (hsettings : Settings.ofSections searchSection pageSection = .ok settings) (backend : Backend σ)
    (hbackend : ∀ request context s fault, (backend.execute request context s).1 = .error fault → ¬ fault.IsRefusal)
    (mode : Mode) (inputs : Inputs) (hindex : IsIndexParameter inputs.index)
    (hexplain : inputs.explain.isWritable = true) (s : σ) :
    let run := runSearch settings backend.recorded mode inputs (s, [])
    ((∀ text, effectiveQuery inputs = .str text → Text.isAllBlank text = true) →
      run.1 = .error (.refused 400 Searcher.emptyQueryMessage) ∧ run.2.2 = []) ∧
    (∀ text, effectiveQuery inputs = .str text → Text.isAllBlank text = false →
      (∀ detail, run.1 ≠ .error (.refused 400 detail)) ∧ run.2.2.length ≤ 1 ∧
        ∃ c, ComesTo settings mode inputs text c ∧
          (∀ request, c.request settings = .ok request → run.2.2 = [⟨request, mode.context⟩]) ∧
          ∀ fault, c.request settings = .error fault → run.2.2 = []) ∧
    (∀ detail, run.1 = .error (.refused 503 detail) ↔
      ∃ sent ∈ run.2.2, (backend.execute sent.request sent.context s).1 = .error (.engineFailed detail)) ∧
    ∀ sent ∈ run.2.2, ∀ fault, (backend.execute sent.request sent.context s).1 = .error fault →
      run.1 = .error (refusal fault) := by
  intro run
  have hcourse : Course settings backend mode inputs s run.1 run.2.2 :=
    course_runSearch (Settings.inRange_of_ofSections hsettings) backend mode hindex hexplain s
  refine ⟨hcourse.of_blank, fun text heffective hwords => ⟨fun detail hbad => ?_, hcourse.length_le_one,
    hcourse.exists_comesTo heffective hwords⟩, fun detail => ?_, fun sent hsent fault => hcourse.eq_of_failed hsent⟩
  · rcases (hcourse.refused_iff hbackend 400 detail).1 hbad with ⟨hblank, -⟩ | ⟨hstatus, -⟩
    · rw [hblank text heffective] at hwords
      cases hwords
    · contradiction
  · rw [hcourse.refused_iff hbackend 503 detail]
    constructor
    · rintro (⟨-, hstatus, -⟩ | ⟨-, hfailed⟩)
      · contradiction
      · exact hfailed
    · intro hfailed
      exact .inr ⟨rfl, hfailed⟩

/-- A backend that is down, and counts how often it was asked. -/
theorem runSearch_refusals_down :
    let backend : Backend Nat := ⟨fun _ _ asked => (.error (.engineFailed "down"), asked + 1)⟩
    let words := runSearch {} backend.recorded .phrase { q := .str "owls", index := .str "a,b" } (0, [])
    let blank := runSearch {} backend.recorded .simple { query := .str " ", q := .str "owls" } (0, [])
    words.1 = .error (.refused 503 "down") ∧ words.2.1 = 1 ∧
      blank.1 = .error (.refused 400 "Empty search query") ∧ blank.2.2 = [] := by
  intro backend words blank
  have hbackend : ∀ request context s fault, (backend.execute request context s).1 = .error fault →
      ¬ fault.IsRefusal := by
    rintro request context s fault hfault
    obtain rfl := Except.error.inj hfault
    exact id
  have hsettings : Settings.ofSections (.obj []) (.obj []) = .ok {} := rfl
  obtain ⟨-, -, hfailed, -⟩ := runSearch_refusals hsettings backend hbackend .phrase
    { q := .str "owls", index := .str "a,b" } (.inr (.inl ⟨_, rfl⟩)) rfl 0
  obtain ⟨hblank, -⟩ := runSearch_refusals hsettings backend hbackend .simple
    { query := .str " ", q := .str "owls" } (.inl rfl) rfl 0
  obtain ⟨sent, hsent⟩ : ∃ sent, words.2.2 = [sent] := ⟨_, rfl⟩
  have hmem : sent ∈ words.2.2 := by
    rw [hsent]
    exact List.mem_singleton_self sent
  obtain ⟨hrefused, hnothing⟩ := hblank fun text htext => by
    cases htext
    rfl
  exact ⟨(hfailed "down").2 ⟨sent, hmem, rfl⟩, rfl, hrefused, hnothing⟩

end App

end PageSearch
