import PageSearch.External.Outline
import PageSearch.Proofs.Plan.Body
import PageSearch.Proofs.Plan.Phrases
import PageSearch.Proofs.Searcher.Faults
import PageSearch.Proofs.Settings.Range

/-!
# The limits of a search

Whatever the settings hold and whatever a request asks for, the backend is asked within limits
(`sent_in_range`). Settings that are read are in range (`Settings.InRange`), numbers that a request asks for are
taken if they are in range, and the variants of a plan put them in the body. The variants also exclude that a
request has a second stage for hits that it collapses, so that no request is refused for that
(`refusal_ne_rescoreOfCollapsed`).
-/

namespace PageSearch

/-! ### Faults before the backend is asked -/

theorem Fault.IsOfValue.ne_rescoreOfCollapsed {fault : Fault} (h : fault.IsOfValue) : fault ≠ .rescoreOfCollapsed := by
  rintro rfl
  exact h

namespace App

/-- **A request is never refused** for a second stage of hits that it collapses, whatever is asked for. -/
theorem refusal_ne_rescoreOfCollapsed {settings : Settings} {mode : Mode} {params : SearchParams} {fault : Fault}
    (h : Searcher.prepare settings mode params = .error fault) : refusal fault ≠ .rescoreOfCollapsed := by
  rcases Searcher.failsOnly_prepare settings mode params fault h with rfl | hfault
  · exact fun hrefusal => nomatch hrefusal
  · rw [refusal_of_isOfValue hfault]
    exact hfault.ne_rescoreOfCollapsed

/-! ### Bodies in range -/

/-- The body of a search is in range, and fits the way of searching and what was asked for. -/
structure InRange (settings : Settings) (mode : Mode) (inputs : Inputs) (body : Fields) : Prop where
  /-- The page begins where it is asked for, or with the first result. -/
  start : ∃ n : Int, body.get? "from" = some (.int n) ∧ 1 ≤ n ∧
    n = ((Param.int? inputs.start).filter (1 ≤ ·)).getD 1
  /-- The page has as many results as are asked for, or as the settings say. -/
  size : ∃ n : Int, body.get? "size" = some (.int n) ∧ 1 ≤ n ∧
    n = ((Param.int? inputs.size).filter (1 ≤ ·)).getD settings.resultsPerPage
  /-- A document is collected. -/
  nodeLimit : ∃ n : Int, body.get? "terminate_after" = some (.int n) ∧ 1 ≤ n
  /-- Fields are highlighted, and each fragment has room. -/
  highlight : ∃ highlight fields, body.get? "highlight" = some highlight ∧
    highlight.get? "fields" = some (.obj fields) ∧ fields ≠ [] ∧
    ∀ field part, (field, part) ∈ fields → ∃ n : Int, part.get? "fragment_size" = some (.int n) ∧ 1 ≤ n
  /-- A simple search has a second stage, in which words stand near each other, and does not collapse hits. -/
  simple : mode = .simple → body.get? "collapse" = none ∧ ∃ first rescore window part second,
    body.get? "query" = some first ∧ (∀ phrase, ¬BoolQuery.AsksForPhrase first phrase) ∧
    body.get? "rescore" = some rescore ∧ rescore.get? "window_size" = some (.int window) ∧ 1 ≤ window ∧
    rescore.get? "query" = some part ∧ part.get? "rescore_query" = some second ∧
    ∀ phrase, BoolQuery.AsksForPhrase second phrase →
      ∃ slop : Int, phrase.get? "slop" = some (.int slop) ∧ 0 ≤ slop
  /-- A phrase search collapses hits and has no second stage. Its phrases have the slop that is asked for, or the
  default. -/
  phrase : mode = .phrase → body.get? "rescore" = none ∧
    body.get? "collapse" = some (.obj [("field", .str settings.hostnameExactField)]) ∧ ∃ first,
    body.get? "query" = some first ∧ ∀ phrase, BoolQuery.AsksForPhrase first phrase →
      ∃ slop : Int, phrase.get? "slop" = some (.int slop) ∧ 0 ≤ slop ∧ slop ≤ settings.phraseMaxSlop ∧
        slop = settings.slopFor (Param.int? inputs.slop)

variable {settings : Settings} {mode : Mode} {inputs : Inputs} {params : SearchParams} {q : Query}
  {request : Request}

/-- The fragments of a variant have room. -/
theorem one_le_of_highlightSizes (hsettings : settings.InRange) {plan : Plan} {q : RawQuery}
    {sizes : List (String × Int)} (h : plan.highlightSizes settings q = .ok sizes) :
    sizes ≠ [] ∧ ∀ entry ∈ sizes, 1 ≤ entry.2 := by
  cases plan with
  | simple =>
    simp only [Plan.highlightSizes, Outcome.bind_eq_ok, Outcome.pure_eq_ok] at h
    obtain ⟨title, -, body, -, rfl⟩ := h
    refine ⟨List.cons_ne_nil _ _, fun entry hentry => ?_⟩
    simp only [List.mem_cons, List.not_mem_nil, or_false] at hentry
    rcases hentry with rfl | rfl
    · exact hsettings.titleLength
    · exact hsettings.snippetLength
  | phrase slop =>
    simp only [Plan.highlightSizes, Outcome.bind_eq_ok, Outcome.pure_eq_ok] at h
    obtain ⟨body, -, rfl⟩ := h
    refine ⟨List.cons_ne_nil _ _, fun entry hentry => ?_⟩
    rw [List.mem_singleton.1 hentry]
    exact hsettings.snippetLength
  | bare => cases h

/-- A variant collects a document. -/
theorem one_le_of_nodeLimit (hsettings : settings.InRange) {plan : Plan} {limit : Int}
    (h : plan.nodeLimit settings = .ok limit) : 1 ≤ limit := by
  cases plan with
  | simple => exact Except.ok.inj h ▸ hsettings.simpleNodeLimit
  | phrase slop => exact Except.ok.inj h ▸ hsettings.phraseNodeLimit
  | bare => cases h

/-- **A body of compiled parts** is in range, if the page and the slop are those of the request. -/
theorem inRange_of_isBody (hsettings : settings.InRange) {plan : Plan} {c : Plan.Compiled} {body : Fields}
    (hplan : plan = match mode with
      | .simple => .simple
      | .phrase => .phrase (settings.slopFor (Param.int? inputs.slop)))
    (hc : Plan.IsCompiled settings plan q.raw c)
    (hbody : Plan.IsBody c (.int (((Param.int? inputs.start).filter (1 ≤ ·)).getD 1))
      (.int (((Param.int? inputs.size).filter (1 ≤ ·)).getD settings.resultsPerPage)) body) :
    InRange settings mode inputs body := by
  obtain ⟨hsizes, hentries⟩ := one_le_of_highlightSizes hsettings hc.highlightSizes
  exact {
    start := ⟨_, hbody.start, Settings.one_le_getD_filter (by decide) _, rfl⟩
    size := ⟨_, hbody.size, Settings.one_le_getD_filter hsettings.resultsPerPage _, rfl⟩
    nodeLimit := ⟨_, hbody.nodeLimit, one_le_of_nodeLimit hsettings hc.nodeLimit⟩
    highlight := by
      refine ⟨_, _, hbody.highlight hsizes, rfl, by simpa using hsizes, fun field part hpart => ?_⟩
      obtain ⟨⟨name, size⟩, hsize, heq⟩ := List.mem_map.1 hpart
      obtain ⟨-, rfl⟩ := Prod.mk.inj heq
      exact ⟨size, rfl, hentries _ hsize⟩
    simple := by
      rintro rfl
      subst hplan
      obtain ⟨second, hsecond⟩ := hc.exists_rescoreQuery
      have hslops := Plan.slopsIn_preQuery hc.preQuery
      have hslops' := Plan.slopsIn_rescoreQuery (hsecond ▸ hc.rescoreQuery)
      refine ⟨by rw [hbody.collapse, hc.collapseField]; rfl, _, _, _, _, _, hbody.query, fun phrase hphrase => ?_,
        by rw [hbody.rescore, hsecond]; rfl, rfl, hc.rescoreWindow ▸ hsettings.rescoreWindow, rfl, rfl,
        fun phrase hphrase => ?_⟩
      · obtain ⟨slop, -, hslop⟩ := hslops.exists_slop hphrase
        exact Plan.noConfusion hslop
      · obtain ⟨slop, hslop, spec, hspec, rfl⟩ := hslops'.exists_slop hphrase
        exact ⟨_, hslop, hsettings.proximitySlop spec hspec⟩
    phrase := by
      rintro rfl
      subst hplan
      refine ⟨by rw [hbody.rescore, ← Except.ok.inj hc.rescoreQuery]; rfl,
        by rw [hbody.collapse, hc.collapseField]; rfl, _, hbody.query, fun phrase hphrase => ?_⟩
      obtain ⟨slop, hslop, hplan⟩ := (Plan.slopsIn_preQuery hc.preQuery).exists_slop hphrase
      obtain rfl := Plan.phrase.inj hplan
      obtain ⟨hnonneg, hle⟩ := Settings.slopFor_mem hsettings (Param.int? inputs.slop)
      exact ⟨_, hslop, hnonneg, hle, rfl⟩ }

/-- A request that is prepared is not refused, and its body is in range. -/
theorem exists_inRange_of_prepare (hsettings : settings.InRange) (hparams : searchParams inputs = .ok params)
    (h : Searcher.prepare settings mode params = .ok (q, request)) :
    request.check = .ok request ∧ ∃ body, request.body = .ok body ∧ InRange settings mode inputs body := by
  obtain ⟨-, hstart, hsize, hslop, -⟩ := of_searchParams hparams
  obtain ⟨text, plan, start, size, -, -, -, hplan, hfrom, hcount, hrequest⟩ := Searcher.exists_of_prepare h
  rw [hstart, Settings.resolveFrom, Settings.atLeastOne_ofOption] at hfrom
  rw [hsize, Settings.resolveSize, Settings.atLeastOne_ofOption] at hcount
  obtain rfl := Except.ok.inj hfrom
  obtain rfl := Except.ok.inj hcount
  obtain ⟨c, hc, rfl⟩ := Plan.isCompiled_of_compile hrequest
  rw [Plan.pageSize_int settings (Settings.one_le_getD_filter hsettings.resultsPerPage _)]
  obtain ⟨body, hbody, hparts⟩ := Plan.exists_body c _ _ _
  refine ⟨Plan.check_request hc _ _ _, body, hbody, inRange_of_isBody hsettings ?_ hc hparts⟩
  cases mode with
  | simple => exact (Except.ok.inj hplan).symm
  | phrase =>
    rw [hslop, Searcher.planFor, Plan.ofSlop, Settings.resolveSlop_ofOption hsettings] at hplan
    exact (Except.ok.inj hplan).symm

/-- **Every request that is sent** is in range, whatever the settings hold, whatever is asked for and whatever the
backend does. It is not refused when it is made, and if nothing is sent, the reason is another one. -/
theorem sent_in_range [Terminal] {σ : Type} {searchSection pageSection : Value}
    (h : Settings.ofSections searchSection pageSection = .ok settings) (backend : Backend σ) (mode : Mode)
    (inputs : Inputs) (s : σ) :
    let run := runSearch settings backend.recorded mode inputs (s, [])
    (∀ sent ∈ run.2.2, sent.request.check = .ok sent.request ∧
      ∃ body, sent.request.body = .ok body ∧ InRange settings mode inputs body) ∧
    (run.2.2 = [] → run.1 ≠ .error .rescoreOfCollapsed) := by
  intro run
  have hsettings := Settings.inRange_of_ofSections h
  cases hparams : searchParams inputs with
  | error fault =>
    have hfault := (failsOnly_searchParams inputs fault hparams).ne_rescoreOfCollapsed
    simp only [run, runSearch_of_unread hparams]
    exact ⟨fun sent hsent => absurd hsent List.not_mem_nil, fun _ heq => hfault (Except.error.inj heq)⟩
  | ok params =>
    cases hprepare : Searcher.prepare settings mode params with
    | error fault =>
      have hfault := refusal_ne_rescoreOfCollapsed hprepare
      simp only [run, runSearch_of_unprepared hparams hprepare]
      exact ⟨fun sent hsent => absurd hsent List.not_mem_nil,
        fun _ heq => hfault (Except.error.inj heq)⟩
    | ok prepared =>
      obtain ⟨q, request⟩ := prepared
      simp only [run, runSearch_recorded, asked, hparams, hprepare, List.nil_append]
      refine ⟨fun sent hsent => ?_, fun hnil => absurd hnil (List.cons_ne_nil _ _)⟩
      obtain rfl := List.mem_singleton.1 hsent
      exact exists_inRange_of_prepare hsettings hparams hprepare

/-- A slop out of range becomes the default, which is out of range itself and is cut; the page begins where a text
says. -/
theorem sent_in_range_default_slop :
    let searchSection : Value := .obj [("phrase_search", .obj [("slop", .int 5), ("max_slop", .int 3),
      ("fields", .list [.obj [("name", .str "body")]])])]
    let inputs : Inputs := { query := .str "owls", start := .str " 11 ", size := .int 0, slop := .int 4 }
    ∃ settings sent body first, Settings.ofSections searchSection .null = .ok settings ∧
      (runSearch settings Scripted.backend.recorded .phrase inputs (.initial, [])).2.2 = [sent] ∧
      sent.request.body = .ok body ∧ body.get? "from" = some (.int 11) ∧ body.get? "size" = some (.int 10) ∧
      body.get? "query" = some first ∧
      ∀ phrase, BoolQuery.AsksForPhrase first phrase → phrase.get? "slop" = some (.int 3) := by
  intro searchSection inputs
  obtain ⟨settings, sent, hsettings, hsent, hpage, hslop⟩ : ∃ settings sent,
      Settings.ofSections searchSection .null = .ok settings ∧
      (runSearch settings Scripted.backend.recorded .phrase inputs (.initial, [])).2.2 = [sent] ∧
      settings.resultsPerPage = 10 ∧ settings.slopFor (Param.int? inputs.slop) = 3 := by
    subst searchSection inputs
    exact ⟨_, _, rfl, rfl, rfl, by decide⟩
  have hstart : Param.int? inputs.start = some 11 := by
    subst inputs
    decide
  obtain ⟨-, body, hbody, hin⟩ := (sent_in_range hsettings Scripted.backend .phrase inputs .initial).1 sent
    (by rw [hsent]; exact List.mem_singleton_self sent)
  obtain ⟨-, -, first, hfirst, hphrases⟩ := hin.phrase rfl
  obtain ⟨start, hfrom, -, rfl⟩ := hin.start
  obtain ⟨size, hsize, -, rfl⟩ := hin.size
  rw [hstart] at hfrom
  refine ⟨settings, sent, body, first, hsettings, hsent, hbody, hfrom, hpage ▸ hsize, hfirst, ?_⟩
  intro phrase hphrase
  obtain ⟨slop, hphraseSlop, -, -, rfl⟩ := hphrases phrase hphrase
  rwa [hslop] at hphraseSlop

end App

end PageSearch
