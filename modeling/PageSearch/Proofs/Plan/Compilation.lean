import PageSearch.Plan.Compile
import PageSearch.Proofs.Outcome

/-!
# Compiled requests

A plan that compiles a query has all its parts (`IsCompiled`), and the request is put together from them
(`isCompiled_of_compile`). The check of a request never refuses one that was compiled (`check_request`): the
variant that collapses hits has no second stage, and the variant that has one does not collapse them.
-/

namespace PageSearch.Plan

variable {settings : Settings} {plan : Plan} {q : RawQuery} {start size explain : Value} {request : Request}

/-- A request that passes its check is not changed by it. -/
theorem eq_of_check {r : Request} (h : r.check = .ok request) : request = r := by
  rw [Request.check] at h
  split at h
  · exact (Except.ok.inj h).symm
  · exact (Except.ok.inj h).symm
  · cases h

/-- A request without a second stage or without a field to collapse passes its check. -/
theorem check_eq_ok {r : Request} (h : r.rescoreQuery = .null ∨ r.collapseField = .null) : r.check = .ok r := by
  rw [Request.check]
  split
  · rfl
  · rfl
  · rename_i hrescore hcollapse
    exact absurd h (not_or.2 ⟨hrescore, hcollapse⟩)

/-- A page that has room for a result has the size that is asked for. -/
theorem pageSize_int (settings : Settings) {n : Int} (h : 1 ≤ n) : pageSize settings (.int n) = .int n := by
  rw [pageSize, if_pos]
  simp only [Value.isTruthy, bne_iff_ne, ne_eq]
  omega

/-- What a plan makes of a query, part by part. -/
structure IsCompiled (settings : Settings) (plan : Plan) (q : RawQuery) (c : Compiled) : Prop where
  /-- The indices are those of the query. -/
  indices : q.indices.items = .ok c.indices
  /-- The first stage is that of the variant. -/
  preQuery : plan.preQuery settings q = .ok c.preQuery
  /-- The second stage is that of the variant. -/
  rescoreQuery : plan.rescoreQuery settings q = .ok c.rescoreQuery
  /-- The variant says whether hits are collapsed. -/
  collapseField : c.collapseField = plan.collapseField settings
  /-- The highlighted fields are those of the variant. -/
  highlightSizes : plan.highlightSizes settings q = .ok c.highlightSizes
  /-- The limit is that of the variant. -/
  nodeLimit : plan.nodeLimit settings = .ok c.nodeLimit
  /-- The stored fields are those of the language. -/
  sourceFields : sourceFields q = .ok c.sourceFields
  /-- The settings say how many hits the second stage sees. -/
  rescoreWindow : c.rescoreWindow = settings.rescoreWindow
  /-- The settings say how long the engine may search. -/
  timeout : c.timeout = settings.timeout

theorem isCompiled_of_parts {c : Compiled} (h : plan.parts settings q = .ok c) :
    IsCompiled settings plan q c := by
  simp only [parts, Outcome.bind_eq_ok, Outcome.pure_eq_ok] at h
  obtain ⟨indices, hindices, preQuery, hpreQuery, rescoreQuery, hrescoreQuery, sizes, hsizes, limit, hlimit,
    names, hnames, rfl⟩ := h
  exact ⟨hindices, hpreQuery, hrescoreQuery, rfl, hsizes, hlimit, hnames, rfl, rfl⟩

/-- A simple search has a second stage. -/
theorem IsCompiled.exists_rescoreQuery {c : Compiled} (h : IsCompiled settings .simple q c) :
    ∃ second, c.rescoreQuery = some second := by
  have hrescore := h.rescoreQuery
  simp only [Plan.rescoreQuery, Outcome.bind_eq_ok, Outcome.pure_eq_ok] at hrescore
  obtain ⟨words, -, near, -, boosts, -, hsome⟩ := hrescore
  exact ⟨_, hsome.symm⟩

/-- **The check of a compiled request** does not refuse it. -/
theorem check_request {c : Compiled} (h : IsCompiled settings plan q c) (start size explain : Value) :
    (c.request start size explain).check = .ok (c.request start size explain) := by
  refine check_eq_ok ?_
  have hcollapse := h.collapseField
  have hrescore := h.rescoreQuery
  cases plan with
  | simple => exact .inr (by rw [Compiled.request, hcollapse]; rfl)
  | phrase slop => exact .inl (by rw [Compiled.request, ← Except.ok.inj hrescore]; rfl)
  | bare => exact .inr (by rw [Compiled.request, hcollapse]; rfl)

/-- **A compiled request** has the parts of the plan. -/
theorem isCompiled_of_compile (h : plan.compile settings q start size explain = .ok request) :
    ∃ c, IsCompiled settings plan q c ∧ request = c.request start (pageSize settings size) explain := by
  simp only [compile, Outcome.bind_eq_ok] at h
  obtain ⟨c, hparts, hcheck⟩ := h
  exact ⟨c, isCompiled_of_parts hparts, eq_of_check hcheck⟩

/-- What a plan makes of a query is only one thing, and it is compiled to a request. -/
theorem IsCompiled.parts_eq {c : Compiled} (h : IsCompiled settings plan q c) : plan.parts settings q = .ok c := by
  obtain ⟨indices, preQuery, rescoreQuery, collapseField, sizes, limit, names, window, timeout⟩ := c
  obtain ⟨hindices, hpreQuery, hrescoreQuery, rfl, hsizes, hlimit, hnames, rfl, rfl⟩ := h
  rw [parts, hindices, hpreQuery, hrescoreQuery, hsizes, hlimit, hnames]
  rfl

theorem IsCompiled.compile_eq {c : Compiled} (h : IsCompiled settings plan q c) (start size explain : Value) :
    plan.compile settings q start size explain = .ok (c.request start (pageSize settings size) explain) := by
  rw [compile, h.parts_eq]
  exact check_request h start _ explain

end PageSearch.Plan
