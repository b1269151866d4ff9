import PageSearch.Proofs.Searcher.Preparation
import PageSearch.Proofs.Settings.Indices

/-!
# The indices of a search

A search goes to the indices that it is asked for and that the settings allow, each once and in the order in which
they are named first, or to the default indices if none of them is left (`IsResolved`). A filter in the text decides
alone what is asked for, also if it names no index. So a search never leaves the indices of the settings, and it never
goes to no index at all, which the engine would take for all of them (`buildQuery_indices`).
-/

namespace PageSearch

namespace Settings

/-- The indices that a search goes to if it is asked for some values. -/
structure IsResolved (settings : Settings) (requested : List Value) (active : List String) : Prop where
  /-- They are the first occurrences of the names that are allowed, or the default indices if there is none. -/
  eq : active =
    let allowed := ((namesOf requested).filter settings.allows).eraseDups
    if allowed = [] then settings.defaultIndices else allowed
  /-- No index is searched twice. -/
  nodup : active.Nodup
  /-- If the settings name the indices that may be searched, no other is. -/
  configured : settings.indices ≠ [] → ∀ index ∈ active, index ∈ settings.indices ∨ index ∈ settings.defaultIndices
  /-- If the settings name any index, one is searched. -/
  ne_nil : settings.indices ≠ [] ∨ settings.defaultIndices ≠ [] → active ≠ []

variable {settings : Settings} {v : Value} {requested : List Value}

theorem isResolved_of_allowed (h : settings.allowedIndices requested ≠ []) :
    IsResolved settings requested (settings.allowedIndices requested) := by
  refine ⟨?_, nodup_allowedIndices settings requested, fun hne index hindex => ?_, fun _ => h⟩
  · have hallowed := allowedIndices_eq settings requested
    rw [hallowed] at h
    simp only [hallowed, if_neg h]
  · exact .inl (mem_indices_of_mem_allowedIndices hindex hne)

theorem isResolved_of_none (hdefaults : settings.HasDefaults) (h : settings.allowedIndices requested = []) :
    IsResolved settings requested settings.defaultIndices := by
  refine ⟨?_, hdefaults.nodup, fun _ index hindex => .inr hindex, fun hne => ?_⟩
  · rw [allowedIndices_eq] at h
    simp only [if_pos h]
  · rcases hne with hne | hne
    · exact hdefaults.ne_nil hne
    · exact hne

/-- **A list of any values can be resolved.** -/
theorem exists_resolveIndices (hdefaults : settings.HasDefaults) (h : v.itemsOrNone = .ok requested) :
    ∃ active, settings.resolveIndices v = .ok active ∧ IsResolved settings requested active := by
  have hresolve : settings.resolveIndices v = .ok (if (settings.allowedIndices requested).isEmpty
      then settings.defaultIndices else settings.allowedIndices requested) := by
    rw [resolveIndices, h]
    rfl
  rw [hresolve]
  refine ⟨_, rfl, ?_⟩
  split
  · next hempty => exact isResolved_of_none hdefaults (List.isEmpty_iff.1 hempty)
  · next hfull => exact isResolved_of_allowed fun hnil => hfull (List.isEmpty_iff.2 hnil)

end Settings

namespace Searcher

/-- A compiled request goes to the indices of its query. -/
theorem indices_of_compile {settings : Settings} {plan : Plan} {q : Query} {start size explain : Value}
    {request : Request} (h : plan.compile settings q.raw start size explain = .ok request) :
    request.indices = .strings q.indices := by
  obtain ⟨c, hc, rfl⟩ := Plan.isCompiled_of_compile h
  have hindices := hc.indices
  change Except.ok (q.indices.map Value.str) = Except.ok c.indices at hindices
  change Value.list c.indices = Value.list (q.indices.map Value.str)
  rw [Except.ok.inj hindices]

/-- **A search reaches only configured indices.** Every text and every list of indices make a query, and every plan that
compiles this query goes to the indices that are resolved from what the filter in the text asks for, or from the list
if there is no such filter. -/
theorem buildQuery_indices {searchSection pageSection : Value} {settings : Settings}
    (hsettings : Settings.ofSections searchSection pageSection = .ok settings) {text : String} {indices : Value}
    {requested : List Value} (hrequested : (requestedIndices settings text indices).itemsOrNone = .ok requested) :
    ∃ q, buildQuery settings text indices = .ok q ∧ settings.IsResolved requested q.indices ∧
      ∀ (plan : Plan) (start size explain : Value) (request : Request),
        plan.compile settings q.raw start size explain = .ok request → request.indices = .strings q.indices := by
  obtain ⟨active, hactive, hresolved⟩ :=
    Settings.exists_resolveIndices (Settings.hasDefaults_of_ofSections hsettings) hrequested
  refine ⟨queryWith settings text active, ?_, hresolved, fun plan start size explain request h => indices_of_compile h⟩
  rw [buildQuery_eq, hactive]
  rfl

/-- A filter names an index that is not allowed and one that is, twice; the parameter does not count. -/
theorem buildQuery_indices_override :
    let searchSection := Value.obj [("indices", .list [.str "a", .str "b"]), ("default_simple", .obj
      [("query_filters", .list [.obj [("keyword", .str "idx"), ("field", .str "#index")]])])]
    ∃ settings, Settings.ofSections searchSection (.obj []) = .ok settings ∧
      (requestedIndices settings "owls idx:c,b,b" (.str "a")).itemsOrNone = .ok [.str "c", .str "b"] ∧
      ∃ q, buildQuery settings "owls idx:c,b,b" (.str "a") = .ok q ∧ q.indices = ["b"] ∧
        settings.IsResolved [.str "c", .str "b"] q.indices := by
  intro searchSection
  obtain ⟨settings, hsettings, hrequested⟩ : ∃ settings, Settings.ofSections searchSection (.obj []) = .ok settings ∧
      (requestedIndices settings "owls idx:c,b,b" (.str "a")).itemsOrNone = .ok [.str "c", .str "b"] := ⟨_, rfl, rfl⟩
  obtain ⟨q, hq, hresolved, -⟩ := buildQuery_indices hsettings hrequested
  refine ⟨settings, hsettings, hrequested, q, hq, ?_, hresolved⟩
  cases hsettings
  exact hresolved.eq

end Searcher

end PageSearch
