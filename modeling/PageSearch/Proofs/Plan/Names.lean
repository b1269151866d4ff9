import PageSearch.Proofs.Plan.Filters

/-!
# Named fields

A plan puts the names of the fields into the language of the query before it uses them. If all names can be put into
it (`AreNamed`, `RangesNamed`), the lists of names and the filters can be made (`fieldNames_unweighted`,
`exists_addFilters`).
-/

namespace PageSearch.Plan

/-- The names of fields in the language of a query, one for each specification. -/
def AreNamed (q : Query) (specs : List FieldSpec) (names : List String) : Prop :=
  List.Forall₂ (fun spec name => localize q.raw spec.name = .ok name) specs names

/-- The active ranges have names in the language of a query. -/
def RangesNamed (settings : Settings) (q : Query) : Prop :=
  ∀ spec ∈ settings.rangeFilters, spec.IsActive → ∃ name, localize q.raw spec.name = .ok name

variable {settings : Settings} {q : Query} {specs : List FieldSpec} {names : List String}

theorem AreNamed.exists_name (h : AreNamed q specs names) {spec : FieldSpec}
    (hspec : spec ∈ specs) : ∃ name, localize q.raw spec.name = .ok name := by
  induction h with
  | nil => cases hspec
  | @cons first name _ _ hname _ ih =>
    rcases List.mem_cons.1 hspec with rfl | hspec
    · exact ⟨name, hname⟩
    · exact ih hspec

theorem fieldNames_unweighted (h : AreNamed q specs names) : fieldNames q.raw specs false = .ok names := by
  rw [fieldNames, Outcome.mapM_eq_ok_iff]
  refine h.imp fun spec name hname => ?_
  rw [hname]
  rfl

/-- The filters can be added if the ranges have names, and the other lists stay. -/
theorem exists_addFilters (hranges : RangesNamed settings q) (bool : BoolQuery) :
    ∃ bool', addFilters settings q.raw bool = .ok bool' ∧ bool'.must = bool.must ∧ bool'.should = bool.should := by
  have hside : ∀ negate, ∃ clauses, rangeFilters settings q.raw negate = .ok clauses := by
    intro negate
    have hclauses : ∀ spec ∈ settings.rangeFilters.filter (·.negate == negate),
        ∃ clause, rangeClause? q.raw spec = .ok clause := by
      intro spec hspec
      unfold rangeClause?
      split
      · exact ⟨_, rfl⟩
      · next hactive =>
        obtain ⟨name, hname⟩ :=
          hranges spec (List.mem_of_mem_filter hspec) (spec.isActive_iff.2 (Bool.eq_false_iff.2 hactive))
        exact ⟨some (.range name spec.bounds), by rw [hname]; rfl⟩
    obtain ⟨found, hfound⟩ := Outcome.exists_mapM_of_exists hclauses
    exact ⟨found.filterMap id, by rw [rangeFilters, hfound]; rfl⟩
  obtain ⟨inside, hinside⟩ := hside false
  obtain ⟨outside, houtside⟩ := hside true
  have hterms := termFilters_raw settings q
  generalize q.filters.map _ ++ _ = terms at hterms
  refine ⟨{ bool with filter := bool.filter ++ terms ++ inside, mustNot := bool.mustNot ++ outside }, ?_, rfl, rfl⟩
  rw [addFilters, hinside, houtside, hterms]
  rfl

end PageSearch.Plan
