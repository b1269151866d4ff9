import Mathlib.Data.List.Forall2
import PageSearch.Plan.Compile
import PageSearch.Proofs.Outcome

/-!
# The filters of a plan

The variants of a plan put their first stages together in different orders, and the filters come first in
one of them and last in the other. They come from the settings and the query alone all the same, so that every
variant has the same ones (`exists_filters_of_preQuery`): the demands of the query, its language, and the
ranges of the settings, which `rangeFilters` splits into those that hits must lie in and those that they must
not. A range belongs to one of the two lists, and only if it is active (`forall₂_of_rangeFilters`).
-/

namespace PageSearch

/-! ### Ranges -/

namespace RangeSpec

/-- A specification asks for a range if it has a name and a bound. -/
def IsActive (spec : RangeSpec) : Prop :=
  spec.name ≠ "" ∧ (spec.gt.isSome ∨ spec.gte.isSome ∨ spec.lt.isSome ∨ spec.lte.isSome)

instance : DecidablePred IsActive := fun _ => inferInstanceAs (Decidable (_ ∧ _))

/-- A clause asks for the range of a specification in a language: it names the field in the language and
has the bounds that are set, each under its own name, and no others. -/
structure IsAskedBy (spec : RangeSpec) (language clause : Value) : Prop where
  /-- The clause is about the field of the specification, with some bounds. -/
  exists_bounds : ∃ name bounds, Field.localizeIn spec.name language = .ok name ∧
    clause = .obj [("range", .obj [(name, .obj bounds)])] ∧
    (bounds.map Prod.fst).Sublist ["gt", "gte", "lt", "lte"] ∧
    Fields.get? bounds "gt" = spec.gt.map .float ∧ Fields.get? bounds "gte" = spec.gte.map .float ∧
    Fields.get? bounds "lt" = spec.lt.map .float ∧ Fields.get? bounds "lte" = spec.lte.map .float

theorem isActive_iff (spec : RangeSpec) :
    spec.IsActive ↔ (spec.name.isEmpty || spec.bounds.isEmpty) = false := by
  have hname : spec.name.isEmpty = false ↔ spec.name ≠ "" := by
    rw [Bool.eq_false_iff, Ne, String.isEmpty_iff]
  have hbounds : spec.bounds.isEmpty = false ↔
      (spec.gt.isSome ∨ spec.gte.isSome ∨ spec.lt.isSome ∨ spec.lte.isSome) := by
    obtain ⟨name, gt, gte, lt, lte, negate⟩ := spec
    cases gt <;> cases gte <;> cases lt <;> cases lte <;> simp [bounds]
  rw [IsActive, Bool.or_eq_false_iff, hname, hbounds]

/-- A rendered clause of a specification asks for its range. -/
theorem isAskedBy_toValue (spec : RangeSpec) {language : Value} {name : String}
    (h : Field.localizeIn spec.name language = .ok name) :
    spec.IsAskedBy language (Clause.range name spec.bounds).toValue := by
  refine ⟨name, _, h, rfl, ?_⟩
  obtain ⟨_, gt, gte, lt, lte, negate⟩ := spec
  cases gt <;> cases gte <;> cases lt <;> cases lte <;>
    exact ⟨by simp [bounds], rfl, rfl, rfl, rfl⟩

end RangeSpec

namespace Plan

variable {settings : Settings} {q : RawQuery}

/-- An active specification has a clause, and another one has none. -/
theorem rangeClause?_eq_ok {spec : RangeSpec} {clause : Option Clause} (h : rangeClause? q spec = .ok clause) :
    if spec.IsActive then ∃ c, clause = some c ∧ spec.IsAskedBy q.language c.toValue else clause = none := by
  rw [rangeClause?] at h
  split at h
  · rename_i hempty
    rw [if_neg (by rw [spec.isActive_iff, hempty]; exact Bool.noConfusion)]
    exact (Except.ok.inj h).symm
  · rename_i hempty
    rw [if_pos (spec.isActive_iff.2 (Bool.eq_false_iff.2 hempty))]
    simp only [Outcome.bind_eq_ok, Outcome.pure_eq_ok] at h
    obtain ⟨name, hname, rfl⟩ := h
    exact ⟨_, rfl, spec.isAskedBy_toValue hname⟩

/-- **The ranges on one side** are those of the active specifications of that side, one for each and in
their order. -/
theorem forall₂_of_rangeFilters {negate : Bool} {clauses : List Clause}
    (h : rangeFilters settings q negate = .ok clauses) :
    List.Forall₂ (fun spec clause => RangeSpec.IsAskedBy spec q.language clause)
      (settings.rangeFilters.filter fun spec => spec.IsActive ∧ spec.negate = negate)
      (clauses.map Clause.toValue) := by
  simp only [rangeFilters, Outcome.bind_eq_ok, Outcome.pure_eq_ok, Outcome.mapM_eq_ok_iff] at h
  obtain ⟨found, hfound, rfl⟩ := h
  have hside : (settings.rangeFilters.filter fun spec => spec.IsActive ∧ spec.negate = negate) =
      (settings.rangeFilters.filter (·.negate == negate)).filter fun spec => spec.IsActive := by
    rw [List.filter_filter]
    exact List.filter_congr fun spec _ => by simp [Bool.beq_eq_decide_eq]
  rw [hside]
  generalize settings.rangeFilters.filter (·.negate == negate) = specs at hfound
  induction hfound with
  | nil => exact .nil
  | @cons spec clause specs found hclause _ ih =>
    have hactive := rangeClause?_eq_ok hclause
    split at hactive
    · rename_i hspec
      obtain ⟨c, rfl, hc⟩ := hactive
      rw [List.filter_cons_of_pos (by simpa using hspec)]
      exact .cons hc ih
    · rename_i hspec
      subst hactive
      rw [List.filter_cons_of_neg (by simpa using hspec)]
      exact ih

/-! ### Demands -/

/-- The demands of a query that was built, and its language. -/
theorem termFilters_raw (settings : Settings) (q : Query) :
    termFilters settings q.raw =
      .ok (q.filters.map (fun (field, value) => .term field (.str value))
        ++ [.term settings.languageField (.str q.language)]) := by
  have hdemands : q.raw.demands = .ok (q.filters.map fun (field, value) => (field, .str value)) := by
    change (q.filters.map fun (field, value) => Value.strings [field, value]).mapM _ = _
    rw [List.mapM_map]
    exact Outcome.mapM_eq_ok_map fun _ _ => rfl
  rw [termFilters, hdemands]
  change Except.ok _ = _
  rw [List.map_map]
  rfl

/-! ### First stages -/

theorem exists_of_addFilters {bool bool' : BoolQuery} (h : addFilters settings q bool = .ok bool') :
    ∃ terms inside outside, termFilters settings q = .ok terms ∧ rangeFilters settings q false = .ok inside ∧
      rangeFilters settings q true = .ok outside ∧ bool'.filter = bool.filter ++ terms ++ inside ∧
      bool'.mustNot = bool.mustNot ++ outside := by
  simp only [addFilters, Outcome.bind_eq_ok, Outcome.pure_eq_ok] at h
  obtain ⟨inside, hinside, outside, houtside, terms, hterms, rfl⟩ := h
  exact ⟨terms, inside, outside, hterms, hinside, houtside, rfl, rfl⟩

/-- **The filters of a first stage** depend on the settings and the query, and not on the variant. -/
theorem exists_filters_of_preQuery {plan : Plan} {bool : BoolQuery} (h : plan.preQuery settings q = .ok bool) :
    ∃ terms inside outside, termFilters settings q = .ok terms ∧ rangeFilters settings q false = .ok inside ∧
      rangeFilters settings q true = .ok outside ∧ bool.filter = terms ++ inside ∧ bool.mustNot = outside := by
  cases plan with
  | simple =>
    simp only [preQuery, simplePreQuery, Outcome.bind_eq_ok] at h
    obtain ⟨filtered, hfiltered, empty, -, h⟩ := h
    have hbool : ∃ words, bool = { filtered with must := [words] } := by
      split at h
      · exact ⟨_, (Except.ok.inj h).symm⟩
      · obtain ⟨words, -, rfl⟩ := by simpa only [Outcome.bind_eq_ok, Outcome.pure_eq_ok] using h
        exact ⟨words, rfl⟩
    obtain ⟨words, rfl⟩ := hbool
    exact exists_of_addFilters hfiltered
  | phrase slop =>
    simp only [preQuery, phrasePreQuery, Outcome.bind_eq_ok] at h
    obtain ⟨empty, -, h⟩ := h
    split at h
    · exact exists_of_addFilters h
    · simp only [Outcome.bind_eq_ok] at h
      obtain ⟨phrases, -, names, -, loose, -, boosts, -, h⟩ := h
      exact exists_of_addFilters h
  | bare => cases h

end Plan

end PageSearch
