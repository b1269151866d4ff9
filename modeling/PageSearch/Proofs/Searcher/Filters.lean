import PageSearch.Proofs.Plan.Clause
import PageSearch.Proofs.Plan.Filters
import PageSearch.Proofs.Searcher.Preparation

/-!
# The filters of a search

What a search filters by, from the text of its query to the request: the demands of the filters in the text,
the language, and the ranges of the settings. The simple and the phrase search of a text filter by the same
clauses (`prepare_filters`), and the words that are left of the text do not matter to them.
-/

namespace PageSearch

/-! ### Demands -/

namespace Filter

/-- A field of which a value can be demanded is not the language field. -/
theorem ne_of_demanded?_eq_some {targets : Targets} {spec : FilterSpec} {field : String}
    (h : targets.demanded? spec = some field) : targets.languageField ≠ some field := by
  rw [Targets.demanded?, Option.filter_eq_some_iff] at h
  simp only [decide_eq_true_eq] at h
  exact h.2.2.1

/-- The demands of captures are on fields that their specifications name, in their order. -/
theorem map_fst_demands_sublist (targets : Targets) (ms : List Capture) :
    ((ms.filterMap (Capture.demand? targets)).map Prod.fst).Sublist
      ((ms.map Capture.spec).filterMap targets.demanded?) := by
  induction ms with
  | nil => exact .slnil
  | cons m ms ih =>
    rw [List.map_cons]
    cases hfield : targets.demanded? m.spec with
    | none =>
      have hnone : m.demand? targets = none := by rw [Capture.demand?, hfield, Option.map_none, ite_self]
      rw [List.filterMap_cons_none hnone, List.filterMap_cons_none hfield]
      exact ih
    | some field =>
      rw [List.filterMap_cons_some hfield]
      by_cases hvalue : m.value = ""
      · rw [List.filterMap_cons_none (by rw [Capture.demand?, if_pos hvalue])]
        exact ih.cons field
      · have hsome : m.demand? targets = some (field, m.value) := by
          rw [Capture.demand?, if_neg hvalue, hfield, Option.map_some]
        rw [List.filterMap_cons_some hsome]
        exact ih.cons_cons field

/-- **The demanded fields** are among those of the specifications, in their order. -/
theorem fields_extract_sublist (targets : Targets) (specs : List FilterSpec) (query : String) :
    ((extract targets specs query).filters.map Prod.fst).Sublist (specs.filterMap targets.demanded?) := by
  rw [extract_eq]
  exact (map_fst_demands_sublist targets _).trans ((captures_sublist specs _).filterMap _)

theorem languageField_not_mem {targets : Targets} {language : String} (h : targets.languageField = some language)
    (specs : List FilterSpec) (query : String) :
    language ∉ (extract targets specs query).filters.map Prod.fst := by
  intro hmem
  obtain ⟨spec, -, hspec⟩ := List.mem_filterMap.1 ((fields_extract_sublist targets specs query).subset hmem)
  exact ne_of_demanded?_eq_some hspec h

end Filter

namespace Searcher

open PageSearch.Filter

variable {settings : Settings}

/-- The ranges depend on the language of a query only. -/
theorem rangeFilters_congr {q q' : RawQuery} (h : q.language = q'.language) (negate : Bool) :
    Plan.rangeFilters settings q negate = Plan.rangeFilters settings q' negate := by
  have hclause : Plan.rangeClause? q = Plan.rangeClause? q' := by
    funext spec
    rw [Plan.rangeClause?, Plan.rangeClause?, Plan.localize, Plan.localize, h]
  rw [Plan.rangeFilters, Plan.rangeFilters, hclause]

/-- What a text makes a search filter by: its demands and its language, each as a clause. -/
def textFilters (settings : Settings) (text : String) : List Value :=
  (extract (targets settings) settings.queryFilters text).filters.map
      (fun (field, value) => .obj [("term", .obj [(field, .str value)])])
    ++ [.obj [("term", .obj [(settings.languageField, .str (activeLanguage settings text))])]]

/-- A search sends the filters of its text, and the ranges of the settings in its language. -/
theorem exists_filters_of_prepare {mode : Mode} {params : SearchParams} {text : String} {q : Query}
    {request : Request} (htext : params.query = .str text) (h : prepare settings mode params = .ok (q, request)) :
    q.language = activeLanguage settings text ∧ ∃ inside outside,
      Plan.rangeFilters settings q.raw false = .ok inside ∧ Plan.rangeFilters settings q.raw true = .ok outside ∧
      BoolQuery.listOf request.preQuery "filter" =
        some (.list (textFilters settings text ++ inside.map Clause.toValue)) ∧
      BoolQuery.listOf request.preQuery "must_not" =
        if outside.isEmpty then none else some (Clause.listValue outside) := by
  obtain ⟨text', plan, start, size, hquery, -, hq, -, -, -, hrequest⟩ := exists_of_prepare h
  obtain rfl : text = text' := Value.str.inj (htext.symm.trans hquery)
  obtain ⟨-, hlanguage, hfilters, -⟩ := of_buildQuery hq
  rw [activeLanguage, extract_trimmed, ← activeLanguage] at hlanguage
  rw [extract_trimmed] at hfilters
  obtain ⟨c, hc, rfl⟩ := Plan.isCompiled_of_compile hrequest
  obtain ⟨terms, inside, outside, hterms, hinside, houtside, hfilter, hmustNot⟩ :=
    Plan.exists_filters_of_preQuery hc.preQuery
  rw [Plan.termFilters_raw, hfilters, hlanguage] at hterms
  refine ⟨hlanguage, inside, outside, hinside, houtside, ?_, ?_⟩
  · have hne : c.preQuery.filter ≠ [] := by
      rw [hfilter, ← Except.ok.inj hterms]
      simp
    rw [Plan.Compiled.request, BoolQuery.listOf_filter, if_neg hne, hfilter, ← Except.ok.inj hterms,
      Clause.listValue, textFilters]
    simp only [List.map_append, List.map_map]
    rfl
  · rw [Plan.Compiled.request, BoolQuery.listOf_mustNot, hmustNot]
    cases outside <;> rfl

/-- **No filter is lost, and both variants filter alike.** If the simple and the phrase search of a text can be
prepared, with any other parameters, their first stages have the same filters and the same exclusions. The
filters are the demands of the text, whose fields are among the plain fields of the settings and in their order,
then the language, and then the ranges that hits must lie in. The exclusions are the other ranges, and there is no
such list if there are none. Each range with a name and a bound has one clause in one of the two lists, in the
order of the settings, and no other range has any. -/
theorem prepare_filters {text : String} {params params' : SearchParams} {q q' : Query}
    {request request' : Request} (htext : params.query = .str text) (htext' : params'.query = .str text)
    (hsimple : prepare settings .simple params = .ok (q, request))
    (hphrase : prepare settings .phrase params' = .ok (q', request')) :
    let e := extract (targets settings) settings.queryFilters text
    let language := activeLanguage settings text
    let ranges := fun negate => settings.rangeFilters.filter fun spec => spec.IsActive ∧ spec.negate = negate
    let filter := fun r : Request => BoolQuery.listOf r.preQuery "filter"
    let mustNot := fun r : Request => BoolQuery.listOf r.preQuery "must_not"
    filter request = filter request' ∧ mustNot request = mustNot request' ∧ ∃ inside outside,
      filter request =
        some (.list (e.filters.map (fun (field, value) => .obj [("term", .obj [(field, .str value)])])
          ++ [.obj [("term", .obj [(settings.languageField, .str language)])]] ++ inside)) ∧
      mustNot request = (if outside = [] then none else some (.list outside)) ∧
      List.Forall₂ (fun spec clause => RangeSpec.IsAskedBy spec (.str language) clause) (ranges false) inside ∧
      List.Forall₂ (fun spec clause => RangeSpec.IsAskedBy spec (.str language) clause) (ranges true) outside ∧
      (e.filters.map Prod.fst).Sublist (settings.queryFilters.filterMap (targets settings).demanded?) ∧
      settings.languageField ∉ e.filters.map Prod.fst := by
  intro e language ranges filter mustNot
  obtain ⟨hlanguage, inside, outside, hinside, houtside, hfilter, hmustNot⟩ :=
    exists_filters_of_prepare htext hsimple
  obtain ⟨hlanguage', inside', outside', hinside', houtside', hfilter', hmustNot'⟩ :=
    exists_filters_of_prepare htext' hphrase
  have hsame : q.raw.language = q'.raw.language := congrArg Value.str (hlanguage.trans hlanguage'.symm)
  rw [← rangeFilters_congr hsame, hinside] at hinside'
  rw [← rangeFilters_congr hsame, houtside] at houtside'
  obtain rfl : inside = inside' := Except.ok.inj hinside'
  obtain rfl : outside = outside' := Except.ok.inj houtside'
  have hactive : q.raw.language = .str language := congrArg Value.str hlanguage
  refine ⟨hfilter.trans hfilter'.symm, hmustNot.trans hmustNot'.symm, inside.map Clause.toValue,
    outside.map Clause.toValue, hfilter, hmustNot.trans ?_, ?_, ?_, fields_extract_sublist _ _ _,
    languageField_not_mem rfl _ _⟩
  · cases outside <;> rfl
  · rw [← hactive]
    exact Plan.forall₂_of_rangeFilters hinside
  · rw [← hactive]
    exact Plan.forall₂_of_rangeFilters houtside

/-- A text with two filters, and a range on either side. -/
theorem prepare_filters_two_sides :
    let settings : Settings :=
      { queryFilters := [{ keyword := "site", field := some "host" }, { keyword := "lang", field := some "lang" }]
        rangeFilters := [{ name := "rank", gt := some 1 }, { name := "spam", lt := some 2, negate := true }] }
    let params : SearchParams := { query := .str "site:a.org lang:de owls" }
    ∃ simple phrase outside, prepare settings .simple params = .ok simple ∧
      prepare settings .phrase params = .ok phrase ∧
      BoolQuery.listOf simple.2.preQuery "filter" = BoolQuery.listOf phrase.2.preQuery "filter" ∧
      BoolQuery.listOf simple.2.preQuery "must_not" = some (.list [outside]) ∧
      RangeSpec.IsAskedBy { name := "spam", lt := some 2, negate := true } (.str "de") outside := by
  intro settings params
  obtain ⟨simple, phrase, hsimple, hphrase, hlanguage⟩ : ∃ simple phrase,
      prepare settings .simple params = .ok simple ∧ prepare settings .phrase params = .ok phrase ∧
        activeLanguage settings "site:a.org lang:de owls" = "de" := by
    subst settings params
    exact ⟨_, _, rfl, rfl, rfl⟩
  obtain ⟨hfilter, -, inside, outside, -, hmustNot, -, houtside, -⟩ := prepare_filters rfl rfl hsimple hphrase
  rw [hlanguage] at houtside
  obtain ⟨clause, hclause, rfl⟩ : ∃ clause,
      RangeSpec.IsAskedBy { name := "spam", lt := some 2, negate := true } (.str "de") clause ∧
        outside = [clause] := by
    cases houtside with
    | cons hclause hnil =>
      cases hnil
      exact ⟨_, hclause, rfl⟩
  exact ⟨simple, phrase, clause, hsimple, hphrase, hfilter, hmustNot, hclause⟩

end Searcher

end PageSearch
