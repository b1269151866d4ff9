import PageSearch.Proofs.Plan.Clause
import PageSearch.Proofs.Plan.Names
import PageSearch.Proofs.Plan.Texts

/-!
# Fields of a phrase search

The first stage of a phrase search looks for the phrase in its own fields, and for single words in the fields of a
simple search that have no phrase. Which fields are the same is decided by their names in the language of the query,
so that a name and a template are one field if they become the same name. Each field of a simple search is covered
once (`exists_coversOnce`): by its phrases, or by one clause for each time that it is listed.
-/

namespace PageSearch.Plan

open BoolQuery (listOf)

/-- The phrase in each field. -/
def phrasesIn (specs : List FieldSpec) (names : List String) (text : String) (slop : Int) : List Clause :=
  List.zipWith (fun spec name => .phrase name (.str text) slop spec.boost) specs names

/-- The phrase in each field, or everything if there are no fields. -/
def phrasesOrAll (specs : List FieldSpec) (names : List String) (text : String) (slop : Int) : List Clause :=
  if names = [] then [.matchAll] else phrasesIn specs names text slop

/-- The words in each field that is not excluded. -/
def wordsIn (specs : List FieldSpec) (names excluded : List String) (text : String) : List Clause :=
  ((specs.zip names).filter fun (_, name) => name ∉ excluded).map fun (spec, name) =>
    .someWords name (.str text) spec.boost

/-- The fields that rendered clauses of one kind are about, in their order. -/
def fieldsUnder (kind : String) (clauses : List Value) : List String :=
  clauses.filterMap fun clause =>
    match clause.get? kind with
    | some (.obj [(field, _)]) => some field
    | _ => none

theorem wordsIn_cons (spec : FieldSpec) (specs : List FieldSpec) (name : String) (names excluded : List String)
    (text : String) : wordsIn (spec :: specs) (name :: names) excluded text =
      if name ∈ excluded then wordsIn specs names excluded text
      else .someWords name (.str text) spec.boost :: wordsIn specs names excluded text := by
  rw [wordsIn, List.zip_cons_cons]
  split
  · next h => rw [List.filter_cons_of_neg (by simpa using h), wordsIn]
  · next h => rw [List.filter_cons_of_pos (by simpa using h), List.map_cons, wordsIn]

variable {settings : Settings} {q : Query} {specs : List FieldSpec} {names excluded : List String}

/-! ### Steps -/

theorem phraseClauses_eq (h : AreNamed q settings.phraseFields names) (slop : Int) :
    phraseClauses settings q.raw slop = .ok (phrasesIn settings.phraseFields names q.text slop) :=
  Outcome.mapM_eq_ok_zipWith h _

theorem holds_strings (names : List String) (name : String) :
    (Value.strings names).holds name = .ok (decide (name ∈ names)) := by
  change Except.ok ((names.map Value.str).any _) = _
  rw [List.any_map, Except.ok.injEq, Bool.eq_iff_iff, List.any_eq_true]
  simp

theorem recallClause?_ok {spec : FieldSpec} {name : String} (h : localize q.raw spec.name = .ok name)
    (excluded : List String) : recallClause? q.raw (.strings excluded) spec =
      .ok (if name ∈ excluded then none else some (.someWords name (.str q.text) spec.boost)) := by
  have hholds := holds_strings excluded name
  unfold recallClause?
  by_cases hname : name ∈ excluded
  · rw [decide_eq_true hname] at hholds
    simp only [h, hholds, bind, Except.bind, if_pos hname]
    rfl
  · rw [decide_eq_false hname] at hholds
    simp only [h, hholds, bind, Except.bind, if_neg hname]
    rfl

theorem recallClauses_ok (h : AreNamed q settings.mainFields names) (excluded : List String) :
    recallClauses settings q.raw (.strings excluded) =
      .ok (wordsIn settings.mainFields names excluded q.text) := by
  rw [recallClauses_eq]
  generalize settings.mainFields = specs at h
  induction h with
  | nil => rfl
  | @cons spec name specs names hname _ ih =>
    obtain ⟨found, hfound, hwords⟩ := Outcome.map_eq_ok.1 ih
    rw [List.mapM_cons, recallClause?_ok hname, hfound]
    change Except.ok (List.filterMap id (_ :: found)) = _
    rw [wordsIn_cons]
    split
    · exact congrArg Except.ok hwords
    · exact congrArg (fun clauses => Except.ok (.someWords name (.str q.text) spec.boost :: clauses)) hwords

/-! ### Coverage -/

/-- **A phrase search covers each field once**, in the rendered lists of its first stage: what must match, and
what counts without the host. -/
structure CoversOnce (settings : Settings) (q : Query) (slop : Int) (phraseNames mainNames : List String)
    (must loose : List Value) : Prop where
  /-- The phrase must match in each field of a phrase search, in their order. Without such fields, everything
  matches. -/
  phrases : must = (phrasesOrAll settings.phraseFields phraseNames q.text slop).map Clause.toValue
  /-- The words count in each field of a simple search whose name is not one of these, in their order. -/
  words : loose = (wordsIn settings.mainFields mainNames phraseNames q.text).map Clause.toValue
  /-- No field has a phrase and words. -/
  apart : ∀ name ∈ mainNames, name ∈ fieldsUnder "match_phrase" must → name ∉ fieldsUnder "match" loose
  /-- A field has a phrase if it is one of a phrase search, and else it has words each time that it is listed. -/
  covered : ∀ name ∈ mainNames,
    if name ∈ phraseNames then name ∈ fieldsUnder "match_phrase" must
    else (fieldsUnder "match" loose).count name = mainNames.count name

theorem isEmpty_phrasesIn (h : AreNamed q specs names) (text : String) (slop : Int) :
    (phrasesIn specs names text slop).isEmpty = true ↔ names = [] := by
  cases h with
  | nil => exact iff_of_true rfl rfl
  | cons _ _ => exact iff_of_false Bool.false_ne_true (List.cons_ne_nil _ _)

theorem phrasesOrAll_ne_nil (h : AreNamed q specs names) (text : String) (slop : Int) :
    phrasesOrAll specs names text slop ≠ [] := by
  rw [phrasesOrAll]
  split
  · exact List.cons_ne_nil _ _
  · next hnames => rwa [← isEmpty_phrasesIn h text slop, List.isEmpty_iff] at hnames

/-- The phrases are about the named fields. -/
theorem fieldsUnder_phrasesOrAll (h : AreNamed q specs names) (text : String) (slop : Int) :
    fieldsUnder "match_phrase" ((phrasesOrAll specs names text slop).map Clause.toValue) = names := by
  have hphrases : fieldsUnder "match_phrase" ((phrasesIn specs names text slop).map Clause.toValue) = names := by
    induction h with
    | nil => rfl
    | @cons spec name specs names _ _ ih => exact congrArg (name :: ·) ih
  rw [phrasesOrAll]
  split
  · next hnone =>
    rw [hnone]
    rfl
  · exact hphrases

/-- The words are about the named fields that are not excluded. -/
theorem fieldsUnder_wordsIn (h : AreNamed q specs names) (excluded : List String) (text : String) :
    fieldsUnder "match" ((wordsIn specs names excluded text).map Clause.toValue) =
      names.filter (· ∉ excluded) := by
  induction h with
  | nil => rfl
  | @cons spec name specs names _ _ ih =>
    rw [wordsIn_cons]
    by_cases hexcluded : name ∈ excluded
    · rw [if_pos hexcluded, ih, List.filter_cons_of_neg (by simpa using hexcluded)]
    · rw [if_neg hexcluded, List.filter_cons_of_pos (by simpa using hexcluded), ← ih]
      rfl

/-- What is put together from named fields covers each of them once. -/
theorem coversOnce {phraseNames mainNames : List String} (hphrases : AreNamed q settings.phraseFields phraseNames)
    (hmain : AreNamed q settings.mainFields mainNames) (slop : Int) :
    CoversOnce settings q slop phraseNames mainNames
      ((phrasesOrAll settings.phraseFields phraseNames q.text slop).map Clause.toValue)
      ((wordsIn settings.mainFields mainNames phraseNames q.text).map Clause.toValue) := by
  have hmust := fieldsUnder_phrasesOrAll hphrases q.text slop
  have hloose := fieldsUnder_wordsIn hmain phraseNames q.text
  refine ⟨rfl, rfl, ?_, ?_⟩
  · intro name _ hphrase hwords
    rw [hmust] at hphrase
    rw [hloose, List.mem_filter] at hwords
    exact absurd hphrase (of_decide_eq_true hwords.2)
  · intro name _
    rw [hmust, hloose]
    split
    · assumption
    · next hnot => exact List.count_filter (by simpa using hnot)

/-- **The first stage of a phrase search** covers each field of a simple search once, whatever names the fields have
in the language of the query. Without words it looks for everything. -/
theorem exists_coversOnce {requested : Value} {plan : Plan} (hplan : ofSlop settings requested = .ok plan)
    (hranges : RangesNamed settings q) :
    (Text.isAllBlank q.text = false → ∀ phraseNames mainNames, AreNamed q settings.phraseFields phraseNames →
      AreNamed q settings.mainFields mainNames → ∃ slop bool must loose,
        settings.resolveSlop requested = .ok slop ∧ plan.preQuery settings q.raw = .ok bool ∧
        listOf bool.toValue "must" = some (.list must) ∧
        listOf bool.toValue "should" =
          some (.list (loose ++ (hostBoosts settings q.raw).map Clause.toValue)) ∧
        CoversOnce settings q slop phraseNames mainNames must loose) ∧
    (Text.isAllBlank q.text = true → ∃ bool, plan.preQuery settings q.raw = .ok bool ∧
      listOf bool.toValue "must" = some (.list [Clause.matchAll.toValue]) ∧
      listOf bool.toValue "should" = none) := by
  simp only [ofSlop, Outcome.bind_eq_ok, Outcome.pure_eq_ok] at hplan
  obtain ⟨slop, hslop, rfl⟩ := hplan
  have hempty : q.raw.isEmpty = .ok (Text.isAllBlank q.text) := rfl
  constructor
  · intro hwords phraseNames mainNames hphrases hmain
    have hexcluded : Plan.phraseNames settings q.raw = .ok phraseNames := fieldNames_unweighted hphrases
    obtain ⟨bool, hbool, hmust, hshould⟩ := exists_addFilters hranges
      { must := phrasesOrAll settings.phraseFields phraseNames q.text slop
        should := wordsIn settings.mainFields mainNames phraseNames q.text ++ hostBoosts settings q.raw }
    refine ⟨slop, bool, _, _, hslop, ?_, ?_, ?_, coversOnce hphrases hmain slop⟩
    · rw [hwords] at hempty
      have hboosts : writtenHostBoosts settings q.raw = .ok (hostBoosts settings q.raw) := rfl
      rw [preQuery, phrasePreQuery, hempty]
      simp only [bind, Except.bind, Bool.false_eq_true, if_false, phraseClauses_eq hphrases, hexcluded,
        recallClauses_ok hmain, hboosts, isEmpty_phrasesIn hphrases]
      exact hbool
    · have hsome : bool.must ≠ [] := by
        rw [hmust]
        exact phrasesOrAll_ne_nil hphrases q.text slop
      rw [BoolQuery.listOf_must, if_neg hsome, hmust]
      rfl
    · have hsome : bool.should ≠ [] := by
        rw [hshould]
        exact List.append_ne_nil_of_right_ne_nil _ (List.cons_ne_nil _ _)
      rw [BoolQuery.listOf_should, if_neg hsome, hshould, Clause.listValue, List.map_append]
  · intro hblank
    obtain ⟨bool, hbool, hmust, hshould⟩ := exists_addFilters hranges { must := [.matchAll] }
    refine ⟨bool, ?_, ?_, ?_⟩
    · rw [hblank] at hempty
      rw [preQuery, phrasePreQuery, hempty]
      exact hbool
    · rw [BoolQuery.listOf_must, hmust]
      rfl
    · rw [BoolQuery.listOf_should, hshould]
      rfl

/-- A name and a template that become the same name are one field, which has a phrase and no words. -/
theorem exists_coversOnce_title :
    let settings : Settings := {
      mainFields := [{ name := "title_lang.en" }, { name := "body_lang.%lang%" }]
      phraseFields := [{ name := "title_lang.%lang%", boost := 2 }] }
    let q : Query := { text := "barn owls", language := "en" }
    ofSlop settings (.int 1) = .ok (.phrase 1) ∧ Text.isAllBlank q.text = false ∧
      AreNamed q settings.phraseFields ["title_lang.en"] ∧
      AreNamed q settings.mainFields ["title_lang.en", "body_lang.en"] ∧
      ∃ bool must loose, preQuery settings q.raw (.phrase 1) = .ok bool ∧
        listOf bool.toValue "must" = some (.list must) ∧
        CoversOnce settings q 1 ["title_lang.en"] ["title_lang.en", "body_lang.en"] must loose := by
  have hphrases : AreNamed { text := "barn owls", language := "en" } [{ name := "title_lang.%lang%", boost := 2 }]
      ["title_lang.en"] := .cons (by decide) .nil
  have hmain : AreNamed { text := "barn owls", language := "en" }
      [{ name := "title_lang.en" }, { name := "body_lang.%lang%" }] ["title_lang.en", "body_lang.en"] :=
    .cons (by decide) (.cons (by decide) .nil)
  intro settings q
  have hranges : RangesNamed settings q := fun _ hspec => nomatch hspec
  have hplan : ofSlop settings (.int 1) = .ok (.phrase 1) := rfl
  obtain ⟨slop, bool, must, loose, hslop, hbool, hmust, -, hcovers⟩ :=
    (exists_coversOnce hplan hranges).1 (by decide) _ _ hphrases hmain
  obtain rfl : 1 = slop := Except.ok.inj hslop
  exact ⟨hplan, by decide, hphrases, hmain, bool, must, loose, hbool, hmust, hcovers⟩

end PageSearch.Plan
