import PageSearch.Proofs.Field.Weights
import PageSearch.Proofs.Plan.Clause
import PageSearch.Proofs.Plan.Names

/-!
# Weights of a simple search

Both stages of a simple search look for the words in the same fields, in the same order, and the second stage gives
them weights. `exists_fields` says what each field of the second stage is read as: the name of the first stage without
its weight, with the weight of its specification. Only the weight one leaves a weight in the name that is there
already, so that **the weights are the configured ones** exactly if no such name has a caret.
-/

namespace PageSearch.Plan

open BoolQuery (listOf)

/-- The fields in which a rendered query looks for words: those of the first clause that must match. -/
def searchedFields? (query : Value) : Option Value :=
  match listOf query "must" with
  | some (.list (clause :: _)) => (clause.get? "simple_query_string").bind (·.get? "fields")
  | _ => none

/-- The fields have the names, and the weights of their specifications. -/
structure HaveWeights (specs : List FieldSpec) (names fields : List String) : Prop where
  /-- There is a field for each name. -/
  length_eq : fields.length = names.length
  /-- Each has the weight of its specification. -/
  isWeighted : ∀ (i : Nat) (spec : FieldSpec) (name field : String), specs[i]? = some spec →
    names[i]? = some name → fields[i]? = some field → Field.IsWeighted name spec.boost field

variable {settings : Settings} {q : Query} {names : List String}

theorem searchedFields?_of_matchAll {bool : BoolQuery} (h : bool.must = [.matchAll]) :
    searchedFields? bool.toValue = none := by
  unfold searchedFields?
  rw [BoolQuery.listOf_must, h, if_neg (List.cons_ne_nil _ _)]
  rfl

/-- The names with the weights of their specifications. -/
def weightedNames (specs : List FieldSpec) (names : List String) : List String :=
  List.zipWith (fun spec name => Field.weighted name spec.boost) specs names

theorem fieldNames_weighted {specs : List FieldSpec} (h : AreNamed q specs names) :
    fieldNames q.raw specs true = .ok (weightedNames specs names) := Outcome.mapM_eq_ok_zipWith h _

/-- The words are looked for in the fields of their clause. -/
theorem exists_wordsClause {specs : List FieldSpec} {fields : List String} {weighted : Bool}
    (h : fieldNames q.raw specs weighted = .ok fields) (flags : List String) (minimum : Value) :
    ∃ clause, wordsClause q.raw specs flags weighted minimum = .ok clause ∧
      ∀ bool : BoolQuery, bool.must = [clause] → searchedFields? bool.toValue = some (.strings fields) := by
  refine ⟨.words (.str q.text) fields ("|".intercalate flags) minimum, by rw [wordsClause, h]; rfl, ?_⟩
  intro bool hmust
  unfold searchedFields?
  rw [BoolQuery.listOf_must, hmust, if_neg (List.cons_ne_nil _ _)]
  rfl

/-! ### Stages -/

theorem exists_simplePreQuery (hnames : AreNamed q settings.mainFields names)
    (hranges : RangesNamed settings q) : ∃ bool, simple.preQuery settings q.raw = .ok bool ∧
      searchedFields? bool.toValue = if Text.isAllBlank q.text then none else some (.strings names) := by
  obtain ⟨filtered, hfiltered, -⟩ := exists_addFilters hranges {}
  have hempty : q.raw.isEmpty = .ok (Text.isAllBlank q.text) := rfl
  cases hblank : Text.isAllBlank q.text with
  | false =>
    obtain ⟨words, hwords, hfields⟩ := exists_wordsClause (fieldNames_unweighted hnames) preQueryFlags .null
    refine ⟨{ filtered with must := [words] }, ?_, hfields _ rfl⟩
    rw [preQuery, simplePreQuery, hfiltered, hempty, hblank]
    simp only [bind, Except.bind, Bool.false_eq_true, if_false, hwords]
    rfl
  | true =>
    refine ⟨{ filtered with must := [.matchAll] }, ?_, searchedFields?_of_matchAll rfl⟩
    rw [preQuery, simplePreQuery, hfiltered, hempty, hblank]
    rfl

theorem exists_simpleRescoreQuery (hnames : AreNamed q settings.mainFields names) :
    ∃ bool, simple.rescoreQuery settings q.raw = .ok (some bool) ∧
      searchedFields? bool.toValue = some (.strings (weightedNames settings.mainFields names)) := by
  obtain ⟨words, hwords, hfields⟩ := exists_wordsClause (fieldNames_weighted hnames) rescoreFlags rescoreMinimum
  have hnear : ∀ spec ∈ settings.mainFields.filter (·.proximityMatching), ∃ clause,
      (do return Clause.phrase (← localize q.raw spec.name) q.raw.text spec.proximitySlop (spec.proximityBoost / 2)) =
        (.ok clause : Outcome Clause) := by
    intro spec hspec
    obtain ⟨name, hname⟩ := hnames.exists_name (List.mem_of_mem_filter hspec)
    exact ⟨_, by rw [hname]; rfl⟩
  obtain ⟨near, hnear⟩ := Outcome.exists_mapM_of_exists hnear
  refine ⟨{ must := [words], should := near ++ hostBoosts settings q.raw }, ?_, hfields _ rfl⟩
  rw [rescoreQuery, hwords, proximityClauses, hnear]
  rfl

/-! ### Weights -/

theorem getElem?_weightedNames {specs : List FieldSpec} {i : Nat} {spec : FieldSpec} {name : String}
    (hspec : specs[i]? = some spec) (hname : names[i]? = some name) :
    (weightedNames specs names)[i]? = some (Field.weighted name spec.boost) := by
  rw [weightedNames, List.getElem?_zipWith, hspec, hname]

theorem length_weightedNames {specs : List FieldSpec} (h : AreNamed q specs names) :
    (weightedNames specs names).length = names.length := by
  rw [weightedNames, List.length_zipWith, List.Forall₂.length_eq h, Nat.min_self]

/-- The weights are the configured ones, except for carets that the weight one leaves in the names. -/
theorem haveWeights_iff {specs : List FieldSpec} (h : AreNamed q specs names) :
    HaveWeights specs names (weightedNames specs names) ↔
      ∀ (i : Nat) (spec : FieldSpec) (name : String), specs[i]? = some spec → names[i]? = some name →
        (spec.boost == 1) = true → '^' ∉ name.toList := by
  constructor
  · intro hweights i spec name hspec hname
    exact (Field.isWeighted_weighted_iff name spec.boost).1
      (hweights.isWeighted i spec name _ hspec hname (getElem?_weightedNames hspec hname))
  · intro hcarets
    refine ⟨length_weightedNames h, ?_⟩
    intro i spec name field hspec hname hfield
    rw [getElem?_weightedNames hspec hname] at hfield
    obtain rfl := Option.some.inj hfield
    exact (Field.isWeighted_weighted_iff name spec.boost).2 (hcarets i spec name hspec hname)

/-- **Both stages of a simple search** look for the words in the same fields, in the same order. A field of the second
stage has the weight of its specification in the place of any other one, except that the weight one leaves the field
as it is. So the weights are the configured ones exactly if no name with the weight one has a caret. -/
theorem exists_fields (hnames : AreNamed q settings.mainFields names)
    (hranges : RangesNamed settings q) :
    ∃ first second fields, simple.preQuery settings q.raw = .ok first ∧
      simple.rescoreQuery settings q.raw = .ok (some second) ∧
      searchedFields? first.toValue = (if Text.isAllBlank q.text then none else some (.strings names)) ∧
      searchedFields? second.toValue = some (.strings fields) ∧ fields.length = names.length ∧
      (∀ (i : Nat) (spec : FieldSpec) (name field : String), settings.mainFields[i]? = some spec →
        names[i]? = some name → fields[i]? = some field →
        Field.split field = (Field.unweighted name, if spec.boost == 1 then (Field.split name).2
          else some (Value.readingLayout.floatText spec.boost))) ∧
      (HaveWeights settings.mainFields names fields ↔
        ∀ (i : Nat) (spec : FieldSpec) (name : String), settings.mainFields[i]? = some spec →
          names[i]? = some name → (spec.boost == 1) = true → '^' ∉ name.toList) := by
  obtain ⟨first, hfirst, hnamesOf⟩ := exists_simplePreQuery hnames hranges
  obtain ⟨second, hsecond, hfieldsOf⟩ := exists_simpleRescoreQuery hnames
  refine ⟨first, second, _, hfirst, hsecond, hnamesOf, hfieldsOf, length_weightedNames hnames, ?_,
    haveWeights_iff hnames⟩
  intro i spec name field hspec hname hfield
  rw [getElem?_weightedNames hspec hname] at hfield
  obtain rfl := Option.some.inj hfield
  exact Field.split_weighted name spec.boost

theorem exists_fields_title :
    let settings : Settings := {
      mainFields := [{ name := "title_lang.%lang%", boost := 35 }, { name := "body_lang.%lang%" }] }
    let q : Query := { text := "owls", language := "en" }
    AreNamed q settings.mainFields ["title_lang.en", "body_lang.en"] ∧
      ∃ second fields, simple.rescoreQuery settings q.raw = .ok (some second) ∧
        searchedFields? second.toValue = some (.strings fields) ∧
        HaveWeights settings.mainFields ["title_lang.en", "body_lang.en"] fields := by
  have hnames : AreNamed { text := "owls", language := "en" }
      [{ name := "title_lang.%lang%", boost := 35 }, { name := "body_lang.%lang%" }]
      ["title_lang.en", "body_lang.en"] := .cons (by decide) (.cons (by decide) .nil)
  intro settings q
  have hranges : RangesNamed settings q := fun _ hspec => nomatch hspec
  obtain ⟨first, second, fields, -, hsecond, -, hfields, -, -, hweights⟩ := exists_fields hnames hranges
  refine ⟨hnames, second, fields, hsecond, hfields, hweights.2 ?_⟩
  intro i spec name _ hname _
  have hcaret : ∀ name ∈ ["title_lang.en", "body_lang.en"], '^' ∉ name.toList := by decide
  exact hcaret name (List.mem_of_getElem? hname)

/-- **The weights are not always the configured ones**: a field whose weight is one keeps the weight in its name. -/
theorem not_haveWeights :
    let settings : Settings := { mainFields := [{ name := "title^5" }] }
    let q : Query := { text := "owls", language := "en" }
    ∃ first second, simple.preQuery settings q.raw = .ok first ∧
      simple.rescoreQuery settings q.raw = .ok (some second) ∧
      searchedFields? first.toValue = some (.strings ["title^5"]) ∧
      searchedFields? second.toValue = some (.strings ["title^5"]) ∧
      ¬ HaveWeights settings.mainFields ["title^5"] ["title^5"] := by
  have hname : AreNamed { text := "owls", language := "en" } [{ name := "title^5" }] ["title^5"] :=
    .cons (by decide) .nil
  have hsame : weightedNames [{ name := "title^5" }] ["title^5"] = ["title^5"] := by decide
  have hwords : Text.isAllBlank "owls" = false := by decide
  intro settings q
  have hnames : AreNamed q settings.mainFields ["title^5"] := hname
  obtain ⟨first, hfirst, hnamesOf⟩ := exists_simplePreQuery hnames fun _ hspec => nomatch hspec
  obtain ⟨second, hsecond, hfieldsOf⟩ := exists_simpleRescoreQuery hnames
  rw [hwords, if_neg Bool.false_ne_true] at hnamesOf
  rw [hsame] at hfieldsOf
  refine ⟨first, second, hfirst, hsecond, hnamesOf, hfieldsOf, ?_⟩
  intro hweights
  have hfield := hweights.isWeighted 0 { name := "title^5" } "title^5" "title^5" rfl rfl rfl
  have hsplit : Field.split "title^5" = ("title", some "5") := by decide
  have hone : ((1 : Float) == 1) = true := by decide
  rw [Field.IsWeighted, hsplit, hone, if_pos rfl] at hfield
  cases congrArg Prod.snd hfield

end PageSearch.Plan
