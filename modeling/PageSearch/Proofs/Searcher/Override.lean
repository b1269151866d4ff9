import PageSearch.External.Outline
import PageSearch.Proofs.Filter.Leading
import PageSearch.Proofs.Plan.Clause
import PageSearch.Proofs.Searcher.Preparation
import PageSearch.Proofs.Settings.Indices

/-!
# Overrides in the text of a query

A user can choose the language and the indices by two filters at the beginning of a query. That is the same as
another default language in the settings and another parameter for the indices (`runSearch_leadingText`): both
ways give the same query, and nothing but the query depends on the default language. It is not the same if the
settings have the empty name for the language field, for a filter on that field has no effect, and if the
parameter for the indices cannot be read, for it is read first (`not_runSearch_leadingText`).
-/

namespace PageSearch

open PageSearch.Filter

/-- The settings with another default language. -/
def Settings.withDefaultLanguage (settings : Settings) (language : String) : Settings :=
  { settings with defaultLanguage := language }

namespace Searcher

variable {settings : Settings} {s s' : FilterSpec} {language index rest : String}

/-! ### The query -/

/-- A query that begins with a filter on the language field and one on the indices, and has no other filter. -/
structure Overrides (settings : Settings) (s s' : FilterSpec) (language index rest : String) : Prop where
  /-- The query begins with the two filters. -/
  leads : Leads settings.queryFilters s s' language index rest
  /-- The first filter is on the language field. -/
  field : s.field = some settings.languageField
  /-- The second filter is on the indices. -/
  field' : s'.field = some defaultIndexSelector
  /-- The two fields are not the same. -/
  languageField_ne : settings.languageField ≠ defaultIndexSelector
  /-- The first filter does not block grouping. -/
  blocksGrouping : s.blocksGrouping = false
  /-- The second filter does not block grouping. -/
  blocksGrouping' : s'.blocksGrouping = false
  /-- There are words besides the filters. -/
  rest : Text.isAllBlank rest = false

/-- The two filters have their effects, unless the language field has no name. -/
theorem Overrides.extract_eq (h : Overrides settings s s' language index rest)
    (hfield : settings.languageField ≠ "") :
    extract (targets settings) settings.queryFilters (leadingText s s' language index rest) = {
      text := Text.trimmed rest, language := some language, indices := some (splitIndices index) } := by
  have hlanguage : (targets settings).choosesLanguage s = true := by
    simp [Targets.choosesLanguage, targets, h.field, hfield]
  have hlanguage' : (targets settings).choosesLanguage s' = false := by
    simp [Targets.choosesLanguage, targets, h.field', h.languageField_ne]
  have hindices' : (targets settings).choosesIndices s' = true := by
    have hnamed : defaultIndexSelector ≠ "" := by decide
    simp [Targets.choosesIndices, targets, h.field', h.languageField_ne, hnamed]
  rw [extract_leadingText (targets settings) h.leads hlanguage hlanguage' hindices', h.blocksGrouping,
    h.blocksGrouping']
  rfl

/-- **Both ways give the same query.** -/
theorem Overrides.buildQuery_eq (h : Overrides settings s s' language index rest)
    (hfield : settings.languageField ≠ "") (indices : Value) {found : Option (List String)}
    (hfound : Param.list? (.str index) = .ok found) :
    buildQuery settings (Text.trimmed (leadingText s s' language index rest)) indices =
      buildQuery (settings.withDefaultLanguage language) (Text.trimmed rest) (.ofOption .strings found) := by
  have hlanguage : language.isEmpty = false :=
    Text.isEmpty_eq_false fun hempty => h.leads.isWord.1 (by rw [hempty]; rfl)
  have hinline : buildQuery settings (Text.trimmed (leadingText s s' language index rest)) indices =
      (settings.resolveIndices (.strings (splitIndices index))) >>= fun found =>
        .ok { text := Text.trimmed rest, language, indices := found } := by
    rw [buildQuery, extract_trimmed, h.extract_eq hfield]
    simp only [Option.getD_some, hlanguage, Bool.false_eq_true, if_false]
    rfl
  have hbeside : buildQuery (settings.withDefaultLanguage language) (Text.trimmed rest)
        (.ofOption .strings found) =
      (settings.resolveIndices (.ofOption .strings found)) >>= fun found =>
        .ok { text := Text.trimmed rest, language, indices := found } := by
    have hrest : extract (targets (settings.withDefaultLanguage language))
        (settings.withDefaultLanguage language).queryFilters rest = { text := Text.trimmed rest } :=
      extract_rest (targets settings) h.leads
    rw [buildQuery, extract_trimmed, hrest]
    rfl
  rw [hinline, hbeside, Settings.resolveIndices_splitIndices settings hfound]

/-! ### The search -/

/-- Nothing but the query depends on the default language. -/
theorem prepare_defaultLanguage {mode : Mode} {params params' : SearchParams} {text text' : String}
    (hvalid : validate params.query = .ok text) (hvalid' : validate params'.query = .ok text')
    (hquery : buildQuery settings text params.indices =
      buildQuery (settings.withDefaultLanguage language) text' params'.indices)
    (hparams : params' = { params with query := params'.query, indices := params'.indices }) :
    prepare settings mode params = prepare (settings.withDefaultLanguage language) mode params' := by
  rw [prepare, prepare, hvalid, hvalid']
  change (buildQuery settings text params.indices >>= _) =
    (buildQuery (settings.withDefaultLanguage language) text' params'.indices >>= _)
  rw [hquery, hparams]
  rfl

theorem search_defaultLanguage [Terminal] {σ : Type} {mode : Mode} {params params' : SearchParams}
    (hprepare : prepare settings mode params = prepare (settings.withDefaultLanguage language) mode params')
    (hverbose : params.verbose = params'.verbose) (backend : Backend σ) (state : σ) :
    search settings backend mode params state =
      search (settings.withDefaultLanguage language) backend mode params' state := by
  rw [search, search, hprepare, hverbose]
  rfl

end Searcher

namespace App

open Searcher

variable {settings : Settings} {s s' : FilterSpec} {language index rest : String}

/-- What a search for a text is asked with, if the parameter for the indices can be read. -/
theorem searchParams_str (inputs : Inputs) (text : String) {index : Value} {found : Option (List String)}
    (h : Param.list? index = .ok found) :
    searchParams { inputs with query := .str text, index } = (Param.flag inputs.explain).map fun explain => {
      query := .str text
      indices := .ofOption .strings found
      start := .ofOption .int (Param.int? inputs.start)
      size := .ofOption .int (Param.int? inputs.size)
      slop := .ofOption .int (Param.int? inputs.slop)
      explain := .bool explain } := by
  rw [searchParams, h]
  cases Param.flag inputs.explain <;> rfl

theorem validate_leadingText (s s' : FilterSpec) (language index rest : String) :
    validate (.str (leadingText s s' language index rest)) =
      .ok (Text.trimmed (leadingText s s' language index rest)) := by
  have hcolon : ':' ∈ (leadingText s s' language index rest).toList := by
    rw [toList_leadingText]
    simp [opening]
  have hblank : Text.isAllBlank (leadingText s s' language index rest) = false :=
    List.all_eq_false.2 ⟨':', hcolon, by decide⟩
  rw [validate, hblank, if_neg Bool.false_ne_true]

/-- **An override in the text of a query** is the same as one beside it: the search of a query that begins with a
filter on the language field and one on the indices, and has no other filter, is the search of the rest of the
query with the language as the default one and with the indices as the parameter. The backend is asked for the
same, whatever it does, and the outcome is the same. The language field must have a name, and a parameter that the
filter takes the place of must be one that can be read. -/
theorem runSearch_leadingText [Terminal] {σ : Type} (h : Overrides settings s s' language index rest)
    (hfield : settings.languageField ≠ "") (backend : Backend σ) (mode : Mode) (inputs : Inputs)
    (hindex : ∃ found, Param.list? inputs.index = .ok found) (state : σ) :
    runSearch settings backend mode { inputs with query := .str (leadingText s s' language index rest) } state =
      runSearch (settings.withDefaultLanguage language) backend mode
        { inputs with query := .str rest, index := .str index } state := by
  obtain ⟨found, hfound⟩ := hindex
  obtain ⟨found', hfound'⟩ : ∃ found', Param.list? (.str index) = .ok found' := ⟨_, Param.list?_str index⟩
  have hvalid : validate (.str rest) = .ok (Text.trimmed rest) := by
    rw [validate, h.rest, if_neg Bool.false_ne_true]
  have hquery := h.buildQuery_eq hfield (.ofOption .strings found) hfound'
  have hprepare : ∀ params : SearchParams,
      prepare settings mode
          { params with query := .str (leadingText s s' language index rest), indices := .ofOption .strings found } =
        prepare (settings.withDefaultLanguage language) mode
          { params with query := .str rest, indices := .ofOption .strings found' } := by
    intro params
    exact prepare_defaultLanguage (validate_leadingText s s' language index rest) hvalid hquery rfl
  rw [runSearch, runSearch, searchParams_str inputs _ hfound, searchParams_str inputs _ hfound']
  cases Param.flag inputs.explain with
  | error fault => rfl
  | ok explain =>
    have hsearch := search_defaultLanguage (hprepare {
      start := .ofOption .int (Param.int? inputs.start)
      size := .ofOption .int (Param.int? inputs.size)
      slop := .ofOption .int (Param.int? inputs.slop)
      explain := .bool explain }) rfl backend state
    exact congrArg (fun run => (run.1.mapError refusal, run.2)) hsearch

/-- The filters come in another order in the settings, and the parameter names another index. -/
theorem runSearch_leadingText_two_indices :
    let s : FilterSpec := { keyword := "lang", field := some "lang" }
    let s' : FilterSpec := { keyword := "idx", field := some "#index" }
    let settings : Settings := { queryFilters := [{ keyword := "site", field := some "host" }, s', s] }
    leadingText s s' "de" "a,b" "barn owls" = "lang:de idx:a,b barn owls" ∧
    runSearch settings Scripted.backend .phrase
        { query := .str (leadingText s s' "de" "a,b" "barn owls"), index := .list [.str "c"] } .initial =
      runSearch (settings.withDefaultLanguage "de") Scripted.backend .phrase
        { query := .str "barn owls", index := .str "a,b" } .initial := by
  intro s s' settings
  refine ⟨by decide, ?_⟩
  have h : Overrides settings s s' "de" "a,b" "barn owls" :=
    ⟨by decide, rfl, rfl, by decide, rfl, rfl, by decide⟩
  exact runSearch_leadingText h (by decide) Scripted.backend .phrase { index := .list [.str "c"] } ⟨_, rfl⟩ .initial

/-- What the scripted backend was asked to filter by, as texts. -/
def filtersReceived (run : Outcome Answer × Scripted) : List (Option String) :=
  run.2.received.map fun sent => (BoolQuery.listOf sent.request.preQuery "filter").map Value.literal

/-- **An override in the text is not always the same** as one beside it. A filter on a language field without name
has no effect, so that the search has the default language; and a parameter for the indices that cannot be read is
a fault, although the filter takes its place. -/
theorem not_runSearch_leadingText :
    let filters : String → Value := fun field => .list [.obj [("field", .str field), ("keyword", .str "lang")],
      .obj [("field", .str "#index"), ("keyword", .str "idx")]]
    let searchSection : String → Value := fun field =>
      .obj [("default_simple", .obj [("query_filters", filters field)]), ("language_field", .str field)]
    let s : String → FilterSpec := fun field => { keyword := "lang", field := some field }
    let s' : FilterSpec := { keyword := "idx", field := some "#index" }
    (∃ settings, Settings.ofSections (searchSection "") .null = .ok settings ∧
      Overrides settings (s "") s' "de" "a" "owls" ∧
      runSearch settings Scripted.backend .simple { query := .str (leadingText (s "") s' "de" "a" "owls") } .initial ≠
        runSearch (settings.withDefaultLanguage "de") Scripted.backend .simple
          { query := .str "owls", index := .str "a" } .initial) ∧
    ∃ settings, Settings.ofSections (searchSection "lang") .null = .ok settings ∧
      Overrides settings (s "lang") s' "de" "a" "owls" ∧
      runSearch settings Scripted.backend .simple
          { query := .str (leadingText (s "lang") s' "de" "a" "owls"), index := .int 5 } .initial ≠
        runSearch (settings.withDefaultLanguage "de") Scripted.backend .simple
          { query := .str "owls", index := .str "a" } .initial := by
  intro filters searchSection s s'
  have hread : ∀ field, Settings.ofSections (searchSection field) .null =
      .ok { languageField := field, queryFilters := [s field, s'] } := fun _ => rfl
  refine ⟨⟨_, hread "", ⟨by decide, rfl, rfl, by decide, rfl, rfl, by decide⟩, fun h => ?_⟩,
    ⟨_, hread "lang", ⟨by decide, rfl, rfl, by decide, rfl, rfl, by decide⟩, fun h => ?_⟩⟩
  · have hinline : filtersReceived (runSearch { languageField := "", queryFilters := [s "", s'] } Scripted.backend
        .simple { query := .str (leadingText (s "") s' "de" "a" "owls") } .initial) =
        [some "[\x7b'term': \x7b'': 'en'\x7d\x7d]"] := by
      decide +kernel
    have hbeside : filtersReceived (runSearch
        (Settings.withDefaultLanguage { languageField := "", queryFilters := [s "", s'] } "de") Scripted.backend
        .simple { query := .str "owls", index := .str "a" } .initial) =
        [some "[\x7b'term': \x7b'': 'de'\x7d\x7d]"] := by
      decide +kernel
    have hfilters := hinline.symm.trans ((congrArg filtersReceived h).trans hbeside)
    simp at hfilters
  · have hbeside : (runSearch (Settings.withDefaultLanguage { queryFilters := [s "lang", s'] } "de")
        Scripted.backend .simple { query := .str "owls", index := .str "a" } .initial).2.received.length = 1 := by
      decide +kernel
    rw [runSearch_of_unread rfl] at h
    have hlength := (congrArg (fun run => run.2.received.length) h).trans hbeside
    cases hlength

end App

end PageSearch
