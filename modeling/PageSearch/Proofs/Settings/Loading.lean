import PageSearch.Proofs.Settings.Defaults

/-!
# Loading the settings

Whether two sections are loaded depends on all of their values. They are loaded exactly if each value that is asked
for can be read (`Readable`), and a single one that cannot be read leaves the service without settings
(`yields_ofSections`). What is loaded has the documented default in the place of each value that is missing or
malformed (`documented`), with one exception: an object in the place of a list of indices is taken for its names
(`collected`, `ListsIndices`). Both together are `ofSections_documented_iff`.
-/

namespace PageSearch.Settings

open Outcome

variable {search page : Fields}

/-! ### What the settings should be -/

/-- The section of simple searches. -/
def simpleSection (search : Fields) : Fields := (search.getD "default_simple").sectionFields

/-- The section of phrase searches. -/
def phraseSection (search : Fields) : Fields := (search.getD "phrase_search").sectionFields

/-- The settings with a default for each value that is missing or malformed. -/
def documented (search page : Fields) : Settings where
  defaultLanguage := (text? search "default_language").getD "en"
  languageField := (text? search "language_field").getD "lang"
  hostnameField := (text? search "hostname_field").getD "warc_target_hostname"
  hostnameExactField := (text? search "hostname_exact_field").getD "warc_target_hostname.raw"
  indices := (search.getD "indices").listedTexts
  defaultIndices := orFirst (search.getD "default_indices").listedTexts (search.getD "indices").listedTexts
  timeout := text? search "timeout"
  snippetLength := (page.getD "snippet_length").wholeOr 400 1
  titleLength := (page.getD "title_length").wholeOr 70 1
  resultsPerPage := (page.getD "results_per_page").wholeOr 10 1
  rescoreWindow := ((simpleSection search).getD "rescore_window").wholeOr 400 1
  simpleNodeLimit := ((simpleSection search).getD "node_limit").wholeOr 200000 1
  mainFields := (objects (simpleSection search) "main_fields").map FieldSpec.documented
  queryFilters := (objects (simpleSection search) "query_filters").map FilterSpec.ofFields
  rangeFilters := (objects (simpleSection search) "range_filters").map RangeSpec.documented
  phraseSlop := ((phraseSection search).getD "slop").wholeOr 0 0
  phraseMaxSlop := ((phraseSection search).getD "max_slop").wholeOr 2 0
  phraseNodeLimit := ((phraseSection search).getD "node_limit").wholeOr 10000 1
  phraseFields := (objects (phraseSection search) "fields").map FieldSpec.documented

/-- The same with the indices that are collected, in which an object stands for its names. -/
def collected (search page : Fields) : Settings :=
  { documented search page with
    indices := (search.getD "indices").collectedTexts
    defaultIndices :=
      orFirst (search.getD "default_indices").collectedTexts (search.getD "indices").collectedTexts }

/-! ### When they can be read -/

/-- The names of the texts in the settings of the search. -/
def textKeys : List String :=
  ["default_language", "language_field", "hostname_field", "hostname_exact_field", "timeout"]

/-- Sections all of whose values can be read. -/
structure Readable (search page : Fields) : Prop where
  /-- The indices are a collection. -/
  indices : (search.getD "indices").IsCollection
  /-- So are the default indices. -/
  defaultIndices : (search.getD "default_indices").IsCollection
  /-- What stands for a text can be written. -/
  texts : ∀ key ∈ textKeys, (search.getD key).isWritable = true
  /-- The numbers of the page have whole parts. -/
  page : ∀ key ∈ ["snippet_length", "title_length", "results_per_page"], (page.getD key).HasWholeFrom 1
  /-- The settings of simple searches are a section. -/
  simple : (search.getD "default_simple").IsSection
  /-- Its numbers have whole parts. -/
  simpleLimits : ∀ key ∈ ["rescore_window", "node_limit"], ((simpleSection search).getD key).HasWholeFrom 1
  /-- Its fields can be read. -/
  mainFields : ∀ d ∈ objects (simpleSection search) "main_fields", FieldSpec.IsReadable d
  /-- Its filters can be read. -/
  queryFilters : ∀ d ∈ objects (simpleSection search) "query_filters", FilterSpec.IsReadable d
  /-- Its ranges can be read. -/
  rangeFilters : ∀ d ∈ objects (simpleSection search) "range_filters", RangeSpec.IsReadable d
  /-- The settings of phrase searches are a section. -/
  phrase : (search.getD "phrase_search").IsSection
  /-- Its slops have whole parts. -/
  phraseSlops : ∀ key ∈ ["slop", "max_slop"], ((phraseSection search).getD key).HasWholeFrom 0
  /-- So has its limit. -/
  phraseLimit : ((phraseSection search).getD "node_limit").HasWholeFrom 1
  /-- Its fields can be read. -/
  phraseFields : ∀ d ∈ objects (phraseSection search) "fields", FieldSpec.IsReadable d

/-- **The settings that are read**, and when. -/
theorem yields_ofSections (search page : Fields) :
    Yields (ofSections (.obj search) (.obj page)) (Readable search page) (collected search page) := by
  -- one condition for each step, in the order in which the settings are read
  have hread : Yields (ofSections (.obj search) (.obj page)) _ (collected search page) :=
    (Value.yields_fieldsOrNone (.obj search)).bind <| (yields_texts search "indices").bind <|
    (yields_texts search "default_indices").bind <| (yields_textAt search "default_language" "en").bind <|
    (yields_textAt search "language_field" "lang").bind <|
    (yields_textAt search "hostname_field" "warc_target_hostname").bind <|
    (yields_textAt search "hostname_exact_field" "warc_target_hostname.raw").bind <|
    (yields_textOption search "timeout").bind <| (Value.yields_fieldsOrNone (.obj page)).bind <|
    (yields_intAt page "snippet_length" 400 1).bind <| (yields_intAt page "title_length" 70 1).bind <|
    (yields_intAt page "results_per_page" 10 1).bind <|
    (Value.yields_fieldsOrNone (search.getD "default_simple")).bind <|
    (yields_intAt (simpleSection search) "rescore_window" 400 1).bind <|
    (yields_intAt (simpleSection search) "node_limit" 200000 1).bind <|
    (yields_mapM FieldSpec.yields_ofFields (objects (simpleSection search) "main_fields")).bind <|
    (yields_mapM FilterSpec.yields_read (objects (simpleSection search) "query_filters")).bind <|
    (yields_mapM RangeSpec.yields_ofFields (objects (simpleSection search) "range_filters")).bind <|
    (Value.yields_fieldsOrNone (search.getD "phrase_search")).bind <|
    (yields_intAt (phraseSection search) "slop" 0 0).bind <|
    (yields_intAt (phraseSection search) "max_slop" 2 0).bind <|
    (yields_intAt (phraseSection search) "node_limit" 10000 1).bind <|
    (yields_mapM FieldSpec.yields_ofFields (objects (phraseSection search) "fields")).bind_pure _
  refine hread.congr ⟨?_, fun h => ?_⟩
  · rintro ⟨-, hindices, hdefaults, hlanguage, hlanguageField, hhostname, hhostnameExact, htimeout, -, hsnippet,
      htitle, hresults, hsimple, hwindow, hsimpleNode, hmain, hfilters, hranges, hphrase, hslop, hmaxSlop,
      hphraseNode, hfields⟩
    exact ⟨hindices, hdefaults, by simp [textKeys, hlanguage, hlanguageField, hhostname, hhostnameExact, htimeout],
      by simp [hsnippet, htitle, hresults], hsimple, by simp [hwindow, hsimpleNode], hmain, hfilters, hranges,
      hphrase, by simp [hslop, hmaxSlop], hphraseNode, hfields⟩
  · exact ⟨fun _ => ⟨search, rfl⟩, h.indices, h.defaultIndices, h.texts _ (by simp [textKeys]),
      h.texts _ (by simp [textKeys]), h.texts _ (by simp [textKeys]), h.texts _ (by simp [textKeys]),
      h.texts _ (by simp [textKeys]), fun _ => ⟨page, rfl⟩, h.page _ (by simp), h.page _ (by simp),
      h.page _ (by simp), h.simple, h.simpleLimits _ (by simp), h.simpleLimits _ (by simp), h.mainFields,
      h.queryFilters, h.rangeFilters, h.phrase, h.phraseSlops _ (by simp), h.phraseSlops _ (by simp), h.phraseLimit,
      h.phraseFields⟩

/-! ### Objects in the place of lists -/

/-- No object stands for indices that it should not: the names of one in the place of the indices are all empty, and
the names of one in the place of the default indices give the default that there is without it. -/
structure ListsIndices (search : Fields) : Prop where
  /-- The indices. -/
  indices : ∀ fields, search.getD "indices" = .obj fields → Value.fieldNames fields = []
  /-- The default indices. -/
  defaultIndices : ∀ fields, search.getD "default_indices" = .obj fields →
    Value.fieldNames fields = [] ∨ Value.fieldNames fields = (search.getD "indices").listedTexts.take 1

theorem collectedTexts_eq_iff (v : Value) :
    v.collectedTexts = v.listedTexts ↔ ∀ fields, v = .obj fields → Value.fieldNames fields = [] := by
  cases v with
  | obj fields => exact ⟨fun h _ hv => Value.obj.inj hv ▸ h, fun h => h fields rfl⟩
  | null | bool | int | float | str | list => exact ⟨fun _ fields hv => (by cases hv), fun _ => rfl⟩

theorem orFirst_eq_iff (v : Value) (allowed : List String) :
    orFirst v.collectedTexts allowed = orFirst v.listedTexts allowed ↔
      ∀ fields, v = .obj fields → Value.fieldNames fields = [] ∨ Value.fieldNames fields = allowed.take 1 := by
  cases v with
  | obj fields =>
    simp only [Value.obj.injEq, forall_eq']
    change orFirst (Value.fieldNames fields) allowed = allowed.take 1 ↔ _
    cases Value.fieldNames fields <;> simp [orFirst]
  | null | bool | int | float | str | list => exact ⟨fun _ fields hv => (by cases hv), fun _ => rfl⟩

theorem collected_eq_iff : collected search page = documented search page ↔ ListsIndices search := by
  have hfields : collected search page = documented search page ↔
      (search.getD "indices").collectedTexts = (search.getD "indices").listedTexts ∧
        orFirst (search.getD "default_indices").collectedTexts (search.getD "indices").collectedTexts =
          orFirst (search.getD "default_indices").listedTexts (search.getD "indices").listedTexts := by
    simp [collected, documented]
  rw [hfields]
  constructor
  · rintro ⟨hindices, hdefaults⟩
    rw [hindices, orFirst_eq_iff] at hdefaults
    exact ⟨(collectedTexts_eq_iff _).1 hindices, hdefaults⟩
  · intro h
    have hindices := (collectedTexts_eq_iff _).2 h.indices
    rw [hindices]
    exact ⟨rfl, (orFirst_eq_iff _ _).2 h.defaultIndices⟩

/-! ### The settings -/

/-- **Settings are read** exactly if all values of their sections can be read, and they are the documented ones
exactly if no object stands for indices as well. -/
theorem ofSections_documented_iff (search page : Fields) :
    ((∃ settings, ofSections (.obj search) (.obj page) = .ok settings) ↔ Readable search page) ∧
      (ofSections (.obj search) (.obj page) = .ok (documented search page) ↔
        Readable search page ∧ ListsIndices search) := by
  refine ⟨(yields_ofSections search page).exists_iff, ?_⟩
  rw [yields_ofSections search page, eq_comm, collected_eq_iff]

example :
    ofSections (.obj [("default_language", .int 5), ("indices", .str "cw12")]) (.obj [("title_length", .int (-3))]) =
      .ok { indices := ["cw12"], defaultIndices := ["cw12"] } := rfl

/-- A length that is refused and cannot be written is a fault. -/
theorem ofSections_of_long_title {n : Int} (hn : n < 1) (h : Reading.hasText n = false) :
    ofSections (.obj []) (.obj [("title_length", .int n)]) = .error .notANumber := by
  have hrefused : intAt [("title_length", .int n)] "title_length" 70 1 = .error .notANumber := by
    have hvalue : Fields.getD [("title_length", .int n)] "title_length" = .int n := rfl
    rw [intAt, acceptedNumber?, hvalue]
    simp only [Value.number?, Option.any_some, Number.lt, decide_eq_true hn, if_true]
    exact Value.afterWriting_of_not_isWritable (v := .int n) h 70
  change (intAt [("title_length", .int n)] "title_length" 70 1 >>= _) = _
  rw [hrefused]
  rfl

/-- **Some malformed values** are faults and not replaced by defaults: no number, an infinity or a negative number that
is too long to be written in the place of a whole number, and a number in the place of a section or of a list. An
object in the place of a list is taken for its names. -/
theorem not_ofSections_documented :
    ofSections (.obj []) (.obj [("title_length", .float (0 / 0))]) = .error .notANumber ∧
      ofSections (.obj []) (.obj [("title_length", .float (1 / 0))]) = .error .tooLarge ∧
      ofSections (.obj []) (.obj [("title_length", .int (-Reading.textLimit))]) = .error .notANumber ∧
      ofSections (.obj [("default_simple", .int 5)]) (.obj []) = .error .notAnObject ∧
      ofSections (.obj [("indices", .int 5)]) (.obj []) = .error .unsuitable ∧
      ∃ settings, ofSections (.obj [("indices", .obj [("cw12", .null)])]) (.obj []) = .ok settings ∧
        settings.indices = ["cw12"] :=
  ⟨rfl, rfl, ofSections_of_long_title (by linarith [Reading.textLimit_pos]) Reading.hasText_neg_textLimit, rfl, rfl, _,
    rfl, rfl⟩

end PageSearch.Settings
