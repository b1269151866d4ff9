import PageSearch.External.Outline
import PageSearch.Plan.Compile
import PageSearch.Proofs.Field.Localization
import PageSearch.Proofs.Hit.Sources
import PageSearch.Proofs.Plan.Compilation

/-!
# Requested and read fields

A compiled request names the stored fields that the engine is to return, and the parser of its answer
reads fields by name. Both lists have the same names in every language but for the host of a page: it is
requested by a fixed name, and read under the name that the settings give it. So an engine that returns
only what is requested gives the same results as one that returns whole documents exactly if the name
of the settings is requested (`compile_suffices_iff`), which a setting can undo (`not_compile_suffices`).
-/

namespace PageSearch.Plan

open Document

/-! ### The names -/

/-- The requested names, with a text in the place of the language. -/
def requestedNames (value : List Char) : List String :=
  [trecIdField, "warc_target_hostname", targetUriField, pageRankField, spamRankField,
    Field.filled value titleField, Field.filled value bodyField, Field.filled value descriptionField]

/-- The names that are read, with a text in the place of the language. -/
def readNames (settings : Settings) (value : List Char) : List String :=
  [trecIdField, settings.hostnameField, targetUriField, pageRankField, spamRankField,
    Field.filled value titleField, Field.filled value bodyField, Field.filled value descriptionField]

theorem map_filled_storedFields (value : List Char) :
    storedFields.map (Field.filled value) = requestedNames value := by
  have htrec := Field.filled_eq_self trecIdField (by decide) value
  have hhost := Field.filled_eq_self "warc_target_hostname" (by decide) value
  have huri := Field.filled_eq_self targetUriField (by decide) value
  have hpage := Field.filled_eq_self pageRankField (by decide) value
  have hspam := Field.filled_eq_self spamRankField (by decide) value
  simp only [storedFields, requestedNames, List.map_cons, List.map_nil, htrec, hhost, huri, hpage, hspam]

/-- **The requested names** are those of the language, if it can be put into names. -/
theorem sourceFields_eq (q : RawQuery) : sourceFields q = (Field.expansion q.language).map requestedNames := by
  have hlocalize : ∀ name ∈ storedFields,
      localize q name = (Field.expansion q.language).map (Field.filled · name) := by
    have hne : ∀ name ∈ storedFields, name ≠ "" := by decide
    exact fun name hname => Field.localizeIn_eq (hne name hname) q.language
  cases hvalue : Field.expansion q.language with
  | error fault =>
    rw [sourceFields, storedFields, List.mapM_cons, hlocalize trecIdField (by decide), hvalue]
    rfl
  | ok value =>
    have hnames : storedFields.mapM (localize q) = .ok (storedFields.map (Field.filled value)) := by
      refine Outcome.mapM_eq_ok_map fun name hname => ?_
      rw [hlocalize name hname, hvalue]
      rfl
    rw [sourceFields, hnames, map_filled_storedFields]
    rfl

/-- **The names that are read** are those of the language, too. -/
theorem fieldsRead_eq (settings : Settings) (language : Value) :
    Hit.fieldsRead settings language = (Field.expansion language).map (readNames settings) := by
  rw [Hit.fieldsRead, Field.localizeIn_eq (by decide), Field.localizeIn_eq (by decide),
    Field.localizeIn_eq (by decide)]
  cases Field.expansion language <;> rfl

/-- The two lists differ by the name of the host. -/
theorem readNames_subset_iff {settings : Settings} {value : List Char} :
    readNames settings value ⊆ requestedNames value ↔ settings.hostnameField ∈ requestedNames value := by
  constructor
  · intro h
    exact h (by simp [readNames])
  · intro h name hname
    simp only [readNames, List.mem_cons, List.not_mem_nil, or_false] at hname
    rcases hname with rfl | rfl | rfl | rfl | rfl | rfl | rfl | rfl
    · simp [requestedNames]
    · exact h
    all_goals simp [requestedNames]

/-! ### Compiled requests -/

variable {settings : Settings} {plan : Plan} {q : RawQuery} {start size explain : Value} {request : Request}

/-- A compiled request has the names of the language of its query. -/
theorem exists_of_compile (h : plan.compile settings q start size explain = .ok request) :
    ∃ value, Field.expansion q.language = .ok value ∧ request.sourceFields = .strings (requestedNames value) := by
  obtain ⟨c, hc, rfl⟩ := isCompiled_of_compile h
  have hnames := hc.sourceFields
  rw [sourceFields_eq, Outcome.map_eq_ok] at hnames
  obtain ⟨value, hvalue, hrequested⟩ := hnames
  exact ⟨value, hvalue, by rw [Compiled.request, hrequested]⟩

/-! ### What the engine returns -/

/-- The host is lost if its name is not requested. -/
theorem read_only_ne [Terminal] {value : List Char} (hvalue : Field.expansion q.language = .ok value)
    (hhost : settings.hostnameField ∉ requestedNames value) :
    Hit.read settings q
        (Hit.withSources (only (requestedNames value)) (Hit.answerOf (.obj [(settings.hostnameField, .str "a")])))
        false ≠
      Hit.read settings q (Hit.answerOf (.obj [(settings.hostnameField, .str "a")])) false := by
  have hlocalize : ∀ name, name ≠ "" → Field.localizeIn name q.language = .ok (Field.filled value name) := by
    intro name hname
    rw [Field.localizeIn_eq hname, hvalue]
    rfl
  have hother : settings.hostnameField ∉ [pageRankField, spamRankField, Field.filled value titleField,
      Field.filled value bodyField, Field.filled value descriptionField] := by
    intro hmem
    exact hhost (List.mem_cons_of_mem _ (List.mem_cons_of_mem _ (List.mem_cons_of_mem _ hmem)))
  obtain ⟨r, hr⟩ := Hit.exists_parse_of_host (hlocalize titleField (by decide)) (hlocalize bodyField (by decide))
    (hlocalize descriptionField (by decide)) hother "a"
  intro hsame
  rw [Hit.withSources_answerOf] at hsame
  have hlost := Hit.hostname_eq_of_read_eq hr hsame
  rw [textAt_only_single hhost, textAt, find?_single_self] at hlost
  exact absurd hlost (by decide)

/-- **What is requested suffices** exactly if the name of the host is requested. -/
theorem compile_suffices_iff [Terminal] (h : plan.compile settings q start size explain = .ok request) :
    ∃ names read, request.sourceFields = .strings names ∧ Hit.fieldsRead settings q.language = .ok read ∧
      "warc_target_hostname" ∈ names ∧ (read ⊆ names ↔ settings.hostnameField ∈ names) ∧
      ((∀ res noting,
          Hit.read settings q (Hit.withSources (only names) res) noting = Hit.read settings q res noting) ↔
        settings.hostnameField ∈ names) := by
  obtain ⟨value, hvalue, hrequest⟩ := exists_of_compile h
  have hread : Hit.fieldsRead settings q.language = .ok (readNames settings value) := by
    rw [fieldsRead_eq, hvalue]
    rfl
  refine ⟨requestedNames value, readNames settings value, hrequest, hread, by simp [requestedNames],
    readNames_subset_iff, ?_⟩
  constructor
  · intro hsame
    by_contra hhost
    exact read_only_ne hvalue hhost (hsame _ _)
  · intro hhost res noting
    refine Hit.read_withSources hread (fun d => ?_) res noting
    exact (agreeOn_only (requestedNames value) d).mono (readNames_subset_iff.2 hhost)

/-- With the default settings the host is requested. -/
theorem compile_suffices_default :
    let settings : Settings := {}
    let q := ({ text := "owls", language := "en" } : Query).raw
    ∃ request names read, (phrase 0).compile settings q (.int 1) .null (.bool false) = .ok request ∧
      request.sourceFields = .strings names ∧ Hit.fieldsRead settings q.language = .ok read ∧ read ⊆ names ∧
      ∀ res noting,
        Hit.read settings q (Hit.withSources (only names) res) noting = Hit.read settings q res noting := by
  intro settings q
  obtain ⟨request, hrequest⟩ : ∃ request, (phrase 0).compile settings q (.int 1) .null (.bool false) = .ok request :=
    ⟨_, rfl⟩
  obtain ⟨names, read, hnames, hread, hhost, hsubset, hsame⟩ := compile_suffices_iff hrequest
  exact ⟨request, names, read, hrequest, hnames, hread, hsubset.2 hhost, hsame.2 hhost⟩

/-- **The host can be missing** from what is requested: the settings can name a field for it that no
variant of a plan requests, and the host of every result is lost. -/
theorem not_compile_suffices :
    let q := ({ text := "owls", language := "en" } : Query).raw
    ∃ settings names read, Settings.ofSections (.obj [("hostname_field", .str "host")]) .null = .ok settings ∧
      (∀ plan ∈ [simple, phrase 0], ∃ request,
        plan.compile settings q (.int 1) .null (.bool false) = .ok request ∧ request.sourceFields = .strings names) ∧
      Hit.fieldsRead settings q.language = .ok read ∧ "host" ∈ read ∧ "host" ∉ names ∧
      ∃ res, Hit.read settings q (Hit.withSources (only names) res) false ≠ Hit.read settings q res false := by
  intro q
  have hvalue : Field.expansion q.language = .ok ['e', 'n'] := rfl
  have hhost : "host" ∉ requestedNames ['e', 'n'] := by decide
  refine ⟨_, requestedNames ['e', 'n'], readNames { hostnameField := "host" } ['e', 'n'], rfl, ?_, rfl,
    by decide, hhost, ?_⟩
  · intro plan hplan
    simp only [List.mem_cons, List.not_mem_nil, or_false] at hplan
    rcases hplan with rfl | rfl
    · exact ⟨_, rfl, rfl⟩
    · exact ⟨_, rfl, rfl⟩
  · exact ⟨_, read_only_ne hvalue hhost⟩

end PageSearch.Plan
