import PageSearch.Filter.Extraction
import PageSearch.Proofs.Outcome
import PageSearch.Proofs.Text.Words
import PageSearch.Service.Param
import PageSearch.Settings.Resolve

/-!
# Lists of indices

Indices come from the parameter of a request or from a filter in the text of a query, and each way has its own
steps: a parameter is split at its commas twice and keeps what is named twice, and the value of a filter is split
once and keeps each name once. The settings then keep what is allowed, each once, so that both ways give the same
indices (`resolveIndices_splitIndices`).
-/

namespace PageSearch

/-! ### Lists without repetition -/

/-- The list with an item that is kept and not there yet. -/
def keepNew (keep : String → Bool) (found : List String) (item : String) : List String :=
  if keep item && !found.contains item then found ++ [item] else found

variable {keep keep' : String → Bool} {items : List String}

theorem keepNew_of_not {found : List String} {item : String} (h : keep item = true → item ∈ found) :
    keepNew keep found item = found := by
  rw [keepNew, if_neg]
  simpa using h

/-- **What is kept** are the first occurrences of the items that shall be kept. -/
theorem foldl_keepNew_eq : items.foldl (keepNew keep) [] = (items.filter keep).eraseDups := by
  induction items using List.reverseRecOn with
  | nil => rfl
  | append_singleton items a ih =>
    rw [List.foldl_concat, ih, keepNew, List.filter_append, List.eraseDups_append]
    by_cases hkeep : keep a = true
    · rw [List.filter_cons_of_pos hkeep, List.filter_nil]
      generalize items.filter keep = kept
      by_cases hmem : a ∈ kept
      · simp [hkeep, hmem, List.removeAll]
      · simp [hkeep, hmem, List.removeAll, List.eraseDups_cons]
    · rw [List.filter_cons_of_neg hkeep, List.filter_nil]
      simp [hkeep, List.removeAll]

theorem mem_foldl_keepNew {item : String} :
    item ∈ items.foldl (keepNew keep) [] ↔ item ∈ items ∧ keep item = true := by
  rw [foldl_keepNew_eq, List.mem_eraseDups, List.mem_filter]

theorem nodup_foldl_keepNew : (items.foldl (keepNew keep) []).Nodup := by
  induction items using List.reverseRecOn with
  | nil => exact List.nodup_nil
  | append_singleton items a ih =>
    rw [List.foldl_concat, keepNew]
    split
    · next hnew =>
      have hfresh : a ∉ items.foldl (keepNew keep) [] := by
        simp only [Bool.and_eq_true, Bool.not_eq_true', List.contains_eq_mem, decide_eq_false_iff_not] at hnew
        exact hnew.2
      refine List.nodup_append.2 ⟨ih, by simp, fun b hb c hc => ?_⟩
      rw [List.mem_singleton.1 hc]
      rintro rfl
      exact hfresh hb
    · exact ih

/-- **Repetitions do not matter**, and neither do items that are not kept. -/
theorem foldl_keepNew_foldl (h : ∀ item, keep' item = true → keep item = true) :
    (items.foldl (keepNew keep) []).foldl (keepNew keep') [] = items.foldl (keepNew keep') [] := by
  induction items using List.reverseRecOn with
  | nil => rfl
  | append_singleton items a ih =>
    rw [List.foldl_concat, List.foldl_concat, keepNew]
    split
    · rw [List.foldl_concat, ih]
    · rename_i hold
      rw [ih, keepNew_of_not]
      intro hkeep
      -- what is not appended is there already
      have hmem : a ∈ items.foldl (keepNew keep) [] := by simpa [h a hkeep] using hold
      exact mem_foldl_keepNew.2 ⟨(mem_foldl_keepNew.1 hmem).1, hkeep⟩

theorem foldl_keepNew_filter (h : ∀ item, keep' item = true → keep item = true) (found : List String) :
    (items.filter keep).foldl (keepNew keep') found = items.foldl (keepNew keep') found := by
  induction items generalizing found with
  | nil => rfl
  | cons a items ih =>
    by_cases hkeep : keep a = true
    · rw [List.filter_cons_of_pos hkeep, List.foldl_cons, List.foldl_cons, ih]
    · have hdropped : keepNew keep' found a = found := keepNew_of_not fun hkeep' => absurd (h a hkeep') hkeep
      rw [List.filter_cons_of_neg hkeep, List.foldl_cons, hdropped, ih]

/-! ### Indices of a filter -/

/-- Whether a text is not empty. -/
def isNamed (s : String) : Bool := !s.isEmpty

/-- What stands between the commas of a text, trimmed. -/
def trimmedPieces (s : String) : List String := (Text.splitAtCommas s).map Text.trimmed

theorem map_trimmed {value : String} {names : List String} (h : names ⊆ trimmedPieces value) :
    names.map Text.trimmed = names := by
  have hid : ∀ name ∈ names, Text.trimmed name = id name := by
    intro name hname
    obtain ⟨piece, -, rfl⟩ := List.mem_map.1 (h hname)
    exact Text.trimmed_trimmed piece
  rw [List.map_congr_left hid, List.map_id]

theorem Filter.splitIndices_eq (value : String) :
    splitIndices value = (trimmedPieces value).foldl (keepNew isNamed) [] := by
  rw [splitIndices, trimmedPieces, List.foldl_map]
  refine List.foldl_ext _ _ _ fun found piece _ => ?_
  by_cases hempty : (Text.trimmed piece).isEmpty <;> simp [keepNew, isNamed, hempty]

/-! ### Indices of a parameter -/

/-- A piece between commas has no comma, and is not split again. -/
theorem Text.splitAtCommas_of_mem {s piece : String} (h : piece ∈ Text.splitAtCommas s) :
    Text.splitAtCommas piece = [piece] := by
  obtain ⟨cs, hcs, rfl⟩ := List.mem_map.1 h
  rw [splitAtCommas, String.toList_ofList, splitWhere_of_mem hcs]
  rfl

theorem Param.flatMap_pieces (value : String) :
    (Text.splitAtCommas value).flatMap pieces = (trimmedPieces value).filter isNamed := by
  have hpiece : ∀ piece ∈ Text.splitAtCommas value, pieces piece = [Text.trimmed piece].filter isNamed := by
    intro piece hmem
    rw [pieces, Text.splitAtCommas_of_mem hmem]
    rfl
  rw [List.flatMap_congr hpiece, trimmedPieces]
  generalize Text.splitAtCommas value = found
  induction found with
  | nil => rfl
  | cons piece found ih => rw [List.flatMap_cons, ih, List.map_cons, ← List.filter_append, List.singleton_append]

/-- A parameter that is a text has the names that stand between its commas. -/
theorem Param.list?_str (value : String) :
    list? (.str value) =
      let found := (trimmedPieces value).filter isNamed
      .ok (if found.isEmpty then none else some found) := by
  rw [← flatMap_pieces]
  rfl

/-! ### Allowed indices -/

namespace Settings

/-- What may be searched: an index that has a name and is allowed. -/
def isAllowed (settings : Settings) (index : String) : Bool := isNamed index && settings.allows index

/-- The texts among some values. -/
def textsOf (vs : List Value) : List String :=
  vs.filterMap fun v =>
    match v with
    | .str s => some s
    | _ => none

theorem textsOf_map_str (names : List String) : textsOf (names.map .str) = names := by
  induction names with
  | nil => rfl
  | cons name names ih =>
    rw [List.map_cons]
    exact congrArg (name :: ·) ih

theorem allowedIndices_eq_foldl (settings : Settings) (requested : List Value) :
    settings.allowedIndices requested =
      ((textsOf requested).map Text.trimmed).foldl (keepNew settings.isAllowed) [] := by
  rw [allowedIndices, textsOf, List.map_filterMap, List.foldl_filterMap]
  refine List.foldl_ext _ _ _ fun found v _ => ?_
  cases v with
  | str s =>
    by_cases hempty : (Text.trimmed s).isEmpty <;> by_cases hallowed : settings.allows (Text.trimmed s) <;>
      simp [keepNew, isAllowed, isNamed, hempty, hallowed]
  | _ => rfl

theorem allowedIndices_strings (settings : Settings) (names : List String) :
    settings.allowedIndices (names.map .str) =
      (names.map Text.trimmed).foldl (keepNew settings.isAllowed) [] := by
  rw [allowedIndices_eq_foldl, textsOf_map_str]

/-- The names among some values: the texts, trimmed, that are not empty then. -/
def namesOf (vs : List Value) : List String := ((textsOf vs).map Text.trimmed).filter isNamed

/-- **The indices that may be searched** are the first occurrences of the names that are allowed. -/
theorem allowedIndices_eq (settings : Settings) (requested : List Value) :
    settings.allowedIndices requested = ((namesOf requested).filter settings.allows).eraseDups := by
  have hallowed : settings.isAllowed = fun index => settings.allows index && isNamed index :=
    funext fun index => Bool.and_comm _ _
  rw [allowedIndices_eq_foldl, foldl_keepNew_eq, namesOf, List.filter_filter, hallowed]

theorem nodup_allowedIndices (settings : Settings) (requested : List Value) :
    (settings.allowedIndices requested).Nodup := by
  rw [allowedIndices_eq_foldl]
  exact nodup_foldl_keepNew

theorem mem_indices_of_mem_allowedIndices {settings : Settings} {requested : List Value} {index : String}
    (h : index ∈ settings.allowedIndices requested) (hne : settings.indices ≠ []) : index ∈ settings.indices := by
  rw [allowedIndices_eq, List.mem_eraseDups, List.mem_filter, allows] at h
  simpa [hne] using h.2

theorem itemsOrNone_strings (names : List String) : (Value.strings names).itemsOrNone = .ok (names.map .str) := by
  cases names <;> rfl

/-- A list of names that is missing if it is empty has these names. -/
theorem itemsOrNone_ofOption (names : List String) :
    (Value.ofOption Value.strings (if names.isEmpty then none else some names)).itemsOrNone =
      .ok (names.map .str) := by
  cases names <;> rfl

/-- The indices that a filter and a parameter name are the same, if they may be searched. -/
theorem allowedIndices_splitIndices (settings : Settings) (value : String) :
    settings.allowedIndices ((Filter.splitIndices value).map .str) =
      settings.allowedIndices (((trimmedPieces value).filter isNamed).map .str) := by
  have hnamed : ∀ index, settings.isAllowed index = true → isNamed index = true := by
    intro index h
    exact (Bool.and_eq_true _ _ ▸ h).1
  have hsplit : (trimmedPieces value).foldl (keepNew isNamed) [] ⊆ trimmedPieces value :=
    fun index hindex => (mem_foldl_keepNew.1 hindex).1
  rw [allowedIndices_strings, allowedIndices_strings, Filter.splitIndices_eq, map_trimmed hsplit,
    map_trimmed (List.filter_subset_self _), foldl_keepNew_foldl hnamed, foldl_keepNew_filter hnamed]

/-- **The indices of a filter** are those that a parameter with its value would give. -/
theorem resolveIndices_splitIndices (settings : Settings) {value : String} {found : Option (List String)}
    (h : Param.list? (.str value) = .ok found) :
    settings.resolveIndices (.strings (Filter.splitIndices value)) =
      settings.resolveIndices (.ofOption .strings found) := by
  rw [Param.list?_str] at h
  obtain rfl := Except.ok.inj h
  rw [resolveIndices, resolveIndices, itemsOrNone_strings, itemsOrNone_ofOption]
  change Except.ok _ = Except.ok _
  rw [allowedIndices_splitIndices]

/-! ### Indices of the settings -/

theorem nodup_distinctTexts (vs : List Value) : (distinctTexts vs).Nodup := by
  have hfold : distinctTexts vs = (textsOf vs).foldl (keepNew isNamed) [] := by
    rw [distinctTexts, textsOf, List.foldl_filterMap]
    refine List.foldl_ext _ _ _ fun found v _ => ?_
    cases v with
    | str s => by_cases hempty : s.isEmpty <;> simp [keepNew, isNamed, hempty]
    | _ => rfl
  rw [hfold]
  exact nodup_foldl_keepNew

theorem nodup_of_texts {fields : Fields} {key : String} {found : List String} (h : texts fields key = .ok found) :
    found.Nodup := by
  unfold texts at h
  split at h
  · cases h
    exact nodup_distinctTexts _
  · simp only [Outcome.bind_eq_ok, Outcome.pure_eq_ok] at h
    obtain ⟨vs, -, rfl⟩ := h
    exact nodup_distinctTexts vs

/-- Default indices of settings that are read: there is one if some index is allowed. -/
structure HasDefaults (settings : Settings) : Prop where
  /-- No index is a default twice. -/
  nodup : settings.defaultIndices.Nodup
  /-- A search without indices has somewhere to go. -/
  ne_nil : settings.indices ≠ [] → settings.defaultIndices ≠ []

theorem hasDefaults_of_ofSections {searchSection pageSection : Value} {settings : Settings}
    (h : ofSections searchSection pageSection = .ok settings) : settings.HasDefaults := by
  simp only [ofSections, Outcome.bind_eq_ok, Outcome.pure_eq_ok] at h
  obtain ⟨search, -, indices, hindices, defaults, hdefaults, language, -, languageField, -, hostname, -,
    hostnameExact, -, timeout, -, page, -, snippetLength, -, titleLength, -, resultsPerPage, -, simple, -,
    rescoreWindow, -, simpleNodeLimit, -, mainFields, -, queryFilters, -, rangeFilters, -, phrase, -, phraseSlop, -,
    phraseMaxSlop, -, phraseNodeLimit, -, phraseFields, -, rfl⟩ := h
  have hnodup := nodup_of_texts hindices
  have hnodup' := nodup_of_texts hdefaults
  refine ⟨?_, fun hne => ?_⟩
  · show (orFirst defaults indices).Nodup
    unfold orFirst
    split
    · exact hnodup.sublist (List.take_sublist 1 indices)
    · exact hnodup'
  · show orFirst defaults indices ≠ []
    unfold orFirst
    split
    · cases indices with
      | nil => exact absurd rfl hne
      | cons index indices => exact List.cons_ne_nil _ _
    · next hdefault =>
      rintro rfl
      exact hdefault rfl

end Settings

end PageSearch
