import PageSearch.Filter.Extraction
import PageSearch.Proofs.Filter.Cut

/-!
# Captures

An extraction looks for one specification after the other, and what each finds does not depend on what
the ones before it have to say, but on the text that they leave. So it is a run over texts, which gives
a list of `captures` and a `residue`, and the rest of the extraction can be read off the captures
(`extract_eq`): the demands in their order, the last language, the last indices, and whether any of them
blocks grouping.
-/

namespace PageSearch.Filter

open Text

/-! ### The run over texts -/

/-- A filter that has been taken out of a text. -/
structure Capture where
  /-- The specification that it was taken out for. -/
  spec : FilterSpec
  /-- Its value, which is empty if the text ended before it. -/
  value : String
  deriving DecidableEq

/-- The cut that a specification makes in a text. One without keyword makes none. -/
def matched? (spec : FilterSpec) (text : List Char) : Option Cut :=
  if spec.keyword.isEmpty then none else cut? spec.keyword.toList text

theorem matched?_eq_cut? {spec : FilterSpec} (h : IsWord spec.keyword.toList) (text : List Char) :
    matched? spec text = cut? spec.keyword.toList text := by
  have hne : spec.keyword ≠ "" := fun h0 => h.1 (by rw [h0]; rfl)
  rw [matched?, isEmpty_eq_false hne, if_neg Bool.false_ne_true]

/-- What the specifications take out of a text, one after the other. -/
def captures : List FilterSpec → List Char → List Capture
  | [], _ => []
  | spec :: specs, text =>
    match matched? spec text with
    | none => captures specs text
    | some c => ⟨spec, String.ofList c.value⟩ :: captures specs (trim c.remainder)

/-- What they leave of it. -/
def residue : List FilterSpec → List Char → List Char
  | [], text => text
  | spec :: specs, text =>
    match matched? spec text with
    | none => residue specs text
    | some c => residue specs (trim c.remainder)

theorem isFirst_of_matched? {spec : FilterSpec} {text : List Char} {c : Cut}
    (h : matched? spec text = some c) : c.IsFirst spec.keyword.toList text := by
  rw [matched?] at h
  split at h
  · cases h
  · exact cut?_eq_some_iff.1 h

/-- The specifications with captures are taken in their order. -/
theorem captures_sublist (specs : List FilterSpec) (text : List Char) :
    ((captures specs text).map Capture.spec).Sublist specs := by
  induction specs generalizing text with
  | nil => exact List.Sublist.refl []
  | cons spec specs ih =>
    rw [captures]
    split
    · exact (ih text).cons spec
    · exact (ih _).cons_cons spec

/-! ### What captures say -/

namespace Targets

/-- Whether a filter chooses the language. -/
def choosesLanguage (targets : Targets) (spec : FilterSpec) : Bool :=
  spec.field.any fun field => field ≠ "" ∧ targets.languageField = some field

/-- Whether a filter chooses the indices. The language field comes first. -/
def choosesIndices (targets : Targets) (spec : FilterSpec) : Bool :=
  spec.field.any fun field =>
    field ≠ "" ∧ targets.languageField ≠ some field ∧ targets.indexSelector = some field

/-- The field that a filter demands a value of. -/
def demanded? (targets : Targets) (spec : FilterSpec) : Option String :=
  spec.field.filter fun field =>
    field ≠ "" ∧ targets.languageField ≠ some field ∧ targets.indexSelector ≠ some field ∧
      field.toList.head? ≠ some '#'

theorem choosesIndices_eq_false {targets : Targets} {spec : FilterSpec}
    (h : targets.choosesLanguage spec = true) : targets.choosesIndices spec = false := by
  cases hf : spec.field with
  | none => simp [choosesIndices, hf]
  | some field =>
    obtain ⟨-, hl⟩ : field ≠ "" ∧ targets.languageField = some field := by
      simpa [choosesLanguage, hf] using h
    simp [choosesIndices, hf, hl]

theorem demanded?_eq_none {targets : Targets} {spec : FilterSpec}
    (h : targets.choosesLanguage spec = true ∨ targets.choosesIndices spec = true) :
    targets.demanded? spec = none := by
  cases hf : spec.field with
  | none => simp [demanded?, hf]
  | some field =>
    have h' : targets.languageField = some field ∨ targets.indexSelector = some field := by
      rcases h with h | h
      · exact .inl (by simpa [choosesLanguage, hf] using h : field ≠ "" ∧ _).2
      · exact .inr (by simpa [choosesIndices, hf] using h : field ≠ "" ∧ _ ∧ _).2.2
    rcases h' with h' | h' <;> simp [demanded?, hf, h']

/-- The effect of a filter, by what it chooses and demands. -/
theorem effect_eq (targets : Targets) (spec : FilterSpec) :
    targets.effect (spec.field.getD "") =
      if targets.choosesLanguage spec then .language
      else if targets.choosesIndices spec then .indices
      else (targets.demanded? spec).elim .nothing .demand := by
  cases hf : spec.field with
  | none => simp [effect, choosesLanguage, choosesIndices, demanded?, hf]
  | some field =>
    simp only [effect, choosesLanguage, choosesIndices, demanded?, hf, Option.getD_some, Option.any_some,
      Option.filter_some, beq_iff_eq, String.isEmpty_iff]
    by_cases h0 : field = ""
    · simp [h0]
    · by_cases h1 : targets.languageField = some field
      · simp [h0, h1]
      · by_cases h2 : targets.indexSelector = some field
        · simp [h0, h1, h2, Ne.symm h1]
        · by_cases h3 : field.toList.head? = some '#' <;> simp [h0, h1, h2, h3, Ne.symm h1, Ne.symm h2]

end Targets

/-- What a capture demands: a field and its value. -/
def Capture.demand? (targets : Targets) (m : Capture) : Option (String × String) :=
  if m.value = "" then none else (targets.demanded? m.spec).map fun field => (field, m.value)

/-- The value of the last capture that has one and a specification that satisfies `p`. -/
def lastValue? (p : FilterSpec → Bool) (ms : List Capture) : Option String :=
  ((ms.filter fun m => m.value ≠ "" ∧ p m.spec).getLast?).map Capture.value

/-- What captures say, with the text that they leave. -/
def Extraction.ofCaptures (targets : Targets) (text : List Char) (ms : List Capture) : Extraction where
  text := String.ofList text
  filters := ms.filterMap (Capture.demand? targets)
  language := lastValue? targets.choosesLanguage ms
  indices := (lastValue? targets.choosesIndices ms).map splitIndices
  blocksGrouping := ms.any fun m => m.spec.blocksGrouping

theorem lastValue?_concat (p : FilterSpec → Bool) (ms : List Capture) (m : Capture) :
    lastValue? p (ms ++ [m]) = if m.value ≠ "" ∧ p m.spec then some m.value else lastValue? p ms := by
  by_cases h : m.value ≠ "" ∧ p m.spec <;> simp [lastValue?, List.filter_append, h]

/-- One capture more has the effect of its filter. -/
theorem Extraction.apply_ofCaptures (targets : Targets) (text : List Char) (ms : List Capture) (m : Capture) :
    Extraction.apply targets m.spec m.value
        { Extraction.ofCaptures targets text ms with
          blocksGrouping := (Extraction.ofCaptures targets text ms).blocksGrouping || m.spec.blocksGrouping } =
      Extraction.ofCaptures targets text (ms ++ [m]) := by
  simp only [Extraction.apply, Extraction.ofCaptures, lastValue?_concat, List.filterMap_append,
    List.any_append, Targets.effect_eq]
  by_cases hv : m.value = ""
  · simp [hv, Capture.demand?]
  · by_cases hl : targets.choosesLanguage m.spec = true
    · simp [hv, hl, Targets.choosesIndices_eq_false hl, Capture.demand?, Targets.demanded?_eq_none (.inl hl)]
    · by_cases hi : targets.choosesIndices m.spec = true
      · simp [hv, hl, hi, Capture.demand?, Targets.demanded?_eq_none (.inr hi)]
      · cases hd : targets.demanded? m.spec <;> simp [hv, hl, hi, hd, Capture.demand?]

/-- One specification more takes its filter out of the text. -/
theorem Extraction.step_ofCaptures (targets : Targets) (spec : FilterSpec) (text : List Char)
    (ms : List Capture) :
    Extraction.step targets (Extraction.ofCaptures targets text ms) spec =
      match matched? spec text with
      | none => Extraction.ofCaptures targets text ms
      | some c =>
        Extraction.ofCaptures targets (trim c.remainder) (ms ++ [⟨spec, String.ofList c.value⟩]) := by
  rw [Extraction.step, matched?]
  split
  · rfl
  · have htext : (Extraction.ofCaptures targets text ms).text.toList = text := String.toList_ofList
    rw [htext]
    cases cut? spec.keyword.toList text with
    | none => rfl
    | some c => exact Extraction.apply_ofCaptures targets (trim c.remainder) ms ⟨spec, String.ofList c.value⟩

theorem foldl_step_ofCaptures (targets : Targets) (specs : List FilterSpec) (text : List Char)
    (ms : List Capture) :
    specs.foldl (Extraction.step targets) (Extraction.ofCaptures targets text ms) =
      Extraction.ofCaptures targets (residue specs text) (ms ++ captures specs text) := by
  induction specs generalizing text ms with
  | nil => simp [residue, captures]
  | cons spec specs ih =>
    rw [List.foldl_cons, Extraction.step_ofCaptures, residue, captures]
    cases matched? spec text with
    | none => exact ih text ms
    | some c =>
      rw [ih, List.append_assoc]
      rfl

/-- **An extraction** is what the captures in the trimmed query say, with the text that they leave. -/
theorem extract_eq (targets : Targets) (specs : List FilterSpec) (query : String) :
    extract targets specs query =
      Extraction.ofCaptures targets (residue specs (trim query.toList)) (captures specs (trim query.toList)) :=
  foldl_step_ofCaptures targets specs (trim query.toList) []

/-- Trimming a query before its filters are taken out makes no difference. -/
theorem extract_trimmed (targets : Targets) (specs : List FilterSpec) (query : String) :
    extract targets specs (Text.trimmed query) = extract targets specs query := by
  rw [extract, extract, Text.trimmed_trimmed]

end PageSearch.Filter
