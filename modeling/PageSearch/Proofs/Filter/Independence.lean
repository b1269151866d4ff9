import Mathlib.Data.List.Perm.Basic
import PageSearch.Proofs.Filter.Capture
import PageSearch.Proofs.Filter.Removal

/-!
# Specifications in another order

As long as the filters that the specifications have in a query do not overlap, the order in which they
are taken out does not matter. Each capture is then the one that its specification alone would make in
the whole query (`captures_eq_filterMap`), and the residue is the same for every order (`residue_perm`),
because two filters next to each other in the list can be exchanged. `extract_perm` says what this means
for the extraction: the demands may come in another order, and of several languages another one may be
the last, but nothing else can change.
-/

namespace PageSearch.Filter

open Text

/-! ### Filters that do not overlap -/

/-- Whether the first filters of two specifications have no part of a text in common. -/
def spansDisjoint (text : String) (s s' : FilterSpec) : Bool :=
  match findSpan? text s.keyword, findSpan? text s'.keyword with
  | some a, some b => a.stop ≤ b.start || b.stop ≤ a.start
  | _, _ => true

/-- Whether a specification has a filter with a value in a text. -/
def hasValue (text : String) (s : FilterSpec) : Bool :=
  (findSpan? text s.keyword).any fun span => span.value ≠ ""

theorem apart_of_spansDisjoint {text : String} {s s' : FilterSpec} (h : spansDisjoint text s s') :
    Apart s.keyword.toList s'.keyword.toList text.toList := by
  intro c d hc hd
  rw [spansDisjoint, findSpan?_eq_map_cut?, findSpan?_eq_map_cut?, cut?_eq_some_iff.2 hc,
    cut?_eq_some_iff.2 hd] at h
  simpa [Cut.span] using h

/-- The capture that a specification makes in a text if it comes first. -/
def capture? (text : List Char) (spec : FilterSpec) : Option Capture :=
  (cut? spec.keyword.toList text).map fun c => ⟨spec, String.ofList c.value⟩

variable {specs specs' : List FilterSpec} {text : List Char}

/-- The specifications have keywords, and their filters in a text do not overlap. -/
structure Separate (specs : List FilterSpec) (text : List Char) : Prop where
  /-- Each keyword is a word. -/
  keywords : ∀ s ∈ specs, IsWord s.keyword.toList
  /-- No two of the first filters overlap. -/
  apart : specs.Pairwise fun s s' => Apart s.keyword.toList s'.keyword.toList text

theorem Separate.tail {s : FilterSpec} (h : Separate (s :: specs) text) : Separate specs text :=
  ⟨fun s' hs' => h.keywords s' (List.mem_cons_of_mem s hs'), h.apart.of_cons⟩

theorem Separate.perm (h : Separate specs text) (hperm : specs.Perm specs') : Separate specs' text :=
  ⟨fun s hs => h.keywords s (hperm.mem_iff.2 hs), (hperm.pairwise_iff fun h => h.symm).1 h.apart⟩

/-- One step keeps the filters of the other specifications apart. -/
theorem Separate.step {s : FilterSpec} {c : Cut} (h : Separate (s :: specs) text)
    (hc : c.IsFirst s.keyword.toList text) : Separate specs (trim c.remainder) := by
  have hs := h.keywords s List.mem_cons_self
  obtain ⟨hhead, htail⟩ := List.pairwise_cons.1 h.apart
  refine ⟨h.tail.keywords, htail.imp_of_mem fun {a b} ha hb hab => ?_⟩
  have hka := h.tail.keywords a ha
  have hkb := h.tail.keywords b hb
  exact Apart.trim_remainder hs.2 hka.2 hkb.2 (hhead b hb) (hhead a ha) hc hab

/-- One step keeps the captures of the other specifications. -/
theorem capture?_trim_remainder {s s' : FilterSpec} {c : Cut} (hs : IsWord s.keyword.toList)
    (hs' : IsWord s'.keyword.toList) (h : Apart s.keyword.toList s'.keyword.toList text)
    (hc : c.IsFirst s.keyword.toList text) : capture? (trim c.remainder) s' = capture? text s' := by
  rw [capture?, capture?]
  cases hcut : cut? s'.keyword.toList text with
  | none => rw [cut?_trim_remainder_eq_none hs'.2 hc hcut]
  | some d =>
    obtain ⟨e, he, hv, -⟩ := exists_moved hs.2 hs'.2 h hc (cut?_eq_some_iff.1 hcut)
    rw [cut?_eq_some_iff.2 he, Option.map_some, Option.map_some, hv]

/-! ### Runs -/

/-- **Each specification captures** what it would capture alone. -/
theorem captures_eq_filterMap (h : Separate specs text) :
    captures specs text = specs.filterMap (capture? text) := by
  induction specs generalizing text with
  | nil => rfl
  | cons s specs ih =>
    have hs := h.keywords s List.mem_cons_self
    rw [captures, matched?_eq_cut? hs, List.filterMap_cons]
    cases hcut : cut? s.keyword.toList text with
    | none =>
      rw [capture?, hcut]
      exact ih h.tail
    | some c =>
      have hc := cut?_eq_some_iff.1 hcut
      have hrest : specs.filterMap (capture? (trim c.remainder)) = specs.filterMap (capture? text) := by
        refine List.filterMap_congr fun s' hs' => ?_
        have hapart := (List.pairwise_cons.1 h.apart).1 s' hs'
        exact capture?_trim_remainder hs (h.tail.keywords s' hs') hapart hc
      rw [capture?, hcut, Option.map_some, ← hrest, ← ih (h.step hc)]

/-- Two specifications next to each other can be exchanged. -/
theorem residue_swap {s s' : FilterSpec} (h : Separate (s :: s' :: specs) text) :
    residue (s :: s' :: specs) text = residue (s' :: s :: specs) text := by
  have hs := h.keywords s List.mem_cons_self
  have hs' := h.keywords s' (List.mem_cons_of_mem s List.mem_cons_self)
  have hapart := (List.pairwise_cons.1 h.apart).1 s' List.mem_cons_self
  simp only [residue, matched?_eq_cut? hs, matched?_eq_cut? hs']
  cases hcut : cut? s.keyword.toList text with
  | none =>
    cases hcut' : cut? s'.keyword.toList text with
    | none => rfl
    | some d => simp only [cut?_trim_remainder_eq_none hs.2 (cut?_eq_some_iff.1 hcut') hcut]
  | some c =>
    have hc := cut?_eq_some_iff.1 hcut
    cases hcut' : cut? s'.keyword.toList text with
    | none => simp only [cut?_trim_remainder_eq_none hs'.2 hc hcut']
    | some d =>
      have hd := cut?_eq_some_iff.1 hcut'
      obtain ⟨e, he, -⟩ := exists_moved hs.2 hs'.2 hapart hc hd
      obtain ⟨f, hf, -⟩ := exists_moved hs'.2 hs.2 hapart.symm hd hc
      simp only [cut?_eq_some_iff.2 he, cut?_eq_some_iff.2 hf]
      rw [trim_remainder_comm hs.2 hs'.2 hapart hc hd he hf]

/-- **The residue** does not depend on the order of the specifications. -/
theorem residue_perm (hperm : specs.Perm specs') (h : Separate specs text) :
    residue specs text = residue specs' text := by
  induction hperm generalizing text with
  | nil => rfl
  | cons s _ ih =>
    have hs := h.keywords s List.mem_cons_self
    simp only [residue, matched?_eq_cut? hs]
    cases hcut : cut? s.keyword.toList text with
    | none => exact ih h.tail
    | some c => exact ih (h.step (cut?_eq_some_iff.1 hcut))
  | swap s s' specs => exact residue_swap h
  | trans hperm₁ _ ih₁ ih₂ => exact (ih₁ h).trans (ih₂ (h.perm hperm₁))

/-! ### Extractions -/

/-- The last value among captures of which at most one counts does not depend on their order. -/
theorem lastValue?_perm {p : FilterSpec → Bool} {ms ms' : List Capture} (hperm : ms.Perm ms')
    (hone : (ms.filter fun m => m.value ≠ "" ∧ p m.spec).length ≤ 1) : lastValue? p ms = lastValue? p ms' := by
  have hfilter := hperm.filter fun m => decide (m.value ≠ "" ∧ p m.spec = true)
  rw [lastValue?, lastValue?]
  cases hms : ms.filter fun m => decide (m.value ≠ "" ∧ p m.spec = true) with
  | nil =>
    rw [hms, List.nil_perm] at hfilter
    rw [hfilter]
  | cons m rest =>
    rw [hms, List.length_cons] at hone
    obtain rfl : rest = [] := List.eq_nil_of_length_eq_zero (by omega)
    rw [hms, List.singleton_perm] at hfilter
    rw [hfilter]

/-- The captures with a value are those of the specifications that have one. -/
theorem length_filter_filterMap_capture? (p : FilterSpec → Bool) (specs : List FilterSpec) (text : String) :
    ((specs.filterMap (capture? text.toList)).filter fun m => m.value ≠ "" ∧ p m.spec).length =
      (specs.filter fun s => p s && hasValue text s).length := by
  rw [← List.countP_eq_length_filter, ← List.countP_eq_length_filter, List.countP_filterMap]
  refine List.countP_congr fun s _ => ?_
  rw [capture?, hasValue, findSpan?_eq_map_cut?]
  cases cut? s.keyword.toList text.toList with
  | none => simp
  | some c => simp [Cut.span, and_comm]

/-- **The order of the specifications** does not matter to an extraction if the filters that they have
in the trimmed query do not overlap. The text that is left and whether grouping is blocked are the same,
the demands are the same up to their order, and so are the language and the indices if at most one
specification with a value chooses them. -/
theorem extract_perm (targets : Targets) {specs specs' : List FilterSpec} (query : String)
    (hperm : specs.Perm specs') (hkeywords : ∀ s ∈ specs, IsWord s.keyword.toList)
    (hdisjoint : specs.Pairwise fun s s' => spansDisjoint (Text.trimmed query) s s') :
    let e := extract targets specs query
    let e' := extract targets specs' query
    let choosing := fun p : FilterSpec → Bool => specs.filter fun s => p s && hasValue (Text.trimmed query) s
    e.text = e'.text ∧ e.blocksGrouping = e'.blocksGrouping ∧ e.filters.Perm e'.filters ∧
      ((choosing targets.choosesLanguage).length ≤ 1 → e.language = e'.language) ∧
      ((choosing targets.choosesIndices).length ≤ 1 → e.indices = e'.indices) := by
  have htrimmed : (Text.trimmed query).toList = trim query.toList := String.toList_ofList
  have h : Separate specs (trim query.toList) := by
    refine ⟨hkeywords, hdisjoint.imp fun hd => ?_⟩
    rw [← htrimmed]
    exact apart_of_spansDisjoint hd
  have hcaptures : (captures specs (trim query.toList)).Perm (captures specs' (trim query.toList)) := by
    rw [captures_eq_filterMap h, captures_eq_filterMap (h.perm hperm)]
    exact hperm.filterMap _
  have hlast : ∀ p : FilterSpec → Bool,
      (specs.filter fun s => p s && hasValue (Text.trimmed query) s).length ≤ 1 →
        lastValue? p (captures specs (trim query.toList)) = lastValue? p (captures specs' (trim query.toList)) := by
    intro p hone
    refine lastValue?_perm hcaptures ?_
    rw [captures_eq_filterMap h, ← htrimmed, length_filter_filterMap_capture?]
    exact hone
  simp only [extract_eq, Extraction.ofCaptures]
  refine ⟨by rw [residue_perm hperm h], hcaptures.any_eq, hcaptures.filterMap _, hlast _, fun hone => ?_⟩
  rw [hlast _ hone]

/-- A filter in the middle with a second filter of its keyword behind it, and one at the end without
value, before which a blank is trimmed once it has been taken out. -/
theorem extract_perm_host_language_index :
    let host : FilterSpec := { keyword := "host", field := some "host" }
    let language : FilterSpec := { keyword := "lang", field := some "lang" }
    let index : FilterSpec := { keyword := "index", field := some "#index" }
    let e := extract {} [host, language, index] "owls lang:en host: a.org lang:de index:"
    let e' := extract {} [index, language, host] "owls lang:en host: a.org lang:de index:"
    e.text = e'.text ∧ e.blocksGrouping = e'.blocksGrouping ∧ e.filters.Perm e'.filters ∧
      e.language = e'.language ∧ e.indices = e'.indices := by
  intro host language index e e'
  have hperm : [host, language, index].Perm [index, language, host] := by decide
  have hkeywords : ∀ s ∈ [host, language, index], IsWord s.keyword.toList := by decide
  obtain ⟨htext, hblocks, hfilters, hlanguage, hindices⟩ :=
    extract_perm {} "owls lang:en host: a.org lang:de index:" hperm hkeywords (by decide)
  exact ⟨htext, hblocks, hfilters, hlanguage (by decide), hindices (by decide)⟩

end PageSearch.Filter
