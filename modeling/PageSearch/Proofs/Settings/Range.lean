import PageSearch.Proofs.Value.Writing
import PageSearch.Settings.Resolve

/-!
# Settings in range

A number of the settings that lies below its least value is not accepted, and one that is accepted loses its
places after the point. No places can take a number below a whole number that it is not less than
(`Number.le_of_toInt`), so that every whole number that is read is in range, whatever the settings hold
(`inRange_of_ofSections`). A number that a request asks for is taken if it is in range itself, and replaced by a
default else (`atLeastOne_ofOption`, `resolveSlop_ofOption`).
-/

namespace PageSearch

/-! ### Whole parts -/

/-- Places after the point do not matter to a whole bound. -/
theorem Binary.le_of_truncate? {x : Binary} {least k : Int} (h : x.truncate? = some k)
    (hle : x.compareInt least ≠ some .lt) : least ≤ k := by
  cases x with
  | nan => cases h
  | infinite negative => cases h
  | finite negative mantissa exponent =>
    obtain ⟨num, den, hratio⟩ : ∃ num den, ratio mantissa exponent = (num, den) := ⟨_, _, rfl⟩
    have hden : (0 : Int) < den := by
      have hpos : 0 < (ratio mantissa exponent).2 := Nat.two_pow_pos _
      rw [hratio] at hpos
      exact Int.natCast_pos.2 hpos
    simp only [truncate?, hratio, Option.some.injEq] at h
    simp only [compareInt, hratio, ne_eq, Option.some.injEq, Int.compare_eq_lt, Int.not_lt] at hle
    subst h
    cases negative with
    | false => exact (Int.le_ediv_iff_mul_le hden).2 hle
    | true =>
      have hneg : least * den ≤ -num := hle
      have hquot : (num / den : Int) ≤ -least :=
        Int.ediv_le_of_le_mul hden (by rw [Int.neg_mul]; exact Int.le_neg_of_le_neg hneg)
      change least ≤ -((num / den : Nat) : Int)
      rw [Int.natCast_ediv]
      exact Int.le_neg_of_le_neg hquot

/-- **The whole part** of a number that is not less than a bound is not less than it either. -/
theorem Number.le_of_toInt {n : Number} {least k : Int} (h : n.toInt = .ok k)
    (hle : n.lt (.int least) = false) : least ≤ k := by
  cases n with
  | int m =>
    obtain rfl : m = k := Except.ok.inj h
    simpa [lt] using hle
  | float x =>
    have hcompare : (Binary.ofFloat x).compareInt least ≠ some .lt := by simpa [lt] using hle
    simp only [toInt] at h
    split at h
    · cases h
    · split at h
      · rename_i htruncate
        obtain rfl := Except.ok.inj h
        exact Binary.le_of_truncate? htruncate hcompare
      · cases h

namespace Settings

/-- A whole number of the settings is not less than its least value, if its default is not. -/
theorem le_of_intAt {fields : Fields} {key : String} {default least n : Int}
    (h : intAt fields key default least = .ok n) (hdefault : least ≤ default) : least ≤ n := by
  rw [intAt] at h
  split at h
  · rename_i number haccepted
    refine Number.le_of_toInt h ?_
    simp only [acceptedNumber?] at haccepted
    split at haccepted
    · cases haccepted
    · split at haccepted
      · cases haccepted
      · rename_i hbound
        obtain rfl := Option.some.inj haccepted
        simpa using hbound
  · obtain ⟨-, rfl⟩ := Value.afterWriting_eq_ok.1 h
    exact hdefault

/-! ### The settings -/

/-- Settings whose whole numbers are in range. -/
structure InRange (settings : Settings) : Prop where
  /-- Snippets have room. -/
  snippetLength : 1 ≤ settings.snippetLength
  /-- Titles have room. -/
  titleLength : 1 ≤ settings.titleLength
  /-- A page has results. -/
  resultsPerPage : 1 ≤ settings.resultsPerPage
  /-- The second stage sees a hit. -/
  rescoreWindow : 1 ≤ settings.rescoreWindow
  /-- A simple search collects a document. -/
  simpleNodeLimit : 1 ≤ settings.simpleNodeLimit
  /-- A phrase search collects a document. -/
  phraseNodeLimit : 1 ≤ settings.phraseNodeLimit
  /-- The slop of a phrase is no negative number. -/
  phraseSlop : 0 ≤ settings.phraseSlop
  /-- Some slop is in range. -/
  phraseMaxSlop : 0 ≤ settings.phraseMaxSlop
  /-- The slop of words that stand near each other is no negative number. -/
  proximitySlop : ∀ spec ∈ settings.mainFields, 0 ≤ spec.proximitySlop

theorem proximitySlop_of_ofFields {fields : Fields} {spec : FieldSpec} (h : FieldSpec.ofFields fields = .ok spec) :
    0 ≤ spec.proximitySlop := by
  simp only [FieldSpec.ofFields, Outcome.bind_eq_ok, Outcome.pure_eq_ok] at h
  obtain ⟨name, -, boost, -, matching, -, slop, hslop, proximityBoost, -, rfl⟩ := h
  exact le_of_intAt hslop (by decide)

/-- **Settings that are read** are in range. -/
theorem inRange_of_ofSections {searchSection pageSection : Value} {settings : Settings}
    (h : ofSections searchSection pageSection = .ok settings) : settings.InRange := by
  simp only [ofSections, Outcome.bind_eq_ok, Outcome.pure_eq_ok] at h
  obtain ⟨search, -, indices, -, defaultIndices, -, language, -, languageField, -, hostname, -, hostnameExact, -,
    timeout, -, page, -, snippetLength, hsnippet, titleLength, htitle, resultsPerPage, hresults, simple, -,
    rescoreWindow, hwindow, simpleNodeLimit, hsimple, mainFields, hmain, queryFilters, -, rangeFilters, -, phrase, -,
    phraseSlop, hslop, phraseMaxSlop, hmaxSlop, phraseNodeLimit, hphrase, phraseFields, -, rfl⟩ := h
  refine ⟨le_of_intAt hsnippet (by decide), le_of_intAt htitle (by decide), le_of_intAt hresults (by decide),
    le_of_intAt hwindow (by decide), le_of_intAt hsimple (by decide), le_of_intAt hphrase (by decide),
    le_of_intAt hslop (by decide), le_of_intAt hmaxSlop (by decide), fun spec hspec => ?_⟩
  obtain ⟨fields, -, hread⟩ := Outcome.exists_of_mem_of_mapM hmain hspec
  exact proximitySlop_of_ofFields hread

/-! ### Requested numbers -/

/-- **A number that is asked for** is taken if it is one or more. -/
theorem atLeastOne_ofOption (default : Int) (requested : Option Int) :
    atLeastOne default (.ofOption .int requested) = .ok ((requested.filter (1 ≤ ·)).getD default) := by
  cases requested with
  | none => rfl
  | some n =>
    change (if (Number.int n).lt (.int 1) then Except.ok default else Except.ok n : Outcome Int) = _
    by_cases hn : 1 ≤ n
    · simp [Number.lt, Option.filter, hn, Int.not_lt.2 hn]
    · simp [Number.lt, Option.filter, hn, Int.not_le.1 hn]

theorem one_le_getD_filter {default : Int} (h : 1 ≤ default) (requested : Option Int) :
    1 ≤ (requested.filter (1 ≤ ·)).getD default := by
  cases hfilter : requested.filter (1 ≤ ·) with
  | none => exact h
  | some n => simpa using (Option.filter_eq_some_iff.1 hfilter).2

variable {settings : Settings}

theorem clampSlop_default (h : settings.InRange) :
    settings.clampSlop settings.phraseSlop = min settings.phraseSlop settings.phraseMaxSlop := by
  rw [clampSlop, Int.max_eq_right h.phraseSlop]

theorem clampSlop_of_mem {n : Int} (hlow : 0 ≤ n) (hhigh : n ≤ settings.phraseMaxSlop) : settings.clampSlop n = n := by
  rw [clampSlop, Int.max_eq_right hlow, Int.min_eq_left hhigh]

/-- The slop of a request that asks for one or for none. -/
def slopFor (settings : Settings) (requested : Option Int) : Int :=
  (requested.filter fun slop => 0 ≤ slop ∧ slop ≤ settings.phraseMaxSlop).getD
    (min settings.phraseSlop settings.phraseMaxSlop)

/-- **A slop that is asked for** is taken if it is in range, and is not put into the range else. -/
theorem resolveSlop_ofOption (h : settings.InRange) (requested : Option Int) :
    settings.resolveSlop (.ofOption .int requested) = .ok (settings.slopFor requested) := by
  cases requested with
  | none => exact congrArg Except.ok (clampSlop_default h)
  | some n =>
    change (if (Number.int n).lt (.int 0) || (Number.int settings.phraseMaxSlop).lt (.int n)
      then Except.ok (settings.clampSlop settings.phraseSlop) else Except.ok (settings.clampSlop n) : Outcome Int) = _
    by_cases hn : 0 ≤ n ∧ n ≤ settings.phraseMaxSlop
    · simp [Number.lt, slopFor, Option.filter, hn, clampSlop_of_mem hn.1 hn.2, Int.not_lt.2 hn.1, Int.not_lt.2 hn.2]
    · have hout : n < 0 ∨ settings.phraseMaxSlop < n := by omega
      simp [Number.lt, slopFor, Option.filter, hn, clampSlop_default h, hout]

theorem slopFor_mem (h : settings.InRange) (requested : Option Int) :
    0 ≤ settings.slopFor requested ∧ settings.slopFor requested ≤ settings.phraseMaxSlop := by
  rw [slopFor]
  cases hfilter : requested.filter fun slop => 0 ≤ slop ∧ slop ≤ settings.phraseMaxSlop with
  | none => exact ⟨Int.le_min.2 ⟨h.phraseSlop, h.phraseMaxSlop⟩, Int.min_le_right _ _⟩
  | some n => simpa using (Option.filter_eq_some_iff.1 hfilter).2

end Settings

end PageSearch
