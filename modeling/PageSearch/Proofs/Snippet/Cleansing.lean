import PageSearch.Proofs.Text.Words
import PageSearch.Snippet.Cleansing

/-!
# Cleansing and characters that are written as texts

Cleansing looks at blanks and at hidden characters only. If each other character is written as a text of such
characters, and blanks and hidden ones as themselves, then it does not matter whether a text is cleansed before or
after it is written in this way (`cleanseChars_flatMap`). Cleansing never makes a text longer
(`length_cleanseChars_le`).
-/

namespace PageSearch.Snippet

open Text

/-- A character that cleansing leaves alone wherever it stands. -/
def IsInert (c : Char) : Prop := isBlank c = false ∧ isHidden c = false

instance : DecidablePred IsInert := fun _ => inferInstanceAs (Decidable (_ ∧ _))

/-- A way of writing characters that cleansing does not see. -/
structure IsSpelling (f : Char → List Char) : Prop where
  /-- What cleansing looks at is written as itself. -/
  self : ∀ c, ¬ IsInert c → f c = [c]
  /-- What it leaves alone is written as something. -/
  ne_nil : ∀ c, IsInert c → f c ≠ []
  /-- What it leaves alone is written with such characters. -/
  inert : ∀ c, IsInert c → ∀ d ∈ f c, IsInert d

variable {f : Char → List Char}

theorem not_isInert_of_isBlank {c : Char} (h : isBlank c = true) : ¬ IsInert c :=
  fun hinert => absurd h (by simp [hinert.1])

theorem IsSpelling.flatMap_of_allBlank (hf : IsSpelling f) {s : List Char} (h : AllBlank s) : s.flatMap f = s := by
  induction s with
  | nil => rfl
  | cons c s ih =>
    obtain ⟨hc, hs⟩ := List.forall_mem_cons.1 h
    rw [List.flatMap_cons, hf.self c (not_isInert_of_isBlank hc), ih hs, List.singleton_append]

/-- What is no blank is written without blanks. -/
theorem IsSpelling.solid (hf : IsSpelling f) {c : Char} (hc : isBlank c = false) : Solid (f c) := by
  intro d hd
  by_cases hinert : IsInert c
  · simpa using (hf.inert c hinert d hd).1
  · rw [hf.self c hinert, List.mem_singleton] at hd
    simpa [hd] using hc

theorem IsSpelling.apply_ne_nil (hf : IsSpelling f) (c : Char) : f c ≠ [] := by
  by_cases hinert : IsInert c
  · exact hf.ne_nil c hinert
  · rw [hf.self c hinert]
    exact List.cons_ne_nil c []

/-! ### Hidden characters -/

theorem removeHidden_flatMap (hf : IsSpelling f) (s : List Char) :
    removeHidden (s.flatMap f) = (removeHidden s).flatMap f := by
  induction s with
  | nil => rfl
  | cons c s ih =>
    have hsplit : removeHidden ((c :: s).flatMap f) = removeHidden (f c) ++ removeHidden (s.flatMap f) := by
      rw [List.flatMap_cons, removeHidden, List.filter_append]
      rfl
    have hmove : removeHidden (f c) = (removeHidden [c]).flatMap f := by
      by_cases hinert : IsInert c
      · have hkept : removeHidden (f c) = f c :=
          List.filter_eq_self.2 fun d hd => by simp [(hf.inert c hinert d hd).2]
        rw [hkept]
        simp [removeHidden, hinert.2]
      · rw [hf.self c hinert]
        by_cases hhidden : isHidden c = true
        · simp [removeHidden, hhidden]
        · simp [removeHidden, hhidden, hf.self c hinert]
    rw [hsplit, hmove, ih, ← List.flatMap_append, ← List.singleton_append (l := s)]
    simp only [removeHidden, List.filter_append]

/-! ### Runs of blanks -/

/-- A text without blanks ends a run. -/
theorem collapseFrom_append_of_solid {x : List Char} (hx : Solid x) (hne : x ≠ []) (inRun : Bool)
    (y : List Char) : collapseFrom inRun (x ++ y) = x ++ collapseFrom false y := by
  induction x generalizing inRun with
  | nil => exact absurd rfl hne
  | cons c x ih =>
    obtain ⟨hc, hx⟩ := solid_cons.1 hx
    rw [List.cons_append, collapseFrom, hc, List.cons_append]
    cases x with
    | nil => rfl
    | cons d x => exact congrArg (c :: ·) (ih hx (List.cons_ne_nil d x) false)

theorem collapseFrom_flatMap (hf : IsSpelling f) (inRun : Bool) (s : List Char) :
    collapseFrom inRun (s.flatMap f) = (collapseFrom inRun s).flatMap f := by
  have hspace : f ' ' = [' '] := hf.self ' ' (by decide)
  induction s generalizing inRun with
  | nil => rfl
  | cons c s ih =>
    by_cases hc : isBlank c = true
    · rw [List.flatMap_cons, hf.self c (not_isInert_of_isBlank hc), List.singleton_append, collapseFrom,
        collapseFrom, if_pos hc, if_pos hc]
      cases inRun with
      | true => exact ih true
      | false => simp [ih true, hspace]
    · have hc' : isBlank c = false := Bool.eq_false_iff.2 hc
      rw [List.flatMap_cons, collapseFrom_append_of_solid (hf.solid hc') (hf.apply_ne_nil c), ih false,
        collapseFrom, if_neg hc, List.flatMap_cons]

/-! ### Trimming -/

theorem IsSpelling.trimmed_flatMap (hf : IsSpelling f) {s : List Char} (h : Trimmed s) : Trimmed (s.flatMap f) := by
  constructor
  · cases s with
    | nil => simp
    | cons c s =>
      have hc : isBlank c = false := by simpa using h.1 c rfl
      obtain ⟨d, x, hd⟩ := List.exists_cons_of_ne_nil (hf.apply_ne_nil c)
      have hsolid := hf.solid hc
      rw [hd, solid_cons] at hsolid
      simp [hd, hsolid.1]
  · induction s using List.reverseRecOn with
    | nil => simp
    | append_singleton s c _ =>
      have hc : isBlank c = false := by simpa using h.2 c (by simp)
      intro d hd
      rw [List.flatMap_append, List.flatMap_singleton, List.getLast?_append_of_ne_nil _ (hf.apply_ne_nil c)] at hd
      exact hf.solid hc d (List.mem_of_mem_getLast? hd)

theorem trim_flatMap (hf : IsSpelling f) (s : List Char) : trim (s.flatMap f) = (trim s).flatMap f := by
  obtain ⟨b, hb, hs⟩ := exists_eq_append_trim_append s
  have ha := allBlank_takeWhile s
  conv_lhs => rw [hs]
  rw [List.flatMap_append, List.flatMap_append, hf.flatMap_of_allBlank ha, hf.flatMap_of_allBlank hb,
    trim_append_of_allBlank ha hb]
  exact (hf.trimmed_flatMap (trimmed_trim s)).trim_eq

/-! ### Cleansing -/

/-- **Cleansing does not see** how characters are written. -/
theorem cleanseChars_flatMap (hf : IsSpelling f) (collapsing : Bool) (s : List Char) :
    cleanseChars collapsing (s.flatMap f) = (cleanseChars collapsing s).flatMap f := by
  rw [cleanseChars, cleanseChars, removeHidden_flatMap hf]
  cases collapsing with
  | false => exact trim_flatMap hf _
  | true =>
    change trim (collapseFrom false _) = (trim (collapseFrom false _)).flatMap f
    rw [collapseFrom_flatMap hf, trim_flatMap hf]

theorem length_collapseFrom_le (inRun : Bool) (s : List Char) : (collapseFrom inRun s).length ≤ s.length := by
  induction s generalizing inRun with
  | nil => exact Nat.le_refl 0
  | cons c s ih =>
    rw [collapseFrom]
    split
    · split
      · exact (ih true).trans (Nat.le_succ _)
      · exact Nat.succ_le_succ (ih true)
    · exact Nat.succ_le_succ (ih false)

/-- A text to show is not longer than the text that it is made from. -/
theorem length_cleanseChars_le (collapsing : Bool) (s : List Char) :
    (cleanseChars collapsing s).length ≤ s.length := by
  have hvisible : (removeHidden s).length ≤ s.length := List.length_filter_le _ s
  rw [cleanseChars]
  refine (trim_sublist _).length_le.trans ?_
  cases collapsing with
  | false => exact hvisible
  | true => exact (length_collapseFrom_le false _).trans hvisible

end PageSearch.Snippet
