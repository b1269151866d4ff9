import Mathlib.Data.List.Chain
import PageSearch.Proofs.Snippet.Cleansing

/-!
# The normal form of a text to show

Cleansing removes hidden characters first and collapses runs of blanks after that, so that runs with only hidden
characters between them become one. Collapsing leaves the words with single spaces between them, and blanks at the ends
at most (`exists_collapse_eq`), which are trimmed. So what comes out are the words of the visible text with single
spaces between them (`cleanseChars_true_eq`).

Such a text is in normal form (`isNormal_intercalate`), and cleansing changes nothing in a text exactly if it is in
normal form (`cleanseChars_eq_self_iff`). So a text that was cleansed is not changed again, also if its runs of blanks
were kept at first (`cleanse_isNormal`).
-/

namespace PageSearch.Snippet

open Text

/-- **A text to show in normal form.** -/
structure IsNormal (s : List Char) : Prop where
  /-- There are no control characters and no marks. -/
  shown : ∀ c ∈ s, isControl c = false ∧ isMark c = false
  /-- The only blanks are spaces. -/
  space : ∀ c ∈ s, isBlank c = true → c = ' '
  /-- Of two characters next to each other one is no blank. -/
  single : s.IsChain fun c d => isBlank c = false ∨ isBlank d = false
  /-- There are no blanks at the ends. -/
  trimmed : Trimmed s

/-! ### Runs of blanks -/

theorem collapseFrom_true_append {a : List Char} (ha : AllBlank a) (s : List Char) :
    collapseFrom true (a ++ s) = collapseFrom true s := by
  induction a with
  | nil => rfl
  | cons c a ih =>
    obtain ⟨hc, ha⟩ := List.forall_mem_cons.1 ha
    rw [List.cons_append, collapseFrom, if_pos hc, if_pos rfl]
    exact ih ha

/-- Within a run the space before the first word is left out. -/
theorem exists_collapseFrom_true_eq (s : List Char) :
    ∃ b, AllBlank b ∧ collapseFrom true s = [' '].intercalate (words s) ++ b := by
  generalize hws : words s = ws
  induction ws generalizing s with
  | nil =>
    have hblank : AllBlank s := words_eq_nil_iff.1 hws
    refine ⟨[], allBlank_nil, ?_⟩
    have hnone := collapseFrom_true_append hblank []
    simpa [collapseFrom] using hnone
  | cons w ws ih =>
    obtain ⟨a, y, ha, hw, hy, rfl, hwords⟩ := exists_of_words_eq_cons hws
    rw [List.append_assoc, collapseFrom_true_append ha, collapseFrom_append_of_solid hw.2 hw.1]
    cases y with
    | nil =>
      obtain rfl : ws = [] := by simpa using hwords.symm
      exact ⟨[], allBlank_nil, by simp [collapseFrom]⟩
    | cons c y =>
      have hc : isBlank c = true := by simpa using hy
      rw [words_cons_of_isBlank hc] at hwords
      obtain ⟨b, hb, hcollapse⟩ := ih y hwords
      have hstep : collapseFrom false (c :: y) = ' ' :: ([' '].intercalate ws ++ b) := by
        rw [← hcollapse, collapseFrom, if_pos hc, if_neg Bool.false_ne_true]
      rw [hstep]
      cases ws with
      | nil =>
        -- the text ends with this run
        refine ⟨' ' :: b, ?_, by simp⟩
        intro d hd
        rcases List.mem_cons.1 hd with rfl | hd
        · decide
        · exact hb d hd
      | cons v vs => exact ⟨b, hb, by simp [List.intercalate_cons_cons]⟩

/-- **Collapsing** leaves the words with single spaces between them, and blanks at the ends at most. -/
theorem exists_collapse_eq (s : List Char) :
    ∃ a b, AllBlank a ∧ AllBlank b ∧ collapse s = a ++ [' '].intercalate (words s) ++ b := by
  obtain ⟨b, hb, hcollapse⟩ := exists_collapseFrom_true_eq s
  have hfirst : ∃ a, AllBlank a ∧ collapse s = a ++ collapseFrom true s := by
    cases s with
    | nil => exact ⟨[], allBlank_nil, rfl⟩
    | cons c s =>
      by_cases hc : isBlank c = true
      · exact ⟨[' '], by decide, by simp [collapse, collapseFrom, hc]⟩
      · exact ⟨[], allBlank_nil, by simp [collapse, collapseFrom, hc]⟩
  obtain ⟨a, ha, hstart⟩ := hfirst
  exact ⟨a, b, ha, hb, by rw [hstart, hcollapse, List.append_assoc]⟩

/-! ### Words with single spaces -/

theorem IsInert.shown {c : Char} (h : IsInert c) : isControl c = false ∧ isMark c = false := by
  obtain ⟨hblank, hhidden⟩ := h
  simpa [isHidden, hblank, and_comm] using hhidden

theorem isNormal_nil : IsNormal [] := ⟨by simp, by simp, List.isChain_nil, by simp [Trimmed]⟩

/-- A word is in normal form if all of it can be seen. -/
theorem isNormal_of_inert {w : List Char} (h : ∀ c ∈ w, IsInert c) : IsNormal w where
  shown c hc := (h c hc).shown
  space c hc hblank := absurd hblank (by simp [(h c hc).1])
  single := by
    refine List.isChain_iff_forall_rel_of_append_cons_cons.2 fun {c d x y} hw => .inl ?_
    exact (h c (by simp [hw])).1
  trimmed :=
    ⟨fun c hc => by simpa using (h c (List.mem_of_mem_head? hc)).1,
      fun c hc => by simpa using (h c (List.mem_of_mem_getLast? hc)).1⟩

/-- A word and a space may stand before a text in normal form. -/
theorem IsNormal.word_append {w s : List Char} (hs : IsNormal s) (hne : s ≠ []) (hw : IsNormal w) (hwne : w ≠ []) :
    IsNormal (w ++ ' ' :: s) where
  shown := by
    intro c hc
    rcases List.mem_append.1 hc with hc | hc
    · exact hw.shown c hc
    · rcases List.mem_cons.1 hc with rfl | hc
      · decide
      · exact hs.shown c hc
  space := by
    intro c hc hblank
    rcases List.mem_append.1 hc with hc | hc
    · exact hw.space c hc hblank
    · rcases List.mem_cons.1 hc with rfl | hc
      · rfl
      · exact hs.space c hc hblank
  single := by
    rw [List.isChain_append, List.isChain_cons]
    refine ⟨hw.single, ⟨fun d hd => .inr ?_, hs.single⟩, fun c hc _ _ => .inl ?_⟩
    · simpa using hs.trimmed.1 d hd
    · simpa using hw.trimmed.2 c hc
  trimmed := by
    constructor
    · intro c hc
      rw [List.head?_append_of_ne_nil _ hwne] at hc
      exact hw.trimmed.1 c hc
    · intro c hc
      rw [List.getLast?_append_of_ne_nil _ (List.cons_ne_nil _ _), List.getLast?_cons_of_ne_nil hne] at hc
      exact hs.trimmed.2 c hc

theorem intercalate_ne_nil {v : List Char} (hv : v ≠ []) (vs : List (List Char)) :
    [' '].intercalate (v :: vs) ≠ [] := by
  cases vs with
  | nil => simpa using hv
  | cons u us => simp [List.intercalate_cons_cons]

/-- **Words with single spaces between them** are in normal form. -/
theorem isNormal_intercalate {ws : List (List Char)} (h : ∀ w ∈ ws, w ≠ [] ∧ ∀ c ∈ w, IsInert c) :
    IsNormal ([' '].intercalate ws) := by
  induction ws with
  | nil => exact isNormal_nil
  | cons w ws ih =>
    obtain ⟨⟨hne, hinert⟩, hws⟩ := List.forall_mem_cons.1 h
    cases ws with
    | nil => simpa using isNormal_of_inert hinert
    | cons v vs =>
      have hv : v ≠ [] := (hws v List.mem_cons_self).1
      rw [List.intercalate_cons_cons, List.append_assoc, List.singleton_append]
      exact (ih hws).word_append (intercalate_ne_nil hv vs) (isNormal_of_inert hinert) hne

theorem trim_collapse (s : List Char) : trim (collapse s) = trim ([' '].intercalate (words s)) := by
  obtain ⟨a, b, ha, hb, hcollapse⟩ := exists_collapse_eq s
  rw [hcollapse, trim_append_of_allBlank ha hb]

/-! ### Cleansing -/

/-- The words of the visible text can be seen as they are. -/
theorem inert_of_mem_words {s w : List Char} (h : w ∈ words (removeHidden s)) : w ≠ [] ∧ ∀ c ∈ w, IsInert c := by
  obtain ⟨hne, hsolid⟩ := isWord_of_mem_words h
  refine ⟨hne, fun c hc => ⟨by simpa using hsolid c hc, ?_⟩⟩
  have hmem := (infix_of_mem_words h).subset hc
  simpa [removeHidden] using (List.mem_filter.1 hmem).2

theorem isNormal_words (s : List Char) : IsNormal ([' '].intercalate (words (removeHidden s))) :=
  isNormal_intercalate fun _ hw => inert_of_mem_words hw

/-- **A cleansed text** is made of the words of the visible text, with single spaces between them. -/
theorem cleanseChars_true_eq (s : List Char) :
    cleanseChars true s = [' '].intercalate (words (removeHidden s)) := by
  show trim (collapse (removeHidden s)) = _
  rw [trim_collapse, (isNormal_words s).trimmed.trim_eq]

theorem cleanseChars_false_eq (s : List Char) : cleanseChars false s = trim (removeHidden s) := rfl

/-! ### Cleansing again -/

theorem IsNormal.removeHidden_eq {s : List Char} (h : IsNormal s) : removeHidden s = s := by
  refine List.filter_eq_self.2 fun c hc => ?_
  obtain ⟨hcontrol, hmark⟩ := h.shown c hc
  simp [isHidden, hcontrol, hmark]

/-- Single spaces are kept, unless one comes first and a blank stood before it. -/
theorem collapseFrom_eq_self {s : List Char} (hspace : ∀ c ∈ s, isBlank c = true → c = ' ')
    (hsingle : s.IsChain fun c d => isBlank c = false ∨ isBlank d = false) {inRun : Bool}
    (hrun : inRun = true → ∀ c ∈ s.head?, isBlank c = false) : collapseFrom inRun s = s := by
  induction s generalizing inRun with
  | nil => rfl
  | cons c s ih =>
    obtain ⟨hc, hspace⟩ := List.forall_mem_cons.1 hspace
    obtain ⟨hnext, hsingle⟩ := List.isChain_cons.1 hsingle
    rw [collapseFrom]
    by_cases hblank : isBlank c = true
    · have hfirst : inRun = false := by
        by_contra hin
        have hsolid := hrun (by simpa using hin) c rfl
        rw [hsolid] at hblank
        cases hblank
      have hrest : collapseFrom true s = s :=
        ih hspace hsingle fun _ d hd => (hnext d hd).resolve_left (by simp [hblank])
      rw [if_pos hblank, hfirst, if_neg Bool.false_ne_true, hrest, hc hblank]
    · have hrest : collapseFrom false s = s := ih hspace hsingle fun hrun => absurd hrun Bool.false_ne_true
      rw [if_neg hblank, hrest]

theorem IsNormal.cleanseChars_eq {s : List Char} (h : IsNormal s) : cleanseChars true s = s := by
  have hcollapse : collapse s = s := collapseFrom_eq_self h.space h.single fun hrun => absurd hrun Bool.false_ne_true
  show trim (collapse (removeHidden s)) = s
  rw [h.removeHidden_eq, hcollapse, h.trimmed.trim_eq]

/-- **Texts in normal form** are those that cleansing does not change. -/
theorem cleanseChars_eq_self_iff {s : List Char} : cleanseChars true s = s ↔ IsNormal s := by
  constructor
  · intro h
    rw [← h, cleanseChars_true_eq]
    exact isNormal_words s
  · exact IsNormal.cleanseChars_eq

/-- Where nothing hidden is left, nothing more is removed. -/
theorem removeHidden_eq_self {s t : List Char} (h : t.Sublist (removeHidden s)) : removeHidden t = t :=
  List.filter_eq_self.2 fun _ hc => (List.mem_filter.1 (h.subset hc)).2

theorem removeHidden_cleanseChars_false (s : List Char) :
    removeHidden (cleanseChars false s) = cleanseChars false s :=
  removeHidden_eq_self (trim_sublist (removeHidden s))

theorem cleanseChars_removeHidden (collapsing : Bool) (s : List Char) :
    cleanseChars collapsing (removeHidden s) = cleanseChars collapsing s := by
  unfold cleanseChars
  rw [removeHidden_eq_self (List.Sublist.refl (removeHidden s))]

theorem toList_cleanse (s : String) (collapsing : Bool) :
    (cleanse s collapsing).toList = cleanseChars collapsing s.toList := by
  rw [cleanse, String.toList_ofList]

/-- A text among values is cleansed as a text. -/
theorem cleanseValue_str (s : String) (collapsing : Bool) :
    cleanseValue (.str s) collapsing = .ok (cleanse s collapsing) := by
  unfold cleanseValue
  split
  · show Except.ok (String.ofList (cleanseChars collapsing (removeHidden s.toList))) = _
    rw [cleanseChars_removeHidden]
    rfl
  · next hempty =>
    obtain rfl : s = "" := by simpa [Value.isTruthy] using hempty
    cases collapsing <;> rfl

/-- **Cleansing yields a normal form**, for every text. With its runs of blanks collapsed a text becomes the words of
its visible text with single spaces between them. With these runs kept it becomes its visible text, trimmed. No text
is changed by cleansing it again, and to keep the runs first makes no difference. -/
theorem cleanse_isNormal (s : String) :
    (∀ collapsing, cleanseValue (.str s) collapsing = .ok (cleanse s collapsing)) ∧
      (cleanse s true).toList = [' '].intercalate (words (removeHidden s.toList)) ∧
      IsNormal (cleanse s true).toList ∧ cleanse (cleanse s true) true = cleanse s true ∧
      (cleanse s false).toList = trim (removeHidden s.toList) ∧
      cleanse (cleanse s false) false = cleanse s false ∧ cleanse (cleanse s false) true = cleanse s true := by
  have hwords : (cleanse s true).toList = [' '].intercalate (words (removeHidden s.toList)) := by
    rw [toList_cleanse, cleanseChars_true_eq]
  have hnormal : IsNormal (cleanse s true).toList := hwords ▸ isNormal_words s.toList
  refine ⟨cleanseValue_str s, hwords, hnormal, ?_, toList_cleanse s false, ?_, ?_⟩
  · rw [← String.toList_inj, toList_cleanse, cleanseChars_eq_self_iff.2 hnormal]
  · rw [← String.toList_inj, toList_cleanse, toList_cleanse, cleanseChars_false_eq, removeHidden_cleanseChars_false,
      cleanseChars_false_eq, (trimmed_trim _).trim_eq]
  · rw [← String.toList_inj, toList_cleanse, toList_cleanse, toList_cleanse, cleanseChars_true_eq,
      removeHidden_cleanseChars_false, cleanseChars_false_eq, words_trim, cleanseChars_true_eq]

end PageSearch.Snippet
