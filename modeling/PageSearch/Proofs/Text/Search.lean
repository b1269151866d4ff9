import Mathlib.Data.List.Infix
import PageSearch.Text.Search

/-!
# First and last occurrences

`cutAt?` cuts a text at the first occurrence of another one. A text that is not empty stands at its
first occurrence if it is not found in what comes before its own end (`cutAt?_eq_some_iff`), and there
is no cut exactly if it does not occur at all (`cutAt?_eq_none_iff`). The first of these conditions can also be said by
positions (`infix_dropLast_iff`). `lastIndexOf?` gives the last position of a
character (`lastIndexOf?_eq_some_iff`). Whether a text stands at one place only can be decided (`onlyAfter_iff`).
-/

namespace PageSearch.Text

variable {sought : List Char}

/-- What stands somewhere and also at the beginning of a text is found before the end of the first place. -/
theorem occurs_dropLast_of_beginning {c : Char} {b t : List Char} (h : sought <+: c :: b ++ sought ++ t) :
    sought <:+: (c :: b ++ sought).dropLast := by
  have hpre : (c :: b ++ sought).dropLast <+: c :: b ++ sought ++ t :=
    (List.dropLast_prefix _).trans (List.prefix_append _ t)
  have hlen : sought.length ≤ (c :: b ++ sought).dropLast.length := by
    rw [List.length_dropLast, List.length_append, List.length_cons]
    omega
  exact (List.prefix_of_prefix_length_le h hpre hlen).isInfix

/-- **A cut** is made where the sought text stands and is not found before its own end. -/
theorem cutAt?_eq_some_iff (hne : sought ≠ []) {t before after : List Char} :
    cutAt? sought t = some (before, after) ↔
      t = before ++ sought ++ after ∧ ¬ sought <:+: (before ++ sought).dropLast := by
  have hlast : ¬ sought <:+: sought.dropLast := fun h => by
    have hle := h.length_le
    rw [List.length_dropLast] at hle
    have hpos := List.length_pos_of_ne_nil hne
    omega
  induction t generalizing before with
  | nil => simp [cutAt?, hne]
  | cons c t ih =>
    rw [cutAt?]
    split
    · -- the text begins with the sought one
      rename_i hp
      rw [List.isPrefixOf_iff_prefix] at hp
      simp only [Option.some.injEq, Prod.mk.injEq]
      constructor
      · rintro ⟨rfl, rfl⟩
        exact ⟨by simpa using (List.prefix_iff_eq_append.1 hp).symm, by simpa using hlast⟩
      · rintro ⟨ht, hfirst⟩
        cases before with
        | nil => simp [ht]
        | cons d before => exact absurd (occurs_dropLast_of_beginning (ht ▸ hp)) hfirst
    · -- it may begin later
      rename_i hp
      rw [List.isPrefixOf_iff_prefix] at hp
      simp only [Option.map_eq_some_iff, Prod.exists, Prod.mk.injEq]
      constructor
      · rintro ⟨b, a, hcut, rfl, rfl⟩
        obtain ⟨rfl, hfirst⟩ := ih.1 hcut
        refine ⟨by simp, ?_⟩
        have hne' : b ++ sought ≠ [] := by simp [hne]
        rw [List.cons_append, List.dropLast_cons_of_ne_nil hne', List.infix_cons_iff]
        rintro (h | h)
        · have hle : (c :: (b ++ sought).dropLast) <+: c :: (b ++ sought ++ a) :=
            List.cons_prefix_cons.2 ⟨rfl, (List.dropLast_prefix _).trans (List.prefix_append _ a)⟩
          exact hp (h.trans hle)
        · exact hfirst h
      · rintro ⟨ht, hfirst⟩
        cases before with
        | nil =>
          rw [ht] at hp
          exact absurd (by simp) hp
        | cons d before =>
          obtain ⟨rfl, rfl⟩ := List.cons.inj (by simpa using ht)
          refine ⟨before, after, ih.2 ⟨by simp, fun h => hfirst ?_⟩, rfl, rfl⟩
          have hne' : before ++ sought ≠ [] := by simp [hne]
          rw [List.cons_append, List.dropLast_cons_of_ne_nil hne']
          exact List.infix_cons h

/-- A text is found before the end of a place exactly if it stands at a position before that place. -/
theorem infix_dropLast_iff (hne : sought ≠ []) (before after : List Char) :
    sought <:+: (before ++ sought).dropLast ↔ ∃ i < before.length, sought <+: (before ++ sought ++ after).drop i := by
  have hpos := List.length_pos_of_ne_nil hne
  have hpre : (before ++ sought).dropLast <+: before ++ sought ++ after :=
    (List.dropLast_prefix _).trans (List.prefix_append _ after)
  have hlength : (before ++ sought).dropLast.length = before.length + sought.length - 1 := by
    rw [List.length_dropLast, List.length_append]
  constructor
  · rintro ⟨x, y, hxy⟩
    obtain ⟨z, hz⟩ := hpre
    rw [← hxy] at hz hlength
    simp only [List.length_append] at hlength
    refine ⟨x.length, by omega, ?_⟩
    rw [← hz, List.append_assoc, List.append_assoc, List.drop_left]
    exact List.prefix_append _ _
  · rintro ⟨i, hi, y, hy⟩
    generalize before ++ sought ++ after = text at *
    have htext : text = text.take i ++ sought ++ y := by rw [List.append_assoc, hy, List.take_append_drop]
    have hle : (text.take i ++ sought).length ≤ (before ++ sought).dropLast.length := by
      rw [hlength, List.length_append, List.length_take]
      omega
    have hother : text.take i ++ sought <+: text := ⟨y, htext.symm⟩
    have hshort := List.prefix_of_prefix_length_le hother hpre hle
    exact (List.suffix_append _ _).isInfix.trans hshort.isInfix

/-- There is no cut exactly if the sought text does not occur. -/
theorem cutAt?_eq_none_iff {t : List Char} : cutAt? sought t = none ↔ ¬ sought <:+: t := by
  induction t with
  | nil => simp [cutAt?]
  | cons c t ih =>
    rw [cutAt?, List.infix_cons_iff, ← List.isPrefixOf_iff_prefix]
    split
    · rename_i hp
      simp [hp]
    · rename_i hp
      simp [hp, ih]

/-! ### Last positions -/

theorem lastIndexOf?_eq_none_iff {c : Char} {s : List Char} : lastIndexOf? c s = none ↔ c ∉ s := by
  induction s with
  | nil => simp [lastIndexOf?]
  | cons d s ih =>
    rw [lastIndexOf?]
    cases h : lastIndexOf? c s with
    | none =>
      have hs : c ∉ s := ih.1 h
      by_cases hd : d = c
      · simp [hd]
      · simp [hd, hs, Ne.symm hd]
    | some i =>
      have hs : c ∈ s := by
        by_contra hnot
        rw [ih.2 hnot] at h
        cases h
      simp [hs]

/-- **The last position** of a character: it stands there and nowhere after that. -/
theorem lastIndexOf?_eq_some_iff {c : Char} {s : List Char} {i : Nat} :
    lastIndexOf? c s = some i ↔ s[i]? = some c ∧ ∀ j, i < j → s[j]? ≠ some c := by
  induction s generalizing i with
  | nil => simp [lastIndexOf?]
  | cons d s ih =>
    rw [lastIndexOf?]
    cases h : lastIndexOf? c s with
    | none =>
      have hs : ∀ j, s[j]? ≠ some c := fun j hj => lastIndexOf?_eq_none_iff.1 h (List.mem_of_getElem? hj)
      cases i with
      | zero =>
        constructor
        · intro hd
          refine ⟨by simpa using hd, fun j hj => ?_⟩
          cases j with
          | zero => omega
          | succ j => simpa using hs j
        · rintro ⟨hd, -⟩
          simpa using hd
      | succ i => simp [hs]
    | some k =>
      obtain ⟨hk, hlast⟩ := ih.1 h
      simp only [Option.some.injEq]
      constructor
      · rintro rfl
        refine ⟨by simpa using hk, fun j hj => ?_⟩
        cases j with
        | zero => omega
        | succ j => simpa using hlast j (by omega)
      · rintro ⟨hi, hnone⟩
        have hle : k + 1 ≤ i := Nat.le_of_not_lt fun hlt => hnone (k + 1) hlt (by simpa using hk)
        cases i with
        | zero => omega
        | succ i =>
          by_contra hne
          exact hlast i (by omega) (by simpa using hi)

/-! ### Only occurrences -/

/-- A text stands nowhere but after another one. -/
def OnlyAfter (before sought text : List Char) : Prop := ∀ x y, text = x ++ sought ++ y → x = before

theorem onlyAfter_iff {before text : List Char} :
    OnlyAfter before sought text ↔ ∀ n ≤ text.length, sought <+: text.drop n → text.take n = before := by
  constructor
  · rintro h n - ⟨y, hy⟩
    refine h _ y ?_
    rw [List.append_assoc, hy, List.take_append_drop]
  · rintro h x y rfl
    have hbefore := h x.length (by simp) ⟨y, by simp [List.append_assoc]⟩
    simpa [List.append_assoc] using hbefore

instance (before sought text : List Char) : Decidable (OnlyAfter before sought text) :=
  decidable_of_iff' _ onlyAfter_iff

end PageSearch.Text
