import PageSearch.Proofs.Text.Search

/-!
# Replacing a text

A text replaces a sought one in another text if it takes the place of the first occurrence, and of those in what comes
after it (`Replaces`). What comes out is determined by the texts (`Replaces.unique`), and if the sought text occurs, then
it also says which text was put in (`Replaces.value_unique`).
-/

namespace PageSearch.Text

variable {sought value value' t result result' : List Char}

/-- The text `value` stands in the place of every occurrence of `sought`, from the left on, and nothing else is changed. -/
inductive Replaces (sought value : List Char) : List Char → List Char → Prop
  /-- There is nothing to replace. -/
  | none {t : List Char} (h : ¬ sought <:+: t) : Replaces sought value t t
  /-- The first occurrence is replaced, and then those behind it. -/
  | first {before after rest : List Char} (h : ¬ sought <:+: (before ++ sought).dropLast)
      (hrest : Replaces sought value after rest) :
      Replaces sought value (before ++ sought ++ after) (before ++ value ++ rest)

theorem replaces_iff_eq (h : ¬ sought <:+: t) : Replaces sought value t result ↔ result = t := by
  constructor
  · intro hreplaces
    cases hreplaces with
    | none => rfl
    | @first before after rest => exact absurd (List.infix_append before sought after) h
  · rintro rfl
    exact .none h

/-- What is replaced in a text begins at its first cut. -/
theorem replaces_append_iff (hne : sought ≠ []) {before after : List Char}
    (hfirst : ¬ sought <:+: (before ++ sought).dropLast) :
    Replaces sought value (before ++ sought ++ after) result ↔
      ∃ rest, Replaces sought value after rest ∧ result = before ++ value ++ rest := by
  constructor
  · intro h
    have hcut : cutAt? sought (before ++ sought ++ after) = some (before, after) :=
      (cutAt?_eq_some_iff hne).2 ⟨rfl, hfirst⟩
    generalize htext : before ++ sought ++ after = text at h hcut
    cases h with
    | none hnot => exact absurd (cutAt?_eq_none_iff.2 hnot ▸ hcut) (by simp)
    | @first before' after' rest hfirst' hrest =>
      rw [(cutAt?_eq_some_iff hne).2 ⟨rfl, hfirst'⟩] at hcut
      obtain ⟨rfl, rfl⟩ := Prod.mk.inj (Option.some.inj hcut)
      exact ⟨rest, hrest, rfl⟩
  · rintro ⟨rest, hrest, rfl⟩
    exact .first hfirst hrest

/-- **What comes out** is determined. -/
theorem Replaces.unique (hne : sought ≠ []) (h : Replaces sought value t result)
    (h' : Replaces sought value t result') : result = result' := by
  induction h generalizing result' with
  | none hnot => exact ((replaces_iff_eq hnot).1 h').symm
  | first hfirst _ ih =>
    obtain ⟨rest', hrest', rfl⟩ := (replaces_append_iff hne hfirst).1 h'
    rw [ih hrest']

/-- A longer text makes the result no shorter. -/
theorem Replaces.length_le (hne : sought ≠ []) (h : Replaces sought value t result)
    (h' : Replaces sought value' t result') (hle : value.length ≤ value'.length) : result.length ≤ result'.length := by
  induction h generalizing result' with
  | none hnot => rw [(replaces_iff_eq hnot).1 h']
  | first hfirst _ ih =>
    obtain ⟨rest', hrest', rfl⟩ := (replaces_append_iff hne hfirst).1 h'
    have hrests := ih hrest'
    simp only [List.length_append]
    omega

/-- **The text that is put in** is determined by what comes out, if there is an occurrence. -/
theorem Replaces.value_unique (hne : sought ≠ []) (hsought : sought <:+: t) (h : Replaces sought value t result)
    (h' : Replaces sought value' t result) : value = value' := by
  cases h with
  | none hnot => exact absurd hsought hnot
  | @first before after rest hfirst hrest =>
    obtain ⟨rest', hrest', heq⟩ := (replaces_append_iff hne hfirst).1 h'
    rw [List.append_assoc, List.append_assoc, List.append_cancel_left_eq] at heq
    -- if one of the two were shorter, then so would be all that follows before the cut
    have hlength : value.length + rest.length = value'.length + rest'.length := by
      simpa only [List.length_append] using congrArg List.length heq
    have hvalues : value.length = value'.length := by
      rcases Nat.le_total value.length value'.length with hle | hle
      · have hrests := hrest.length_le hne hrest' hle
        omega
      · have hrests := hrest'.length_le hne hrest hle
        omega
    exact (List.append_inj heq hvalues).1

/-- A character at which the sought text does not begin stays in front. -/
theorem Replaces.cons (hne : sought ≠ []) {c : Char} (hc : ¬ sought <+: c :: t) (h : Replaces sought value t result) :
    Replaces sought value (c :: t) (c :: result) := by
  cases h with
  | none hnot => exact .none fun hinfix => (List.infix_cons_iff.1 hinfix).elim hc hnot
  | @first before after rest hfirst hrest =>
    change Replaces sought value (c :: before ++ sought ++ after) (c :: before ++ value ++ rest)
    refine .first (fun hinfix => ?_) hrest
    rw [List.cons_append, List.dropLast_cons_of_ne_nil (List.append_ne_nil_of_right_ne_nil before hne),
      List.infix_cons_iff] at hinfix
    refine hinfix.elim (fun hpre => hc (hpre.trans ?_)) hfirst
    exact List.cons_prefix_cons.2 ⟨rfl, (List.dropLast_prefix _).trans (List.prefix_append _ after)⟩

end PageSearch.Text
