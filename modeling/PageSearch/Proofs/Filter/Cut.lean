import PageSearch.Filter.Token
import PageSearch.Proofs.Text.Search
import PageSearch.Proofs.Text.Words

/-!
# Cutting a text at a filter

`Cut.IsFirst` says on its own what it is to cut a text at the first filter of a keyword, and
`cut?_eq_some_iff` that `cut?` does that. What is left of the text is clipped from it, and has lost
the opening and the value only (`Cut.IsFirst.clipped`, `Cut.IsFirst.filter_isSolid_perm`). The places
that are given by `findSpan?` are those of the cuts (`findSpan?_eq_map_cut?`).
-/

namespace PageSearch.Filter

open Text

variable {keyword text : List Char} {c : Cut}

/-! ### Openings -/

theorem opening_ne_nil : opening keyword ≠ [] := by simp [opening]

theorem solid_opening (h : Solid keyword) : Solid (opening keyword) := by
  simp only [opening, solid_append, h, solid_cons, solid_nil, and_true, true_and]
  decide

/-! ### First cuts -/

/-- The cut is made at the first filter of a keyword. -/
structure Cut.IsFirst (c : Cut) (keyword text : List Char) : Prop where
  /-- Its parts and the opening make up the text. -/
  text_eq : text = c.before ++ opening keyword ++ c.gap ++ c.value ++ c.after
  /-- The opening is not found before its own end. -/
  first : ¬ opening keyword <:+: (c.before ++ opening keyword).dropLast
  /-- Only blanks stand between the colon and the value. -/
  gap : AllBlank c.gap
  /-- There is no blank in the value. -/
  value : Solid c.value
  /-- The value ends at a blank or at the end of the text. -/
  after : BeginsBlank c.after
  /-- Without a value the text is at its end. -/
  full : c.value = [] → c.after = []

theorem takeWhile_dropWhile_isSolid {v a : List Char} (hv : Solid v) (ha : BeginsBlank a) :
    (v ++ a).takeWhile isSolid = v ∧ (v ++ a).dropWhile isSolid = a := by
  rw [List.takeWhile_append_of_pos hv, List.dropWhile_append_of_pos hv]
  cases a with
  | nil => simp
  | cons b a =>
    have hb : isSolid b = false := by simpa [isSolid] using ha
    simp [hb]

/-- What stands after the first blanks is empty or begins with a value. -/
theorem dropWhile_isBlank_eq_nil_of_takeWhile {s : List Char}
    (h : (s.dropWhile isBlank).takeWhile isSolid = []) : s.dropWhile isBlank = [] := by
  rcases allBlank_or_exists_eq_append_cons s with hs | ⟨a, b, r, ha, hb, rfl⟩
  · exact List.dropWhile_eq_nil_iff.2 hs
  · rw [List.dropWhile_append_of_pos ha] at h
    simp [hb, isSolid] at h

/-- **`cut?` cuts at the first filter.** -/
theorem cut?_eq_some_iff : cut? keyword text = some c ↔ c.IsFirst keyword text := by
  simp only [cut?, Option.map_eq_some_iff, Prod.exists]
  constructor
  · rintro ⟨before, rest, hcut, rfl⟩
    obtain ⟨rfl, hfirst⟩ := (cutAt?_eq_some_iff opening_ne_nil).1 hcut
    refine ⟨?_, hfirst, allBlank_takeWhile rest, solid_takeWhile _, beginsBlank_dropWhile_isSolid _, ?_⟩
    · simp only [List.append_assoc, List.takeWhile_append_dropWhile]
    · intro hv
      rw [dropWhile_isBlank_eq_nil_of_takeWhile hv, List.dropWhile_nil]
  · obtain ⟨before, gap, value, after⟩ := c
    rintro ⟨rfl, hfirst, hgap, hvalue, hafter, hfull⟩
    simp only at hfirst hgap hvalue hafter hfull ⊢
    refine ⟨before, gap ++ (value ++ after), (cutAt?_eq_some_iff opening_ne_nil).2 ⟨?_, hfirst⟩, ?_⟩
    · simp only [List.append_assoc]
    · have hstart : (value ++ after).takeWhile isBlank = [] ∧
          (value ++ after).dropWhile isBlank = value ++ after := by
        cases value with
        | nil => simp [hfull rfl]
        | cons b v => simp [(solid_cons.1 hvalue).1]
      obtain ⟨htake, hdrop⟩ := takeWhile_dropWhile_isSolid hvalue hafter
      rw [List.takeWhile_append_of_pos hgap, List.dropWhile_append_of_pos hgap, hstart.1, hstart.2,
        htake, hdrop, List.append_nil]

theorem cut?_eq_none_iff : cut? keyword text = none ↔ ¬ opening keyword <:+: text := by
  rw [cut?, Option.map_eq_none_iff, cutAt?_eq_none_iff]

/-! ### What a cut takes away -/

namespace Cut.IsFirst

theorem clipped (h : c.IsFirst keyword text) : Clipped c.remainder text := by
  have heq : text = c.before ++ (opening keyword ++ c.gap ++ c.value) ++ c.after := by
    simp only [h.text_eq, List.append_assoc]
  rw [heq]
  exact clipped_cut h.after _ _

theorem sublist (h : c.IsFirst keyword text) : c.remainder.Sublist text := by
  rw [h.text_eq, List.append_assoc, List.append_assoc, List.append_assoc, ← List.append_assoc c.gap,
    ← List.append_assoc (opening keyword)]
  exact List.sublist_append_right _ c.after |>.append_left c.before

theorem value_isInfix (h : c.IsFirst keyword text) : c.value <:+: text := by
  rw [h.text_eq]
  exact List.infix_append _ _ _

/-- The opening and the value are taken out, and nothing else that is not blank. -/
theorem filter_isSolid_perm (h : c.IsFirst keyword text) :
    (text.filter isSolid).Perm
      (c.remainder.filter isSolid ++ (keyword.filter isSolid ++ ':' :: c.value)) := by
  have hgap : c.gap.filter isSolid = [] := List.filter_eq_nil_iff.2 fun b hb => by simp [h.gap b hb]
  have hvalue : c.value.filter isSolid = c.value := List.filter_eq_self.2 h.value
  have hcolon : isSolid ':' = true := by decide
  have htext : text.filter isSolid =
      c.before.filter isSolid ++ ((keyword.filter isSolid ++ ':' :: c.value) ++ c.after.filter isSolid) := by
    rw [h.text_eq, opening]
    simp only [List.filter_append, List.append_assoc, List.cons_append, List.nil_append,
      List.filter_cons_of_pos hcolon, hgap, hvalue]
  rw [htext, Cut.remainder, List.filter_append, List.append_assoc (c.before.filter isSolid)]
  exact List.perm_append_comm.append_left _

end Cut.IsFirst

/-! ### Spans -/

/-- The filter that a cut takes out. -/
def Cut.token (c : Cut) (keyword : List Char) : List Char := opening keyword ++ c.gap ++ c.value

theorem Cut.IsFirst.eq_append_token (h : c.IsFirst keyword text) :
    text = c.before ++ c.token keyword ++ c.after := by
  rw [Cut.token]
  simpa only [List.append_assoc] using h.text_eq

/-- The position after the filter that a cut takes out. -/
def Cut.stop (c : Cut) (keyword : List Char) : Nat := c.before.length + (c.token keyword).length

/-- The place of the filter that a cut takes out. -/
def Cut.span (c : Cut) (keyword : List Char) : Span where
  start := c.before.length
  stop := c.stop keyword
  value := String.ofList c.value

theorem spanAt_eq (before rest : List Char) :
    spanAt (before ++ opening keyword ++ rest) before.length (opening keyword).length =
      Cut.span ⟨before, rest.takeWhile isBlank, (rest.dropWhile isBlank).takeWhile isSolid,
        (rest.dropWhile isBlank).dropWhile isSolid⟩ keyword := by
  have hdrop : (before ++ opening keyword ++ rest).drop (before.length + (opening keyword).length) = rest := by
    rw [← List.length_append, List.drop_left]
  simp only [spanAt, hdrop, Cut.span, Cut.stop, Cut.token, List.length_append, Span.mk.injEq, true_and, and_true]
  omega

/-- **The first span of a keyword** is the place of its first cut. -/
theorem findSpan?_eq_map_cut? (text keyword : String) :
    findSpan? text keyword = (cut? keyword.toList text.toList).map fun c => c.span keyword.toList := by
  simp only [findSpan?, cut?, Option.map_map]
  refine Option.map_congr fun cut hcut => ?_
  obtain ⟨ht, -⟩ := (cutAt?_eq_some_iff opening_ne_nil).1 hcut
  rw [ht]
  exact spanAt_eq cut.1 cut.2

end PageSearch.Filter
