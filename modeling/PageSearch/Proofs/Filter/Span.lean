import PageSearch.Proofs.Filter.Cut
import PageSearch.Proofs.Value.Writing

/-!
# The place of a filter

A scan for a filter goes over the text once: to the opening, over the blanks behind it, and over the value. What it
gives is said here by positions only (`Span.IsFirst`): the opening stands at the start of the span and at no position
before, the span is made of the opening, blanks and the value, and it ends where the value does. Any keyword may be
sought, also one with blanks or colons in it, one that overlaps itself, and the empty one.

The place of a first cut is such a span (`Cut.IsFirst.isFirst_span`), and each such span is the place of a first cut
(`Span.IsFirst.exists_cut`). So the scan finds the only one that there is, and nothing if and only if the opening does
not occur (`findSpanIn_isFirst`).
-/

namespace PageSearch.Filter

open Text

/-- **The place of the first filter** of a keyword in a text, by positions. -/
structure Span.IsFirst (span : Span) (keyword text : List Char) : Prop where
  /-- The opening stands at the start. -/
  occurs : opening keyword <+: text.drop span.start
  /-- It stands at no position before the start. -/
  least : ∀ i < span.start, ¬ opening keyword <+: text.drop i
  /-- The span ends behind the opening. -/
  opening_le : span.start + keyword.length + 1 ≤ span.stop
  /-- It ends in the text. -/
  stop_le : span.stop ≤ text.length
  /-- It is made of the opening, blanks and the value. -/
  slice : ∃ gap, AllBlank gap ∧
    (text.drop span.start).take (span.stop - span.start) = opening keyword ++ gap ++ span.value.toList
  /-- There is no blank in the value. -/
  solid : Solid span.value.toList
  /-- The value goes on up to the end of the text or to a blank. -/
  ends : span.stop = text.length ∨ ∃ c, text[span.stop]? = some c ∧ isBlank c = true
  /-- A value is missing only if nothing but blanks follows the opening, and they belong to the span. -/
  full : span.value = "" →
    AllBlank (text.drop (span.start + keyword.length + 1)) ∧ span.stop = text.length

variable {keyword text : List Char} {c : Cut} {place : Span}

theorem length_opening (keyword : List Char) : (opening keyword).length = keyword.length + 1 := by
  simp [opening]

/-- A text goes on with a blank, if it goes on, exactly if there is one at the position or none at all. -/
theorem beginsBlank_drop_iff {n : Nat} (h : n ≤ text.length) :
    BeginsBlank (text.drop n) ↔ n = text.length ∨ ∃ c, text[n]? = some c ∧ isBlank c = true := by
  rw [BeginsBlank, List.head?_drop]
  rcases h.eq_or_lt with rfl | hlt
  · simp
  · simp [List.getElem?_eq_getElem hlt, hlt.ne]

/-! ### From cuts to positions -/

namespace Cut.IsFirst

theorem drop_start (h : c.IsFirst keyword text) : text.drop c.before.length = c.token keyword ++ c.after := by
  rw [h.eq_append_token, List.append_assoc, List.drop_left]

theorem drop_stop (h : c.IsFirst keyword text) : text.drop (c.stop keyword) = c.after := by
  rw [stop, ← List.drop_drop, h.drop_start, List.drop_left]

theorem length_eq (h : c.IsFirst keyword text) : text.length = c.stop keyword + c.after.length := by
  rw [h.eq_append_token, stop, List.length_append, List.length_append]

/-- The opening begins at no position before that of the cut. -/
theorem least (h : c.IsFirst keyword text) : ∀ i < c.before.length, ¬ opening keyword <+: text.drop i := by
  intro i hi hprefix
  refine h.first ((infix_dropLast_iff opening_ne_nil c.before (c.gap ++ c.value ++ c.after)).2 ⟨i, hi, ?_⟩)
  rw [h.text_eq] at hprefix
  simpa only [List.append_assoc] using hprefix

/-- Without a value only the gap follows the opening. -/
theorem drop_opening (h : c.IsFirst keyword text) (hvalue : c.value = []) :
    text.drop (c.before.length + keyword.length + 1) = c.gap := by
  rw [Nat.add_assoc, ← List.drop_drop, h.drop_start, token, hvalue, h.full hvalue, ← length_opening]
  simp

/-- **The place of a first cut** is that of the first filter. -/
theorem isFirst_span (h : c.IsFirst keyword text) : (c.span keyword).IsFirst keyword text where
  occurs := by
    show opening keyword <+: text.drop c.before.length
    rw [h.drop_start, token, List.append_assoc, List.append_assoc]
    exact List.prefix_append _ _
  least := h.least
  opening_le := by
    show c.before.length + keyword.length + 1 ≤ c.stop keyword
    rw [stop, token, List.length_append, List.length_append, length_opening]
    omega
  stop_le := by
    show c.stop keyword ≤ text.length
    rw [h.length_eq]
    omega
  slice := by
    refine ⟨c.gap, h.gap, ?_⟩
    show (text.drop c.before.length).take (c.stop keyword - c.before.length) = _
    rw [h.drop_start, stop, Nat.add_sub_cancel_left, List.take_left]
    simp [span, token]
  solid := by simpa [span] using h.value
  ends := by
    have hle : c.stop keyword ≤ text.length := by
      rw [h.length_eq]
      omega
    show c.stop keyword = text.length ∨ ∃ d, text[c.stop keyword]? = some d ∧ isBlank d = true
    rw [← beginsBlank_drop_iff hle, h.drop_stop]
    exact h.after
  full := by
    intro hempty
    have hvalue : c.value = [] := by simpa [span] using hempty
    refine ⟨?_, ?_⟩
    · show AllBlank (text.drop (c.before.length + keyword.length + 1))
      rw [h.drop_opening hvalue]
      exact h.gap
    · show c.stop keyword = text.length
      rw [h.length_eq, h.full hvalue, List.length_nil, Nat.add_zero]

end Cut.IsFirst

/-! ### From positions to cuts -/

/-- **Such a place** is that of a first cut. -/
theorem Span.IsFirst.exists_cut (h : place.IsFirst keyword text) :
    ∃ c : Cut, c.IsFirst keyword text ∧ c.span keyword = place := by
  obtain ⟨gap, hgap, hslice⟩ := h.slice
  have hle : place.start ≤ place.stop := by
    have hopening := h.opening_le
    omega
  have hstop : place.start + (place.stop - place.start) = place.stop := by omega
  have hbefore : (text.take place.start).length = place.start := by
    rw [List.length_take]
    exact Nat.min_eq_left (hle.trans h.stop_le)
  have htext : text = text.take place.start ++ (opening keyword ++ gap ++ place.value.toList) ++
      text.drop place.stop := by
    have hrest : (text.drop place.start).drop (place.stop - place.start) = text.drop place.stop := by
      rw [List.drop_drop, hstop]
    rw [List.append_assoc, ← hslice, ← hrest, List.take_append_drop, List.take_append_drop]
  let c : Cut := ⟨text.take place.start, gap, place.value.toList, text.drop place.stop⟩
  have hc : c.IsFirst keyword text := by
    refine ⟨by simpa only [List.append_assoc] using htext, ?_, hgap, h.solid, ?_, ?_⟩
    · intro hinfix
      obtain ⟨i, hi, hprefix⟩ :=
        (infix_dropLast_iff opening_ne_nil _ (gap ++ place.value.toList ++ text.drop place.stop)).1 hinfix
      refine h.least i (hbefore ▸ hi) ?_
      rw [htext]
      simpa only [List.append_assoc] using hprefix
    · exact (beginsBlank_drop_iff h.stop_le).2 h.ends
    · intro hvalue
      have hempty : place.value = "" := String.toList_eq_nil_iff.1 hvalue
      exact List.drop_eq_nil_of_le (h.full hempty).2.ge
  have hwidth : (c.token keyword).length = place.stop - place.start := by
    have hlength := congrArg List.length hslice
    rw [List.length_take, List.length_drop] at hlength
    have hstop_le := h.stop_le
    show (opening keyword ++ gap ++ place.value.toList).length = _
    omega
  refine ⟨c, hc, ?_⟩
  rw [Cut.span, Cut.stop, hwidth]
  show (⟨(text.take place.start).length, _, _⟩ : Span) = place
  rw [hbefore, hstop, String.ofList_toList]

theorem findSpan?_eq_some_iff {keyword text : String} :
    findSpan? text keyword = some place ↔ place.IsFirst keyword.toList text.toList := by
  rw [findSpan?_eq_map_cut?, Option.map_eq_some_iff]
  constructor
  · rintro ⟨c, hcut, rfl⟩
    exact (cut?_eq_some_iff.1 hcut).isFirst_span
  · intro h
    obtain ⟨c, hc, hspan⟩ := h.exists_cut
    exact ⟨c, cut?_eq_some_iff.2 hc, hspan⟩

theorem findSpan?_eq_none_iff {keyword text : String} :
    findSpan? text keyword = none ↔ ¬ opening keyword.toList <:+: text.toList := by
  rw [findSpan?_eq_map_cut?, Option.map_eq_none_iff, cut?_eq_none_iff]

/-- Texts among values are scanned as texts. -/
theorem findSpanIn_str (text keyword : String) :
    findSpanIn (.str text) (.str keyword) = .ok (findSpan? text keyword) := by
  have hwidth : keyword.length + 1 = (opening keyword.toList).length := by
    rw [length_opening, String.length_toList]
  simp only [findSpanIn, findSpan?, Value.asText, Value.write_str, Value.size, bind, Except.bind]
  cases cutAt? (opening keyword.toList) text.toList with
  | none => rfl
  | some found =>
    simp only [hwidth]
    rfl

/-- **The scan is exact**, for every text and every keyword: it has a result, which is nothing exactly if the opening
does not occur, and else is the place of the first filter and no other one. -/
theorem findSpanIn_isFirst (text keyword : String) :
    ∃ found, findSpanIn (.str text) (.str keyword) = .ok found ∧
      (found = none ↔ ¬ opening keyword.toList <:+: text.toList) ∧
      ∀ place : Span, found = some place ↔ place.IsFirst keyword.toList text.toList :=
  ⟨findSpan? text keyword, findSpanIn_str text keyword, findSpan?_eq_none_iff, fun _ => findSpan?_eq_some_iff⟩

/-- The keyword overlaps itself, and the blanks up to the end of the text belong to the span. -/
example : findSpan? "ababc:\t " "abc" = some ⟨2, 8, ""⟩ := by decide

end PageSearch.Filter
