import PageSearch.Proofs.Filter.Cut

/-!
# Taking one filter out beside another

What happens to the first cut for one keyword when the filter of another one is taken out of the text,
and the text is trimmed. If the two filters do not overlap, a blank stands between them
(`exists_between`), so the first cut remains the first, with the same value, and moves by the length of
what was taken out before it (`remove_later`, `remove_earlier`, `IsFirst.trimmed`).
-/

namespace PageSearch.Filter

open Text

variable {k l text : List Char} {c d : Cut}

/-- The first cut is the only one. -/
theorem Cut.IsFirst.unique (hc : c.IsFirst k text) (hd : d.IsFirst k text) : c = d := by
  have h := cut?_eq_some_iff.2 hc
  rw [cut?_eq_some_iff.2 hd] at h
  exact (Option.some.inj h).symm

/-! ### Two filters that do not overlap -/

/-- Between two filters that do not overlap stands some text that begins with a blank. -/
theorem exists_between (hl : Solid l) (hc : c.IsFirst k text) (hd : d.IsFirst l text)
    (h : c.stop k ≤ d.before.length) :
    ∃ m, m ≠ [] ∧ BeginsBlank m ∧ d.before = c.before ++ c.token k ++ m ∧
      c.after = m ++ d.token l ++ d.after := by
  have htext : c.before ++ c.token k ++ c.after = d.before ++ (d.token l ++ d.after) := by
    rw [← hc.eq_append_token, hd.eq_append_token, List.append_assoc]
  have hpre : c.before ++ c.token k <+: d.before := by
    refine List.prefix_of_prefix_length_le ⟨c.after, htext⟩ (List.prefix_append _ _) ?_
    rw [List.length_append]
    exact h
  obtain ⟨m, hm⟩ := hpre
  have hafter : c.after = m ++ d.token l ++ d.after := by
    rw [← hm, List.append_assoc, List.append_assoc (c.before)] at htext
    simpa using htext
  have hne : m ≠ [] := by
    rintro rfl
    -- the value of the first filter would end at the opening of the second
    have hbegins := hc.after
    rw [hafter, List.nil_append, Cut.token, List.append_assoc, List.append_assoc,
      beginsBlank_append_iff opening_ne_nil] at hbegins
    exact opening_ne_nil ((solid_opening hl).eq_nil_of_beginsBlank hbegins)
  refine ⟨m, hne, ?_, hm.symm, hafter⟩
  have hbegins := hc.after
  rwa [hafter, List.append_assoc, beginsBlank_append_iff hne] at hbegins

/-- When the later of two filters is taken out, the earlier one stays where it is. -/
theorem remove_later {m : List Char} (hc : c.IsFirst k text) (hne : m ≠ []) (hm : BeginsBlank m)
    (hbefore : d.before = c.before ++ c.token k ++ m) (hafter : c.after = m ++ d.token l ++ d.after) :
    Cut.IsFirst { c with after := m ++ d.after } k d.remainder where
  text_eq := by
    rw [Cut.remainder, hbefore, Cut.token]
    simp only [List.append_assoc]
  first := hc.first
  gap := hc.gap
  value := hc.value
  after := (beginsBlank_append_iff hne).2 hm
  full hv := by
    have hnil := hc.full hv
    rw [hafter] at hnil
    simp_all

/-- When the earlier of two filters is taken out, the later one moves to the left. -/
theorem remove_earlier {m : List Char} (hl : Solid l) (hd : d.IsFirst l text) (hne : m ≠ [])
    (hm : BeginsBlank m) (hbefore : d.before = c.before ++ c.token k ++ m)
    (hafter : c.after = m ++ d.token l ++ d.after) :
    Cut.IsFirst { d with before := c.before ++ m } l c.remainder where
  text_eq := by
    rw [Cut.remainder, hafter, Cut.token]
    simp only [List.append_assoc]
  first := by
    intro hin
    have hdrop : ∀ x : List Char, (x ++ opening l).dropLast = x ++ (opening l).dropLast := fun x =>
      List.dropLast_append_of_ne_nil opening_ne_nil
    refine hd.first ?_
    rw [hdrop, List.append_assoc] at hin
    rw [hdrop, hbefore, List.append_assoc]
    -- the opening does not go across the blank where the text is put together
    rcases ((solid_opening hl).infix_append (.inr ((beginsBlank_append_iff hne).2 hm))).1 hin with h | h
    · rw [List.append_assoc]
      exact List.infix_append_of_infix_left h
    · exact List.infix_append_of_infix_right h
  gap := hd.gap
  value := hd.value
  after := hd.after
  full := hd.full

/-! ### Trimming -/

/-- A cut of a text without the blanks at its ends makes a cut of the whole: without a value the blanks
at the end belong to the gap. -/
theorem Cut.IsFirst.of_blanks {a b : List Char} (hk : Solid k) (ha : AllBlank a) (hb : AllBlank b)
    (h : c.IsFirst k text) :
    Cut.IsFirst
      (if c.value = [] then ⟨a ++ c.before, c.gap ++ b, [], []⟩
        else ⟨a ++ c.before, c.gap, c.value, c.after ++ b⟩) k (a ++ text ++ b) := by
  have hfirst : ¬ opening k <:+: (a ++ c.before ++ opening k).dropLast := by
    intro hin
    have hne : c.before ++ opening k ≠ [] := by simp [opening_ne_nil]
    rw [List.append_assoc, List.dropLast_append_of_ne_nil hne,
      (solid_opening hk).infix_append (.inl ha.endsBlank)] at hin
    rcases hin with h' | h'
    · exact (solid_opening hk).not_infix_of_allBlank opening_ne_nil ha h'
    · exact h.first h'
  split
  · rename_i hv
    refine ⟨?_, hfirst, allBlank_append.2 ⟨h.gap, hb⟩, solid_nil, beginsBlank_nil, fun _ => rfl⟩
    rw [h.text_eq, hv, h.full hv]
    simp only [List.append_assoc, List.append_nil]
  · rename_i hv
    refine ⟨?_, hfirst, h.gap, h.value, h.after.append hb.beginsBlank, fun hnil => absurd hnil hv⟩
    rw [h.text_eq]
    simp only [List.append_assoc]

/-- **The trimmed text** has the same filter of a keyword, which has moved by the blanks at the
beginning, and it leaves the same text. -/
theorem Cut.IsFirst.exists_trim (hk : Solid k) (hc : c.IsFirst k text) :
    ∃ d : Cut, d.IsFirst k (trim text) ∧ d.value = c.value ∧
      c.before.length = (text.takeWhile isBlank).length + d.before.length ∧
      (text.takeWhile isBlank).length + d.stop k ≤ c.stop k ∧ trim d.remainder = trim c.remainder := by
  have ha := allBlank_takeWhile text
  obtain ⟨b, hb, htext⟩ := exists_eq_append_trim_append text
  generalize text.takeWhile isBlank = a at ha htext
  have hoccurs : opening k <:+: a ++ trim text ++ b := by
    rw [← htext, hc.text_eq]
    exact ⟨c.before, c.gap ++ c.value ++ c.after, by simp only [List.append_assoc]⟩
  rw [(solid_opening hk).infix_append (.inr hb.beginsBlank),
    (solid_opening hk).infix_append (.inl ha.endsBlank)] at hoccurs
  obtain ⟨d, hd⟩ : ∃ d, cut? k (trim text) = some d := by
    rw [← Option.ne_none_iff_exists', Ne, cut?_eq_none_iff, not_not]
    rcases hoccurs with (h | h) | h
    · exact absurd h ((solid_opening hk).not_infix_of_allBlank opening_ne_nil ha)
    · exact h
    · exact absurd h ((solid_opening hk).not_infix_of_allBlank opening_ne_nil hb)
  rw [cut?_eq_some_iff] at hd
  have hwhole := hd.of_blanks hk ha hb
  rw [← htext] at hwhole
  refine ⟨d, hd, ?_⟩
  rw [hc.unique hwhole]
  split
  · rename_i hv
    refine ⟨hv, List.length_append, ?_, ?_⟩
    · simp only [Cut.stop, Cut.token, List.length_append, hv]
      omega
    · simp only [Cut.remainder, hd.full hv, List.append_nil]
      simpa using (trim_append_of_allBlank ha allBlank_nil d.before).symm
  · refine ⟨rfl, List.length_append, ?_, ?_⟩
    · simp only [Cut.stop, Cut.token, List.length_append]
      omega
    · have h := trim_append_of_allBlank ha hb d.remainder
      simp only [Cut.remainder, List.append_assoc] at h ⊢
      exact h.symm

/-! ### What becomes of the other filter -/

/-- The first filters of two keywords do not overlap. -/
def Apart (k l text : List Char) : Prop :=
  ∀ c d : Cut, c.IsFirst k text → d.IsFirst l text → c.stop k ≤ d.before.length ∨ d.stop l ≤ c.before.length

theorem Apart.symm (h : Apart k l text) : Apart l k text :=
  fun c d hc hd => (h d c hd hc).symm

/-- A filter that does not overlap with the one that is taken out keeps its value. It moves by the
blanks that are trimmed, and if it is the later one also by the length of the other. -/
theorem exists_moved (hk : Solid k) (hl : Solid l) (h : Apart k l text) (hc : c.IsFirst k text)
    (hd : d.IsFirst l text) :
    ∃ e : Cut, e.IsFirst l (trim c.remainder) ∧ e.value = d.value ∧
      (let g := (c.remainder.takeWhile isBlank).length
       (d.stop l ≤ c.before.length ∧ d.before.length = g + e.before.length ∧ g + e.stop l ≤ d.stop l) ∨
       (c.stop k ≤ d.before.length ∧ d.before.length = g + e.before.length + (c.token k).length ∧
        g + e.stop l + (c.token k).length ≤ d.stop l)) := by
  rcases h c d hc hd with hlt | hlt
  · obtain ⟨m, hne, hm, hbefore, hafter⟩ := exists_between hl hc hd hlt
    have hmoved := remove_earlier hl hd hne hm hbefore hafter
    obtain ⟨e, he, hv, hstart, hstop, -⟩ := hmoved.exists_trim hl
    refine ⟨e, he, hv, .inr ⟨hlt, ?_, ?_⟩⟩
    · rw [← hstart, hbefore]
      simp only [List.length_append]
      omega
    · have hwidth : d.stop l = (c.before ++ m).length + (c.token k).length + (d.token l).length := by
        simp only [Cut.stop, hbefore, List.length_append]
        omega
      simp only [Cut.stop, Cut.token] at hstop hwidth ⊢
      omega
  · obtain ⟨m, hne, hm, hbefore, hafter⟩ := exists_between hk hd hc hlt
    have hstays := remove_later hd hne hm hbefore hafter
    obtain ⟨e, he, hv, hstart, hstop, -⟩ := hstays.exists_trim hl
    exact ⟨e, he, hv, .inl ⟨hlt, hstart, hstop⟩⟩

/-- A keyword that does not stand in a text before a colon does not when a filter is taken out. -/
theorem cut?_trim_remainder_eq_none (hl : Solid l) (hc : c.IsFirst k text) (h : cut? l text = none) :
    cut? l (trim c.remainder) = none := by
  rw [cut?_eq_none_iff] at h ⊢
  intro hin
  exact h (((clipped_trim c.remainder).trans hc.clipped).occurs (solid_opening hl) hin)

/-- So a filter that is found then was there before. -/
theorem exists_isFirst_of_trim_remainder (hl : Solid l) (hc : c.IsFirst k text)
    (hd : d.IsFirst l (trim c.remainder)) : ∃ e : Cut, e.IsFirst l text := by
  cases h : cut? l text with
  | none =>
    have hnone := cut?_trim_remainder_eq_none hl hc h
    rw [cut?_eq_some_iff.2 hd] at hnone
    cases hnone
  | some e => exact ⟨e, cut?_eq_some_iff.1 h⟩

/-- **Filters that do not overlap** do not when another one is taken out. -/
theorem Apart.trim_remainder {k' : List Char} (hk : Solid k) (hk' : Solid k') (hl : Solid l)
    (h : Apart k l text) (h' : Apart k k' text) (hc : c.IsFirst k text) (hkl : Apart k' l text) :
    Apart k' l (trim c.remainder) := by
  intro e f he hf
  obtain ⟨d', hd'⟩ := exists_isFirst_of_trim_remainder hk' hc he
  obtain ⟨d, hd⟩ := exists_isFirst_of_trim_remainder hl hc hf
  obtain ⟨e', he', -, hmove'⟩ := exists_moved hk hk' h' hc hd'
  obtain ⟨f', hf', -, hmove⟩ := exists_moved hk hl h hc hd
  rw [he.unique he', hf.unique hf']
  have hdd := hkl d' d hd' hd
  simp only [Cut.stop] at hmove hmove' hdd ⊢
  omega

/-- **Two filters that do not overlap** can be taken out in either order. -/
theorem trim_remainder_comm (hk : Solid k) (hl : Solid l) (h : Apart k l text) (hc : c.IsFirst k text)
    (hd : d.IsFirst l text) {e f : Cut} (he : e.IsFirst l (trim c.remainder))
    (hf : f.IsFirst k (trim d.remainder)) : trim e.remainder = trim f.remainder := by
  wlog hlt : c.stop k ≤ d.before.length generalizing k l c d e f
  · exact (this hl hk h.symm hd hc hf he ((h c d hc hd).resolve_left hlt)).symm
  obtain ⟨m, hne, hm, hbefore, hafter⟩ := exists_between hl hc hd hlt
  obtain ⟨e', he', -, -, -, hremainder⟩ := (remove_earlier hl hd hne hm hbefore hafter).exists_trim hl
  obtain ⟨f', hf', -, -, -, hremainder'⟩ := (remove_later hc hne hm hbefore hafter).exists_trim hk
  rw [he.unique he', hf.unique hf', hremainder, hremainder']
  simp only [Cut.remainder, List.append_assoc]

end PageSearch.Filter
