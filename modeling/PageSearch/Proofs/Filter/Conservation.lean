import PageSearch.Proofs.Filter.Capture

/-!
# What extraction keeps

An extraction moves characters about and makes none. `residue_clipped` is the invariant: however many
specifications have taken their filters out of a text, and however these lay in each other, each word
that is left begins a word of the text. So what stands without blanks in the text that is left, a value
or an opening, stood in the whole text already, and the characters that are not blank are those of the
residue, of the keywords with their colons, and of the values (`extract_conserves`).
-/

namespace PageSearch.Filter

open Text

variable {specs : List FilterSpec} {text : List Char}

/-! ### The residue -/

/-- The words that are left begin words of the text. -/
theorem residue_clipped (specs : List FilterSpec) (text : List Char) : Clipped (residue specs text) text := by
  induction specs generalizing text with
  | nil => exact Clipped.refl text
  | cons spec specs ih =>
    rw [residue]
    split
    · exact ih text
    · rename_i c hc
      have hcut := (isFirst_of_matched? hc).clipped
      exact (ih _).trans ((clipped_trim c.remainder).trans hcut)

theorem residue_sublist (specs : List FilterSpec) (text : List Char) : (residue specs text).Sublist text := by
  induction specs generalizing text with
  | nil => exact List.Sublist.refl text
  | cons spec specs ih =>
    rw [residue]
    split
    · exact ih text
    · rename_i c hc
      exact (ih _).trans ((trim_sublist c.remainder).trans (isFirst_of_matched? hc).sublist)

theorem trimmed_residue (h : Trimmed text) : Trimmed (residue specs text) := by
  induction specs generalizing text with
  | nil => exact h
  | cons spec specs ih =>
    rw [residue]
    split
    · exact ih h
    · rename_i c _
      exact ih (trimmed_trim c.remainder)

/-! ### The captures -/

/-- What a capture has taken out of a text, apart from blanks. -/
def Capture.taken (m : Capture) : List Char :=
  m.spec.keyword.toList.filter isSolid ++ ':' :: m.value.toList

/-- **No character is lost or made**, apart from blanks. -/
theorem filter_isSolid_perm (specs : List FilterSpec) (text : List Char) :
    (text.filter isSolid).Perm
      ((residue specs text).filter isSolid ++ (captures specs text).flatMap Capture.taken) := by
  induction specs generalizing text with
  | nil => simp [residue, captures]
  | cons spec specs ih =>
    rw [residue, captures]
    split
    · exact ih text
    · rename_i c hc
      have hcut := (isFirst_of_matched? hc).filter_isSolid_perm
      have hrest := ih (trim c.remainder)
      rw [filter_isSolid_trim] at hrest
      have htaken : Capture.taken ⟨spec, String.ofList c.value⟩ =
          spec.keyword.toList.filter isSolid ++ ':' :: c.value := by
        rw [Capture.taken, String.toList_ofList]
      rw [List.flatMap_cons, htaken]
      refine (hcut.trans (hrest.append_right _)).trans ?_
      rw [List.append_assoc]
      exact List.perm_append_comm.append_left _

/-- Each capture is a cut of a text that is clipped from the whole. -/
theorem exists_of_mem_captures {m : Capture} (h : m ∈ captures specs text) :
    ∃ t c, Clipped t text ∧ matched? m.spec t = some c ∧ m.value = String.ofList c.value := by
  induction specs generalizing text with
  | nil => cases h
  | cons spec specs ih =>
    rw [captures] at h
    split at h
    · exact ih h
    · rename_i c hc
      rcases List.mem_cons.1 h with rfl | h
      · exact ⟨text, c, Clipped.refl text, hc, rfl⟩
      · obtain ⟨t, d, ht, hd, hm⟩ := ih h
        have hcut := (isFirst_of_matched? hc).clipped
        exact ⟨t, d, ht.trans ((clipped_trim c.remainder).trans hcut), hd, hm⟩

theorem solid_value_of_mem_captures {m : Capture} (h : m ∈ captures specs text) : Solid m.value.toList := by
  obtain ⟨t, c, -, hc, hm⟩ := exists_of_mem_captures h
  rw [hm, String.toList_ofList]
  exact (isFirst_of_matched? hc).value

/-- A value stood in the text as it is. -/
theorem value_isInfix_of_mem_captures {m : Capture} (h : m ∈ captures specs text) : m.value.toList <:+: text := by
  obtain ⟨t, c, ht, hc, hm⟩ := exists_of_mem_captures h
  have hcut := isFirst_of_matched? hc
  rw [hm, String.toList_ofList]
  exact ht.occurs hcut.value hcut.value_isInfix

/-- An opening that does not stand in a text does not stand in what is clipped from it. -/
theorem cut?_eq_none_of_clipped {keyword t : List Char} (hk : Solid keyword) (ht : Clipped t text)
    (h : ¬ opening keyword <:+: text) : cut? keyword t = none :=
  cut?_eq_none_iff.2 fun h' => h (ht.occurs (solid_opening hk) h')

theorem matched?_eq_none_of_clipped {spec : FilterSpec} {t : List Char} (hk : Solid spec.keyword.toList)
    (ht : Clipped t text) (h : ¬ opening spec.keyword.toList <:+: text) : matched? spec t = none := by
  rw [matched?]
  split
  · rfl
  · exact cut?_eq_none_of_clipped hk ht h

/-! ### Conservation -/

/-- **Extraction neither loses nor makes text.** Its captures belong to the specifications in their
order. The text that is left is trimmed and can be got from the trimmed query by leaving characters
out; those that are not blank are the ones that the captures have taken. Each value is without blanks
and stood in the query in one piece, whatever was cut out before it. And a keyword without blanks that
does not stand in the query before a colon is not found after any number of other specifications. -/
theorem extract_conserves (targets : Targets) (specs : List FilterSpec) (query : String) :
    let whole := (Text.trimmed query).toList
    let ms := captures specs whole
    let e := extract targets specs query
    (e = Extraction.ofCaptures targets e.text.toList ms ∧ (ms.map Capture.spec).Sublist specs) ∧
      (Text.trimmed e.text = e.text ∧ e.text.toList.Sublist whole) ∧
      (whole.filter isSolid).Perm (e.text.toList.filter isSolid ++ ms.flatMap Capture.taken) ∧
      (∀ m ∈ ms, Solid m.value.toList ∧ m.value.toList <:+: whole) ∧
      ∀ spec, Solid spec.keyword.toList → ¬ opening spec.keyword.toList <:+: whole →
        findSpan? e.text spec.keyword = none ∧ ∀ m ∈ ms, m.spec ≠ spec := by
  intro whole ms e
  have hwhole : whole = trim query.toList := String.toList_ofList
  have he : e = Extraction.ofCaptures targets (residue specs whole) ms := by
    rw [hwhole]
    exact (extract_eq targets specs query).trans (by rw [← hwhole])
  have htext : e.text.toList = residue specs whole := by
    rw [he]
    exact String.toList_ofList
  have htrimmed : Trimmed (residue specs whole) := by
    rw [hwhole]
    exact trimmed_residue (trimmed_trim _)
  refine ⟨⟨?_, captures_sublist specs whole⟩, ⟨?_, ?_⟩, ?_, ?_, ?_⟩
  · rw [htext]
    exact he
  · rw [Text.trimmed, htext, htrimmed.trim_eq, ← htext, String.ofList_toList]
  · rw [htext]
    exact residue_sublist specs whole
  · rw [htext]
    exact filter_isSolid_perm specs whole
  · intro m hm
    exact ⟨solid_value_of_mem_captures hm, value_isInfix_of_mem_captures hm⟩
  · intro spec hk hnot
    constructor
    · rw [findSpan?_eq_map_cut?, htext, cut?_eq_none_of_clipped hk (residue_clipped specs whole) hnot]
      rfl
    · rintro m hm rfl
      obtain ⟨t, c, ht, hc, -⟩ := exists_of_mem_captures hm
      rw [matched?_eq_none_of_clipped hk ht hnot] at hc
      cases hc

end PageSearch.Filter
