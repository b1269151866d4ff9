import PageSearch.Proofs.Filter.Independence

/-!
# Filters at the beginning of a query

A query that begins with the filters of two specifications, and in which there is no other filter, is taken apart
as it is written: each specification has its value, and the text that is left is the rest of the query
(`extract_leadingText`). The order of the specifications does not matter to this, so that they are taken in the
order of the query.
-/

namespace PageSearch.Filter

open Text

variable {k l text : List Char} {specs : List FilterSpec}

/-! ### Texts without filters -/

theorem matched?_eq_none {spec : FilterSpec} (h : ¬ opening spec.keyword.toList <:+: text) :
    matched? spec text = none := by
  rw [matched?, cut?_eq_none_iff.2 h, ite_self]

/-- Nothing is taken out of a text without openings. -/
theorem captures_residue_of_not_occurs (h : ∀ spec ∈ specs, ¬ opening spec.keyword.toList <:+: text) :
    captures specs text = [] ∧ residue specs text = text := by
  induction specs with
  | nil => exact ⟨rfl, rfl⟩
  | cons spec specs ih =>
    obtain ⟨hspec, hspecs⟩ := List.forall_mem_cons.1 h
    rw [captures, residue, matched?_eq_none hspec]
    exact ih hspecs

theorem Cut.IsFirst.occurs {c : Cut} (h : c.IsFirst k text) : opening k <:+: text := by
  rw [h.text_eq, List.append_assoc, List.append_assoc, List.append_assoc, ← List.append_assoc]
  exact List.infix_append _ _ _

/-- A filter that is not there does not overlap with another one. -/
theorem apart_of_not_occurs (h : ¬ opening k <:+: text) : Apart k l text :=
  fun _ _ hc _ => absurd hc.occurs h

theorem not_occurs_trim (hk : Solid k) (h : ¬ opening k <:+: text) : ¬ opening k <:+: trim text :=
  fun hin => h ((clipped_trim text).occurs (solid_opening hk) hin)

/-- Filters that do not overlap do not when the text is trimmed. -/
theorem Apart.trim (hk : Solid k) (hl : Solid l) (h : Apart k l text) : Apart k l (trim text) := by
  intro c d hc hd
  obtain ⟨b, hb, htext⟩ := exists_eq_append_trim_append text
  have hc' := hc.of_blanks hk (allBlank_takeWhile text) hb
  have hd' := hd.of_blanks hl (allBlank_takeWhile text) hb
  rw [← htext] at hc' hd'
  obtain ⟨e, he, -, hstart, hstop, -⟩ := hc'.exists_trim hk
  obtain ⟨f, hf, -, hstart', hstop', -⟩ := hd'.exists_trim hl
  rw [he.unique hc] at hstart hstop
  rw [hf.unique hd] at hstart' hstop'
  have hapart := h _ _ hc' hd'
  omega

/-- A cut is made at an opening that stands nowhere else. -/
theorem Cut.isFirst_of_unique {c : Cut} (htext : text = c.before ++ opening k ++ c.gap ++ c.value ++ c.after)
    (hunique : OnlyAfter c.before (opening k) text) (hgap : AllBlank c.gap)
    (hvalue : Solid c.value) (hafter : BeginsBlank c.after) (hfull : c.value = [] → c.after = []) :
    c.IsFirst k text where
  text_eq := htext
  first := by
    rintro ⟨x, y, hxy⟩
    have hlast : (c.before ++ opening k).dropLast = c.before ++ k := by simp [opening, ← List.append_assoc]
    rw [hlast] at hxy
    have hx : x = c.before := by
      refine hunique x (y ++ [':'] ++ c.gap ++ c.value ++ c.after) ?_
      rw [htext, opening, ← List.append_assoc, ← hxy]
      simp only [opening, List.append_assoc]
    have hlength := congrArg List.length hxy
    simp only [hx, opening, List.length_append, List.length_singleton] at hlength
    omega
  gap := hgap
  value := hvalue
  after := hafter
  full := hfull

/-! ### Two leading filters -/

/-- A query that begins with the filters of two specifications. -/
def leadingText (s s' : FilterSpec) (value value' rest : String) : String :=
  s.keyword ++ ":" ++ value ++ " " ++ s'.keyword ++ ":" ++ value' ++ " " ++ rest

/-- A query begins with the filters of two of the specifications, and has no other opening of any. -/
structure Leads (specs : List FilterSpec) (s s' : FilterSpec) (value value' rest : String) : Prop where
  /-- Each keyword is a word. -/
  keywords : ∀ t ∈ specs, IsWord t.keyword.toList
  /-- No two keywords are the same. -/
  distinct : (specs.map FilterSpec.keyword).Nodup
  /-- The first filter is one of a specification. -/
  mem : s ∈ specs
  /-- The second filter is one of a specification. -/
  mem' : s' ∈ specs
  /-- The specifications are two. -/
  ne : s ≠ s'
  /-- The first value is a word. -/
  isWord : IsWord value.toList
  /-- The second value is a word. -/
  isWord' : IsWord value'.toList
  /-- The first filter begins at the beginning only. -/
  first : OnlyAfter [] (opening s.keyword.toList) (leadingText s s' value value' rest).toList
  /-- The second filter begins after the first one only. -/
  second : OnlyAfter (s.keyword ++ ":" ++ value ++ " ").toList (opening s'.keyword.toList)
    (leadingText s s' value value' rest).toList
  /-- No other filter begins anywhere. -/
  other : ∀ t ∈ specs, t ≠ s → t ≠ s' →
    ¬ opening t.keyword.toList <:+: (leadingText s s' value value' rest).toList

instance (specs : List FilterSpec) (s s' : FilterSpec) (value value' rest : String) :
    Decidable (Leads specs s s' value value' rest) :=
  decidable_of_iff ((∀ t ∈ specs, IsWord t.keyword.toList) ∧ (specs.map FilterSpec.keyword).Nodup ∧ s ∈ specs ∧
      s' ∈ specs ∧ s ≠ s' ∧ IsWord value.toList ∧ IsWord value'.toList ∧
      OnlyAfter [] (opening s.keyword.toList) (leadingText s s' value value' rest).toList ∧
      OnlyAfter (s.keyword ++ ":" ++ value ++ " ").toList (opening s'.keyword.toList)
        (leadingText s s' value value' rest).toList ∧
      ∀ t ∈ specs, t ≠ s → t ≠ s' → ¬ opening t.keyword.toList <:+: (leadingText s s' value value' rest).toList)
    ⟨fun ⟨h₁, h₂, h₃, h₄, h₅, h₆, h₇, h₈, h₉, h₁₀⟩ => ⟨h₁, h₂, h₃, h₄, h₅, h₆, h₇, h₈, h₉, h₁₀⟩,
      fun ⟨h₁, h₂, h₃, h₄, h₅, h₆, h₇, h₈, h₉, h₁₀⟩ => ⟨h₁, h₂, h₃, h₄, h₅, h₆, h₇, h₈, h₉, h₁₀⟩⟩

variable {s s' : FilterSpec} {value value' rest : String}

theorem toList_leadingText (s s' : FilterSpec) (value value' rest : String) :
    (leadingText s s' value value' rest).toList =
      opening s.keyword.toList ++ value.toList ++
        ' ' :: (opening s'.keyword.toList ++ value'.toList ++ ' ' :: rest.toList) := by
  simp [leadingText, opening]

/-- The cut at the first filter. -/
def firstCut (s' : FilterSpec) (value value' rest : String) : Cut where
  before := []
  gap := []
  value := value.toList
  after := ' ' :: (opening s'.keyword.toList ++ value'.toList ++ ' ' :: rest.toList)

/-- The cut at the second filter. -/
def secondCut (s : FilterSpec) (value value' rest : String) : Cut where
  before := opening s.keyword.toList ++ value.toList ++ [' ']
  gap := []
  value := value'.toList
  after := ' ' :: rest.toList

namespace Leads

theorem isFirst_firstCut (h : Leads specs s s' value value' rest) :
    (firstCut s' value value' rest).IsFirst s.keyword.toList (leadingText s s' value value' rest).toList := by
  refine Cut.isFirst_of_unique ?_ h.first allBlank_nil h.isWord.2 (beginsBlank_cons.2 (by decide)) fun hnil =>
    absurd hnil h.isWord.1
  rw [toList_leadingText]
  simp [firstCut]

theorem isFirst_secondCut (h : Leads specs s s' value value' rest) :
    (secondCut s value value' rest).IsFirst s'.keyword.toList (leadingText s s' value value' rest).toList := by
  refine Cut.isFirst_of_unique ?_ ?_ allBlank_nil h.isWord'.2 (beginsBlank_cons.2 (by decide)) fun hnil =>
    absurd hnil h.isWord'.1
  · rw [toList_leadingText]
    simp [secondCut]
  · intro x y hxy
    rw [h.second x y hxy]
    simp [secondCut, opening]

/-- The second filter of what is left when the first one is taken out. -/
theorem isFirst_secondCut_of_remainder (h : Leads specs s s' value value' rest) :
    Cut.IsFirst { secondCut s value value' rest with before := [' '] } s'.keyword.toList
      (firstCut s' value value' rest).remainder := by
  refine remove_earlier (k := s.keyword.toList) (c := firstCut s' value value' rest) (m := [' '])
    (h.keywords s' h.mem').2 h.isFirst_secondCut (by decide) (beginsBlank_cons.2 (by decide)) ?_ ?_
  · simp [firstCut, secondCut, Cut.token]
  · simp [firstCut, secondCut, Cut.token]

theorem apart (h : Leads specs s s' value value' rest) :
    Apart s.keyword.toList s'.keyword.toList (leadingText s s' value value' rest).toList := by
  intro c d hc hd
  rw [hc.unique h.isFirst_firstCut, hd.unique h.isFirst_secondCut]
  left
  simp [firstCut, secondCut, Cut.stop, Cut.token]

theorem nodup (h : Leads specs s s' value value' rest) : specs.Nodup :=
  List.Pairwise.of_map FilterSpec.keyword (fun _ _ hne heq => hne (congrArg FilterSpec.keyword heq)) h.distinct

/-- An opening in the rest of the query is one in the query. -/
theorem infix_leadingText {t : List Char} (ht : t <:+: rest.toList) :
    t <:+: (leadingText s s' value value' rest).toList := by
  rw [leadingText, String.toList_append]
  exact ht.trans (List.suffix_append _ _).isInfix

theorem separate (h : Leads specs s s' value value' rest) :
    Separate specs (trim (leadingText s s' value value' rest).toList) := by
  refine ⟨h.keywords, ?_⟩
  refine h.nodup.imp_of_mem fun {t t'} ht ht' hne => ?_
  refine Apart.trim (h.keywords t ht).2 (h.keywords t' ht').2 ?_
  by_cases hfirst : t = s
  · subst hfirst
    by_cases hsecond : t' = s'
    · subst hsecond
      exact h.apart
    · exact (apart_of_not_occurs (h.other t' ht' hne.symm hsecond)).symm
  · by_cases hsecond : t = s'
    · subst hsecond
      by_cases hfirst' : t' = s
      · subst hfirst'
        exact h.apart.symm
      · exact (apart_of_not_occurs (h.other t' ht' hfirst' hne.symm)).symm
    · exact apart_of_not_occurs (h.other t ht hfirst hsecond)

/-- The specifications in the order of their filters, with the others behind. -/
theorem exists_perm (h : Leads specs s s' value value' rest) :
    ∃ others, specs.Perm (s :: s' :: others) ∧ ∀ t ∈ others, IsWord t.keyword.toList ∧
      ¬ opening t.keyword.toList <:+: (leadingText s s' value value' rest).toList := by
  have hmem' : s' ∈ specs.erase s := (List.mem_erase_of_ne h.ne.symm).2 h.mem'
  have hperm : specs.Perm (s :: s' :: (specs.erase s).erase s') :=
    (List.perm_cons_erase h.mem).trans ((List.perm_cons_erase hmem').cons s)
  refine ⟨(specs.erase s).erase s', hperm, fun t ht => ?_⟩
  have hnodup : (s :: s' :: (specs.erase s).erase s').Nodup := hperm.nodup_iff.1 h.nodup
  have hspec : t ∈ specs := List.mem_of_mem_erase (List.mem_of_mem_erase ht)
  refine ⟨h.keywords t hspec, h.other t hspec ?_ ?_⟩
  · rintro rfl
    exact (List.nodup_cons.1 hnodup).1 (List.mem_cons_of_mem s' ht)
  · rintro rfl
    exact (List.nodup_cons.1 (List.nodup_cons.1 hnodup).2).1 ht

/-- Each of the two specifications captures its value, and no other one captures anything. -/
theorem captures_perm (h : Leads specs s s' value value' rest) :
    (captures specs (trim (leadingText s s' value value' rest).toList)).Perm [⟨s, value⟩, ⟨s', value'⟩] := by
  obtain ⟨others, hperm, hothers⟩ := h.exists_perm
  obtain ⟨d, hd, hvalue, -⟩ := h.isFirst_firstCut.exists_trim (h.keywords s h.mem).2
  obtain ⟨e, he, hvalue', -⟩ := h.isFirst_secondCut.exists_trim (h.keywords s' h.mem').2
  rw [captures_eq_filterMap h.separate]
  refine (hperm.filterMap _).trans (List.Perm.of_eq ?_)
  have hnone : others.filterMap (capture? (trim (leadingText s s' value value' rest).toList)) = [] := by
    refine List.filterMap_eq_nil_iff.2 fun t ht => ?_
    obtain ⟨hkeyword, hoccurs⟩ := hothers t ht
    rw [capture?, cut?_eq_none_iff.2 (not_occurs_trim hkeyword.2 hoccurs), Option.map_none]
  rw [List.filterMap_cons, List.filterMap_cons, hnone, capture?, capture?, cut?_eq_some_iff.2 hd,
    cut?_eq_some_iff.2 he, Option.map_some, Option.map_some, hvalue, hvalue']
  simp [firstCut, secondCut]

/-- Without the two filters the rest is left. -/
theorem residue_eq (h : Leads specs s s' value value' rest) :
    residue specs (trim (leadingText s s' value value' rest).toList) = trim rest.toList := by
  obtain ⟨others, hperm, hothers⟩ := h.exists_perm
  have hk := h.keywords s h.mem
  have hk' := h.keywords s' h.mem'
  obtain ⟨d, hd, -, -, -, hremainder⟩ := h.isFirst_firstCut.exists_trim hk.2
  obtain ⟨e, he, -, -, -, hremainder'⟩ := h.isFirst_secondCut_of_remainder.exists_trim hk'.2
  have hrest : trim e.remainder = trim rest.toList := by
    rw [hremainder']
    have hblank : AllBlank [' ', ' '] := by simp [AllBlank, isBlank]
    simpa [secondCut, Cut.remainder] using trim_append_of_allBlank hblank allBlank_nil rest.toList
  rw [residue_perm hperm h.separate, residue, matched?_eq_cut? hk, cut?_eq_some_iff.2 hd]
  change residue (s' :: others) (trim d.remainder) = _
  rw [hremainder, residue, matched?_eq_cut? hk', cut?_eq_some_iff.2 he]
  change residue others (trim e.remainder) = _
  rw [hrest]
  refine (captures_residue_of_not_occurs fun t ht => ?_).2
  obtain ⟨hkeyword, hoccurs⟩ := hothers t ht
  exact not_occurs_trim hkeyword.2 fun hin => hoccurs (infix_leadingText hin)

/-- There is no opening in the rest of the query: it would be a third one of the two or one of another. -/
theorem not_occurs_rest (h : Leads specs s s' value value' rest) :
    ∀ t ∈ specs, ¬ opening t.keyword.toList <:+: rest.toList := by
  rintro t ht ⟨x, y, hxy⟩
  have htext : (leadingText s s' value value' rest).toList =
      ((s.keyword ++ ":" ++ value ++ " " ++ s'.keyword ++ ":" ++ value' ++ " ").toList ++ x)
        ++ opening t.keyword.toList ++ y := by
    rw [leadingText, String.toList_append, ← hxy]
    simp only [List.append_assoc]
  by_cases hfirst : t = s
  · subst hfirst
    have hlength := congrArg List.length (h.first _ _ htext)
    simp at hlength
  · by_cases hsecond : t = s'
    · subst hsecond
      have hlength := congrArg List.length (h.second _ _ htext)
      simp at hlength
    · exact h.other t ht hfirst hsecond (htext ▸ List.infix_append _ _ _)

end Leads

/-! ### Extractions -/

/-- **A query that begins with two filters** is taken apart as it is written. -/
theorem extract_leadingText (targets : Targets) (h : Leads specs s s' value value' rest)
    (hlanguage : targets.choosesLanguage s = true) (hlanguage' : targets.choosesLanguage s' = false)
    (hindices' : targets.choosesIndices s' = true) :
    extract targets specs (leadingText s s' value value' rest) = {
      text := trimmed rest, language := some value, indices := some (splitIndices value')
      blocksGrouping := s.blocksGrouping || s'.blocksGrouping } := by
  have hindices := Targets.choosesIndices_eq_false hlanguage
  have hvalue : value ≠ "" := fun hempty => h.isWord.1 (by rw [hempty]; rfl)
  have hvalue' : value' ≠ "" := fun hempty => h.isWord'.1 (by rw [hempty]; rfl)
  have hperm := h.captures_perm
  rw [extract_eq, h.residue_eq, Extraction.ofCaptures]
  generalize captures specs (trim (leadingText s s' value value' rest).toList) = ms at hperm ⊢
  have hfilters : ([⟨s, value⟩, ⟨s', value'⟩] : List Capture).filterMap (Capture.demand? targets) = [] := by
    simp [Capture.demand?, Targets.demanded?_eq_none (.inl hlanguage), Targets.demanded?_eq_none (.inr hindices')]
  have hchosen : lastValue? targets.choosesLanguage [⟨s, value⟩, ⟨s', value'⟩] = some value := by
    simp [lastValue?, hvalue, hlanguage, hlanguage']
  have hchosen' : lastValue? targets.choosesIndices [⟨s, value⟩, ⟨s', value'⟩] = some value' := by
    simp [lastValue?, hvalue', hindices, hindices']
  -- each choice is made by one of the two, so that their order does not matter
  have hlast : lastValue? targets.choosesLanguage ms = some value := by
    rw [← lastValue?_perm hperm.symm (by simp [hvalue, hlanguage, hlanguage']), hchosen]
  have hlast' : lastValue? targets.choosesIndices ms = some value' := by
    rw [← lastValue?_perm hperm.symm (by simp [hvalue', hindices, hindices']), hchosen']
  have hdemands := hperm.filterMap (Capture.demand? targets)
  rw [hfilters, List.perm_nil] at hdemands
  rw [hdemands, hlast, hlast', hperm.any_eq]
  simp [trimmed]

/-- A query without filters is left as it is. -/
theorem extract_rest (targets : Targets) (h : Leads specs s s' value value' rest) :
    extract targets specs rest = { text := trimmed rest } := by
  have hnone : ∀ t ∈ specs, ¬ opening t.keyword.toList <:+: trim rest.toList := fun t ht =>
    not_occurs_trim (h.keywords t ht).2 (h.not_occurs_rest t ht)
  obtain ⟨hcaptures, hresidue⟩ := captures_residue_of_not_occurs hnone
  rw [extract_eq, hcaptures, hresidue]
  rfl

end PageSearch.Filter
