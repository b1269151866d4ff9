import Mathlib.Data.List.DropRight
import Mathlib.Data.List.Infix
import PageSearch.Text.Blank

/-!
# Words and trimming

What trimming and the words of a text have to do with each other. Two texts that are put together at
a *break*, a place where a blank stands on one side or one side is empty, have the words of the first
and then those of the second (`words_append`), and a text without blanks occurs in the whole only if
it occurs in one of the two (`Solid.infix_append`). So a text without blanks occurs in a text exactly
if it occurs in one of its words (`Solid.infix_iff_words`).

A text is *clipped* from another one if each of its words is the beginning of a word of the other. Text
that is cut out up to the end of a word leaves a clipped text (`clipped_cut`), in which nothing
without blanks occurs that did not occur before (`Clipped.occurs`). A text that begins another one still does when
both are trimmed (`trim_prefix_trim`).
-/

namespace PageSearch.Text

theorem isEmpty_eq_false {s : String} (h : s ≠ "") : s.isEmpty = false := by
  rw [Bool.eq_false_iff, Ne, String.isEmpty_iff]
  exact h

/-! ### Blank and solid texts -/

/-- Nothing but blanks. -/
def AllBlank (s : List Char) : Prop := ∀ c ∈ s, isBlank c

/-- No blanks. -/
def Solid (s : List Char) : Prop := ∀ c ∈ s, isSolid c

/-- A text that is one word. -/
def IsWord (s : List Char) : Prop := s ≠ [] ∧ Solid s

theorem isWord_iff {s : List Char} : IsWord s ↔ s.isEmpty = false ∧ s.all isSolid = true := by
  rw [IsWord, Solid, List.isEmpty_eq_false_iff, List.all_eq_true]

instance : DecidablePred AllBlank := fun s => decidable_of_iff (s.all isBlank = true) List.all_eq_true

instance : DecidablePred IsWord := fun _ => decidable_of_iff' _ isWord_iff

/-- The text is empty or begins with a blank. -/
def BeginsBlank (s : List Char) : Prop := ∀ c ∈ s.head?, isBlank c

/-- The text is empty or ends with a blank. -/
def EndsBlank (s : List Char) : Prop := ∀ c ∈ s.getLast?, isBlank c

/-- Two texts meet at a break: no word goes from one into the other. -/
def Break (x y : List Char) : Prop := EndsBlank x ∨ BeginsBlank y

@[simp] theorem isSolid_eq_true_iff {c : Char} : isSolid c = true ↔ isBlank c = false := by
  simp [isSolid]

@[simp] theorem allBlank_nil : AllBlank [] := by simp [AllBlank]

@[simp] theorem allBlank_append {x y : List Char} : AllBlank (x ++ y) ↔ AllBlank x ∧ AllBlank y := by
  simp only [AllBlank, List.mem_append, or_imp, forall_and]

@[simp] theorem solid_nil : Solid [] := by simp [Solid]

@[simp] theorem solid_append {x y : List Char} : Solid (x ++ y) ↔ Solid x ∧ Solid y := by
  simp only [Solid, List.mem_append, or_imp, forall_and]

@[simp] theorem solid_cons {c : Char} {s : List Char} : Solid (c :: s) ↔ isBlank c = false ∧ Solid s := by
  simp [Solid]

@[simp] theorem beginsBlank_nil : BeginsBlank [] := by simp [BeginsBlank]

@[simp] theorem beginsBlank_cons {c : Char} {s : List Char} : BeginsBlank (c :: s) ↔ isBlank c = true := by
  simp [BeginsBlank]

@[simp] theorem endsBlank_nil : EndsBlank [] := by simp [EndsBlank]

@[simp] theorem endsBlank_concat {c : Char} {s : List Char} : EndsBlank (s ++ [c]) ↔ isBlank c = true := by
  simp [EndsBlank]

theorem BeginsBlank.append {x y : List Char} (hx : BeginsBlank x) (hy : BeginsBlank y) :
    BeginsBlank (x ++ y) := by
  cases x with
  | nil => exact hy
  | cons c x => simpa using hx

theorem beginsBlank_append_iff {x y : List Char} (hx : x ≠ []) : BeginsBlank (x ++ y) ↔ BeginsBlank x := by
  cases x with
  | nil => exact absurd rfl hx
  | cons c x => simp

theorem endsBlank_append_iff {x y : List Char} (hy : y ≠ []) : EndsBlank (x ++ y) ↔ EndsBlank y := by
  induction y using List.reverseRecOn with
  | nil => exact absurd rfl hy
  | append_singleton y c _ => rw [← List.append_assoc, endsBlank_concat, endsBlank_concat]

theorem AllBlank.beginsBlank {s : List Char} (h : AllBlank s) : BeginsBlank s :=
  fun c hc => h c (List.mem_of_mem_head? hc)

theorem AllBlank.endsBlank {s : List Char} (h : AllBlank s) : EndsBlank s :=
  fun c hc => h c (List.mem_of_mem_getLast? hc)

/-- A text of blanks only in which no blank occurs is empty. -/
theorem AllBlank.eq_nil_of_solid {s : List Char} (hb : AllBlank s) (hs : Solid s) : s = [] := by
  cases s with
  | nil => rfl
  | cons c s =>
    have h1 := hb c List.mem_cons_self
    have h2 := hs c List.mem_cons_self
    simp_all

theorem Solid.eq_nil_of_beginsBlank {s : List Char} (hs : Solid s) (hb : BeginsBlank s) : s = [] := by
  cases s with
  | nil => rfl
  | cons c s => simp_all

theorem Solid.eq_nil_of_endsBlank {s : List Char} (hs : Solid s) (hb : EndsBlank s) : s = [] := by
  induction s using List.reverseRecOn with
  | nil => rfl
  | append_singleton s c _ => simp_all

theorem beginsBlank_dropWhile_isSolid (s : List Char) : BeginsBlank (s.dropWhile isSolid) := by
  intro c hc
  have h := List.head?_dropWhile_not isSolid s
  rw [Option.mem_def.1 hc] at h
  simpa [isSolid] using h

theorem endsBlank_rdropWhile_isSolid (s : List Char) : EndsBlank (s.rdropWhile isSolid) := by
  intro c hc
  obtain ⟨hne, rfl⟩ := List.mem_getLast?_eq_getLast hc
  simpa using List.rdropWhile_last_not isSolid s hne

theorem solid_takeWhile (s : List Char) : Solid (s.takeWhile isSolid) :=
  fun _ hc => List.mem_takeWhile_imp hc

theorem solid_rtakeWhile (s : List Char) : Solid (s.rtakeWhile isSolid) :=
  fun _ hc => List.mem_rtakeWhile_imp hc

theorem allBlank_takeWhile (s : List Char) : AllBlank (s.takeWhile isBlank) :=
  fun _ hc => List.mem_takeWhile_imp hc

/-! ### Trimming -/

/-- The text neither begins nor ends with a blank. -/
def Trimmed (s : List Char) : Prop := (∀ c ∈ s.head?, isSolid c) ∧ ∀ c ∈ s.getLast?, isSolid c

theorem trimEnd_eq_rdropWhile (s : List Char) : trimEnd s = s.rdropWhile isBlank := by
  induction s with
  | nil => simp [trimEnd]
  | cons c s ih =>
    rw [trimEnd, ih]
    simp only [List.rdropWhile, List.reverse_cons, List.dropWhile_append]
    cases h : s.reverse.dropWhile isBlank with
    | nil => by_cases hc : isBlank c <;> simp [hc]
    | cons d t =>
      obtain ⟨e, u, hu⟩ := List.exists_cons_of_ne_nil (l := t.reverse ++ [d]) (by simp)
      simp [hu]

theorem trim_eq (s : List Char) : trim s = (s.dropWhile isBlank).rdropWhile isBlank := by
  rw [trim, trimStart, trimEnd_eq_rdropWhile]

theorem trim_prefix_trimStart (s : List Char) : trim s <+: trimStart s := by
  rw [trim, trimEnd_eq_rdropWhile]
  exact List.rdropWhile_prefix _ _

/-- Trimming takes blanks away at both ends. -/
theorem exists_eq_append_trim_append (s : List Char) :
    ∃ b, AllBlank b ∧ s = s.takeWhile isBlank ++ trim s ++ b := by
  refine ⟨(s.dropWhile isBlank).rtakeWhile isBlank, fun c hc => List.mem_rtakeWhile_imp hc, ?_⟩
  rw [trim_eq, List.append_assoc, List.rdropWhile_append_rtakeWhile, List.takeWhile_append_dropWhile]

theorem trimmed_trim (s : List Char) : Trimmed (trim s) := by
  constructor
  · intro c hc
    obtain ⟨r, hr⟩ : trim s <+: s.dropWhile isBlank := trim_prefix_trimStart s
    have hhead := List.head?_dropWhile_not isBlank s
    rw [← hr, List.head?_append, Option.mem_def.1 hc] at hhead
    simpa using hhead
  · intro c hc
    rw [trim_eq] at hc
    obtain ⟨hne, rfl⟩ := List.mem_getLast?_eq_getLast hc
    simpa using List.rdropWhile_last_not isBlank _ hne

theorem Trimmed.trim_eq {s : List Char} (h : Trimmed s) : trim s = s := by
  have hstart : s.dropWhile isBlank = s := by
    cases s with
    | nil => rfl
    | cons c s =>
      have hc : isBlank c = false := by simpa using h.1 c rfl
      simp [hc]
  rw [Text.trim_eq, hstart, List.rdropWhile_eq_self_iff]
  intro hne
  simpa using h.2 _ (List.getLast?_eq_getLast_of_ne_nil hne)

/-- A text without blanks is trimmed. -/
theorem Solid.trim_eq {s : List Char} (h : Solid s) : trim s = s :=
  Trimmed.trim_eq ⟨fun c hc => h c (List.mem_of_mem_head? hc), fun c hc => h c (List.mem_of_mem_getLast? hc)⟩

theorem trimmed_trimmed (s : String) : trimmed (trimmed s) = trimmed s := by
  rw [trimmed, trimmed, String.toList_ofList, (trimmed_trim s.toList).trim_eq]

/-- Blanks at both ends do not matter to the trimmed text. -/
theorem trim_append_of_allBlank {a b : List Char} (ha : AllBlank a) (hb : AllBlank b) (s : List Char) :
    trim (a ++ s ++ b) = trim s := by
  have hrev : ∀ c ∈ b.reverse, isBlank c = true := fun c hc => hb c (List.mem_reverse.1 hc)
  rw [trim_eq, trim_eq, List.append_assoc, List.dropWhile_append_of_pos ha, List.dropWhile_append]
  cases h : s.dropWhile isBlank with
  | nil => simp [List.dropWhile_eq_nil_iff.2 hb]
  | cons c r =>
    simp only [List.isEmpty_cons, Bool.false_eq_true, if_false, List.rdropWhile]
    rw [List.reverse_append, List.dropWhile_append_of_pos hrev]

/-- Trimming takes nothing else away. -/
theorem filter_isSolid_trim (s : List Char) : (trim s).filter isSolid = s.filter isSolid := by
  obtain ⟨b, hb, hs⟩ := exists_eq_append_trim_append s
  have hnone : ∀ {t : List Char}, AllBlank t → t.filter isSolid = [] := fun ht =>
    List.filter_eq_nil_iff.2 fun c hc => by simp [ht c hc]
  conv_rhs => rw [hs]
  simp [hnone (allBlank_takeWhile s), hnone hb]

theorem trim_sublist (s : List Char) : (trim s).Sublist s := by
  obtain ⟨b, -, hs⟩ := exists_eq_append_trim_append s
  conv_rhs => rw [hs]
  exact (List.sublist_append_right _ (trim s)).trans (List.sublist_append_left _ b)

/-- A text that does not end with a blank is kept when what it begins is trimmed at the end. -/
theorem prefix_rdropWhile_append {s : List Char} (h : ∀ c ∈ s.getLast?, isSolid c) (t : List Char) :
    s <+: (s ++ t).rdropWhile isBlank := by
  induction t using List.reverseRecOn with
  | nil =>
    have hself : s.rdropWhile isBlank = s := by
      rw [List.rdropWhile_eq_self_iff]
      intro hne
      simpa using h _ (List.getLast?_eq_getLast_of_ne_nil hne)
    rw [List.append_nil, hself]
  | append_singleton t c ih =>
    rw [← List.append_assoc, List.rdropWhile_concat]
    split
    · exact ih
    · exact (List.prefix_append s t).trans (List.prefix_append (s ++ t) [c])

/-- **A beginning of a text** is a beginning also when both are trimmed. -/
theorem trim_prefix_trim {s t : List Char} (h : s <+: t) : trim s <+: trim t := by
  obtain ⟨r, rfl⟩ := h
  obtain ⟨b, -, hs⟩ := exists_eq_append_trim_append s
  have ha := allBlank_takeWhile s
  have htrimmed := trimmed_trim s
  generalize trim s = core at *
  generalize s.takeWhile isBlank = a at *
  subst hs
  cases core with
  | nil => exact List.nil_prefix
  | cons c core =>
    have hhead : isBlank c = false := by simpa using htrimmed.1 c rfl
    have hstart : (a ++ (c :: core) ++ b ++ r).dropWhile isBlank = c :: core ++ (b ++ r) := by
      rw [List.append_assoc, List.append_assoc, List.dropWhile_append_of_pos ha]
      simp [hhead]
    rw [trim_eq, hstart]
    exact prefix_rdropWhile_append htrimmed.2 (b ++ r)

/-! ### Words -/

theorem splitWhere_eq_splitOnP (p : Char → Bool) (s : List Char) : splitWhere p s = s.splitOnP p := by
  induction s with
  | nil => rfl
  | cons c s ih =>
    rw [splitWhere, ih, List.splitOnP_cons_eq_if_modifyHead]
    split
    · rfl
    · cases h : s.splitOnP p with
      | nil => exact absurd h (List.splitOnP_ne_nil p s)
      | cons piece pieces => rfl

/-- A piece is not split again. -/
theorem splitWhere_of_mem {p : Char → Bool} {s piece : List Char} (h : piece ∈ splitWhere p s) :
    splitWhere p piece = [piece] := by
  have hnone : ∀ c ∈ piece, p c = false := by
    induction s generalizing piece with
    | nil => simp_all [splitWhere]
    | cons d s ih =>
      rw [splitWhere] at h
      split at h
      · rcases List.mem_cons.1 h with rfl | h
        · exact fun c hc => nomatch hc
        · exact ih h
      · rename_i hd
        split at h
        · simpa [List.mem_singleton.1 h] using hd
        · rename_i first rest hsplit
          rcases List.mem_cons.1 h with rfl | h
          · rw [List.forall_mem_cons]
            exact ⟨Bool.eq_false_iff.2 hd, ih (by rw [hsplit]; exact List.mem_cons_self)⟩
          · exact ih (by rw [hsplit]; exact List.mem_cons_of_mem _ h)
  rw [splitWhere_eq_splitOnP, List.splitOnP_eq_singleton hnone]

@[simp] theorem words_nil : words [] = [] := by simp [words, splitWhere]

theorem words_append_cons_of_isBlank {c : Char} (hc : isBlank c) (x y : List Char) :
    words (x ++ c :: y) = words x ++ words y := by
  simp only [words, splitWhere_eq_splitOnP]
  rw [List.splitOnP_append_cons x y hc, List.filter_append]

theorem words_cons_of_isBlank {c : Char} (hc : isBlank c) (s : List Char) : words (c :: s) = words s := by
  simpa using words_append_cons_of_isBlank hc [] s

/-- **The words on both sides of a break** are the words of the whole. -/
theorem words_append {x y : List Char} (h : Break x y) : words (x ++ y) = words x ++ words y := by
  rcases h with hx | hy
  · induction x using List.reverseRecOn with
    | nil => simp
    | append_singleton x c _ =>
      have hc : isBlank c = true := by simpa using hx
      rw [List.append_assoc, List.singleton_append, words_append_cons_of_isBlank hc,
        words_append_cons_of_isBlank hc, words_nil, List.append_nil]
  · cases y with
    | nil => simp
    | cons c y =>
      have hc : isBlank c = true := by simpa using hy
      rw [words_append_cons_of_isBlank hc, words_cons_of_isBlank hc]

theorem words_of_allBlank {s : List Char} (h : AllBlank s) : words s = [] := by
  induction s with
  | nil => exact words_nil
  | cons c s ih =>
    rw [words_cons_of_isBlank (h c List.mem_cons_self)]
    exact ih fun d hd => h d (List.mem_cons_of_mem c hd)

theorem words_of_isWord {w : List Char} (h : IsWord w) : words w = [w] := by
  have hsolid : ∀ c ∈ w, isBlank c = false := fun c hc => by simpa using h.2 c hc
  rw [words, splitWhere_eq_splitOnP, List.splitOnP_eq_singleton hsolid]
  simp [h.1]

theorem words_of_solid {s : List Char} (h : Solid s) : words s = if s = [] then [] else [s] := by
  split
  · rename_i hs
    rw [hs, words_nil]
  · rename_i hs
    exact words_of_isWord ⟨hs, h⟩

/-- Without the blanks at both ends there are the same words. -/
theorem words_trim (s : List Char) : words (trim s) = words s := by
  obtain ⟨b, hb, hs⟩ := exists_eq_append_trim_append s
  have ha := allBlank_takeWhile s
  conv_rhs => rw [hs]
  rw [words_append (.inr hb.beginsBlank), words_append (.inl ha.endsBlank), words_of_allBlank ha,
    words_of_allBlank hb, List.nil_append, List.append_nil]

/-- A text that does not begin with a blank begins with its first word. -/
theorem words_cons_of_isSolid {c : Char} (hc : isBlank c = false) (s : List Char) :
    words (c :: s) = (c :: s.takeWhile isSolid) :: words (s.dropWhile isSolid) := by
  have hword : IsWord (c :: s.takeWhile isSolid) :=
    ⟨List.cons_ne_nil _ _, solid_cons.2 ⟨hc, solid_takeWhile s⟩⟩
  conv_lhs => rw [← List.takeWhile_append_dropWhile (p := isSolid) (l := s), ← List.cons_append]
  rw [words_append (.inr (beginsBlank_dropWhile_isSolid s)), words_of_isWord hword, List.singleton_append]

/-- A text is blanks only, or blanks and then a text that begins with its first word. -/
theorem allBlank_or_exists_eq_append_cons (t : List Char) :
    AllBlank t ∨ ∃ a c s, AllBlank a ∧ isBlank c = false ∧ t = a ++ c :: s := by
  cases hd : t.dropWhile isBlank with
  | nil => exact .inl (List.dropWhile_eq_nil_iff.1 hd)
  | cons c s =>
    have hnot := List.head?_dropWhile_not isBlank t
    refine .inr ⟨t.takeWhile isBlank, c, s, allBlank_takeWhile t, by simpa [hd] using hnot, ?_⟩
    rw [← hd, List.takeWhile_append_dropWhile]

theorem words_eq_nil_iff {t : List Char} : words t = [] ↔ AllBlank t := by
  refine ⟨fun h => ?_, words_of_allBlank⟩
  rcases allBlank_or_exists_eq_append_cons t with ht | ⟨a, c, s, ha, hc, rfl⟩
  · exact ht
  · rw [words_append (.inl ha.endsBlank), words_cons_of_isSolid hc] at h
    simp at h

/-- Where the first word of a text stands. -/
theorem exists_of_words_eq_cons {t w : List Char} {ws : List (List Char)} (h : words t = w :: ws) :
    ∃ a y, AllBlank a ∧ IsWord w ∧ BeginsBlank y ∧ t = a ++ w ++ y ∧ words y = ws := by
  rcases allBlank_or_exists_eq_append_cons t with ht | ⟨a, c, s, ha, hc, rfl⟩
  · rw [words_of_allBlank ht] at h
    cases h
  · rw [words_append (.inl ha.endsBlank), words_of_allBlank ha, List.nil_append,
      words_cons_of_isSolid hc] at h
    obtain ⟨rfl, hws⟩ := List.cons.inj h
    refine ⟨a, s.dropWhile isSolid, ha, ⟨List.cons_ne_nil _ _, solid_cons.2 ⟨hc, solid_takeWhile s⟩⟩,
      beginsBlank_dropWhile_isSolid s, ?_, hws⟩
    rw [List.append_assoc, List.cons_append, List.takeWhile_append_dropWhile]

/-- **Where a word of a text stands**: between two breaks, with the words before it and the words
after it on its two sides. -/
theorem exists_of_words_eq {ws ws' : List (List Char)} {t w : List Char} (h : words t = ws ++ w :: ws') :
    ∃ x y, EndsBlank x ∧ IsWord w ∧ BeginsBlank y ∧ t = x ++ w ++ y ∧ words x = ws ∧ words y = ws' := by
  induction ws generalizing t with
  | nil =>
    obtain ⟨a, y, ha, hw, hy, ht, hws⟩ := exists_of_words_eq_cons h
    exact ⟨a, y, ha.endsBlank, hw, hy, ht, words_of_allBlank ha, hws⟩
  | cons v ws ih =>
    obtain ⟨a, r, ha, hv, hr, ht, hwords⟩ := exists_of_words_eq_cons h
    obtain ⟨x, y, hx, hw, hy, rfl, hws, hws'⟩ := ih hwords
    have hx' : x ≠ [] := by
      rintro rfl
      rw [List.nil_append, beginsBlank_append_iff hw.1] at hr
      exact hw.1 (hw.2.eq_nil_of_beginsBlank hr)
    have hbegins : BeginsBlank x := by
      rwa [List.append_assoc, beginsBlank_append_iff hx'] at hr
    refine ⟨a ++ v ++ x, y, (endsBlank_append_iff hx').2 hx, hw, hy, ?_, ?_, hws'⟩
    · rw [ht]
      simp only [List.append_assoc]
    · rw [List.append_assoc, words_append (.inl ha.endsBlank), words_of_allBlank ha, List.nil_append,
        words_append (.inr hbegins), words_of_isWord hv, hws, List.singleton_append]

theorem infix_of_mem_words {w t : List Char} (h : w ∈ words t) : w <:+: t := by
  obtain ⟨ws, ws', hws⟩ := List.append_of_mem h
  obtain ⟨x, y, -, -, -, rfl, -⟩ := exists_of_words_eq hws
  exact List.infix_append x w y

theorem isWord_of_mem_words {w t : List Char} (h : w ∈ words t) : IsWord w := by
  obtain ⟨ws, ws', hws⟩ := List.append_of_mem h
  obtain ⟨x, y, -, hw, -⟩ := exists_of_words_eq hws
  exact hw

/-! ### Occurrences of solid texts -/

/-- A text without blanks does not occur across a break. -/
theorem Solid.infix_append {s x y : List Char} (hs : Solid s) (h : Break x y) :
    s <:+: x ++ y ↔ s <:+: x ∨ s <:+: y := by
  rw [List.infix_append_iff_ne_nil]
  constructor
  · rintro (hx | hy | ⟨l, r, hl, hr, rfl, hlx, hry⟩)
    · exact .inl hx
    · exact .inr hy
    · obtain ⟨hsl, hsr⟩ := solid_append.1 hs
      obtain ⟨x', rfl⟩ := hlx
      obtain ⟨y', rfl⟩ := hry
      rcases h with hx | hy
      · exact absurd (hsl.eq_nil_of_endsBlank ((endsBlank_append_iff hl).1 hx)) hl
      · exact absurd (hsr.eq_nil_of_beginsBlank ((beginsBlank_append_iff hr).1 hy)) hr
  · rintro (hx | hy)
    · exact .inl hx
    · exact .inr (.inl hy)

theorem Solid.not_infix_of_allBlank {s t : List Char} (hs : Solid s) (hne : s ≠ []) (ht : AllBlank t) :
    ¬ s <:+: t := fun h =>
  hne (AllBlank.eq_nil_of_solid (fun c hc => ht c (h.subset hc)) hs)

/-- **A text without blanks occurs in a text** exactly if it occurs in one of its words. -/
theorem Solid.infix_iff_words {s t : List Char} (hs : Solid s) (hne : s ≠ []) :
    s <:+: t ↔ ∃ w ∈ words t, s <:+: w := by
  constructor
  · intro h
    generalize hws : words t = ws
    induction ws generalizing t with
    | nil => exact absurd h (hs.not_infix_of_allBlank hne (words_eq_nil_iff.1 hws))
    | cons w ws ih =>
      obtain ⟨a, y, ha, -, hy, rfl, hwords⟩ := exists_of_words_eq_cons hws
      rw [hs.infix_append (.inr hy), hs.infix_append (.inl ha.endsBlank)] at h
      rcases h with (h | h) | h
      · exact absurd h (hs.not_infix_of_allBlank hne ha)
      · exact ⟨w, List.mem_cons_self, h⟩
      · obtain ⟨v, hv, hsv⟩ := ih h hwords
        exact ⟨v, List.mem_cons_of_mem w hv, hsv⟩
  · rintro ⟨w, hw, hsw⟩
    exact hsw.trans (infix_of_mem_words hw)

/-! ### Clipped texts -/

/-- Each word of the text is the beginning of a word of the other one. -/
def Clipped (t whole : List Char) : Prop := ∀ w ∈ words t, ∃ v ∈ words whole, w <+: v

theorem Clipped.refl (t : List Char) : Clipped t t := fun w hw => ⟨w, hw, List.prefix_rfl⟩

theorem Clipped.trans {s t u : List Char} (h : Clipped s t) (h' : Clipped t u) : Clipped s u := by
  intro w hw
  obtain ⟨v, hv, hwv⟩ := h w hw
  obtain ⟨x, hx, hvx⟩ := h' v hv
  exact ⟨x, hx, hwv.trans hvx⟩

theorem clipped_trim (t : List Char) : Clipped (trim t) t := by
  intro w hw
  rw [words_trim] at hw
  exact ⟨w, hw, List.prefix_rfl⟩

/-- The beginning of a text has the first words of it, the last of which may be cut off. -/
theorem clipped_append_right (x z : List Char) : Clipped x (x ++ z) := by
  have hx : x = x.rdropWhile isSolid ++ x.rtakeWhile isSolid := by
    rw [List.rdropWhile_append_rtakeWhile]
  have hz : z = z.takeWhile isSolid ++ z.dropWhile isSolid := by
    rw [List.takeWhile_append_dropWhile]
  have hsolid := solid_append.2 ⟨solid_rtakeWhile x, solid_takeWhile z⟩
  have hwords : words (x ++ z) = words (x.rdropWhile isSolid) ++
      words (x.rtakeWhile isSolid ++ z.takeWhile isSolid) ++ words (z.dropWhile isSolid) := by
    conv_lhs => rw [hx, hz, ← List.append_assoc, List.append_assoc (x.rdropWhile isSolid)]
    rw [words_append (.inr (beginsBlank_dropWhile_isSolid z)),
      words_append (.inl (endsBlank_rdropWhile_isSolid x))]
  intro w hw
  rw [hx, words_append (.inl (endsBlank_rdropWhile_isSolid x)), List.mem_append] at hw
  rw [hwords]
  rcases hw with hw | hw
  · exact ⟨w, by simp [hw], List.prefix_rfl⟩
  · rw [words_of_solid (solid_rtakeWhile x)] at hw
    split at hw
    · simp at hw
    · rename_i hne
      obtain rfl := List.mem_singleton.1 hw
      refine ⟨x.rtakeWhile isSolid ++ z.takeWhile isSolid, ?_, List.prefix_append _ _⟩
      rw [words_of_isWord ⟨by simp [hne], hsolid⟩]
      simp

/-- **What is cut out up to the end of a word** leaves a clipped text. -/
theorem clipped_cut {y : List Char} (hy : BeginsBlank y) (x z : List Char) :
    Clipped (x ++ y) (x ++ z ++ y) := by
  intro w hw
  rw [words_append (.inr hy), List.mem_append] at hw
  rw [words_append (.inr hy)]
  rcases hw with hw | hw
  · obtain ⟨v, hv, hwv⟩ := clipped_append_right x z w hw
    exact ⟨v, List.mem_append_left _ hv, hwv⟩
  · exact ⟨w, List.mem_append_right _ hw, List.prefix_rfl⟩

/-- Nothing without blanks occurs in a clipped text that does not occur in the whole. -/
theorem Clipped.occurs {s t whole : List Char} (h : Clipped t whole) (hs : Solid s) (hst : s <:+: t) :
    s <:+: whole := by
  by_cases hne : s = []
  · rw [hne]
    exact List.nil_infix
  · obtain ⟨w, hw, hsw⟩ := (hs.infix_iff_words hne).1 hst
    obtain ⟨v, hv, hwv⟩ := h w hw
    exact (hsw.trans hwv.isInfix).trans (infix_of_mem_words hv)

end PageSearch.Text
