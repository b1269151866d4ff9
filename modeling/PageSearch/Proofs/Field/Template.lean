import PageSearch.Field.Template
import PageSearch.Proofs.Outcome

/-!
# Templates that stand for themselves

A backslash before a character that is neither a letter nor a digit nor a backslash is itself, and so is the character
(`isInert`). Every other escape is longer than what it stands for, if backslashes count three times (`weight`), so that
nothing that follows can make up for it. So a template stands for itself exactly if each of its backslashes comes before
such a character (`expand_eq_self_iff`).
-/

namespace PageSearch.Template

/-! ### Inert templates -/

/-- A character that a backslash before it leaves as it is. -/
def isInert (c : Char) : Bool := !c.isAlphanum && c != '\\'

/-- A template in which every backslash comes before a character that it leaves as it is. -/
def Inert (template : List Char) : Prop :=
  ∀ x y, template = x ++ '\\' :: y → ∃ c r, y = c :: r ∧ isInert c = true

/-- A token that stands for itself. -/
def Token.IsInert : Token → Prop
  | plain _ => True
  | escaped c => isInert c = true
  | dangling => False

theorem inert_nil : Inert [] := by
  intro x y h
  simp at h

theorem inert_cons_of_ne {c : Char} (hc : c ≠ '\\') {s : List Char} : Inert (c :: s) ↔ Inert s := by
  constructor
  · intro h x y hs
    exact h (c :: x) y (by rw [hs, List.cons_append])
  · intro h x y hs
    cases x with
    | nil => exact absurd (List.cons.inj hs).1 hc
    | cons d x => exact h x y (List.cons.inj hs).2

theorem inert_escape_iff {d : Char} {s : List Char} : Inert ('\\' :: d :: s) ↔ isInert d = true ∧ Inert s := by
  constructor
  · intro h
    obtain ⟨c, r, hy, hc⟩ := h [] (d :: s) rfl
    obtain ⟨rfl, -⟩ := List.cons.inj hy
    refine ⟨hc, fun x y hs => h ('\\' :: d :: x) y ?_⟩
    rw [hs, List.cons_append, List.cons_append]
  · rintro ⟨hd, hs⟩ x y h
    match x, h with
    | [], h => exact ⟨d, s, (List.cons.inj h).2.symm, hd⟩
    | [e], h =>
      -- the character after a backslash is no backslash itself
      obtain ⟨rfl, -⟩ := List.cons.inj (List.cons.inj h).2
      simp [isInert] at hd
    | e :: f :: x, h => exact hs x y (List.cons.inj (List.cons.inj h).2).2

theorem inert_iff_tokens (template : List Char) : Inert template ↔ ∀ token ∈ tokens template, token.IsInert := by
  fun_induction tokens template with
  | case1 => simp [inert_nil]
  | case2 c hc =>
    obtain rfl := beq_iff_eq.1 hc
    refine iff_of_false (fun h => ?_) (by simp [Token.IsInert])
    obtain ⟨c, r, hy, -⟩ := h [] [] rfl
    cases hy
  | case3 c hc =>
    rw [inert_cons_of_ne (by simpa using hc)]
    simp [inert_nil, Token.IsInert]
  | case4 c d r hc ih =>
    obtain rfl := beq_iff_eq.1 hc
    rw [inert_escape_iff, ih, List.forall_mem_cons]
    rfl
  | case5 c d r hc ih =>
    rw [inert_cons_of_ne (by simpa using hc), ih, List.forall_mem_cons]
    exact (and_iff_right trivial).symm

/-- The tokens of a template have its characters. -/
theorem flatMap_chars_tokens (template : List Char) : (tokens template).flatMap Token.chars = template := by
  fun_induction tokens template with
  | case1 => rfl
  | case2 c hc => rw [beq_iff_eq.1 hc]; rfl
  | case3 c hc => rfl
  | case4 c d r hc ih => rw [List.flatMap_cons, ih, beq_iff_eq.1 hc]; rfl
  | case5 c d r hc ih => rw [List.flatMap_cons, ih]; rfl

/-! ### Reading inert templates -/

theorem advance_of_inert {template : List Char} {rest : List Token} (h : ∀ token ∈ rest, token.IsInert) :
    advance template rest = .ok () := by
  unfold advance
  split
  · exact absurd (h _ List.mem_cons_self) id
  · rfl

theorem control?_of_isInert {c : Char} (hc : isInert c = true) : control? c = none := by
  unfold control?
  split
  case h_8 => rfl
  all_goals exact absurd hc (by decide)

theorem readEscape_of_isInert {c : Char} (hc : isInert c = true) (template : List Char) (rest : List Token) :
    readEscape template c rest = .ok ([.char '\\', .char c], rest) := by
  have hne : ∀ d, isInert d = false → (c == d) = false := by
    intro d hd
    rw [beq_eq_false_iff_ne]
    rintro rfl
    rw [hc] at hd
    cases hd
  have hkind : c.isAlpha = false ∧ Reading.isDigit c = false := by
    simp only [isInert, Bool.and_eq_true, Bool.not_eq_true', Char.isAlphanum, Bool.or_eq_false_iff] at hc
    exact hc.1
  simp only [readEscape, hne 'g' (by decide), hne '0' (by decide), hkind.2, control?_of_isInert hc,
    hne '\\' (by decide), hkind.1, Bool.false_eq_true, if_false]

/-- A character is read as itself, if no backslash at the end follows it. -/
theorem readPieces_plain (template : List Char) (fuel : Nat) (c : Char) (rest : List Token) :
    readPieces template (fuel + 1) (.plain c :: rest) = do
      advance template rest
      let pieces ← readPieces template fuel rest
      return .char c :: pieces := rfl

/-- An escape is read with what follows it. -/
theorem readPieces_escaped (template : List Char) (fuel : Nat) (c : Char) (rest : List Token) :
    readPieces template (fuel + 1) (.escaped c :: rest) = do
      advance template rest
      let (pieces, rest) ← readEscape template c rest
      let more ← readPieces template fuel rest
      return pieces ++ more := rfl

theorem readPieces_of_inert (template : List Char) {fuel : Nat} {rest : List Token} (hfuel : rest.length ≤ fuel)
    (h : ∀ token ∈ rest, token.IsInert) :
    readPieces template fuel rest = .ok ((rest.flatMap Token.chars).map .char) := by
  induction rest generalizing fuel with
  | nil => cases fuel <;> rfl
  | cons token rest ih =>
    obtain ⟨htoken, hrest⟩ := List.forall_mem_cons.1 h
    cases fuel with
    | zero => cases hfuel
    | succ fuel =>
      have htail := ih (Nat.le_of_succ_le_succ hfuel) hrest
      cases token with
      | plain c =>
        rw [readPieces_plain, advance_of_inert hrest, htail]
        rfl
      | escaped c =>
        rw [readPieces_escaped, advance_of_inert hrest, readEscape_of_isInert htoken]
        change (readPieces template fuel rest >>= fun more => pure ([.char '\\', .char c] ++ more)) = _
        rw [htail]
        rfl
      | dangling => exact absurd htoken id

/-! ### Escapes are longer than what they stand for -/

/-- The length of a text in which each backslash counts three times. -/
def weight (s : List Char) : Nat := s.length + 2 * s.count '\\'

@[simp] theorem weight_nil : weight [] = 0 := rfl

@[simp] theorem weight_append (s t : List Char) : weight (s ++ t) = weight s + weight t := by
  simp only [weight, List.length_append, List.count_append]
  omega

theorem weight_singleton_le (c : Char) : weight [c] ≤ 3 := by
  have hcount := List.count_le_length (a := '\\') (l := [c])
  simp only [List.length_singleton] at hcount
  simp only [weight, List.length_singleton]
  omega

theorem weight_escaped_le (c : Char) : 4 ≤ weight (Token.escaped c).chars := by
  simp only [weight, Token.chars, List.length_cons, List.length_nil, List.count_cons_self]
  omega

theorem length_le_weight (s : List Char) : s.length ≤ weight s := Nat.le_add_right _ _

/-- A part of the tokens that are left is read, and what stands for it is shorter than an escape and this part. -/
def Shortens (whole : List Char) (c : Char) (pieces : List Piece) (rest rest' : List Token) : Prop :=
  ∃ taken, rest = taken ++ rest' ∧
    weight (pieces.flatMap (Piece.expand whole)) < weight ((Token.escaped c).chars ++ taken.flatMap Token.chars)

section Shortens

variable {whole : List Char} {c : Char} {pieces more : List Piece} {rest rest' : List Token}

theorem Shortens.length_le (h : Shortens whole c pieces rest rest') : rest'.length ≤ rest.length := by
  obtain ⟨taken, rfl, -⟩ := h
  rw [List.length_append]
  exact Nat.le_add_left _ _

/-- What is lost in an escape is not won back by what follows. -/
theorem Shortens.weight_lt (h : Shortens whole c pieces rest rest')
    (hmore : weight (more.flatMap (Piece.expand whole)) ≤ weight (rest'.flatMap Token.chars)) :
    weight ((pieces ++ more).flatMap (Piece.expand whole)) < weight ((Token.escaped c :: rest).flatMap Token.chars) := by
  obtain ⟨taken, rfl, hlt⟩ := h
  rw [weight_append] at hlt
  rw [List.flatMap_append, List.flatMap_cons, List.flatMap_append, weight_append, weight_append, weight_append]
  omega

end Shortens

/-- Every escape is longer than a character. -/
theorem shortens_char (whole : List Char) (c d : Char) (taken rest : List Token) :
    Shortens whole c [.char d] (taken ++ rest) rest := by
  refine ⟨taken, rfl, ?_⟩
  have hchar := weight_singleton_le d
  have hescape := weight_escaped_le c
  rw [weight_append]
  change weight [d] < _
  omega

theorem exists_of_takeOctal {template digits : List Char} {count : Nat} {rest rest' : List Token}
    (h : takeOctal template count rest = .ok (digits, rest')) : ∃ taken, rest = taken ++ rest' := by
  fun_induction takeOctal template count rest generalizing digits with
  | case1 count c rest hoctal ih =>
    simp only [Outcome.bind_eq_ok, Outcome.pure_eq_ok] at h
    obtain ⟨-, -, ⟨more, rest''⟩, hmore, heq⟩ := h
    obtain ⟨-, rfl⟩ := Prod.mk.inj heq
    obtain ⟨taken, rfl⟩ := ih hmore
    exact ⟨.plain c :: taken, rfl⟩
  | case2 count c rest hoctal =>
    obtain ⟨-, rfl⟩ := Prod.mk.inj (Except.ok.inj h)
    exact ⟨[], rfl⟩
  | case3 =>
    obtain ⟨-, rfl⟩ := Prod.mk.inj (Except.ok.inj h)
    exact ⟨[], rfl⟩

/-- A name ends before its closing bracket, and is not empty. -/
theorem exists_of_takeName {template name found : List Char} {rest rest' : List Token}
    (h : takeName template name rest = .ok (found, rest')) :
    found ≠ [] ∧ ∃ taken, rest = taken ++ rest' ∧ found.length < name.length + (taken.flatMap Token.chars).length := by
  induction rest generalizing name with
  | nil => cases h
  | cons token rest ih =>
    simp only [takeName, Outcome.bind_eq_ok] at h
    obtain ⟨-, -, h⟩ := h
    split at h
    · rename_i htoken
      split at h
      · cases h
      · rename_i hname
        obtain ⟨rfl, rfl⟩ := Prod.mk.inj (Except.ok.inj h)
        refine ⟨fun hnil => hname (List.isEmpty_iff.2 hnil), [token], rfl, ?_⟩
        rw [htoken]
        exact Nat.lt_succ_self _
    · obtain ⟨hfound, taken, rfl, hlength⟩ := ih h
      refine ⟨hfound, token :: taken, rfl, ?_⟩
      rw [List.length_append] at hlength
      rw [List.flatMap_cons, List.length_append]
      omega

/-- A reference to the whole match is longer than a short match. -/
theorem shortens_of_readReference {whole template : List Char} (hwhole : weight whole ≤ 6) {pieces : List Piece}
    {rest rest' : List Token} (h : readReference template rest = .ok (pieces, rest')) :
    Shortens whole 'g' pieces rest rest' := by
  unfold readReference at h
  split at h
  · rename_i rest
    simp only [Outcome.bind_eq_ok] at h
    obtain ⟨-, -, ⟨name, rest''⟩, hname, h⟩ := h
    obtain ⟨hne, taken, rfl, hlength⟩ := exists_of_takeName hname
    split at h
    · cases h
    · split at h
      · obtain ⟨rfl, rfl⟩ := Prod.mk.inj (Except.ok.inj h)
        refine ⟨.plain '<' :: taken, rfl, ?_⟩
        have hescape := weight_escaped_le 'g'
        have htaken := length_le_weight ((Token.plain '<' :: taken).flatMap Token.chars)
        have hpos := List.length_pos_of_ne_nil hne
        have hbracket : ((Token.plain '<' :: taken).flatMap Token.chars).length =
            (taken.flatMap Token.chars).length + 1 := rfl
        have hmatched : [Piece.matched].flatMap (Piece.expand whole) = whole := List.append_nil whole
        rw [weight_append, hmatched]
        rw [List.length_nil] at hlength
        omega
      · cases h
      · cases h
  · cases h

/-- Three octal digits are longer than a character. -/
theorem shortens_of_readNumber {template : List Char} (whole : List Char) {c : Char} {pieces : List Piece}
    {rest rest' : List Token} (h : readNumber template c rest = .ok (pieces, rest')) :
    Shortens whole c pieces rest rest' := by
  unfold readNumber at h
  split at h
  · rename_i d rest
    split at h
    · cases h
    · simp only [Outcome.bind_eq_ok] at h
      obtain ⟨-, -, h⟩ := h
      split at h
      · rename_i e rest
        split at h
        · simp only [Outcome.bind_eq_ok] at h
          obtain ⟨-, -, h⟩ := h
          split at h
          · cases h
          · obtain ⟨rfl, rfl⟩ := Prod.mk.inj (Except.ok.inj h)
            exact shortens_char whole c _ [.plain d, .plain e] rest
        · cases h
      · cases h
  · cases h

/-- **An escape** is inert, or it is longer than what it stands for. -/
theorem shortens_of_readEscape {whole template : List Char} (hwhole : weight whole ≤ 6) {c : Char} {pieces : List Piece}
    {rest rest' : List Token} (h : readEscape template c rest = .ok (pieces, rest')) :
    isInert c = true ∨ Shortens whole c pieces rest rest' := by
  unfold readEscape at h
  split at h
  · rename_i hc
    obtain rfl := beq_iff_eq.1 hc
    exact .inr (shortens_of_readReference hwhole h)
  · split at h
    · simp only [Outcome.bind_eq_ok] at h
      obtain ⟨⟨digits, rest''⟩, hoctal, h⟩ := h
      obtain ⟨rfl, rfl⟩ := Prod.mk.inj (Except.ok.inj h)
      obtain ⟨taken, rfl⟩ := exists_of_takeOctal hoctal
      exact .inr (shortens_char whole c _ taken rest'')
    · split at h
      · exact .inr (shortens_of_readNumber whole h)
      · rename_i hdigit
        split at h
        · obtain ⟨rfl, rfl⟩ := Prod.mk.inj (Except.ok.inj h)
          exact .inr (shortens_char whole c _ [] rest)
        · split at h
          · obtain ⟨rfl, rfl⟩ := Prod.mk.inj (Except.ok.inj h)
            exact .inr (shortens_char whole c _ [] rest)
          · rename_i hbackslash
            split at h
            · cases h
            · rename_i halpha
              -- what is left is neither a letter nor a digit nor a backslash
              have hdigit : c.isDigit = false := Bool.eq_false_iff.2 hdigit
              refine .inl ?_
              simp only [isInert, Char.isAlphanum, hdigit, Bool.eq_false_iff.2 halpha, bne,
                Bool.eq_false_iff.2 hbackslash]
              rfl

/-- **What is read** stands for no more than its tokens, and for as much only if all of them are inert. -/
theorem weight_readPieces {whole template : List Char} (hwhole : weight whole ≤ 6) {fuel : Nat} {rest : List Token}
    {pieces : List Piece} (hfuel : rest.length ≤ fuel) (h : readPieces template fuel rest = .ok pieces) :
    weight (pieces.flatMap (Piece.expand whole)) ≤ weight (rest.flatMap Token.chars) ∧
      (weight (pieces.flatMap (Piece.expand whole)) = weight (rest.flatMap Token.chars) →
        ∀ token ∈ rest, token.IsInert) := by
  induction fuel generalizing rest pieces with
  | zero =>
    obtain rfl := List.length_eq_zero_iff.1 (Nat.le_zero.1 hfuel)
    obtain rfl := Except.ok.inj h
    exact ⟨Nat.le_refl _, by simp⟩
  | succ fuel ih =>
    match rest, h, hfuel with
    | [], h, _ =>
      obtain rfl := Except.ok.inj h
      exact ⟨Nat.le_refl _, by simp⟩
    | .plain c :: rest, h, hfuel =>
      simp only [readPieces_plain, Outcome.bind_eq_ok, Outcome.pure_eq_ok] at h
      obtain ⟨-, -, more, hmore, rfl⟩ := h
      obtain ⟨hle, hinert⟩ := ih (Nat.le_of_succ_le_succ hfuel) hmore
      rw [List.flatMap_cons, List.flatMap_cons, weight_append, weight_append]
      refine ⟨Nat.add_le_add_left hle _, fun heq => ?_⟩
      exact List.forall_mem_cons.2 ⟨trivial, hinert (Nat.add_left_cancel heq)⟩
    | .escaped c :: rest, h, hfuel =>
      simp only [readPieces_escaped, Outcome.bind_eq_ok, Outcome.pure_eq_ok] at h
      obtain ⟨-, -, ⟨read, rest'⟩, hread, more, hmore, rfl⟩ := h
      have hlength : rest.length ≤ fuel := Nat.le_of_succ_le_succ hfuel
      rcases shortens_of_readEscape hwhole hread with hc | hshortens
      · rw [List.flatMap_append, List.flatMap_cons, weight_append, weight_append]
        rw [readEscape_of_isInert hc] at hread
        obtain ⟨rfl, rfl⟩ := Prod.mk.inj (Except.ok.inj hread)
        obtain ⟨hle, hinert⟩ := ih hlength hmore
        refine ⟨Nat.add_le_add_left hle _, fun heq => ?_⟩
        exact List.forall_mem_cons.2 ⟨hc, hinert (Nat.add_left_cancel heq)⟩
      · obtain ⟨hle, -⟩ := ih (Nat.le_trans hshortens.length_le hlength) hmore
        have hlt := hshortens.weight_lt hle
        exact ⟨Nat.le_of_lt hlt, fun heq => absurd heq (Nat.ne_of_lt hlt)⟩
    | .dangling :: rest, h, _ =>
      have hpieces : pieces = [] := by
        simp only [readPieces, Outcome.bind_eq_ok, Outcome.pure_eq_ok] at h
        obtain ⟨-, -, h⟩ := h
        exact h.symm
      rw [hpieces, List.flatMap_cons, weight_append]
      have hbackslash : weight Token.dangling.chars = 3 := rfl
      refine ⟨Nat.zero_le _, fun heq => ?_⟩
      rw [List.flatMap_nil, weight_nil, hbackslash] at heq
      omega

/-! ### Expansion -/

theorem inert_of_contains_eq_false {template : List Char} (h : template.contains '\\' = false) : Inert template := by
  rintro x y rfl
  simp at h

theorem expand_of_inert {template : List Char} (h : Inert template) (whole : List Char) :
    expand whole template = .ok template := by
  have htokens := (inert_iff_tokens template).1 h
  have hread : read template = .ok (template.map .char) := by
    rw [read, advance_of_inert htokens]
    change readPieces template _ (tokens template) = _
    rw [readPieces_of_inert template (Nat.le_refl _) htokens, flatMap_chars_tokens]
  have hchars : (template.map Piece.char).flatMap (Piece.expand whole) = template := by
    rw [List.flatMap_map]
    exact List.flatMap_singleton' template
  unfold expand
  split
  · rw [hread]
    exact congrArg Except.ok hchars
  · rfl

/-- **A template stands for itself** exactly if each of its backslashes comes before a character that it leaves as it
is, no matter which short text is matched. -/
theorem expand_eq_self_iff {whole : List Char} (hwhole : weight whole ≤ 6) (template : List Char) :
    expand whole template = .ok template ↔ Inert template := by
  refine ⟨fun h => ?_, fun h => expand_of_inert h whole⟩
  unfold expand at h
  split at h
  · simp only [read, Outcome.bind_eq_ok, Outcome.pure_eq_ok] at h
    obtain ⟨pieces, ⟨-, -, hread⟩, hpieces⟩ := h
    have hweight := (weight_readPieces hwhole (Nat.le_refl _) hread).2
    rw [hpieces, flatMap_chars_tokens] at hweight
    exact (inert_iff_tokens template).2 (hweight rfl)
  · rename_i hcontains
    exact inert_of_contains_eq_false (Bool.eq_false_iff.2 hcontains)

end PageSearch.Template
