import PageSearch.Decimal.Layout
import PageSearch.Decimal.Reading
import PageSearch.Proofs.Text.Words

/-!
# Whole numbers read back

The decimal text of a whole number is a sign and a run of digits, without blanks and low lines. So nothing is taken
away and nothing is rewritten when it is read (`plain?_of_isNumeral`), and the number is found again
(`int?_intText`), if it does not have more digits than a text may have.
-/

namespace PageSearch

/-! ### Digits and signs -/

/-- A character of the decimal text of a whole number. -/
def IsNumeral (c : Char) : Prop := c.isDigit = true ∨ c = '-'

theorem bounds_of_isDigit {c : Char} (h : c.isDigit = true) : 0x30 ≤ c.toNat ∧ c.toNat ≤ 0x39 := by
  simpa [Char.isDigit, UInt32.le_iff_toNat_le] using h

theorem IsNumeral.bounds {c : Char} (h : IsNumeral c) : 0x2D ≤ c.toNat ∧ c.toNat ≤ 0x39 := by
  rcases h with h | rfl
  · have hdigit := bounds_of_isDigit h
    omega
  · decide

theorem IsNumeral.isBlank {c : Char} (h : IsNumeral c) : Text.isBlank c = false := by
  have hc := h.bounds
  simp only [Text.isBlank, Bool.or_eq_false_iff, Bool.and_eq_false_iff, decide_eq_false_iff_not, beq_eq_false_iff_ne]
  omega

theorem IsNumeral.isPadding {c : Char} (h : IsNumeral c) : Reading.isPadding c = false := by
  rw [Reading.isPadding, h.isBlank, Bool.false_and]

/-- A digit of ASCII is written as it is. -/
theorem IsNumeral.toPlainDigit {c : Char} (h : IsNumeral c) : Text.toPlainDigit c = c := by
  rcases h with h | rfl
  · obtain ⟨hlow, hhigh⟩ := bounds_of_isDigit h
    have hinside : (decide (0x30 ≤ c.toNat) && decide (c.toNat < 0x30 + 10)) = true := by
      simp only [Bool.and_eq_true, decide_eq_true_eq]
      omega
    have hfirst : (Text.zeroDigits.find? fun first => first ≤ c.toNat && c.toNat < first + 10) = some 0x30 :=
      List.find?_cons_of_pos hinside
    rw [Text.toPlainDigit, Text.digitValue?, hfirst]
    change Char.ofNat (0x30 + (c.toNat - 0x30)) = c
    rw [Nat.add_sub_cancel' hlow, Char.ofNat_toNat]
  · decide

theorem isNumeral_of_mem_toDigits {n : Nat} {c : Char} (h : c ∈ Nat.toDigits 10 n) : IsNumeral c :=
  .inl (Nat.isDigit_of_mem_toDigits (by decide) (by decide) h)

theorem toList_natText (n : Nat) : (natText n).toList = Nat.toDigits 10 n := String.toList_ofList

/-- The decimal text of a whole number is a sign, if the number is negative, and the digits of its size. -/
theorem toList_intText (n : Int) :
    (intText n).toList = (if n < 0 then ['-'] else []) ++ Nat.toDigits 10 n.natAbs := by
  rw [intText]
  split
  · rw [String.toList_append, toList_natText]
    rfl
  · rw [toList_natText, List.nil_append]

theorem isNumeral_of_mem_intText {n : Int} {c : Char} (h : c ∈ (intText n).toList) : IsNumeral c := by
  rw [toList_intText, List.mem_append] at h
  rcases h with h | h
  · split at h
    · exact .inr (List.mem_singleton.1 h)
    · cases h
  · exact isNumeral_of_mem_toDigits h

namespace Reading

/-! ### Reading -/

theorem withoutPadding_of_isNumeral {s : List Char} (h : ∀ c ∈ s, IsNumeral c) : withoutPadding s = s := by
  have hdrop : ∀ t : List Char, (∀ c ∈ t, IsNumeral c) → t.dropWhile isPadding = t := by
    intro t ht
    cases t with
    | nil => rfl
    | cons c t => exact List.dropWhile_cons_of_neg (by simp [(ht c List.mem_cons_self).isPadding])
  rw [withoutPadding, hdrop s h, hdrop s.reverse fun c hc => h c (List.mem_reverse.1 hc), List.reverse_reverse]

/-- There are no low lines to drop. -/
theorem joinGroupsFrom_of_isNumeral {s : List Char} (h : ∀ c ∈ s, IsNumeral c) (afterDigit : Bool) :
    joinGroupsFrom afterDigit s = some s := by
  induction s generalizing afterDigit with
  | nil => rfl
  | cons c s ih =>
    obtain ⟨hc, hs⟩ := List.forall_mem_cons.1 h
    have hline : (c == '_') = false := by
      rw [beq_eq_false_iff_ne]
      rintro rfl
      exact absurd hc.bounds (by decide)
    rw [joinGroupsFrom, hline, if_neg Bool.false_ne_true, ih hs]
    rfl

theorem plain?_of_isNumeral {s : List Char} (h : ∀ c ∈ s, IsNumeral c) : plain? s = some s := by
  have hdigits : s.map Text.toPlainDigit = s := by
    rw [List.map_congr_left fun c hc => (h c hc).toPlainDigit, List.map_id']
  rw [plain?, withoutPadding_of_isNumeral h, hdigits, joinGroupsFrom_of_isNumeral h]

theorem takeSign_intText (n : Int) : takeSign (intText n).toList = (decide (n < 0), Nat.toDigits 10 n.natAbs) := by
  rw [toList_intText]
  by_cases hn : n < 0
  · rw [if_pos hn, decide_eq_true hn]
    rfl
  · rw [if_neg hn, decide_eq_false hn, List.nil_append]
    -- the first digit is no sign
    cases hdigits : Nat.toDigits 10 n.natAbs with
    | nil => exact absurd hdigits Nat.toDigits_ne_nil
    | cons c r =>
      have hc : c.isDigit = true :=
        Nat.isDigit_of_mem_toDigits (by decide) (by decide) (hdigits ▸ List.mem_cons_self)
      unfold takeSign
      split
      · rename_i heq
        obtain ⟨rfl, -⟩ := List.cons.inj heq
        cases hc
      · rename_i heq
        obtain ⟨rfl, -⟩ := List.cons.inj heq
        cases hc
      · rfl

theorem natOf_toDigits (n : Nat) : natOf (Nat.toDigits 10 n) = n := by
  rw [natOf, ← Nat.ofDigitChars_eq_foldl, Nat.ofDigitChars_ten_toDigits]

theorem signed_natAbs (n : Int) : Binary.signed (decide (n < 0)) n.natAbs = n := by
  by_cases hn : n < 0
  · simp only [Binary.signed, hn, decide_true, if_true]
    omega
  · simp only [Binary.signed, hn, decide_false, Bool.false_eq_true, if_false]
    omega

/-- **A whole number is read from its decimal text**, if a text may have so many digits. -/
theorem int?_intText {n : Int} (h : (Nat.toDigits 10 n.natAbs).length ≤ digitLimit) :
    int? (intText n).toList = some n := by
  have hplain : plain? (intText n).toList = some (intText n).toList :=
    plain?_of_isNumeral fun c hc => isNumeral_of_mem_intText hc
  have hdigits : (Nat.toDigits 10 n.natAbs).all isDigit = true :=
    List.all_eq_true.2 fun c hc => (Nat.isDigit_of_mem_toDigits (by decide) (by decide) hc : c.isDigit = true)
  have hnonempty : (Nat.toDigits 10 n.natAbs).isEmpty = false := List.isEmpty_eq_false_iff.2 Nat.toDigits_ne_nil
  rw [int?, hplain, Option.bind_eq_bind, Option.bind_some, takeSign_intText]
  simp only [hnonempty, hdigits, Nat.not_lt.2 h, Bool.not_true, Bool.or_self, decide_false, Bool.false_eq_true, if_false]
  rw [natOf_toDigits, signed_natAbs]

end Reading

end PageSearch
