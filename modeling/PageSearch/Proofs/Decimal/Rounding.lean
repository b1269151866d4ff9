import PageSearch.Proofs.Decimal.Range

/-!
# Rounded numbers

A number that is not negative is rounded at the power of two that leaves it 53 binary places, or at the least power of
a float if fewer are left there (`IsRoundedAt`): the whole number nearest to the quotient counts the powers. This says
everything about rounding that its order depends on. A greater number has no smaller power, and a rounded quotient
reaches `2 ^ 53` at most and `2 ^ 52` at least, so that **rounding keeps the order** also where the power changes
(`IsRounded.mono`). A mantissa that is shifted is rounded in this sense (`isRoundedAt_roundHalfEven`).
-/

namespace PageSearch

/-! ### The nearest whole number -/

/-- The whole number nearest to a number, the even one of two. It is said by what it reaches: all that lies half a unit
above the number at most, and less than that if it is odd. -/
def IsNearest (v : ℚ) (n : Nat) : Prop :=
  ∀ k : Nat, k ≤ n ↔ if k % 2 = 0 then 2 * (k : ℚ) ≤ 2 * v + 1 else 2 * (k : ℚ) < 2 * v + 1

theorem isNearest_roundHalfEven (num : Nat) {den : Nat} (hden : 0 < den) :
    IsNearest (num / den) (Binary.roundHalfEven num den) := by
  intro k
  have hpos : (0 : ℚ) < den := Nat.cast_pos.2 hden
  have hright : (2 * (num / den : ℚ) + 1) * den = (2 * num + den : Nat) := by
    push_cast
    field_simp
  have hleft : 2 * (k : ℚ) * den = (2 * (k * den) : Nat) := by
    push_cast
    ring
  rw [Binary.le_roundHalfEven_iff hden, ← mul_le_mul_iff_of_pos_right hpos, ← mul_lt_mul_iff_of_pos_right hpos, hright,
    hleft, Nat.cast_le, Nat.cast_lt]

theorem isNearest_natCast (n : Nat) : IsNearest n n := by
  have h := isNearest_roundHalfEven n Nat.one_pos
  simpa [Binary.roundHalfEven, Nat.mod_one] using h

theorem IsNearest.mono {v w : ℚ} {n n' : Nat} (hv : IsNearest v n) (hw : IsNearest w n') (h : v ≤ w) : n ≤ n' := by
  have hn := (hv n).1 (le_refl n)
  apply (hw n).2
  by_cases heven : n % 2 = 0
  · rw [if_pos heven] at hn ⊢
    linarith
  · rw [if_neg heven] at hn ⊢
    linarith

/-! ### Rounding at a power of two -/

/-- A number is rounded to `n` times a power of two, at which it has 53 places, or fewer if the power is the least. -/
structure IsRoundedAt (v : ℚ) (e : ℤ) (n : Nat) : Prop where
  /-- No power lies below the least one. -/
  least_le : -1074 ≤ e
  /-- There are 53 places at most. -/
  lt : v < 2 ^ 53 * 2 ^ e
  /-- There are 53 places at least, except at the least power. -/
  le : e = -1074 ∨ 2 ^ 52 * 2 ^ e ≤ v
  /-- The number is rounded to the nearest multiple. -/
  nearest : IsNearest (v / 2 ^ e) n

/-- The rounded number. -/
def IsRounded (v p : ℚ) : Prop := ∃ e n, IsRoundedAt v e n ∧ p = n * 2 ^ e

theorem two_zpow_pos (e : ℤ) : (0 : ℚ) < 2 ^ e := zpow_pos (by norm_num) e

section Bounds

variable {v w : ℚ} {e e' : ℤ} {n n' : Nat}

theorem IsRoundedAt.le_two_pow (h : IsRoundedAt v e n) : n ≤ 2 ^ 53 := by
  apply h.nearest.mono (isNearest_natCast _)
  rw [div_le_iff₀ (two_zpow_pos e)]
  exact_mod_cast h.lt.le

theorem IsRoundedAt.two_pow_le (h : IsRoundedAt v e n) : e = -1074 ∨ 2 ^ 52 ≤ n := by
  refine h.le.imp_right fun hle => ?_
  apply (isNearest_natCast _).mono h.nearest
  rw [le_div_iff₀ (two_zpow_pos e)]
  exact_mod_cast hle

/-- A greater number is not rounded at a smaller power. -/
theorem IsRoundedAt.exponent_le (hv : IsRoundedAt v e n) (hw : IsRoundedAt w e' n') (h : v ≤ w) : e ≤ e' := by
  by_contra hlt
  have hleast := hw.least_le
  have hplaces : 2 ^ 52 * 2 ^ e ≤ v := hv.le.resolve_left (by omega)
  have hstep : (2 : ℚ) ^ (e' + 1) ≤ 2 ^ e := zpow_le_zpow_right₀ (by norm_num) (by omega)
  rw [zpow_add_one₀ (by norm_num)] at hstep
  have hbelow := hw.lt
  linarith

end Bounds

/-- **Rounding keeps the order**, also between numbers that are rounded at different powers. -/
theorem IsRounded.mono {v w p q : ℚ} (hv : IsRounded v p) (hw : IsRounded w q) (h : v ≤ w) : p ≤ q := by
  obtain ⟨e, n, hv, rfl⟩ := hv
  obtain ⟨e', n', hw, rfl⟩ := hw
  rcases (hv.exponent_le hw h).eq_or_lt with rfl | hlt
  · have hle : n ≤ n' := hv.nearest.mono hw.nearest (div_le_div_of_nonneg_right h (two_zpow_pos e).le)
    exact mul_le_mul_of_nonneg_right (Nat.cast_le.2 hle) (two_zpow_pos e).le
  · -- the one reaches the next power at most, where the other starts
    have hleast := hv.least_le
    have hhigh : (n : ℚ) ≤ 2 ^ 53 := by exact_mod_cast hv.le_two_pow
    have hlow : (2 : ℚ) ^ 52 ≤ n' := by exact_mod_cast hw.two_pow_le.resolve_left (by omega)
    have hpower : (2 : ℚ) ^ (e + 1) ≤ 2 ^ e' := zpow_le_zpow_right₀ (by norm_num) (by omega)
    calc (n * 2 ^ e : ℚ) ≤ 2 ^ 53 * 2 ^ e := mul_le_mul_of_nonneg_right hhigh (two_zpow_pos e).le
      _ = 2 ^ 52 * 2 ^ (e + 1) := by
        rw [zpow_add_one₀ (by norm_num)]
        ring
      _ ≤ 2 ^ 52 * 2 ^ e' := mul_le_mul_of_nonneg_left hpower (by norm_num)
      _ ≤ n' * 2 ^ e' := mul_le_mul_of_nonneg_right hlow (two_zpow_pos e').le

theorem IsRounded.nonneg {v p : ℚ} (h : IsRounded v p) : 0 ≤ p := by
  obtain ⟨e, n, -, rfl⟩ := h
  exact mul_nonneg (Nat.cast_nonneg n) (two_zpow_pos e).le

theorem isRounded_zero : IsRounded 0 0 := by
  have hnearest : IsNearest (0 / 2 ^ (-1074 : ℤ)) 0 := by simpa using isNearest_natCast 0
  exact ⟨-1074, 0, ⟨le_refl _, by positivity, .inl rfl, hnearest⟩, by simp⟩

/-! ### Shifted mantissas -/

/-- **A mantissa is rounded** by a shift to 53 places, or to the least exponent. -/
theorem isRoundedAt_roundHalfEven {m k : Nat} {e : ℤ} (hm : 0 < m)
    (hk : (k : ℤ) = max ((m.log2 : ℤ) + 1 + e - 53) (-1074) - e) :
    IsRoundedAt (m * 2 ^ e) (e + k) (Binary.roundHalfEven m (2 ^ k)) := by
  have hpos := two_zpow_pos e
  have hunit : (2 : ℚ) ^ (e + (k : ℤ)) = 2 ^ k * 2 ^ e := by
    rw [zpow_add₀ (by norm_num), zpow_natCast, mul_comm]
  have hupper : m < 2 ^ 53 * 2 ^ k := by
    calc m < 2 ^ (m.log2 + 1) := Nat.lt_log2_self
      _ ≤ 2 ^ (53 + k) := Nat.pow_le_pow_right (by decide) (by omega)
      _ = 2 ^ 53 * 2 ^ k := Nat.pow_add 2 53 k
  have hlower : e + k ≠ -1074 → 2 ^ 52 * 2 ^ k ≤ m := by
    intro hleast
    calc 2 ^ 52 * 2 ^ k = 2 ^ (52 + k) := (Nat.pow_add 2 52 k).symm
      _ ≤ 2 ^ m.log2 := Nat.pow_le_pow_right (by decide) (by omega)
      _ ≤ m := Nat.log2_self_le hm.ne'
  constructor
  · omega
  · have hcast : (m : ℚ) < 2 ^ 53 * 2 ^ k := by exact_mod_cast hupper
    rw [hunit, ← mul_assoc]
    exact mul_lt_mul_of_pos_right hcast hpos
  · refine or_iff_not_imp_left.2 fun hleast => ?_
    have hcast : (2 : ℚ) ^ 52 * 2 ^ k ≤ m := by exact_mod_cast hlower hleast
    rw [hunit, ← mul_assoc]
    exact mul_le_mul_of_nonneg_right hcast hpos.le
  · have hquotient : (m * 2 ^ e : ℚ) / 2 ^ (e + (k : ℤ)) = m / (2 ^ k : Nat) := by
      rw [hunit, mul_div_mul_right _ _ hpos.ne']
      push_cast
      rfl
    rw [hquotient]
    exact isNearest_roundHalfEven m (Nat.two_pow_pos k)

end PageSearch
