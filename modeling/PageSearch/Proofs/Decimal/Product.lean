import PageSearch.Proofs.Decimal.Bits

/-!
# Products of floats

A product with a float of size one at most is finite if the other factor is (`isFinite_mul`). The exact product lies
below the greatest mantissa at the exponent of the other factor, and this bound is whole, so that it is kept whenever
a mantissa is shifted to its exponent and rounded there (`le_of_shiftToTargetExponent`). So the exponent of the product
is not greater than that of the other factor.
-/

namespace PageSearch

open Float.Model (Format totalExponent)
open Float.Model.UnpackedFloat

/-! ### Parts of a float -/

/-- The mantissa and the exponent of a float that is not zero. The mantissa has 53 places, or the exponent is the least
one. -/
theorem bounds_of_unpack {b : BitVec Format.binary64.numBits} {sign : Sign} {m : Nat} {e : Int} {hm : 0 < m}
    (h : unpack Format.binary64 b = .finite sign m e hm) :
    m < 2 ^ 53 ∧ (2 ^ 52 ≤ m ∨ e = -1074) ∧ -1074 ≤ e ∧ e ≤ 971 := by
  have hfraction : (unpackMantissa b).toNat < 2 ^ 52 := (unpackMantissa b).isLt
  have hfield : (unpackExponent b).toNat < 2 ^ 11 := (unpackExponent b).isLt
  have hfinite : unpackExponent b ≠ -1#11 := (isFinite_unpack b).1 (by rw [h]; rfl)
  have hbelow : (unpackExponent b).toNat ≠ 2047 := fun heq => hfinite (BitVec.eq_of_toNat_eq heq)
  unfold unpack at h
  dsimp only at h
  rw [if_neg hfinite] at h
  split at h
  · next hzero =>
    -- near to zero the least exponent counts
    split at h
    · cases h
    · cases h
      rw [hzero]
      change (unpackMantissa b).toNat < 2 ^ 53 ∧ (2 ^ 52 ≤ (unpackMantissa b).toNat ∨
        ((0 : Nat) : Int) - (1023 + 52 : Nat) + 1 = -1074) ∧ (-1074 : Int) ≤ ((0 : Nat) : Int) - (1023 + 52 : Nat) + 1 ∧
        ((0 : Nat) : Int) - (1023 + 52 : Nat) + 1 ≤ 971
      omega
  · next hpos =>
    cases h
    have hfieldPos : (unpackExponent b).toNat ≠ 0 := fun heq => hpos (BitVec.eq_of_toNat_eq heq)
    rw [Binary.toNat_one_append]
    change 2 ^ 52 + (unpackMantissa b).toNat < 2 ^ 53 ∧ (2 ^ 52 ≤ 2 ^ 52 + (unpackMantissa b).toNat ∨ _) ∧
      (-1074 : Int) ≤ ((unpackExponent b).toNat : Int) - (1023 + 52 : Nat) ∧
      ((unpackExponent b).toNat : Int) - (1023 + 52 : Nat) ≤ 971
    omega

/-! ### Rounding -/

/-- A mantissa without its last places. -/
def shifted (m k : Nat) : ExtendedMantissa := ExtendedMantissa.ofMantissaAndAccuracy m .exact >>> k

theorem shifted_succ (m k : Nat) : shifted m (k + 1) = (shifted m k).shiftRightOne := rfl

theorem mantissa_shifted (m k : Nat) : (shifted m k).mantissa = m / 2 ^ k := by
  induction k with
  | zero => exact (Nat.div_one m).symm
  | succ k ih =>
    rw [shifted_succ, Nat.pow_succ, ← Nat.div_div_eq_div_mul, ← ih]
    rfl

/-- What was shifted out last, and whether anything was shifted out before it. -/
theorem bits_shifted_succ (m k : Nat) :
    (shifted m (k + 1)).roundBit = (m / 2 ^ k % 2 != 0) ∧ (shifted m (k + 1)).stickyBit = (m % 2 ^ k != 0) := by
  have hround : ∀ k, (shifted m (k + 1)).roundBit = (m / 2 ^ k % 2 != 0) := fun k => by
    rw [shifted_succ, ← mantissa_shifted]
    rfl
  refine ⟨hround k, ?_⟩
  induction k with
  | zero =>
    rw [Nat.pow_zero, Nat.mod_one]
    rfl
  | succ k ih =>
    have hstep : (shifted m (k + 2)).stickyBit = ((shifted m (k + 1)).roundBit || (shifted m (k + 1)).stickyBit) := rfl
    have hpos := Nat.two_pow_pos k
    rw [hstep, hround, ih, Nat.pow_succ, Nat.mod_mul, Bool.eq_iff_iff]
    simp only [Bool.or_eq_true, bne_iff_ne, ne_eq, Nat.add_eq_zero_iff, Nat.mul_eq_zero]
    omega

/-- **A shifted mantissa** is rounded as the quotient by the power of two is. -/
theorem roundedMantissa_shifted (m k : Nat) : (shifted m k).roundedMantissa = Binary.roundHalfEven m (2 ^ k) := by
  cases k with
  | zero =>
    have hround : Binary.roundHalfEven m (2 ^ 0) = m := by simp [Binary.roundHalfEven, Nat.mod_one]
    rw [hround]
    rfl
  | succ k =>
    obtain ⟨hround, hsticky⟩ := bits_shifted_succ m k
    have hmantissa := mantissa_shifted m (k + 1)
    have hrest : m % 2 ^ (k + 1) = m % 2 ^ k + 2 ^ k * (m / 2 ^ k % 2) := by rw [Nat.pow_succ, Nat.mod_mul]
    have hlast : m % 2 ^ k < 2 ^ k := Nat.mod_lt _ (Nat.two_pow_pos k)
    have hpow : 2 ^ (k + 1) = 2 * 2 ^ k := Nat.pow_succ'
    have hbit : m / 2 ^ k % 2 = 0 ∨ m / 2 ^ k % 2 = 1 := by omega
    unfold Binary.roundHalfEven
    dsimp only
    rw [← hmantissa]
    generalize shifted m (k + 1) = em at *
    obtain ⟨q, round, sticky⟩ := em
    obtain rfl : round = (m / 2 ^ k % 2 != 0) := hround
    obtain rfl : sticky = (m % 2 ^ k != 0) := hsticky
    rcases hbit with hbit | hbit
    · -- less than a half was shifted out
      rw [hbit, Nat.mul_zero] at hrest
      rw [hrest, if_pos (by omega), hbit]
      cases m % 2 ^ k != 0 <;> rfl
    · rw [hbit, Nat.mul_one] at hrest
      rw [hrest, if_neg (by omega), hbit]
      by_cases hzero : m % 2 ^ k = 0
      · -- a half was shifted out, and the last place decides
        rw [hzero, if_neg (by omega)]
        change q + q % 2 = if (q % 2 == 0) = true then q else q + 1
        rcases Nat.mod_two_eq_zero_or_one q with hq | hq
        · rw [hq]
          rfl
        · rw [hq]
          rfl
      · rw [if_pos (by omega), bne_iff_ne.2 hzero]
        rfl

/-- A quotient is not rounded beyond a whole bound. -/
theorem roundHalfEven_le {m k bound : Nat} (h : m ≤ bound * 2 ^ k) : Binary.roundHalfEven m (2 ^ k) ≤ bound := by
  refine Nat.le_of_not_lt fun hlt => ?_
  have hbeyond := (Binary.le_roundHalfEven_iff (Nat.two_pow_pos k)).1 (Nat.succ_le_of_lt hlt)
  have hpos := Nat.two_pow_pos k
  rw [Nat.succ_mul bound] at hbeyond
  split at hbeyond <;> omega

theorem log2_lt_of_le {m k bound : Nat} (h : m ≤ bound * 2 ^ k) (hbound : bound < 2 ^ 53) : m.log2 < 53 + k := by
  rcases Nat.eq_zero_or_pos m with rfl | hm
  · rw [Nat.log2_zero]
    omega
  · refine (Nat.log2_lt hm.ne').2 ?_
    calc m ≤ bound * 2 ^ k := h
      _ < 2 ^ 53 * 2 ^ k := Nat.mul_lt_mul_of_pos_right hbound (Nat.two_pow_pos k)
      _ = 2 ^ (53 + k) := (Nat.pow_add 2 53 k).symm

/-- The exponent that a mantissa is shifted to: with 53 places, or the least one. -/
theorem shiftToTargetExponent_eq {m k : Nat} {e : Int} (h : (max ((m.log2 : Int) + 1 + e - 53) (-1074) - e).toNat = k) :
    shiftToTargetExponent Format.binary64 m e .exact = (shifted m k, e + k) := by
  subst h
  rfl

section Bound

variable {m bound : Nat} {e greatest : Int}

/-- **Shifting to the exponent of a float** and rounding there keeps a whole bound. -/
theorem le_of_shiftToTargetExponent (hbound : bound < 2 ^ 53) (hgreatest : -1074 ≤ greatest) (he : e ≤ greatest)
    (h : m ≤ bound * 2 ^ (greatest - e).toNat) :
    (shiftToTargetExponent Format.binary64 m e .exact).2 ≤ greatest ∧
      (shiftToTargetExponent Format.binary64 m e .exact).1.roundedMantissa ≤
        bound * 2 ^ (greatest - (shiftToTargetExponent Format.binary64 m e .exact).2).toNat := by
  have hlog := log2_lt_of_le h hbound
  generalize hk : (max ((m.log2 : Int) + 1 + e - 53) (-1074) - e).toNat = k
  rw [shiftToTargetExponent_eq hk, roundedMantissa_shifted]
  have hle : e + (k : Int) ≤ greatest := by omega
  refine ⟨hle, roundHalfEven_le ?_⟩
  have hsplit : (greatest - e).toNat = (greatest - (e + k)).toNat + k := by omega
  rwa [Nat.mul_assoc, ← Nat.pow_add, ← hsplit]

/-- **A rounded number** below the greatest mantissa at some exponent has that exponent at most. -/
theorem isFinite_roundWithAccuracy (hbound : bound < 2 ^ 53) (hgreatest : -1074 ≤ greatest) (hmax : greatest ≤ 971)
    (he : e ≤ greatest) (h : m ≤ bound * 2 ^ (greatest - e).toNat) (sign : Sign) :
    (Float.Model.pack (roundWithAccuracy Format.binary64 sign m e .exact)).isFinite = true := by
  obtain ⟨hfirst, hrounded⟩ := le_of_shiftToTargetExponent hbound hgreatest he h
  have hlast := (le_of_shiftToTargetExponent hbound hgreatest hfirst hrounded).1
  unfold roundWithAccuracy
  dsimp only
  split
  · exact isFinite_pack_zero sign
  · exact isFinite_pack_iff.2 (le_trans hlast hmax)

end Bound

/-! ### Products -/

/-- A float of the size one at most, which is not zero. -/
def IsShare (x : Float) : Prop :=
  ∃ sign m k, ∃ hm : 0 < m, x.toModel.unpack = .finite sign m (-(k : Nat)) hm ∧ m ≤ 2 ^ k

variable {x y : Float}

/-- **A share of a finite float** is finite. -/
theorem isFinite_mul (hx : IsShare x) (hy : y.isFinite = true) : (x * y).isFinite = true := by
  obtain ⟨sign, m, k, hm, hunpack, hle⟩ := hx
  change (Float.Model.pack (mul Format.binary64 x.toModel.unpack y.toModel.unpack)).isFinite = true
  rw [hunpack]
  change y.toModel.unpack.isFinite = true at hy
  cases hother : y.toModel.unpack with
  | infinity s =>
    rw [hother] at hy
    cases hy
  | notANumber =>
    rw [hother] at hy
    cases hy
  | zero s =>
    exact isFinite_pack_zero (sign * s)
  | finite s n e hn =>
    obtain ⟨hmantissa, -, hlow, hhigh⟩ := bounds_of_unpack hother
    refine isFinite_roundWithAccuracy hmantissa hlow hhigh (by omega) ?_ (sign * s)
    have hexponent : (e - (-(k : Int) + e)).toNat = k := by omega
    rw [hexponent, Nat.mul_comm n]
    exact Nat.mul_le_mul_right n hle

/-- A number from zero to one is zero or a share. -/
theorem isShare_of_rational? {q : ℚ} (h : (Binary.ofFloat x).rational? = some q) (hq : 0 ≤ q) (hone : q ≤ 1) :
    (∃ sign, x.toModel.unpack = .zero sign) ∨ IsShare x := by
  rcases Binary.unpack_of_rational? h hq with ⟨sign, hzero, -⟩ | ⟨m, e, hm, hunpack, rfl⟩
  · exact .inl ⟨sign, hzero⟩
  · have hmantissa : (1 : ℚ) ≤ m := by exact_mod_cast hm
    have hexponent : e ≤ 0 := by
      by_contra hpos
      have hpow : (2 : ℚ) ^ (1 : Int) ≤ 2 ^ e := zpow_le_zpow_right₀ (by norm_num) (by omega)
      rw [zpow_one] at hpow
      nlinarith
    obtain ⟨k, rfl⟩ := Int.exists_eq_neg_ofNat hexponent
    rw [zpow_neg, zpow_natCast, ← div_eq_mul_inv, div_le_one (by positivity)] at hone
    exact .inr ⟨.positive, m, k, hm, hunpack, by exact_mod_cast hone⟩

/-- **A number from zero to one** times a finite float is finite. -/
theorem isFinite_mul_of_le_one {q : ℚ} (hx : (Binary.ofFloat x).rational? = some q) (hq : 0 ≤ q) (hone : q ≤ 1)
    (hy : y.isFinite = true) : (x * y).isFinite = true := by
  rcases isShare_of_rational? hx hq hone with ⟨sign, hzero⟩ | hshare
  · change (Float.Model.pack (mul Format.binary64 x.toModel.unpack y.toModel.unpack)).isFinite = true
    rw [hzero]
    change y.toModel.unpack.isFinite = true at hy
    cases hother : y.toModel.unpack with
    | infinity s =>
      rw [hother] at hy
      cases hy
    | notANumber =>
      rw [hother] at hy
      cases hy
    | zero s => exact isFinite_pack_zero (sign * s)
    | finite s n e hn => exact isFinite_pack_zero (sign * s)
  · exact isFinite_mul hshare hy

/-! ### Whole numbers as floats -/

theorem isFinite_nearestFloat_one (negative : Bool) {n : Nat} (hn : 0 < n)
    (hinf : (nearestFloat negative n 1).isInf = false) : (nearestFloat negative n 1).isFinite = true := by
  have hfield : ¬ floatLimit ≤ n := by
    rw [← isInf_nearestFloat_one negative hn, hinf]
    exact Bool.false_ne_true
  rw [← le_bits_iff hn] at hfield
  rw [nearestFloat_one negative hn, isFinite_ofBits, UInt64.toNat_ofNat']
  generalize (n.log2 + 1022) * 2 ^ 52 + mantissaOf n = bits at hfield ⊢
  cases negative with
  | false =>
    rw [if_neg Bool.false_ne_true]
    omega
  | true =>
    rw [if_pos rfl]
    omega

theorem isFinite_of_floatOfInt? {n : Int} (h : floatOfInt? n = some x) : x.isFinite = true := by
  unfold floatOfInt? at h
  dsimp only at h
  split at h
  · cases h
  · next hinf =>
    cases h
    rcases Nat.eq_zero_or_pos n.natAbs with hzero | hpos
    · obtain rfl := Int.natAbs_eq_zero.1 hzero
      rfl
    · exact isFinite_nearestFloat_one _ hpos (Bool.eq_false_iff.2 hinf)

end PageSearch
