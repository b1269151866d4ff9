import Mathlib
import PageSearch.Decimal.Binary

/-!
# Whole numbers that are floats

A whole number has a nearest float unless it lies beyond the greatest one. The greatest float is `2 ^ 1024 - 2 ^ 971`,
what would come next is `2 ^ 1024`, and the number half way between them is rounded up, because the mantissa of the
greatest float is odd. So the whole numbers with a float are exactly those below `floatLimit` in size
(`isSome_floatOfInt?`). The proof takes the bits of an infinity apart (`isInf_ofBits`), says when a quotient is
rounded to a number or beyond it (`Binary.le_roundHalfEven_iff`), and compares the number of binary places with that
of the limit.
-/

namespace PageSearch

/-! ### The bits of an infinity -/

section Bits

open Float.Model (Format)
open Float.Model.UnpackedFloat

theorem isInf_unpack (b : BitVec Format.binary64.numBits) :
    (unpack Format.binary64 b).isInf = true ↔ unpackExponent b = -1#11 ∧ unpackMantissa b = 0#52 := by
  unfold unpack
  dsimp only
  split
  · split <;> simp_all [isInf]
  · split
    · split <;> simp_all [isInf]
    · simp_all [isInf]

/-- Only the many forms of no number are made one by packing. -/
theorem unpack_pack_unpack (b : BitVec Format.binary64.numBits) :
    unpack Format.binary64 (pack Format.binary64 (unpack Format.binary64 b)) = unpack Format.binary64 b := by
  rw [pack_unpack b]
  split
  · rename_i hnan
    rw [unpack_packedNaN]
    unfold unpack
    simp_all [isNaNBits]
  · rfl

/-- **An infinity** has all bits of the exponent and none of the fraction. -/
theorem isInf_ofBits (bits : UInt64) :
    (Float.ofBits bits).isInf = true ↔ bits.toNat / 2 ^ 52 % 2 ^ 11 = 2047 ∧ bits.toNat % 2 ^ 52 = 0 := by
  have hunpack : (Float.ofBits bits).isInf = (unpack Format.binary64 bits.toBitVec).isInf :=
    congrArg isInf (unpack_pack_unpack bits.toBitVec)
  rw [hunpack, isInf_unpack, ← BitVec.toNat_inj, ← BitVec.toNat_inj, unpackExponent_def, unpackMantissa_def,
    BitVec.extractLsb'_toNat, BitVec.extractLsb'_toNat, Nat.shiftRight_eq_div_pow, Nat.shiftRight_zero]
  rfl

end Bits

/-! ### Rounding -/

/-- **A quotient is rounded** to a number or beyond it if it lies half a unit below it at most, and less than that if
the number is odd. -/
theorem Binary.le_roundHalfEven_iff {num den k : Nat} (hden : 0 < den) :
    k ≤ roundHalfEven num den ↔
      if k % 2 = 0 then 2 * (k * den) ≤ 2 * num + den else 2 * (k * den) < 2 * num + den := by
  have hsplit : den * (num / den) + num % den = num := Nat.div_add_mod num den
  have hrest : num % den < den := Nat.mod_lt num hden
  unfold roundHalfEven
  generalize num / den = q at *
  generalize num % den = rest at *
  -- where `k` stands to `q`, in multiples of the denominator
  have hbelow : ∀ i, k ≤ q + i → k * den ≤ den * q + i * den := fun i h => by
    rw [Nat.mul_comm den, ← Nat.add_mul]
    exact Nat.mul_le_mul_right den h
  have habove : ∀ i, q + i ≤ k → den * q + i * den ≤ k * den := fun i h => by
    rw [Nat.mul_comm den, ← Nat.add_mul]
    exact Nat.mul_le_mul_right den h
  have hbelow0 := hbelow 0
  have hbelow1 := hbelow 1
  have habove0 := habove 0
  have habove1 := habove 1
  have habove2 := habove 2
  dsimp only
  split
  · split <;> omega
  · split
    · split <;> omega
    · split
      · rename_i heven
        have hq : q % 2 = 0 := by simpa using heven
        split <;> omega
      · rename_i hodd
        have hq : q % 2 ≠ 0 := by simpa using hodd
        split <;> omega

theorem Binary.le_roundHalfEven_iff_of_even {num den k : Nat} (hden : 0 < den) (hk : k % 2 = 0) :
    k ≤ roundHalfEven num den ↔ 2 * (k * den) ≤ 2 * num + den := by
  rw [le_roundHalfEven_iff hden, if_pos hk]

/-! ### Whole numbers -/

/-- The least whole number that lies beyond the floats, `2 ^ 1024 - 2 ^ 970`: half way between the greatest float
and what would come next. -/
def floatLimit : Nat := (2 ^ 54 - 1) * 2 ^ 970

theorem floatLimit_pos : 0 < floatLimit := by
  rw [floatLimit]
  positivity

variable {n : Nat}

/-- Two ways to bring powers of two to one size. -/
theorem two_pow_mul_two_pow_sub (a b : Nat) : 2 ^ a * 2 ^ (b - a) = 2 ^ b * 2 ^ (a - b) := by
  rw [← Nat.pow_add, ← Nat.pow_add]
  congr 1
  omega

theorem two_pow_mul_le (a : Nat) (hn : 0 < n) : 2 ^ a * 2 ^ (n.log2 - a) ≤ n * 2 ^ (a - n.log2) := by
  rw [two_pow_mul_two_pow_sub]
  exact Nat.mul_le_mul_right _ (Nat.log2_self_le hn.ne')

/-- The first 53 places of a whole number, rounded. -/
def mantissaOf (n : Nat) : Nat := Binary.roundHalfEven (n * 2 ^ (52 - n.log2)) (2 ^ (n.log2 - 52))

/-- **The bits of a whole number** as a float: its mantissa has 53 places, and the exponent follows from the number
of places. A mantissa that is rounded up to a power of two carries into the exponent. -/
theorem nearestFloat_one (negative : Bool) (hn : 0 < n) :
    nearestFloat negative n 1 =
      Float.ofBits (UInt64.ofNat ((if negative then 2 ^ 63 else 0) +
        min ((n.log2 + 1022) * 2 ^ 52 + mantissaOf n) (2047 * 2 ^ 52))) := by
  have hone : Nat.log2 1 = 0 := by decide
  -- the guess is one too small, as the scaled number shows
  have hup : ((n.log2 : Int) - (0 : Nat) - 53).toNat = n.log2 - 53 := by omega
  have hdown : (-((n.log2 : Int) - (0 : Nat) - 53)).toNat = 53 - n.log2 := by omega
  have hexponent : max Binary.leastExponent ((n.log2 : Int) - (0 : Nat) - 53 + 1) = n.log2 - 52 := by
    rw [Binary.leastExponent]
    omega
  have hfield : ((n.log2 : Int) - 52 - Binary.leastExponent).toNat = n.log2 + 1022 := by
    rw [Binary.leastExponent]
    omega
  have hnum : (-((n.log2 : Int) - 52)).toNat = 52 - n.log2 := by omega
  have hden : ((n.log2 : Int) - 52).toNat = n.log2 - 52 := by omega
  simp only [nearestFloat, hone, beq_iff_eq, hn.ne', if_false, hup, hdown, Nat.pow_eq, Nat.mul_one, Nat.one_mul]
  rw [if_pos (two_pow_mul_le 53 hn), hexponent, hfield, hnum, hden, mantissaOf]

theorem two_pow_le_mantissaOf (hn : 0 < n) : 2 ^ 52 ≤ mantissaOf n := by
  refine (Binary.le_roundHalfEven_iff_of_even (Nat.two_pow_pos _) (by decide)).2 ?_
  have hscale := two_pow_mul_le 52 hn
  omega

theorem mantissaOf_lt (n : Nat) : mantissaOf n < 2 ^ 53 + 2 := by
  refine Nat.lt_of_not_le fun h => ?_
  have hround := (Binary.le_roundHalfEven_iff_of_even (Nat.two_pow_pos _) (by decide)).1 h
  have hscale : n * 2 ^ (52 - n.log2) < 2 * (2 ^ 52 * 2 ^ (n.log2 - 52)) := by
    calc n * 2 ^ (52 - n.log2) < 2 ^ (n.log2 + 1) * 2 ^ (52 - n.log2) :=
          Nat.mul_lt_mul_of_pos_right Nat.lt_log2_self (Nat.two_pow_pos _)
      _ = 2 * (2 ^ n.log2 * 2 ^ (52 - n.log2)) := by rw [Nat.pow_succ', Nat.mul_assoc]
      _ = 2 * (2 ^ 52 * 2 ^ (n.log2 - 52)) := by rw [two_pow_mul_two_pow_sub 52 n.log2]
  omega

/-- The bits reach those of an infinity from `floatLimit` on. -/
theorem le_bits_iff (hn : 0 < n) :
    2047 * 2 ^ 52 ≤ (n.log2 + 1022) * 2 ^ 52 + mantissaOf n ↔ floatLimit ≤ n := by
  have hlow := two_pow_le_mantissaOf hn
  have hhigh := mantissaOf_lt n
  -- a name keeps the power from being written out
  obtain ⟨k, hk⟩ : ∃ k, k = 970 := ⟨970, rfl⟩
  rw [floatLimit, ← hk]
  rcases Nat.lt_trichotomy n.log2 (53 + k) with hlog | hlog | hlog
  · have hlt : n < 2 ^ 53 * 2 ^ k := by
      calc n < 2 ^ (n.log2 + 1) := Nat.lt_log2_self
        _ ≤ 2 ^ (53 + k) := Nat.pow_le_pow_right (by decide) hlog
        _ = 2 ^ 53 * 2 ^ k := Nat.pow_add 2 53 k
    omega
  · -- here the mantissa decides
    have hround : 2 ^ 53 ≤ mantissaOf n ↔ 2 * (2 ^ 53 * 2 ^ (k + 1)) ≤ 2 * n + 2 ^ (k + 1) := by
      have hnum : 52 - n.log2 = 0 := by omega
      have hden : n.log2 - 52 = k + 1 := by omega
      rw [mantissaOf, hnum, hden, Nat.pow_zero, Nat.mul_one]
      exact Binary.le_roundHalfEven_iff_of_even (Nat.two_pow_pos _) (by decide)
    have hdouble : 2 ^ (k + 1) = 2 ^ k * 2 := Nat.pow_succ 2 k
    omega
  · have hle : 2 ^ 54 * 2 ^ k ≤ n := by
      calc 2 ^ 54 * 2 ^ k = 2 ^ (54 + k) := (Nat.pow_add 2 54 k).symm
        _ ≤ 2 ^ n.log2 := Nat.pow_le_pow_right (by decide) (by omega)
        _ ≤ n := Nat.log2_self_le hn.ne'
    omega

theorem isInf_nearestFloat_one (negative : Bool) (hn : 0 < n) :
    (nearestFloat negative n 1).isInf = true ↔ floatLimit ≤ n := by
  rw [nearestFloat_one negative hn, isInf_ofBits, ← le_bits_iff hn]
  generalize (n.log2 + 1022) * 2 ^ 52 + mantissaOf n = bits
  cases negative with
  | false =>
    have hlt : 0 + min bits (2047 * 2 ^ 52) < 2 ^ 64 := by omega
    rw [if_neg Bool.false_ne_true, UInt64.toNat_ofNat', Nat.mod_eq_of_lt hlt]
    omega
  | true =>
    have hlt : 2 ^ 63 + min bits (2047 * 2 ^ 52) < 2 ^ 64 := by omega
    rw [if_pos rfl, UInt64.toNat_ofNat', Nat.mod_eq_of_lt hlt]
    omega

/-- **The whole numbers that have a float** are those below `floatLimit` in size. -/
theorem isSome_floatOfInt? (n : Int) : (floatOfInt? n).isSome = true ↔ n.natAbs < floatLimit := by
  rw [floatOfInt?]
  rcases Nat.eq_zero_or_pos n.natAbs with hzero | hpos
  · obtain rfl := Int.natAbs_eq_zero.1 hzero
    exact ⟨fun _ => floatLimit_pos, fun _ => rfl⟩
  · rw [← Nat.not_le, ← isInf_nearestFloat_one (decide (n < 0)) hpos]
    cases (nearestFloat (decide (n < 0)) n.natAbs 1).isInf <;> simp

end PageSearch
