import PageSearch.Proofs.Decimal.Rounding
import PageSearch.Proofs.Value.Number

/-!
# The order of products

A product of two floats that are not negative is the rounded product of their numbers (`isRounded_mul`), and the float
of a whole number is the rounded number (`isRounded_floatOfInt?`). A mantissa is brought to its exponent twice on the
way: it is rounded there once, and once more it is shifted if the rounding carried, where nothing is lost
(`rational?_settled`). Since rounding keeps the order, so does the product with a float, and the whole part of it
(`times_mono`).
-/

namespace PageSearch

open Float.Model (Format)
open Float.Model.UnpackedFloat

/-! ### Two shifts -/

/-- A rounded mantissa that is brought to its exponent again, since rounding may have carried. -/
def settled (sign : Sign) (r : Nat) (e : Int) : Float.Model.UnpackedFloat :=
  let last := shiftToTargetExponent Format.binary64 r e .exact
  if h : last.1.mantissa = 0 then .zero sign else .finite sign last.1.mantissa last.2 (Nat.pos_of_ne_zero h)

theorem roundWithAccuracy_eq {m k : Nat} {e : Int} (hk : (max ((m.log2 : Int) + 1 + e - 53) (-1074) - e).toNat = k)
    (sign : Sign) : roundWithAccuracy Format.binary64 sign m e .exact =
      settled sign (Binary.roundHalfEven m (2 ^ k)) (e + k) := by
  unfold roundWithAccuracy
  rw [shiftToTargetExponent_eq hk, ← roundedMantissa_shifted]
  rfl

/-- **A rounded mantissa** keeps its number. -/
theorem rational?_settled {r : Nat} {e : Int} (hle : r ≤ 2 ^ 53) (hleast : -1074 ≤ e) (hnormal : e = -1074 ∨ 2 ^ 52 ≤ r)
    (hfinite : (Float.Model.pack (settled .positive r e)).isFinite = true) :
    (Binary.ofFloat (Float.ofModel (Float.Model.pack (settled .positive r e)))).rational? =
      some ((r : ℚ) * 2 ^ e) := by
  unfold settled at hfinite ⊢
  rcases Nat.lt_or_eq_of_le hle with hlt | rfl
  · have hlog : r.log2 < 53 := by
      rcases Nat.eq_zero_or_pos r with rfl | hr
      · decide
      · exact (Nat.log2_lt hr.ne').2 hlt
    have hshift : shiftToTargetExponent Format.binary64 r e .exact = (shifted r 0, e + (0 : Nat)) :=
      shiftToTargetExponent_eq (by omega)
    have hmantissa : (shifted r 0).mantissa = r := by rw [mantissa_shifted, Nat.pow_zero, Nat.div_one]
    simp only [hshift, hmantissa, Nat.cast_zero, add_zero] at hfinite ⊢
    split
    · next hzero =>
      rw [hzero, Nat.cast_zero, zero_mul]
      exact rational?_pack_zero .positive
    · next hpos =>
      rw [dif_neg hpos] at hfinite
      exact rational?_pack hlt hnormal.symm hleast hfinite
  · -- the mantissa was rounded up to a power of two
    have hlog : Nat.log2 (2 ^ 53) = 53 := Nat.log2_two_pow
    have hshift : shiftToTargetExponent Format.binary64 (2 ^ 53) e .exact = (shifted (2 ^ 53) 1, e + (1 : Nat)) :=
      shiftToTargetExponent_eq (by omega)
    have hmantissa : (shifted (2 ^ 53) 1).mantissa = 2 ^ 52 := rfl
    have hcarry : (2 : ℚ) ^ (e + (1 : Nat)) = 2 ^ e * 2 := zpow_add_one₀ (by norm_num) e
    simp only [hshift, hmantissa] at hfinite ⊢
    rw [dif_neg (by decide)] at hfinite ⊢
    rw [rational?_pack (by decide) (.inl (le_refl _)) (by omega) hfinite, hcarry]
    norm_num
    ring

/-- **A float that is packed from a rounded mantissa** stands for the rounded number, if the mantissa has 53 places or
its exponent is not above the least one. -/
theorem isRounded_roundWithAccuracy {m : Nat} {e : Int} (hm : 0 < m) (hplaces : e ≤ -1074 ∨ 52 ≤ m.log2)
    (hfinite : (Float.Model.pack (roundWithAccuracy Format.binary64 .positive m e .exact)).isFinite = true) :
    ∃ p, (Binary.ofFloat (Float.ofModel (Float.Model.pack
      (roundWithAccuracy Format.binary64 .positive m e .exact)))).rational? = some p ∧ IsRounded (m * 2 ^ e) p := by
  obtain ⟨k, hk⟩ : ∃ k : Nat, (k : Int) = max ((m.log2 : Int) + 1 + e - 53) (-1074) - e :=
    ⟨_, Int.toNat_of_nonneg (by omega)⟩
  have hrounded := isRoundedAt_roundHalfEven hm hk
  have hsettled : roundWithAccuracy Format.binary64 .positive m e .exact =
      settled .positive (Binary.roundHalfEven m (2 ^ k)) (e + k) := roundWithAccuracy_eq (by omega) .positive
  rw [hsettled] at hfinite ⊢
  exact ⟨_, rational?_settled hrounded.le_two_pow hrounded.least_le hrounded.two_pow_le hfinite, _, _, hrounded, rfl⟩

/-! ### Products -/

/-- Two mantissas, of which each has 53 places unless its exponent is the least, have as many together unless the
exponents add up to the least one or less. -/
theorem places_of_mul {m m' : Nat} {e e' : Int} (hm : 0 < m) (hm' : 0 < m') (h : 2 ^ 52 ≤ m ∨ e = -1074)
    (h' : 2 ^ 52 ≤ m' ∨ e' = -1074) : e + e' ≤ -1074 ∨ 52 ≤ (m * m').log2 := by
  have hlog : 2 ^ 52 ≤ m * m' → 52 ≤ (m * m').log2 := (Nat.le_log2 (Nat.mul_pos hm hm').ne').2
  rcases h with h | rfl
  · exact .inr (hlog (le_trans h (Nat.le_mul_of_pos_right m hm')))
  · rcases h' with h' | rfl
    · exact .inr (hlog (le_trans h' (Nat.le_mul_of_pos_left m' hm)))
    · exact .inl (by omega)

/-- **A product** of two floats that are not negative is rounded. -/
theorem isRounded_mul {x y : Float} {q r : ℚ} (hx : (Binary.ofFloat x).rational? = some q)
    (hy : (Binary.ofFloat y).rational? = some r) (hq : 0 ≤ q) (hr : 0 ≤ r) (hfinite : (x * y).isFinite = true) :
    ∃ p, (Binary.ofFloat (x * y)).rational? = some p ∧ IsRounded (q * r) p := by
  have hmul : x * y = Float.ofModel (Float.Model.pack (mul Format.binary64 x.toModel.unpack y.toModel.unpack)) := rfl
  rw [hmul] at hfinite ⊢
  rcases Binary.unpack_of_rational? hx hq with ⟨sign, hleft, rfl⟩ | ⟨m, e, hm, hleft, rfl⟩
  · refine ⟨0, ?_, by simpa using isRounded_zero⟩
    rcases Binary.unpack_of_rational? hy hr with ⟨sign', hright, -⟩ | ⟨m', e', hm', hright, -⟩
    · rw [hleft, hright]
      exact rational?_pack_zero (sign * sign')
    · rw [hleft, hright]
      exact rational?_pack_zero (sign * Sign.positive)
  · rcases Binary.unpack_of_rational? hy hr with ⟨sign', hright, rfl⟩ | ⟨m', e', hm', hright, rfl⟩
    · refine ⟨0, ?_, by simpa using isRounded_zero⟩
      rw [hleft, hright]
      exact rational?_pack_zero (Sign.positive * sign')
    · obtain ⟨-, hplaces, -⟩ := bounds_of_unpack hleft
      obtain ⟨-, hplaces', -⟩ := bounds_of_unpack hright
      have hround : mul Format.binary64 x.toModel.unpack y.toModel.unpack =
          roundWithAccuracy Format.binary64 .positive (m * m') (e + e') .exact := by
        rw [hleft, hright]
        rfl
      have hproduct : (m * 2 ^ e * (m' * 2 ^ e') : ℚ) = ((m * m' : Nat) : ℚ) * 2 ^ (e + e') := by
        rw [zpow_add₀ (by norm_num)]
        push_cast
        ring
      rw [hround] at hfinite ⊢
      rw [hproduct]
      exact isRounded_roundWithAccuracy (Nat.mul_pos hm hm') (places_of_mul hm hm' hplaces hplaces') hfinite

/-! ### Whole numbers -/

theorem log2_mul_two_pow {n : Nat} (hn : 0 < n) (j : Nat) : (n * 2 ^ j).log2 = n.log2 + j := by
  apply (Nat.log2_eq_iff (Nat.mul_pos hn (Nat.two_pow_pos j)).ne').2
  have hlow : 2 ^ n.log2 * 2 ^ j ≤ n * 2 ^ j := Nat.mul_le_mul_right _ (Nat.log2_self_le hn.ne')
  have hhigh : n * 2 ^ j < 2 ^ (n.log2 + 1) * 2 ^ j := Nat.mul_lt_mul_of_pos_right Nat.lt_log2_self (Nat.two_pow_pos j)
  rw [← Nat.pow_add] at hlow hhigh
  rw [Nat.add_right_comm]
  exact ⟨hlow, hhigh⟩

/-- The first 53 places of a whole number are those of the number itself. -/
theorem isRoundedAt_mantissaOf {n : Nat} (hn : 0 < n) : IsRoundedAt n ((n.log2 : Int) - 52) (mantissaOf n) := by
  have hlog := log2_mul_two_pow hn (52 - n.log2)
  have hrounded := isRoundedAt_roundHalfEven (m := n * 2 ^ (52 - n.log2)) (k := n.log2 - 52)
    (e := -((52 - n.log2 : Nat) : Int)) (Nat.mul_pos hn (Nat.two_pow_pos _)) (by omega)
  have hexponent : -((52 - n.log2 : Nat) : Int) + (n.log2 - 52 : Nat) = (n.log2 : Int) - 52 := by omega
  have hnumber : ((n * 2 ^ (52 - n.log2) : Nat) : ℚ) * 2 ^ (-((52 - n.log2 : Nat) : Int)) = n := by
    rw [zpow_neg, zpow_natCast]
    push_cast
    field_simp
  rw [hexponent, hnumber] at hrounded
  exact hrounded

/-- **The float of a whole number** is the rounded number. -/
theorem isRounded_floatOfInt? {n : Nat} {x : Float} (h : floatOfInt? n = some x) :
    ∃ p, (Binary.ofFloat x).rational? = some p ∧ IsRounded n p := by
  have hlimit : n < floatLimit := (isSome_floatOfInt? n).1 (Option.isSome_iff_exists.2 ⟨x, h⟩)
  unfold floatOfInt? at h
  dsimp only at h
  split at h
  · cases h
  · cases h
    rcases Nat.eq_zero_or_pos n with rfl | hn
    · refine ⟨0, ?_, by simpa using isRounded_zero⟩
      have hzero : Binary.ofFloat (nearestFloat false 0 1) = .finite false 0 (-1074) := by decide
      change (Binary.ofFloat (nearestFloat false 0 1)).rational? = some 0
      rw [hzero]
      simp [Binary.rational?]
    · have hrounded := isRoundedAt_mantissaOf hn
      have hbits : (n.log2 + 1022) * 2 ^ 52 + mantissaOf n < 2047 * 2 ^ 52 :=
        Nat.lt_of_not_le fun hle => Nat.not_le.2 hlimit ((le_bits_iff hn).1 hle)
      have hnegative : decide ((n : Int) < 0) = false := decide_eq_false (by omega)
      have hexponent : Binary.leastExponent + (n.log2 + 1022 : Nat) = (n.log2 : Int) - 52 := by
        rw [Binary.leastExponent]
        omega
      have hnumber := Binary.rational?_ofBits hrounded.le_two_pow (.inl (two_pow_le_mantissaOf hn)) hbits
      rw [hexponent] at hnumber
      refine ⟨_, ?_, _, _, hrounded, rfl⟩
      rw [hnegative, Int.natAbs_natCast, nearestFloat_one false hn, Binary.ofFloat_ofBits, UInt64.toNat_ofNat',
        Nat.min_eq_left hbits.le, if_neg Bool.false_ne_true, Nat.zero_add, Nat.mod_eq_of_lt (by omega)]
      exact hnumber

/-! ### Whole parts -/

namespace Number

variable {b c : Number} {q : ℚ} {n m : Nat} {s t : Int}

/-- The factor becomes a float first, which rounds it, and the product is rounded again. -/
theorem isRounded_of_times {x : Float} (hx : (Binary.ofFloat x).rational? = some q) (hq : 0 ≤ q)
    (htimes : (float x).times n = .ok b) (hs : b.toInt = .ok s) :
    ∃ r p, IsRounded n r ∧ IsRounded (q * r) p ∧ s = ⌊p⌋ := by
  rw [times] at htimes
  cases hfactor : floatOfInt? n with
  | none => simp [hfactor] at htimes
  | some y =>
    rw [hfactor] at htimes
    obtain rfl := Except.ok.inj htimes
    obtain ⟨r, hy, hr⟩ := isRounded_floatOfInt? hfactor
    obtain ⟨p, hproduct, hp⟩ := isRounded_mul hx hy hq hr.nonneg (isFinite_of_toInt hs)
    have hfloor : (float (x * y)).toInt = .ok ⌊p⌋ := toInt_eq_floor hproduct hp.nonneg
    rw [hfloor] at hs
    exact ⟨r, p, hr, hp, (Except.ok.inj hs).symm⟩

/-- A number from zero to one times a whole number that is a float has a whole part. -/
theorem exists_times {a : Number} (ha : a.rational? = some q) (hq : 0 ≤ q) (hone : q ≤ 1) {k : Int}
    (hk : k.natAbs < floatLimit) : ∃ b t, a.times k = .ok b ∧ b.toInt = .ok t := by
  cases a with
  | int i => exact ⟨_, _, rfl, rfl⟩
  | float x => exact exists_times_float (fun _ => isFinite_mul_of_le_one ha hq hone) hk

/-- **The whole part of a product** with a natural number does not become less when the natural number becomes
greater. -/
theorem times_mono {a : Number} (ha : a.rational? = some q) (hq : 0 ≤ q) (h : n ≤ m) (hn : a.times n = .ok b)
    (hm : a.times m = .ok c) (hs : b.toInt = .ok s) (ht : c.toInt = .ok t) : s ≤ t := by
  cases a with
  | int k =>
    obtain rfl := Option.some.inj ha
    obtain rfl := Except.ok.inj hn
    obtain rfl := Except.ok.inj hm
    obtain rfl := Except.ok.inj hs
    obtain rfl := Except.ok.inj ht
    exact mul_le_mul_of_nonneg_left (Int.ofNat_le.2 h) (by exact_mod_cast hq)
  | float x =>
    obtain ⟨r, p, hr, hp, rfl⟩ := isRounded_of_times ha hq hn hs
    obtain ⟨r', p', hr', hp', rfl⟩ := isRounded_of_times ha hq hm ht
    have hfactor : r ≤ r' := hr.mono hr' (Nat.cast_le.2 h)
    have hproduct : p ≤ p' := hp.mono hp' (mul_le_mul_of_nonneg_left hfactor hq)
    exact Int.floor_le_floor hproduct

end Number

end PageSearch
