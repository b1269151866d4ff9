import PageSearch.Proofs.Decimal.Exact
import PageSearch.Proofs.Decimal.Range

/-!
# Bits and parts of a float

A float is taken apart in two ways: `Binary.ofFloat` reads its bits, and the operations on floats work on its sign,
its mantissa and its exponent. Both say the same (`Binary.ofFloat_eq_ofUnpacked`), so that the number which a float
stands for can be read off the bits (`Binary.rational?_ofBits`) and off the parts that are packed
(`rational?_pack`).
-/

namespace PageSearch

open Float.Model (Format)
open Float.Model.UnpackedFloat

/-! ### Taking apart -/

namespace Binary

/-- What a pattern of 64 bits stands for. -/
def ofBits (bits : Nat) : Binary :=
  if bits / 2 ^ 52 % 2 ^ 11 == 2047 then
    if bits % 2 ^ 52 == 0 then infinite (bits / 2 ^ 63 == 1) else nan
  else if bits / 2 ^ 52 % 2 ^ 11 == 0 then finite (bits / 2 ^ 63 == 1) (bits % 2 ^ 52) leastExponent
  else finite (bits / 2 ^ 63 == 1) (2 ^ 52 + bits % 2 ^ 52) (leastExponent + (bits / 2 ^ 52 % 2 ^ 11 - 1 : Nat))

/-- What a float stands for that is taken apart already. -/
def ofUnpacked : Float.Model.UnpackedFloat → Binary
  | .infinity sign => infinite (sign == .negative)
  | .notANumber => nan
  | .zero sign => finite (sign == .negative) 0 leastExponent
  | .finite sign m e _ => finite (sign == .negative) m e

theorem ofFloat_eq_ofBits (x : Float) : ofFloat x = ofBits x.toBits.toNat := rfl

theorem toNat_unpackExponent (b : BitVec Format.binary64.numBits) :
    (unpackExponent b).toNat = b.toNat / 2 ^ 52 % 2 ^ 11 := by
  rw [unpackExponent_def, BitVec.extractLsb'_toNat, Nat.shiftRight_eq_div_pow]

theorem toNat_unpackMantissa (b : BitVec Format.binary64.numBits) : (unpackMantissa b).toNat = b.toNat % 2 ^ 52 := by
  rw [unpackMantissa_def, BitVec.extractLsb'_toNat, Nat.shiftRight_zero]

/-- The leading one that is not written stands before the fraction. -/
theorem toNat_one_append (fraction : BitVec 52) : (1#1 ++ fraction).toNat = 2 ^ 52 + fraction.toNat := by
  rw [BitVec.toNat_append, ← Nat.shiftLeft_add_eq_or_of_lt fraction.isLt]
  rfl

theorem sign_ofBits (b : BitVec Format.binary64.numBits) :
    (b.toNat / 2 ^ 63 == 1) = (Sign.ofBitVec (unpackSign b) == .negative) := by
  have hbit : (unpackSign b).toNat = b.toNat / 2 ^ 63 := by
    have hlt : b.toNat < 2 ^ 64 := b.isLt
    rw [unpackSign_def, BitVec.extractLsb'_toNat, Nat.shiftRight_eq_div_pow]
    change b.toNat / 2 ^ 63 % 2 ^ 1 = _
    omega
  rw [← hbit]
  generalize unpackSign b = sign
  revert sign
  decide

theorem ofBits_eq_ofUnpacked (b : BitVec Format.binary64.numBits) :
    ofBits b.toNat = ofUnpacked (unpack Format.binary64 b) := by
  have hall : unpackExponent b = -1#11 ↔ b.toNat / 2 ^ 52 % 2 ^ 11 = 2047 := by
    rw [← BitVec.toNat_inj, toNat_unpackExponent]
    rfl
  have hnone : unpackExponent b = 0#11 ↔ b.toNat / 2 ^ 52 % 2 ^ 11 = 0 := by
    rw [← BitVec.toNat_inj, toNat_unpackExponent]
    rfl
  have hempty : unpackMantissa b = 0#52 ↔ b.toNat % 2 ^ 52 = 0 := by
    rw [← BitVec.toNat_inj, toNat_unpackMantissa]
    rfl
  unfold unpack ofBits
  dsimp only
  rw [sign_ofBits]
  simp only [beq_iff_eq, ← hall, ← hnone, ← hempty]
  split
  · split <;> rfl
  · split
    · next hzero =>
      -- near to zero the least exponent counts
      split
      · next hfraction =>
        rw [hempty.1 hfraction]
        rfl
      · rw [hzero, ← toNat_unpackMantissa]
        rfl
    · next hpos =>
      have hfield : (unpackExponent b).toNat ≠ 0 := fun h => hpos (BitVec.eq_of_toNat_eq h)
      change _ = finite _ (1#1 ++ unpackMantissa b).toNat (((unpackExponent b).toNat : Int) - (1023 + 52 : Nat))
      rw [toNat_one_append, toNat_unpackMantissa, ← toNat_unpackExponent, leastExponent]
      congr 1
      omega

/-- **The bits of a float** say the same as its parts. -/
theorem ofFloat_eq_ofUnpacked (x : Float) : ofFloat x = ofUnpacked x.toModel.unpack := ofBits_eq_ofUnpacked _

theorem ofFloat_ofBits (bits : UInt64) : ofFloat (Float.ofBits bits) = ofBits bits.toNat := by
  have hbits : bits.toNat = bits.toBitVec.toNat := rfl
  rw [ofFloat_eq_ofUnpacked, hbits, ofBits_eq_ofUnpacked]
  exact congrArg ofUnpacked (unpack_pack_unpack bits.toBitVec)

/-- A float whose number is not negative is zero or has a positive sign. -/
theorem unpack_of_rational? {x : Float} {q : ℚ} (h : (ofFloat x).rational? = some q) (hq : 0 ≤ q) :
    (∃ sign, x.toModel.unpack = .zero sign ∧ q = 0) ∨
      ∃ m e hm, x.toModel.unpack = .finite .positive m e hm ∧ q = m * 2 ^ e := by
  rw [ofFloat_eq_ofUnpacked] at h
  cases hx : x.toModel.unpack with
  | infinity sign =>
    rw [hx] at h
    cases h
  | notANumber =>
    rw [hx] at h
    cases h
  | zero sign =>
    rw [hx] at h
    obtain rfl := Option.some.inj h
    exact .inl ⟨sign, rfl, by simp⟩
  | finite sign m e hm =>
    rw [hx] at h
    obtain rfl := Option.some.inj h
    have hpos : (0 : ℚ) < m * 2 ^ e := mul_pos (Nat.cast_pos.2 hm) (zpow_pos (by norm_num) e)
    cases sign with
    | positive =>
      have hsign : (Sign.positive == Sign.negative) = false := rfl
      exact .inr ⟨m, e, hm, rfl, by simp [hsign]⟩
    | negative =>
      simp only [BEq.rfl, if_true, neg_mul] at hq
      linarith

/-! ### Numbers of patterns -/

theorem ofBits_eq_finite {field m : Nat} (hm : m < 2 ^ 53) (hnormal : 2 ^ 52 ≤ m ∨ field = 0)
    (hlt : field * 2 ^ 52 + m < 2047 * 2 ^ 52) :
    ofBits (field * 2 ^ 52 + m) = finite false m (leastExponent + field) := by
  have hsign : ((field * 2 ^ 52 + m) / 2 ^ 63 == 1) = false := by
    rw [beq_eq_false_iff_ne]
    omega
  unfold ofBits
  simp only [hsign, beq_iff_eq]
  rcases Nat.lt_or_ge m (2 ^ 52) with hsmall | hlarge
  · obtain rfl : field = 0 := hnormal.resolve_left (by omega)
    have hfield : (0 * 2 ^ 52 + m) / 2 ^ 52 % 2 ^ 11 = 0 := by omega
    have hfraction : (0 * 2 ^ 52 + m) % 2 ^ 52 = m := by omega
    rw [hfield, hfraction]
    rfl
  · have hfield : (field * 2 ^ 52 + m) / 2 ^ 52 % 2 ^ 11 = field + 1 := by omega
    have hfraction : 2 ^ 52 + (field * 2 ^ 52 + m) % 2 ^ 52 = m := by omega
    rw [hfield, hfraction, if_neg (by omega), if_neg (by omega), Nat.add_sub_cancel]

/-- A mantissa that was rounded up to a power of two carries into the exponent, and the number is the same. -/
theorem rational?_ofBits {field m : Nat} (hm : m ≤ 2 ^ 53) (hnormal : 2 ^ 52 ≤ m ∨ field = 0)
    (hlt : field * 2 ^ 52 + m < 2047 * 2 ^ 52) :
    (ofBits (field * 2 ^ 52 + m)).rational? = some (m * 2 ^ (leastExponent + field) : ℚ) := by
  rcases Nat.lt_or_eq_of_le hm with hbelow | rfl
  · rw [ofBits_eq_finite hbelow hnormal hlt]
    simp [rational?]
  · have hcarry : field * 2 ^ 52 + 2 ^ 53 = (field + 1) * 2 ^ 52 + 2 ^ 52 := by omega
    rw [hcarry] at hlt ⊢
    rw [ofBits_eq_finite (by decide) (.inl (le_refl _)) hlt]
    have hexponent : leastExponent + (field + 1 : Nat) = leastExponent + field + 1 := by omega
    rw [rational?, hexponent, zpow_add_one₀ (by norm_num)]
    norm_num
    ring

end Binary

/-! ### Finite floats -/

theorem isFinite_unpack (b : BitVec Format.binary64.numBits) :
    (unpack Format.binary64 b).isFinite = true ↔ unpackExponent b ≠ -1#11 := by
  unfold unpack
  dsimp only
  split
  · split <;> simp_all [isFinite]
  · split
    · split <;> simp_all [isFinite]
    · simp_all [isFinite]

/-- A finite float is a number. -/
theorem isFinite_iff_ofFloat (x : Float) :
    x.isFinite = true ↔ ∃ negative m e, Binary.ofFloat x = .finite negative m e := by
  change x.toModel.unpack.isFinite = true ↔ _
  rw [Binary.ofFloat_eq_ofUnpacked]
  cases x.toModel.unpack <;> simp [isFinite, Binary.ofUnpacked]

/-- **A finite float** does not have all bits of the exponent. -/
theorem isFinite_ofBits (bits : UInt64) :
    (Float.ofBits bits).isFinite = true ↔ bits.toNat / 2 ^ 52 % 2 ^ 11 ≠ 2047 := by
  rw [isFinite_iff_ofFloat, Binary.ofFloat_ofBits, Binary.ofBits]
  split
  · next hall =>
    split <;> simp_all
  · next hsome =>
    split <;> simp_all

/-! ### Packing -/

variable {sign : Sign} {m : Nat} {e : Int} {hm : 0 < m}

theorem isFinite_pack_zero (sign : Sign) : (Float.Model.pack (.zero sign)).isFinite = true := by
  cases sign <;> rfl

theorem rational?_pack_zero (sign : Sign) :
    (Binary.ofFloat (Float.ofModel (Float.Model.pack (.zero sign)))).rational? = some 0 := by
  have hzero : Binary.ofFloat (Float.ofModel (Float.Model.pack (.zero sign))) =
      .finite (sign == .negative) 0 (-1074) := by
    cases sign <;> decide
  rw [hzero]
  simp [Binary.rational?]

/-- The exponent as it is written. -/
theorem biased_eq (e : Int) :
    (e + (Format.binary64.exponentBias : Int) + (Format.binary64.mantissaBitsWithoutImplicit : Int)).toNat =
      (e + 1075).toNat := by
  change (e + (1023 : Int) + (52 : Int)).toNat = _
  omega

/-- **What is packed** stays finite exactly if its exponent is not beyond the greatest one. -/
theorem isFinite_pack_iff : (Float.Model.pack (.finite sign m e hm)).isFinite = true ↔ e ≤ 971 := by
  change (unpack Format.binary64 (pack Format.binary64 (.finite sign m e hm))).isFinite = true ↔ _
  rw [isFinite_unpack]
  unfold pack
  dsimp only
  rw [biased_eq]
  split
  · next hover =>
    change 2 ^ 11 ≤ (e + 1075).toNat + 1 at hover
    refine iff_of_false (fun hne => hne ?_) (by omega)
    rw [packedInfinity, unpackExponent_packComponents]
  · next hfits =>
    change ¬ 2 ^ 11 ≤ (e + 1075).toNat + 1 at hfits
    refine iff_of_true ?_ (by omega)
    split
    · rw [unpackExponent_packComponents, Ne, ← BitVec.toNat_inj]
      change ¬ (e + 1075).toNat % 2 ^ 11 = 2047
      omega
    · rw [unpackExponent_packComponents]
      decide

theorem toNat_packComponents (field : BitVec 11) (fraction : BitVec 52) :
    (packComponents Format.binary64 .positive field fraction).toNat = field.toNat * 2 ^ 52 + fraction.toNat := by
  unfold packComponents
  rw [BitVec.toNat_append, ← Nat.shiftLeft_add_eq_or_of_lt fraction.isLt, BitVec.toNat_append,
    ← Nat.shiftLeft_add_eq_or_of_lt field.isLt]
  change ((0 : Nat) <<< 11 + field.toNat) <<< 52 + fraction.toNat = _
  rw [Nat.zero_shiftLeft, Nat.zero_add, Nat.shiftLeft_eq]

theorem toNat_pack (hlt : m < 2 ^ 53) (hnormal : 2 ^ 52 ≤ m ∨ e = -1074) (hleast : -1074 ≤ e) (hgreatest : e ≤ 971) :
    (Float.ofModel (Float.Model.pack (.finite .positive m e hm))).toBits.toNat =
      (e + 1074).toNat * 2 ^ 52 + m := by
  change (pack Format.binary64 (.finite .positive m e hm)).toNat = _
  have hfits : ¬ 2 ^ Format.binary64.exponentBits ≤ (e + 1075).toNat + 1 := by
    change ¬ 2 ^ 11 ≤ (e + 1075).toNat + 1
    omega
  unfold pack
  dsimp only
  rw [biased_eq, if_neg hfits]
  split
  · next hplaces =>
    have hlog : m.log2 = 52 := Nat.succ.inj hplaces
    have hlow : 2 ^ 52 ≤ m := hlog ▸ Nat.log2_self_le hm.ne'
    rw [toNat_packComponents, BitVec.toNat_ofNat, BitVec.toNat_ofNat]
    change (e + 1075).toNat % 2 ^ 11 * 2 ^ 52 + m % 2 ^ 52 = _
    omega
  · next hplaces =>
    have hlog : m.log2 ≠ 52 := fun h => hplaces (congrArg Nat.succ h)
    have hbelow : m.log2 < 53 := (Nat.log2_lt hm.ne').2 hlt
    have hhigh : m < 2 ^ 52 := (Nat.log2_lt hm.ne').1 (by omega)
    rw [toNat_packComponents, BitVec.toNat_ofNat]
    change 0 * 2 ^ 52 + m % 2 ^ 52 = _
    omega

/-- **A mantissa and an exponent that are packed** stand for their number. -/
theorem rational?_pack (hlt : m < 2 ^ 53) (hnormal : 2 ^ 52 ≤ m ∨ e = -1074) (hleast : -1074 ≤ e)
    (hfinite : (Float.Model.pack (.finite .positive m e hm)).isFinite = true) :
    (Binary.ofFloat (Float.ofModel (Float.Model.pack (.finite .positive m e hm)))).rational? =
      some ((m : ℚ) * 2 ^ e) := by
  have hgreatest : e ≤ 971 := isFinite_pack_iff.1 hfinite
  have hexponent : Binary.leastExponent + (e + 1074).toNat = e := by
    rw [Binary.leastExponent]
    omega
  rw [Binary.ofFloat_eq_ofBits, toNat_pack hlt hnormal hleast hgreatest,
    Binary.rational?_ofBits hlt.le (hnormal.imp_right fun he => by omega) (by omega), hexponent]

end PageSearch
