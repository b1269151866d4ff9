import Mathlib.Algebra.Order.Floor.Semifield
import Mathlib.Data.Rat.Floor
import PageSearch.Value.Number

/-!
# Numbers of both kinds on one line

A whole number and a finite float stand for a rational number (`Number.rational?`). A float is compared with a whole number
as this rational number is (`compareInt_eq_lt_iff`, `compareInt_eq_gt_iff`), and its whole part is the floor of it, if
it is not negative (`truncate?_eq_floor`).
-/

namespace PageSearch

namespace Binary

/-- The rational number that a float stands for, if it stands for one. -/
def rational? : Binary → Option ℚ
  | finite negative m e => some ((if negative then -1 else 1) * m * 2 ^ e)
  | _ => none

theorem ratio_snd_pos (m : Nat) (e : Int) : 0 < (ratio m e).2 := Nat.two_pow_pos _

/-- The quotient of natural numbers is the number. -/
theorem ratio_eq (m : Nat) (e : Int) : (m * 2 ^ e : ℚ) * (ratio m e).2 = (ratio m e).1 := by
  have hexponent : e + ((-e).toNat : Int) = e.toNat := by omega
  have hpow : (2 : ℚ) ^ e * 2 ^ (-e).toNat = 2 ^ e.toNat := by
    rw [← zpow_natCast, ← zpow_natCast, ← zpow_add₀ (by norm_num : (2 : ℚ) ≠ 0), hexponent]
  calc (m * 2 ^ e : ℚ) * (ratio m e).2 = m * (2 ^ e * 2 ^ (-e).toNat) := by
        simp [ratio, mul_assoc]
    _ = (ratio m e).1 := by
        rw [hpow]
        simp [ratio]

/-- The same with the sign. -/
theorem signed_ratio_eq (negative : Bool) (m : Nat) (e : Int) :
    ((if negative then -1 else 1) * m * 2 ^ e : ℚ) * (ratio m e).2 = signed negative (ratio m e).1 := by
  have hratio := ratio_eq m e
  cases negative with
  | false => simpa [signed] using hratio
  | true => simpa [signed] using hratio

/-- A whole part that is taken from the size is the same with the sign, if there is nothing below zero. -/
theorem signed_div {negative : Bool} {num den : Nat} (h : 0 ≤ signed negative num) :
    signed negative (num / den) = signed negative num / den := by
  cases negative with
  | false => exact Int.natCast_ediv num den
  | true =>
    have hnum : num = 0 := by
      have hneg : (0 : Int) ≤ -num := h
      omega
    rw [hnum, Nat.zero_div]
    exact (Int.zero_ediv den).symm

variable {x : Binary} {q : ℚ}

/-- A float that stands for a number is a quotient, which is all that a comparison and the whole part depend on. -/
theorem exists_quotient (h : x.rational? = some q) : ∃ (num : Int) (den : Nat), (0 : ℚ) < den ∧ q * den = num ∧
    (∀ n : Int, x.compareInt n = some (compare num (n * den))) ∧ (0 ≤ num → x.truncate? = some (num / den)) := by
  cases x with
  | nan => cases h
  | infinite negative => cases h
  | finite negative m e =>
    obtain rfl := Option.some.inj h
    refine ⟨signed negative (ratio m e).1, (ratio m e).2, Nat.cast_pos.2 (ratio_snd_pos m e),
      signed_ratio_eq negative m e, fun n => rfl, fun hnum => ?_⟩
    rw [← signed_div hnum]
    rfl

theorem compareInt_eq_lt_iff (h : x.rational? = some q) (n : Int) : x.compareInt n = some .lt ↔ q < n := by
  obtain ⟨num, den, hden, hq, hcompare, -⟩ := exists_quotient h
  rw [hcompare, Option.some.injEq, Int.compare_eq_lt, ← mul_lt_mul_iff_of_pos_right hden, hq]
  exact_mod_cast Iff.rfl

theorem compareInt_eq_gt_iff (h : x.rational? = some q) (n : Int) : x.compareInt n = some .gt ↔ n < q := by
  obtain ⟨num, den, hden, hq, hcompare, -⟩ := exists_quotient h
  rw [hcompare, Option.some.injEq, Int.compare_eq_gt, ← mul_lt_mul_iff_of_pos_right hden, hq]
  exact_mod_cast Iff.rfl

/-- **The whole part** of a float that is not negative is the floor of it. -/
theorem truncate?_eq_floor (h : x.rational? = some q) (hq : 0 ≤ q) : x.truncate? = some ⌊q⌋ := by
  obtain ⟨num, den, hden, hproduct, -, hwhole⟩ := exists_quotient h
  have hnum : 0 ≤ num := by
    have hnonneg := mul_nonneg hq hden.le
    rw [hproduct] at hnonneg
    exact_mod_cast hnonneg
  rw [hwhole hnum, eq_div_of_mul_eq hden.ne' hproduct, Rat.floor_intCast_div_natCast]

end Binary

namespace Number

/-- The rational number that a number stands for, if it stands for one. -/
def rational? : Number → Option ℚ
  | int n => some n
  | float x => (Binary.ofFloat x).rational?

variable {n : Number} {q : ℚ}

theorem lt_int (h : n.rational? = some q) (k : Int) : n.lt (.int k) = decide (q < k) := by
  cases n with
  | int m =>
    obtain rfl := Option.some.inj h
    simp [lt]
  | float x =>
    have hcompare := Binary.compareInt_eq_lt_iff h k
    rw [lt, Bool.eq_iff_iff, beq_iff_eq, decide_eq_true_eq]
    exact hcompare

theorem int_lt (h : n.rational? = some q) (k : Int) : (Number.int k).lt n = decide (k < q) := by
  cases n with
  | int m =>
    obtain rfl := Option.some.inj h
    simp [lt]
  | float x =>
    have hcompare := Binary.compareInt_eq_gt_iff h k
    rw [lt, Bool.eq_iff_iff, beq_iff_eq, decide_eq_true_eq]
    exact hcompare

theorem toInt_eq_floor (h : n.rational? = some q) (hq : 0 ≤ q) : n.toInt = .ok ⌊q⌋ := by
  cases n with
  | int m =>
    obtain rfl := Option.some.inj h
    rw [toInt, Int.floor_intCast]
  | float x =>
    have htruncate := Binary.truncate?_eq_floor h hq
    simp only [rational?] at h
    rw [toInt]
    cases hx : Binary.ofFloat x with
    | nan =>
      rw [hx] at h
      cases h
    | infinite negative =>
      rw [hx] at h
      cases h
    | finite negative m e =>
      rw [hx] at htruncate
      simp only [htruncate]

/-! ### Floats that are no numbers -/

variable {x : Float}

/-- What is no number is neither below nor above a number, and has no whole part. -/
theorem unordered (hx : Binary.ofFloat x = .nan) (k : Int) :
    (float x).lt (.int k) = false ∧ (Number.int k).lt (.float x) = false ∧ (float x).toInt = .error .notANumber := by
  rw [lt, lt, toInt, hx]
  exact ⟨rfl, rfl, rfl⟩

/-- An infinity is below or above all numbers, and has no whole part. -/
theorem infinite_lt {negative : Bool} (hx : Binary.ofFloat x = .infinite negative) (k : Int) :
    (float x).lt (.int k) = negative ∧ (Number.int k).lt (.float x) = !negative ∧
      (float x).toInt = .error .tooLarge := by
  rw [lt, lt, toInt, hx]
  cases negative <;> exact ⟨rfl, rfl, rfl⟩

end Number

namespace Value

/-- The rational number that a value is. A truth value is none, and neither is an infinity. -/
def rational? (v : Value) : Option ℚ := v.number?.bind Number.rational?

end Value

end PageSearch
