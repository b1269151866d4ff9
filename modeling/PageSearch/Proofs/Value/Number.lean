import PageSearch.Proofs.Decimal.Product
import PageSearch.Proofs.Outcome
import PageSearch.Value.Number

/-!
# Numbers that are too large

A value is refused as a number for its kind, for its text, or because the number is beyond the wanted type
(`IsNumberFault`). Only an infinity is beyond the whole numbers (`toInt_eq_tooLarge_iff`), and only a whole number is
beyond the floats (`toFloat_eq_tooLarge_iff`).
-/

namespace PageSearch

open Outcome

/-- What can be wrong with a value that is read as a number. -/
def IsNumberFault (fault : Fault) : Prop := fault = .unsuitable ∨ fault = .notANumber ∨ fault = .tooLarge

namespace Number

theorem failsOnly_toInt (n : Number) : FailsOnly IsNumberFault n.toInt := by
  unfold toInt
  split
  · exact failsOnly_ok _
  · split
    · exact failsOnly_error (.inr (.inl rfl))
    · split
      · exact failsOnly_ok _
      · exact failsOnly_error (.inr (.inr rfl))

theorem failsOnly_toFloat (n : Number) : FailsOnly IsNumberFault n.toFloat := by
  unfold toFloat
  split
  · split
    · exact failsOnly_ok _
    · exact failsOnly_error (.inr (.inr rfl))
  · exact failsOnly_ok _

/-- A finite float has a whole part. -/
theorem exists_toInt {x : Float} (h : x.isFinite = true) : ∃ n, (float x).toInt = .ok n := by
  obtain ⟨negative, m, e, hx⟩ := (isFinite_iff_ofFloat x).1 h
  rw [toInt, hx]
  exact ⟨_, rfl⟩

/-- A float whose products are finite has a product with each whole number that is a float, and the product has a whole
part. -/
theorem exists_times_float {x : Float} (h : ∀ y : Float, y.isFinite = true → (x * y).isFinite = true) {k : Int}
    (hk : k.natAbs < floatLimit) : ∃ b t, (float x).times k = .ok b ∧ b.toInt = .ok t := by
  obtain ⟨y, hy⟩ := Option.isSome_iff_exists.1 ((isSome_floatOfInt? k).2 hk)
  obtain ⟨t, ht⟩ := exists_toInt (h y (isFinite_of_floatOfInt? hy))
  exact ⟨.float (x * y), t, by rw [times, hy], ht⟩

/-- A float has a whole part only if it is finite. -/
theorem isFinite_of_toInt {x : Float} {n : Int} (h : (float x).toInt = .ok n) : x.isFinite = true := by
  rw [isFinite_iff_ofFloat]
  rw [toInt] at h
  cases hx : Binary.ofFloat x with
  | nan => simp [hx] at h
  | infinite negative => simp [hx, Binary.truncate?] at h
  | finite negative mantissa e => exact ⟨negative, mantissa, e, rfl⟩

theorem toInt_float_eq_tooLarge_iff (x : Float) :
    (float x).toInt = .error .tooLarge ↔ ∃ negative, Binary.ofFloat x = .infinite negative := by
  rw [toInt]
  cases Binary.ofFloat x with
  | nan => simp
  | infinite negative => simp [Binary.truncate?]
  | finite negative m e => simp [Binary.truncate?]

theorem toFloat_int_eq_tooLarge_iff (n : Int) : (int n).toFloat = .error .tooLarge ↔ floatLimit ≤ n.natAbs := by
  rw [← Nat.not_lt, ← isSome_floatOfInt?, toFloat]
  cases floatOfInt? n with
  | none => simp
  | some x => simp

end Number

namespace Value

theorem failsOnly_toInt (v : Value) : FailsOnly IsNumberFault v.toInt := by
  unfold toInt
  split
  · exact Number.failsOnly_toInt _
  · split
    · exact failsOnly_ok _
    · exact failsOnly_error (.inr (.inl rfl))
  · exact failsOnly_error (.inl rfl)

theorem failsOnly_toFloat (v : Value) : FailsOnly IsNumberFault v.toFloat := by
  unfold toFloat
  split
  · exact Number.failsOnly_toFloat _
  · split
    · exact failsOnly_ok _
    · exact failsOnly_error (.inr (.inl rfl))
  · exact failsOnly_error (.inl rfl)

/-- **An infinity** is the only value that is too large for a whole number. -/
theorem toInt_eq_tooLarge_iff (v : Value) :
    v.toInt = .error .tooLarge ↔ ∃ x negative, v = .float x ∧ Binary.ofFloat x = .infinite negative := by
  cases v with
  | float x =>
    have hx := Number.toInt_float_eq_tooLarge_iff x
    constructor
    · intro h
      obtain ⟨negative, hinf⟩ := hx.1 h
      exact ⟨x, negative, rfl, hinf⟩
    · rintro ⟨x', negative, hv, hinf⟩
      cases hv
      exact hx.2 ⟨negative, hinf⟩
  | str s =>
    unfold toInt
    simp only [asNumber?, number?]
    cases Reading.int? s.toList <;> simp
  | null | bool | int | list | obj => simp [toInt, asNumber?, number?, Number.toInt]

/-- **A whole number beyond the floats** is the only value that is too large for a float. -/
theorem toFloat_eq_tooLarge_iff (v : Value) :
    v.toFloat = .error .tooLarge ↔ ∃ n, v = .int n ∧ floatLimit ≤ n.natAbs := by
  cases v with
  | int n =>
    have hn := Number.toFloat_int_eq_tooLarge_iff n
    constructor
    · intro h
      exact ⟨n, rfl, hn.1 h⟩
    · rintro ⟨n', hv, hlarge⟩
      cases hv
      exact hn.2 hlarge
  | bool b =>
    have hbit := Number.toFloat_int_eq_tooLarge_iff (if b then 1 else 0)
    have hsmall : (if b then (1 : Int) else 0).natAbs ≤ 1 := by cases b <;> decide
    have hlimit : 1 < floatLimit := (isSome_floatOfInt? 1).1 rfl
    constructor
    · intro h
      have hlarge := hbit.1 h
      omega
    · rintro ⟨n, hv, -⟩
      cases hv
  | str s =>
    unfold toFloat
    simp only [asNumber?, number?]
    cases Reading.float? s.toList <;> simp
  | null | float | list | obj => simp [toFloat, asNumber?, number?, Number.toFloat]

end Value

end PageSearch
