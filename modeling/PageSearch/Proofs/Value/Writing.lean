import Mathlib.Algebra.Group.Int.Defs
import PageSearch.Document
import PageSearch.Proofs.Outcome

/-!
# Values that can be written

A whole number has a text exactly if it is less than a power of ten (`hasText_iff`), and a value has one exactly if all
whole numbers in it have (`isWritable`). Whatever is done after writing a value is done exactly then
(`yields_afterWriting`), and no number stands for a text else (`failsOnly_afterWriting`).
-/

namespace PageSearch

open Outcome

/-! ### Whole numbers -/

namespace Reading

/-- The least whole number without a text. -/
def textLimit : Int := 10 ^ digitLimit

/-- **A whole number has a text** exactly if its size is less than a power of ten. -/
theorem hasText_iff (n : Int) : hasText n = true ↔ -textLimit < n ∧ n < textLimit := by
  have hlength : hasText n = true ↔ n.natAbs < 10 ^ digitLimit := by
    rw [hasText, decide_eq_true_eq]
    exact Nat.length_toDigits_le_iff (by decide) (by decide)
  have hlimit : textLimit = ((10 ^ digitLimit : Nat) : Int) := by
    rw [textLimit, Int.natCast_pow]
    rfl
  rw [hlength, hlimit]
  omega

theorem textLimit_pos : 0 < textLimit := Int.pow_pos (by decide)

theorem hasText_textLimit : hasText textLimit = false := by
  rw [Bool.eq_false_iff, Ne, hasText_iff]
  exact fun h => Int.lt_irrefl _ h.2

theorem hasText_neg_textLimit : hasText (-textLimit) = false := by
  rw [Bool.eq_false_iff, Ne, hasText_iff]
  exact fun h => Int.lt_irrefl _ h.1

end Reading

/-! ### Values -/

namespace Value

theorem fieldsWritable_iff (fields : Fields) :
    fieldsWritable fields = true ↔ ∀ field ∈ fields, field.2.isWritable = true := by
  induction fields with
  | nil => simp [fieldsWritable]
  | cons field fields ih => rw [fieldsWritable, Bool.and_eq_true, ih, List.forall_mem_cons]

/-- A part of what can be written can be written. -/
theorem isWritable_of_get? {v w : Value} {key : String} (h : v.isWritable = true) (hw : v.get? key = some w) :
    w.isWritable = true := by
  cases v with
  | obj fields =>
    obtain ⟨before, after, rfl, -⟩ := List.lookup_eq_some_iff.1 hw
    exact (fieldsWritable_iff _).1 h (key, w) (by simp)
  | _ => cases hw

variable {α : Type} {v : Value} {a b : α}

theorem afterWriting_of_isWritable (h : v.isWritable = true) (a : α) : v.afterWriting a = .ok a := if_pos h

theorem afterWriting_of_not_isWritable (h : v.isWritable = false) (a : α) :
    v.afterWriting a = .error .notANumber := by
  rw [afterWriting, h, if_neg Bool.false_ne_true]

theorem afterWriting_cases (v : Value) (a : α) :
    v.isWritable = true ∧ v.afterWriting a = .ok a ∨ ¬ v.isWritable = true ∧ v.afterWriting a = .error .notANumber := by
  by_cases h : v.isWritable = true
  · exact .inl ⟨h, if_pos h⟩
  · exact .inr ⟨h, if_neg h⟩

/-- **What is done after writing** a value is done exactly if the value can be written. -/
theorem yields_afterWriting (v : Value) (a : α) : Yields (v.afterWriting a) (v.isWritable = true) a := by
  rw [afterWriting]
  split
  · next h => exact yields_ok h a
  · next h => exact yields_error h _ a

theorem afterWriting_eq_ok : v.afterWriting a = .ok b ↔ v.isWritable = true ∧ b = a := yields_afterWriting v a b

@[simp] theorem write_str (s : String) : (str s).write = .ok s := rfl

/-- Texts are written as themselves. -/
theorem mapM_write_str (texts : List String) : (texts.map str).mapM write = .ok texts := by
  have hwrite : ∀ v ∈ texts.map str, v.write = .ok v.text := by
    intro v hv
    obtain ⟨s, -, rfl⟩ := List.mem_map.1 hv
    exact write_str s
  rw [Outcome.mapM_eq_ok_map hwrite, List.map_map]
  exact congrArg Except.ok (List.map_id' texts)

theorem isWritable_int (n : Int) : (Value.int n).isWritable = Reading.hasText n := rfl

theorem failsOnly_afterWriting (v : Value) (a : α) : FailsOnly (· = .notANumber) (v.afterWriting a) := by
  rw [afterWriting]
  split
  · exact failsOnly_ok a
  · exact failsOnly_error rfl

end Value

/-! ### Fields of a document -/

namespace Document

/-- **Whatever is found** in a document that can be written can be written. -/
theorem isWritable_of_find? {document v : Value} {key : String} (h : document.isWritable = true)
    (hv : find? document key = some v) : v.isWritable = true := by
  rw [find?] at hv
  generalize path key = keys at hv
  induction keys generalizing document with
  | nil => exact Option.some.inj hv ▸ h
  | cons first keys ih =>
    rw [follow] at hv
    split at hv
    · next w hw => exact ih (Value.isWritable_of_get? h hw) hv
    · exact Value.isWritable_of_get? h hv

theorem hasTextAt_of_isWritable {document : Value} (h : document.isWritable = true) (key : String) :
    hasTextAt document key = true := by
  rw [hasTextAt]
  cases hfind : find? document key with
  | none => rfl
  | some v => exact isWritable_of_find? h hfind

theorem yields_writtenAt (source : Value) (name : String) :
    Yields (writtenAt source name) (hasTextAt source name = true) (textAt source name) :=
  Value.yields_afterWriting _ _

theorem writtenAt_of_hasTextAt {source : Value} {name : String} (h : hasTextAt source name = true) :
    writtenAt source name = .ok (textAt source name) := Value.afterWriting_of_isWritable h _

theorem writtenAt_eq_ok {source : Value} {name text : String} :
    writtenAt source name = .ok text ↔ hasTextAt source name = true ∧ text = textAt source name :=
  yields_writtenAt source name text

end Document

end PageSearch
