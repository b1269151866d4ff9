import PageSearch.Proofs.Decimal.Range
import PageSearch.Proofs.Value.Writing
import PageSearch.Settings.Basic

/-!
# Settings with their defaults

What the settings should be is said here without faults: each setting is read from the value under its name, and a
value that is missing or malformed stands for the default (`Settings.documented`). The functions that read settings
do the same for most values. For each of them a predicate says which values it has a result for, and a lemma that the
result is the documented one then (`yields_…`). The others have no result at all: a float without a whole part, a
whole number without a float, a section that is no object, a list of texts that is no collection, and a malformed
value that cannot be written.
-/

namespace PageSearch

open Outcome

/-! ### Numbers -/

namespace Value

/-- The whole number that a value stands for, if it is not less than `least`; the default else. -/
def wholeOr (default least : Int) : Value → Int
  | int n => if n < least then default else n
  | float x =>
    if (Binary.ofFloat x).compareInt least = some .lt then default else (Binary.ofFloat x).truncate?.getD default
  | _ => default

/-- A value that is not a float without a whole part. The infinity that is less than every number is refused for
that, before its whole part is asked for. -/
def HasWhole : Value → Prop
  | float x => Binary.ofFloat x ≠ .nan ∧ Binary.ofFloat x ≠ .infinite false
  | _ => True

/-- A value that has a whole part, if one can be asked of it, and that can be written if it is refused: a number for
being less than `least`, and any other value for its kind. -/
def HasWholeFrom (least : Int) : Value → Prop
  | int n => n < least → Reading.hasText n = true
  | float x => (float x).HasWhole
  | v => v.isWritable = true

/-- The float that a value stands for. -/
def floatFor? : Value → Option Float
  | int n => floatOfInt? n
  | float x => some x
  | _ => none

/-- A value that is a float, a whole number among the floats, or no number and can be written. -/
def HasFloat : Value → Prop
  | int n => n.natAbs < floatLimit
  | v => v.isWritable = true

end Value

namespace Settings

variable (fields : Fields) (key : String)

theorem yields_intAt (default least : Int) :
    Yields (intAt fields key default least) ((fields.getD key).HasWholeFrom least)
      ((fields.getD key).wholeOr default least) := by
  rw [intAt, acceptedNumber?]
  generalize fields.getD key = v
  cases v with
  | int n =>
    simp only [Value.number?, Option.any_some, Number.lt, Value.wholeOr, Value.HasWholeFrom, decide_eq_true_eq]
    by_cases hlt : n < least
    · rw [if_pos hlt, if_pos hlt]
      exact ((Value.int n).yields_afterWriting default).congr ⟨fun h _ => h, fun h => h hlt⟩
    · rw [if_neg hlt, if_neg hlt]
      exact yields_ok (absurd · hlt) n
  | float x =>
    simp only [Value.number?, Option.any_some, Number.lt, Value.wholeOr, Value.HasWholeFrom, Value.HasWhole, beq_iff_eq]
    by_cases hlt : (Binary.ofFloat x).compareInt least = some .lt
    · rw [if_pos hlt, if_pos hlt]
      refine yields_ok ⟨fun hx => ?_, fun hx => ?_⟩ default
      · rw [hx] at hlt
        cases hlt
      · rw [hx] at hlt
        cases hlt
    · rw [if_neg hlt, if_neg hlt]
      change Yields (Number.float x).toInt _ _
      rw [Number.toInt]
      cases hx : Binary.ofFloat x with
      | nan => exact yields_error (fun h => h.1 rfl) _ _
      | infinite negative =>
        cases negative with
        | false => exact yields_error (fun h => h.2 rfl) _ _
        | true => exact absurd (congrArg (Binary.compareInt · least) hx) hlt
      | finite negative mantissa exponent => exact yields_ok ⟨Binary.noConfusion, Binary.noConfusion⟩ _
  | null | bool | str | list | obj => exact Value.yields_afterWriting _ default

theorem yields_float? : Yields (float? fields key) (fields.getD key).HasFloat (fields.getD key).floatFor? := by
  rw [float?, acceptedNumber?]
  generalize fields.getD key = v
  cases v with
  | int n =>
    have hfloat := isSome_floatOfInt? n
    simp only [Value.number?, Value.floatFor?, Value.HasFloat]
    change Yields ((Number.int n).toFloat.map some) _ _
    rw [Number.toFloat, ← hfloat]
    cases floatOfInt? n with
    | none => exact yields_error Bool.false_ne_true _ _
    | some x => exact yields_ok rfl (some x)
  | float x => exact yields_ok rfl (some x)
  | null | bool | str | list | obj => exact Value.yields_afterWriting _ none

theorem yields_floatAt (default : Float) :
    Yields (floatAt fields key default) (fields.getD key).HasFloat ((fields.getD key).floatFor?.getD default) :=
  (yields_float? fields key).bind_pure (·.getD default)

/-- A value that is accepted can be written. -/
theorem yields_orDefault {α : Type} {found : Option α} {v : Value} (h : found ≠ none → v.isWritable = true)
    (default : α) : Yields (orDefault found v default) (v.isWritable = true) (found.getD default) := by
  cases found with
  | none => exact v.yields_afterWriting default
  | some a => exact yields_ok (h (Option.some_ne_none a)) a

theorem isWritable_of_text? {fields : Fields} {key : String} (h : text? fields key ≠ none) :
    (fields.getD key).isWritable = true := by
  rw [text?] at h
  split at h
  · next heq => rw [heq]; rfl
  · exact absurd rfl h

theorem isWritable_of_bool? {fields : Fields} {key : String} (h : bool? fields key ≠ none) :
    (fields.getD key).isWritable = true := by
  rw [bool?] at h
  split at h
  · next heq => rw [heq]; rfl
  · exact absurd rfl h

theorem yields_textAt (default : String) :
    Yields (textAt fields key default) ((fields.getD key).isWritable = true) ((text? fields key).getD default) :=
  yields_orDefault isWritable_of_text? default

theorem yields_textOption :
    Yields (textOption fields key) ((fields.getD key).isWritable = true) (text? fields key) := by
  have hyields : Yields (orDefault ((text? fields key).map some) (fields.getD key) none) _ _ :=
    yields_orDefault (fun h => isWritable_of_text? (by simpa using h)) none
  rw [textOption]
  cases h : text? fields key with
  | none => rwa [h] at hyields
  | some s => rwa [h] at hyields

theorem yields_boolAt (default : Bool) :
    Yields (boolAt fields key default) ((fields.getD key).isWritable = true) ((bool? fields key).getD default) :=
  yields_orDefault isWritable_of_bool? default

end Settings

/-! ### Sections and lists of texts -/

namespace Value

/-- The fields of a section. -/
def sectionFields : Value → Fields
  | obj fields => fields
  | _ => []

/-- A value that is an object, or that does not count as true. -/
def IsSection (v : Value) : Prop := v.isTruthy = true → ∃ fields, v = obj fields

theorem yields_fieldsOrNone (v : Value) : Yields v.fieldsOrNone v.IsSection v.sectionFields := by
  rw [fieldsOrNone]
  by_cases htruthy : v.isTruthy = true
  · rw [if_pos htruthy]
    cases v with
    | obj fields => exact yields_ok (fun _ => ⟨fields, rfl⟩) fields
    | null | bool | int | float | str | list =>
      refine yields_error (fun h => ?_) _ _
      obtain ⟨fields, hfields⟩ := h htruthy
      cases hfields
  · rw [if_neg htruthy]
    cases v with
    | obj fields =>
      cases fields with
      | nil => exact yields_ok (fun h => absurd h htruthy) []
      | cons field fields => exact absurd rfl htruthy
    | null | bool | int | float | str | list => exact yields_ok (fun h => absurd h htruthy) []

/-- The texts that a value lists: those of a list, or one that stands for itself. -/
def listedTexts : Value → List String
  | str s => Settings.distinctTexts [str s]
  | list vs => Settings.distinctTexts vs
  | _ => []

/-- The names of fields, each once, without the empty one. -/
def fieldNames (fields : Fields) : List String := Settings.distinctTexts (fields.map fun (k, _) => str k)

/-- The texts that are read from a value. An object is taken for the list of its names. -/
def collectedTexts : Value → List String
  | obj fields => fieldNames fields
  | v => v.listedTexts

/-- A value that has items, or that does not count as true. -/
def IsCollection (v : Value) : Prop := v.isTruthy = true → ∃ vs, v.items = .ok vs

end Value

namespace Settings

theorem yields_texts (fields : Fields) (key : String) :
    Yields (texts fields key) (fields.getD key).IsCollection (fields.getD key).collectedTexts := by
  rw [texts]
  generalize fields.getD key = v
  cases v with
  | str s => exact yields_ok (fun _ => ⟨_, rfl⟩) _
  | list vs => cases vs <;> exact yields_ok (fun _ => ⟨_, rfl⟩) _
  | obj fields => cases fields <;> exact yields_ok (fun _ => ⟨_, rfl⟩) _
  | null | bool | int | float =>
    simp only [Value.itemsOrNone]
    split
    · rename_i htruthy
      refine yields_error (fun h => ?_) _ _
      obtain ⟨vs, hvs⟩ := h htruthy
      cases hvs
    · rename_i hfalsy
      exact yields_ok (fun h => absurd h hfalsy) []

end Settings

/-! ### Specifications -/

/-- The specification of a field, with its defaults. -/
def FieldSpec.documented (d : Fields) : FieldSpec where
  name := (Settings.text? d "name").getD ""
  boost := (d.getD "boost").floatFor?.getD 1
  proximityMatching := (Settings.bool? d "proximity_matching").getD false
  proximitySlop := (d.getD "proximity_slop").wholeOr 1 0
  proximityBoost := (d.getD "proximity_boost").floatFor?.getD 1

/-- What is asked for of a field can be read. -/
structure FieldSpec.IsReadable (d : Fields) : Prop where
  /-- The name can be written. -/
  name : (d.getD "name").isWritable = true
  /-- How much a match counts is a float. -/
  boost : (d.getD "boost").HasFloat
  /-- Whether near words count more can be written. -/
  proximityMatching : (d.getD "proximity_matching").isWritable = true
  /-- How far apart they may stand has a whole part. -/
  proximitySlop : (d.getD "proximity_slop").HasWholeFrom 0
  /-- How much they count is a float. -/
  proximityBoost : (d.getD "proximity_boost").HasFloat

theorem FieldSpec.yields_ofFields (d : Fields) : Yields (ofFields d) (IsReadable d) (documented d) := by
  have hread : Yields (ofFields d) _ (documented d) :=
    (Settings.yields_textAt d "name" "").bind <| (Settings.yields_floatAt d "boost" 1).bind <|
    (Settings.yields_boolAt d "proximity_matching" false).bind <|
    (Settings.yields_intAt d "proximity_slop" 1 0).bind <|
    (Settings.yields_floatAt d "proximity_boost" 1).bind_pure _
  refine hread.congr ⟨?_, fun h => ⟨h.name, h.boost, h.proximityMatching, h.proximitySlop, h.proximityBoost⟩⟩
  rintro ⟨hname, hboost, hmatching, hslop, hproximity⟩
  exact ⟨hname, hboost, hmatching, hslop, hproximity⟩

/-- What is asked for of a filter can be written. -/
def FilterSpec.IsReadable (d : Fields) : Prop :=
  ∀ key ∈ ["keyword", "field", "block_grouping"], (d.getD key).isWritable = true

theorem FilterSpec.yields_read (d : Fields) : Yields (read d) (IsReadable d) (ofFields d) := by
  have hread : Yields (read d) _ (ofFields d) :=
    (Settings.yields_textAt d "keyword" "").bind <| (Settings.yields_textOption d "field").bind <|
    (Settings.yields_boolAt d "block_grouping" false).bind_pure _
  exact hread.congr (by simp [IsReadable])

/-- The specification of a range, with its defaults. -/
def RangeSpec.documented (d : Fields) : RangeSpec where
  name := (Settings.text? d "name").getD ""
  gt := (d.getD "gt").floatFor?
  gte := (d.getD "gte").floatFor?
  lt := (d.getD "lt").floatFor?
  lte := (d.getD "lte").floatFor?
  negate := (Settings.bool? d "negate").getD false

/-- What is asked for of a range can be read. -/
structure RangeSpec.IsReadable (d : Fields) : Prop where
  /-- The name can be written. -/
  name : (d.getD "name").isWritable = true
  /-- The bounds are floats. -/
  bounds : ∀ key ∈ ["gt", "gte", "lt", "lte"], (d.getD key).HasFloat
  /-- Whether the range is left out can be written. -/
  negate : (d.getD "negate").isWritable = true

theorem RangeSpec.yields_ofFields (d : Fields) : Yields (ofFields d) (IsReadable d) (documented d) := by
  have hread : Yields (ofFields d) _ (documented d) :=
    (Settings.yields_textAt d "name" "").bind <| (Settings.yields_float? d "gt").bind <|
    (Settings.yields_float? d "gte").bind <| (Settings.yields_float? d "lt").bind <|
    (Settings.yields_float? d "lte").bind <| (Settings.yields_boolAt d "negate" false).bind_pure _
  refine hread.congr ⟨?_, fun h => ?_⟩
  · rintro ⟨hname, hgt, hgte, hlt, hlte, hnegate⟩
    exact ⟨hname, by simp [hgt, hgte, hlt, hlte], hnegate⟩
  · exact ⟨h.name, h.bounds _ (by simp), h.bounds _ (by simp), h.bounds _ (by simp), h.bounds _ (by simp), h.negate⟩

end PageSearch
