import PageSearch.Proofs.Decimal.Exact
import PageSearch.Proofs.Settings.Defaults
import PageSearch.Proofs.Settings.Range

/-!
# Requested numbers

What a request asks for may be any value. A number in range should be taken without its places after the point, and
every other value should stand for the default (`Value.wholePartOr`). So it is for all values but two: a float that is
no number is neither below nor above a bound, and the positive infinity is not below one, so that they are taken and
have no whole part. The greatest slop is a bound from above, which the infinity does not pass. This is
`yields_requested`.
-/

namespace PageSearch

open Outcome

namespace Value

/-- The whole part of the number that a value is, if the number is in range, and else a default. -/
def wholePartOr (inRange : ℚ → Bool) (default : Int) (v : Value) : Int :=
  ((v.rational?.filter inRange).map Int.floor).getD default

/-- A value that is not the float without a place in the order of numbers. -/
def IsOrdered : Value → Prop
  | float x => Binary.ofFloat x ≠ .nan
  | _ => True

/-- Where a value stands among the numbers. -/
inductive Standing (v : Value) : Prop where
  /-- It is no number. -/
  | none (hnumber : v.number? = none) (hwhole : v.HasWhole) (hordered : v.IsOrdered)
  /-- It is a number with a place in their order. -/
  | number (n : Number) (q : ℚ) (hnumber : v.number? = some n) (hn : n.rational? = some q) (hwhole : v.HasWhole)
      (hordered : v.IsOrdered)
  /-- It is a float without a place in their order. -/
  | unordered (x : Float) (hv : v = .float x) (hx : Binary.ofFloat x = .nan)
  /-- It is below or above all of them. -/
  | infinite (x : Float) (negative : Bool) (hv : v = .float x) (hx : Binary.ofFloat x = .infinite negative)

theorem standing (v : Value) : v.Standing := by
  cases v with
  | int n => exact .number (.int n) n rfl rfl trivial trivial
  | float x =>
    cases hx : Binary.ofFloat x with
    | nan => exact .unordered x rfl hx
    | infinite negative => exact .infinite x negative rfl hx
    | finite negative m e =>
      exact .number (.float x) _ rfl (congrArg Binary.rational? hx) ⟨by simp [hx], by simp [hx]⟩ (by simp [IsOrdered, hx])
  | null | bool | str | list | obj => exact .none rfl trivial trivial

variable {inRange : ℚ → Bool} {default : Int} {v : Value} {n : Number} {q : ℚ}

theorem wholePartOr_of_not_number (h : v.number? = none) : v.wholePartOr inRange default = default := by
  rw [wholePartOr, rational?, h]
  rfl

theorem wholePartOr_of_number (h : v.number? = some n) (hn : n.rational? = some q) :
    v.wholePartOr inRange default = if inRange q then ⌊q⌋ else default := by
  rw [wholePartOr, rational?, h, Option.bind_some, hn]
  split
  · rename_i hq
    rw [Option.filter_some_pos hq]
    rfl
  · rename_i hq
    rw [Option.filter_some_neg (Bool.eq_false_iff.2 hq)]
    rfl

theorem wholePartOr_infinite {x : Float} {negative : Bool} (hx : Binary.ofFloat x = .infinite negative) :
    (Value.float x).wholePartOr inRange default = default := by
  have hexact : (Value.float x).rational? = none := congrArg Binary.rational? hx
  rw [wholePartOr, hexact]
  rfl

end Value

namespace Settings

/-! ### The page -/

/-- **A number that is asked for** is taken without its places if it is one or more. -/
theorem yields_atLeastOne (default : Int) (v : Value) :
    Yields (atLeastOne default v) v.HasWhole (v.wholePartOr (1 ≤ ·) default) := by
  rw [atLeastOne]
  cases v.standing with
  | none hnumber hwhole hordered =>
    rw [hnumber, Value.wholePartOr_of_not_number hnumber]
    exact yields_ok hwhole default
  | number n q hnumber hn hwhole hordered =>
    rw [Value.wholePartOr_of_number hnumber hn, hnumber]
    simp only [Number.lt_int hn, Int.cast_one, decide_eq_true_eq]
    by_cases hq : 1 ≤ q
    · rw [if_neg (not_lt.2 hq), if_pos hq, Number.toInt_eq_floor hn (zero_le_one.trans hq)]
      exact yields_ok hwhole ⌊q⌋
    · rw [if_pos (not_le.1 hq), if_neg hq]
      exact yields_ok hwhole default
  | unordered x hv hx =>
    subst hv
    obtain ⟨hlow, -, hwhole⟩ := Number.unordered hx 1
    simp only [Value.number?, hlow, hwhole, Bool.false_eq_true, if_false]
    exact yields_error (fun h => h.1 hx) .notANumber _
  | infinite x negative hv hx =>
    subst hv
    obtain ⟨hlow, -, hwhole⟩ := Number.infinite_lt hx 1
    simp only [Value.number?, hlow, hwhole]
    cases negative with
    | true =>
      rw [if_pos rfl, Value.wholePartOr_infinite hx]
      exact yields_ok (by simp [Value.HasWhole, hx]) default
    | false =>
      rw [if_neg Bool.false_ne_true]
      exact yields_error (fun h => h.2 hx) .tooLarge _

/-! ### The slop -/

variable {settings : Settings}

/-- **A slop that is asked for** is taken without its places if it is in range. -/
theorem yields_resolveSlop (h : settings.InRange) (v : Value) :
    Yields (settings.resolveSlop v) v.IsOrdered
      (v.wholePartOr (fun q => 0 ≤ q && q ≤ settings.phraseMaxSlop)
        (min settings.phraseSlop settings.phraseMaxSlop)) := by
  rw [resolveSlop]
  cases v.standing with
  | none hnumber hwhole hordered =>
    rw [hnumber, Value.wholePartOr_of_not_number hnumber, ← clampSlop_default h]
    exact yields_ok hordered _
  | number n q hnumber hn hwhole hordered =>
    rw [Value.wholePartOr_of_number hnumber hn, hnumber]
    simp only [Number.lt_int hn, Number.int_lt hn, Int.cast_zero, Bool.or_eq_true, Bool.and_eq_true, decide_eq_true_eq]
    by_cases hq : 0 ≤ q ∧ q ≤ settings.phraseMaxSlop
    · have hhigh : ⌊q⌋ ≤ settings.phraseMaxSlop := by
        have hfloor := Int.floor_le_floor hq.2
        rwa [Int.floor_intCast] at hfloor
      have hclamp : (Except.ok ⌊q⌋ : Outcome Int).map settings.clampSlop = .ok ⌊q⌋ := by
        rw [Except.map, clampSlop_of_mem (Int.floor_nonneg.2 hq.1) hhigh]
      rw [if_neg (not_or.2 ⟨not_lt.2 hq.1, not_lt.2 hq.2⟩), if_pos hq, Number.toInt_eq_floor hn hq.1, hclamp]
      exact yields_ok hordered _
    · have hout : q < 0 ∨ settings.phraseMaxSlop < q := by
        rwa [← not_le, ← not_le, ← not_and_or]
      rw [if_pos hout, if_neg hq, ← clampSlop_default h]
      exact yields_ok hordered _
  | unordered x hv hx =>
    subst hv
    obtain ⟨hlow, -, hwhole⟩ := Number.unordered hx 0
    obtain ⟨-, hhigh, -⟩ := Number.unordered hx settings.phraseMaxSlop
    simp only [Value.number?, hlow, hhigh, hwhole, Bool.or_self, Bool.false_eq_true, if_false]
    exact yields_error (fun h => h hx) .notANumber _
  | infinite x negative hv hx =>
    subst hv
    obtain ⟨hlow, -, -⟩ := Number.infinite_lt hx 0
    obtain ⟨-, hhigh, -⟩ := Number.infinite_lt hx settings.phraseMaxSlop
    have hordered : (Value.float x).IsOrdered := by simp [Value.IsOrdered, hx]
    -- an infinity is out of range on one side or the other
    simp only [Value.number?, hlow, hhigh, Bool.or_not_self, if_true]
    rw [Value.wholePartOr_infinite hx, ← clampSlop_default h]
    exact yields_ok hordered _

/-! ### Requests -/

/-- **Requested numbers** have their defaults, for settings that are read. Where the page begins and how many results
it has are known for all values but no number and the positive infinity, and the slop for all values but no number.
There is no result for the others. -/
theorem yields_requested {searchSection pageSection : Value} (h : ofSections searchSection pageSection = .ok settings)
    (v : Value) :
    Yields (resolveFrom v) v.HasWhole (v.wholePartOr (1 ≤ ·) 1) ∧
      Yields (settings.resolveSize v) v.HasWhole (v.wholePartOr (1 ≤ ·) settings.resultsPerPage) ∧
      Yields (settings.resolveSlop v) v.IsOrdered
        (v.wholePartOr (fun q => 0 ≤ q && q ≤ settings.phraseMaxSlop)
          (min settings.phraseSlop settings.phraseMaxSlop)) :=
  ⟨yields_atLeastOne 1 v, yields_atLeastOne settings.resultsPerPage v,
    yields_resolveSlop (inRange_of_ofSections h) v⟩

/-- Places are dropped, and a slop above the greatest one is not lowered to it. -/
theorem yields_requested_five_halves :
    ofSections (.obj []) (.obj []) = .ok {} ∧ resolveFrom (.float (5 / 2)) = .ok 2 ∧
      Settings.resolveSize {} (.float (5 / 2)) = .ok 2 ∧ Settings.resolveSlop {} (.float (5 / 2)) = .ok 0 := by
  have hread : ofSections (.obj []) (.obj []) = .ok {} := rfl
  have hbits : Binary.ofFloat (5 / 2) = .finite false 5629499534213120 (-51) := rfl
  have hwhole : (Value.float (5 / 2)).HasWhole := by simp [Value.HasWhole, hbits]
  have hordered : (Value.float (5 / 2)).IsOrdered := by simp [Value.IsOrdered, hbits]
  have hnumber : (Number.float (5 / 2)).rational? = some (5 / 2) := by
    rw [Number.rational?, hbits]
    norm_num [Binary.rational?]
  obtain ⟨hfrom, hsize, hslop⟩ := yields_requested hread (.float (5 / 2))
  rw [Value.wholePartOr_of_number rfl hnumber] at hfrom hsize hslop
  refine ⟨hread, (hfrom 2).2 ⟨hwhole, ?_⟩, (hsize 2).2 ⟨hwhole, ?_⟩, (hslop 0).2 ⟨hordered, ?_⟩⟩
  · norm_num
  · norm_num
  · norm_num

/-- **Not all requested numbers have their defaults**: no number is not replaced, and neither is an infinity in the
place of a number of the page. -/
theorem not_yields_requested :
    ofSections (.obj []) (.obj []) = .ok {} ∧
      resolveFrom (.float (0 / 0)) = .error .notANumber ∧ resolveFrom (.float (1 / 0)) = .error .tooLarge ∧
      Settings.resolveSize {} (.float (0 / 0)) = .error .notANumber ∧
      Settings.resolveSize {} (.float (1 / 0)) = .error .tooLarge ∧
      Settings.resolveSlop {} (.float (0 / 0)) = .error .notANumber :=
  ⟨rfl, rfl, rfl, rfl, rfl, rfl⟩

end Settings

end PageSearch
