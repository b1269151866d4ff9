import PageSearch.Hit.Result
import PageSearch.Proofs.Value.Faults

/-!
# Faults of an answer

The answer of a search engine is read with faults of its values only (`failsOnly_read`): nothing in a hit can make the
reader refuse a request.
-/

namespace PageSearch

open Outcome

/-! ### Texts -/

namespace Snippet

theorem failsOnly_threshold (share : Float) (limit : Int) :
    FailsOnly Fault.IsOfValue (threshold (.float share) limit) := by
  change FailsOnly Fault.IsOfValue (do (← (Number.float share).times limit).toInt)
  refine FailsOnly.bind ?_ fun n _ => (Number.failsOnly_toInt n).mono fun _ h => h.isOfValue
  unfold Number.times
  dsimp only
  split
  · exact failsOnly_ok _
  · exact failsOnly_error trivial

theorem failsOnly_cutAtWord {leftmost : Outcome Int} (h : FailsOnly Fault.IsOfValue leftmost) (position : Nat)
    (s : List Char) : FailsOnly Fault.IsOfValue (cutAtWord leftmost position s) := by
  unfold cutAtWord
  dsimp only
  split
  · exact failsOnly_ok _
  · split
    · exact failsOnly_ok _
    · exact h.bind fun _ _ => failsOnly_ok _

theorem failsOnly_positionOf (limit : Int) (length : Nat) : FailsOnly Fault.IsOfValue (positionOf limit length) := by
  unfold positionOf
  split
  · exact failsOnly_ok _
  · split
    · exact failsOnly_ok _
    · exact failsOnly_error trivial

theorem failsOnly_truncate (text : String) (limit : Int) (share : Float) :
    FailsOnly Fault.IsOfValue (truncate text limit (.float share)) := by
  unfold truncate
  dsimp only
  split
  · exact failsOnly_ok _
  · split
    · refine (failsOnly_positionOf limit _).bind fun position _ => ?_
      exact (failsOnly_cutAtWord (failsOnly_threshold share limit) position _).bind fun _ _ => failsOnly_ok _
    · exact failsOnly_ok _

/-- The characters of a list are read one by one. -/
theorem failsOnly_joinChars (vs : List Value) : FailsOnly Fault.IsOfValue (joinChars vs) := by
  induction vs with
  | nil => exact failsOnly_ok []
  | cons v vs ih =>
    cases v with
    | str s =>
      rw [joinChars]
      split
      · exact ih
      · split
        · exact ih.map _
        · exact failsOnly_error trivial
    | _ => exact failsOnly_error trivial

theorem failsOnly_cleanseValue (v : Value) (collapsing : Bool) :
    FailsOnly Fault.IsOfValue (cleanseValue v collapsing) := by
  unfold cleanseValue
  split
  · refine FailsOnly.bind ?_ fun _ _ => failsOnly_ok _
    unfold visibleChars
    split
    · exact failsOnly_ok _
    · exact v.failsOnly_items.bind fun items _ => (failsOnly_joinChars items).bind fun _ _ => failsOnly_ok _
  · exact failsOnly_ok ""

end Snippet

/-! ### Hits -/

/-- A rank is too large, or it is of another kind and has no text. -/
theorem Document.failsOnly_numberAt? {α : Type} {read : Value → Outcome α}
    (hread : ∀ v, FailsOnly IsNumberFault (read v)) (source : Value) (name : String) :
    FailsOnly Fault.IsOfValue (numberAt? read source name) := by
  unfold numberAt?
  split
  · exact failsOnly_ok none
  · exact failsOnly_ok none
  · next v _ _ =>
    cases hresult : read v with
    | ok a => exact failsOnly_ok (some a)
    | error fault =>
      rcases hread v fault hresult with rfl | rfl | rfl
      · exact v.failsOnly_isOfValue_afterWriting none
      · exact v.failsOnly_isOfValue_afterWriting none
      · exact failsOnly_error trivial

namespace Hit

theorem failsOnly_singleHighlight (hit field : Value) : FailsOnly Fault.IsOfValue (singleHighlight hit field) := by
  unfold singleHighlight
  refine hit.failsOnly_fields.bind fun fields _ => (Value.failsOnly_fieldsOrNone _).bind fun highlights _ => ?_
  refine (Value.failsOnly_lookUp highlights field).bind fun fragments _ => ?_
  dsimp only
  split
  · exact failsOnly_ok _
  · split
    · exact failsOnly_ok _
    · exact failsOnly_ok _
    · exact failsOnly_ok _
    · exact failsOnly_error trivial
    · exact failsOnly_ok _
    · exact failsOnly_error trivial

theorem failsOnly_excerpt (text : String) (limit : Int) : FailsOnly Fault.IsOfValue (excerpt text limit) := by
  unfold excerpt
  exact (Snippet.failsOnly_truncate text limit Snippet.leastShare).bind fun _ _ => failsOnly_ok _

theorem failsOnly_summarySource (source language : Value) :
    FailsOnly Fault.IsOfValue (summarySource source language) := by
  unfold summarySource
  refine (Field.failsOnly_localizeIn _ language).bind fun field _ => ?_
  refine (Document.failsOnly_writtenAt source field).bind fun description _ => ?_
  split
  · exact (Field.failsOnly_localizeIn _ language).bind fun body _ => Document.failsOnly_writtenAt source body
  · exact failsOnly_ok _

theorem failsOnly_snippet (settings : Settings) (hit source language : Value) :
    FailsOnly Fault.IsOfValue (snippet settings hit source language) := by
  unfold snippet
  refine (Field.failsOnly_localizeIn _ language).bind fun body _ => ?_
  refine (failsOnly_singleHighlight hit _).bind fun highlight _ => ?_
  split
  · exact Snippet.failsOnly_cleanseValue highlight true
  · exact (failsOnly_summarySource source language).bind fun text _ =>
      (failsOnly_excerpt text _).bind fun _ _ => failsOnly_ok _

theorem failsOnly_title (settings : Settings) (hit source language : Value) :
    FailsOnly Fault.IsOfValue (title settings hit source language) := by
  unfold title
  refine (Field.failsOnly_localizeIn _ language).bind fun field _ => ?_
  refine (failsOnly_singleHighlight hit _).bind fun highlight _ => ?_
  split
  · exact (Document.failsOnly_writtenAt source field).bind fun text _ =>
      (failsOnly_excerpt text _).bind fun _ _ => failsOnly_ok _
  · exact Snippet.failsOnly_cleanseValue _ true

theorem failsOnly_parse (settings : Settings) (language hit : Value) :
    FailsOnly Fault.IsOfValue (parse settings language hit) := by
  unfold parse
  refine hit.failsOnly_fields.bind fun fields _ => ?_
  refine (Document.failsOnly_writtenAt _ _).bind fun trecId _ => ?_
  refine (failsOnly_title settings hit _ language).bind fun title _ => ?_
  refine (Document.failsOnly_writtenAt _ _).bind fun hostname _ => ?_
  refine (Document.failsOnly_writtenAt _ _).bind fun uri _ => ?_
  refine (failsOnly_snippet settings hit _ language).bind fun snippet _ => ?_
  refine (Document.failsOnly_numberAt? Value.failsOnly_toFloat _ _).bind fun pageRank _ => ?_
  exact (Document.failsOnly_numberAt? Value.failsOnly_toInt _ _).bind fun _ _ => failsOnly_ok _

/-! ### Answers -/

theorem failsOnly_hitsOf (res : Value) : FailsOnly Fault.IsOfValue (hitsOf res) := by
  unfold hitsOf
  exact res.failsOnly_fields.bind fun _ _ => Value.failsOnly_fieldsOrNone _

theorem failsOnly_parseAll (settings : Settings) (q : RawQuery) (res : Value) :
    FailsOnly Fault.IsOfValue (parseAll settings q res) := by
  unfold parseAll
  refine (failsOnly_hitsOf res).bind fun answer _ => (Value.failsOnly_itemsOrNone _).bind fun hits _ => ?_
  exact (FailsOnly.mapM fun hit _ => failsOnly_parse settings q.language hit).bind fun _ _ => failsOnly_ok _

/-- **An answer** is read with faults of its values only. -/
theorem failsOnly_read [Terminal] (settings : Settings) (q : RawQuery) (res : Value) (noting : Bool) :
    FailsOnly Fault.IsOfValue (read settings q res noting) := by
  unfold read
  refine (failsOnly_parseAll settings q res).bind fun results _ => ?_
  refine FailsOnly.bind ?_ fun found _ => ?_
  · unfold total
    exact (failsOnly_hitsOf res).bind fun _ _ => failsOnly_ok _
  · split
    · exact res.failsOnly_fields.bind fun fields _ => (Terminal.failsOnly_outline _).bind fun _ _ => failsOnly_ok _
    · exact failsOnly_ok _

end Hit

end PageSearch
