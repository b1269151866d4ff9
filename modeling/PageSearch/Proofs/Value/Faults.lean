import PageSearch.Field.Name
import PageSearch.Proofs.Value.Number
import PageSearch.Proofs.Value.Writing
import PageSearch.Settings.Resolve
import PageSearch.Terminal

/-!
# Faults of values

What goes wrong when a value is taken for what it is not, or a number for one that fits, is a fault of the value
(`Fault.IsOfValue`). The functions that read and write values, names and numbers have no other faults, and neither
has a terminal. In particular they refuse nothing: a refusal says something about the whole request or about the
search engine.
-/

namespace PageSearch

open Outcome

theorem IsNumberFault.isOfValue {fault : Fault} (h : IsNumberFault fault) : fault.IsOfValue := by
  rcases h with rfl | rfl | rfl
  · trivial
  · trivial
  · trivial

/-! ### Values of a demanded kind -/

namespace Value

theorem failsOnly_fields (v : Value) : FailsOnly Fault.IsOfValue v.fields := by
  cases v with
  | obj fields => exact failsOnly_ok fields
  | _ => exact failsOnly_error trivial

theorem failsOnly_fieldsOrNone (v : Value) : FailsOnly Fault.IsOfValue v.fieldsOrNone := by
  unfold fieldsOrNone
  split
  · exact v.failsOnly_fields
  · exact failsOnly_ok []

theorem failsOnly_items (v : Value) : FailsOnly Fault.IsOfValue v.items := by
  cases v with
  | list vs => exact failsOnly_ok vs
  | str s => exact failsOnly_ok _
  | obj fields => exact failsOnly_ok _
  | _ => exact failsOnly_error trivial

theorem failsOnly_itemsOrNone (v : Value) : FailsOnly Fault.IsOfValue v.itemsOrNone := by
  unfold itemsOrNone
  split
  · exact v.failsOnly_items
  · exact failsOnly_ok []

theorem failsOnly_lookUp (fields : Fields) (key : Value) : FailsOnly Fault.IsOfValue (lookUp fields key) := by
  cases key with
  | list vs => exact failsOnly_error trivial
  | obj fields => exact failsOnly_error trivial
  | _ => exact failsOnly_ok _

theorem failsOnly_textOrEmpty (v : Value) : FailsOnly Fault.IsOfValue (v.textOrEmpty .unsuitable) := by
  unfold textOrEmpty
  split
  · cases v with
    | str s => exact failsOnly_ok s
    | _ => exact failsOnly_error trivial
  · exact failsOnly_ok ""

theorem failsOnly_isOfValue_afterWriting {α : Type} (v : Value) (a : α) : FailsOnly Fault.IsOfValue (v.afterWriting a) :=
  (v.failsOnly_afterWriting a).mono fun _ h => h ▸ trivial

end Value

theorem Document.failsOnly_writtenAt (source : Value) (name : String) :
    FailsOnly Fault.IsOfValue (writtenAt source name) := Value.failsOnly_isOfValue_afterWriting _ _

theorem Terminal.failsOnly_outline [Terminal] (v : Value) : FailsOnly Fault.IsOfValue (outline v) :=
  isOfValue_of_outline v

/-! ### Names -/

theorem Field.failsOnly_localize (name language : String) : FailsOnly Fault.IsOfValue (localize name language) := by
  unfold localize
  split
  · exact failsOnly_ok ""
  · split
    · exact failsOnly_ok _
    · exact failsOnly_error trivial

theorem Field.failsOnly_localizeIn (name : String) (language : Value) :
    FailsOnly Fault.IsOfValue (localizeIn name language) := by
  unfold localizeIn
  split
  · exact failsOnly_ok ""
  · exact language.failsOnly_textOrEmpty.bind fun text _ => failsOnly_localize name text

/-! ### Requested numbers and indices -/

namespace Settings

theorem failsOnly_atLeastOne (default : Int) (requested : Value) :
    FailsOnly Fault.IsOfValue (atLeastOne default requested) := by
  unfold atLeastOne
  split
  · exact failsOnly_ok default
  · split
    · exact failsOnly_ok default
    · exact (Number.failsOnly_toInt _).mono fun _ h => h.isOfValue

theorem failsOnly_resolveSlop (settings : Settings) (requested : Value) :
    FailsOnly Fault.IsOfValue (settings.resolveSlop requested) := by
  unfold resolveSlop
  split
  · exact failsOnly_ok _
  · split
    · exact failsOnly_ok _
    · exact ((Number.failsOnly_toInt _).mono fun _ h => h.isOfValue).map _

theorem failsOnly_resolveIndices (settings : Settings) (requested : Value) :
    FailsOnly Fault.IsOfValue (settings.resolveIndices requested) := by
  unfold resolveIndices
  exact requested.failsOnly_itemsOrNone.bind fun _ _ => failsOnly_ok _

end Settings

end PageSearch
