import PageSearch.Terminal
import PageSearch.Value.Text

/-!
# Values as outlines

**Not a part of the search.** This module restates what the library does that shows values on the
terminal, as far as it can be told from outside: an outline has a line for each field and for each item
of a list that holds objects, and the items of such a list are measured to align them. Only what is
shown as a text has a measure: a text, an object, or a list that holds objects itself. So a list with
an object in it and with an item without measure cannot be outlined, wherever in a value it stands.

The search is defined for any `Terminal`, and what is proved about it holds for any; this one is there to
run it.
-/

namespace PageSearch.Value

/-- Whether a value is a list that holds objects, which is shown line by line. -/
def holdsObjects : Value → Bool
  | list vs => vs.any isObject
  | _ => false

/-- Whether a value has a measure in an outline. -/
def hasMeasure : Value → Bool
  | str _ | obj _ => true
  | v => v.holdsObjects

mutual
/-- Whether the lists of a value can be aligned. -/
def canAlign : Value → Bool
  | list vs => (!vs.any isObject || vs.all hasMeasure) && allAlign vs
  | obj fields => fieldsAlign fields
  | _ => true

/-- Whether the lists of some values can be aligned. -/
def allAlign : List Value → Bool
  | [] => true
  | v :: rest => canAlign v && allAlign rest

/-- Whether the lists of the values of some fields can be aligned. -/
def fieldsAlign : List (String × Value) → Bool
  | [] => true
  | (_, v) :: rest => canAlign v && fieldsAlign rest
end

/-- Shows the outline of a value. -/
def outline (v : Value) : Outcome Unit :=
  if v.canAlign then v.afterWriting () else .error .unsuitable

theorem isOfValue_of_outline (v : Value) (fault : Fault) (h : v.outline = .error fault) : fault.IsOfValue := by
  unfold outline afterWriting at h
  split at h
  · split at h
    · cases h
    · cases h
      trivial
  · cases h
    trivial

instance : Terminal where
  outline := outline
  isOfValue_of_outline := isOfValue_of_outline

end PageSearch.Value
