import PageSearch.Field.Name
import PageSearch.Proofs.Outcome
import PageSearch.Proofs.Text.Words

/-!
# Names of fields in a language

A language is expanded to a text once, and this text takes the place of the placeholder in every name
(`localizeIn_eq`). So either all names can be put into a language or none can, and a name without
placeholder is the same in every language.
-/

namespace PageSearch.Field

/-- What a language puts in the place of the placeholder. -/
def expandText (language : String) : Outcome (List Char) :=
  match Template.expand placeholder language.toList with
  | .ok value => .ok value
  | .error e => .error (.template e)

/-- The same for a language that is given as a value. -/
def expansion (language : Value) : Outcome (List Char) := do expandText (← language.textOrEmpty .unsuitable)

/-- The name with a text in the place of every placeholder. -/
def filled (value : List Char) (name : String) : String := String.ofList (fill value name.toList)

variable {name : String}

theorem localize_eq (h : name ≠ "") (language : String) :
    localize name language = (expandText language).map (filled · name) := by
  rw [localize, Text.isEmpty_eq_false h, if_neg Bool.false_ne_true, expandText]
  cases Template.expand placeholder language.toList <;> rfl

/-- **A name in a language** is filled with the expansion of the language. -/
theorem localizeIn_eq (h : name ≠ "") (language : Value) :
    localizeIn name language = (expansion language).map (filled · name) := by
  rw [localizeIn, expansion, Text.isEmpty_eq_false h, if_neg Bool.false_ne_true]
  cases language.textOrEmpty .unsuitable with
  | error fault => rfl
  | ok text => exact localize_eq h text

theorem fill_eq_self {value name : List Char} (h : '%' ∉ name) : fill value name = name := by
  fun_induction fill value name with
  | case1 r ih => exact absurd List.mem_cons_self h
  | case2 c r _ ih => rw [ih (List.not_mem_of_not_mem_cons h)]
  | case3 => rfl

/-- A name without placeholder stays as it is. -/
theorem filled_eq_self (name : String) (h : '%' ∉ name.toList) (value : List Char) : filled value name = name := by
  rw [filled, fill_eq_self h, String.ofList_toList]

/-- A language without a backslash is no template and stands for itself. -/
theorem expansion_str {language : String} (h : '\\' ∉ language.toList) :
    expansion (.str language) = .ok language.toList := by
  have htext : (Value.str language).textOrEmpty .unsuitable = .ok language := by
    unfold Value.textOrEmpty
    split
    · rfl
    · next hempty =>
      have hlanguage : language = "" := by simpa [Value.isTruthy] using hempty
      rw [hlanguage]
  rw [expansion, htext]
  change expandText language = _
  rw [expandText, Template.expand, List.contains_eq_mem, decide_eq_false h, if_neg Bool.false_ne_true]

theorem localizeIn_str (hname : name ≠ "") {language : String} (h : '\\' ∉ language.toList) :
    localizeIn name (.str language) = .ok (filled language.toList name) := by
  rw [localizeIn_eq hname, expansion_str h]
  rfl

end PageSearch.Field
