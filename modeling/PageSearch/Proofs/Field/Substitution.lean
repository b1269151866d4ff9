import PageSearch.Proofs.Field.Localization
import PageSearch.Proofs.Field.Template
import PageSearch.Proofs.Text.Replacement

/-!
# Names with the text of a language

The name of a field in a language has the expansion of the language in the place of every placeholder
(`localize_eq_ok_iff`). So it has the text of the language itself there exactly if the language is a template that
stands for itself, or there is no placeholder, which a language that cannot be expanded does not even get to
(`localize_literal_iff`).
-/

namespace PageSearch.Field

theorem placeholder_ne_nil : placeholder ≠ [] := by decide

theorem weight_placeholder : Template.weight placeholder ≤ 6 := by decide

/-- **Filling a name** replaces every placeholder. -/
theorem replaces_fill (value name : List Char) : Text.Replaces placeholder value name (fill value name) := by
  fun_induction fill value name with
  | case1 r ih =>
    change Text.Replaces placeholder value ([] ++ placeholder ++ r) ([] ++ value ++ fill value r)
    exact .first (by decide) ih
  | case2 c r hnot ih =>
    refine ih.cons placeholder_ne_nil ?_
    rintro ⟨after, hafter⟩
    obtain ⟨hc, hr⟩ := List.cons.inj hafter
    exact hnot after hc.symm hr.symm
  | case3 => exact .none (by decide)

theorem replaces_filled (value : List Char) (name : String) :
    Text.Replaces placeholder value name.toList (filled value name).toList := by
  rw [filled, String.toList_ofList]
  exact replaces_fill value name.toList

variable {name language result : String}

theorem expandText_eq_ok_iff {value : List Char} :
    expandText language = .ok value ↔ Template.expand placeholder language.toList = .ok value := by
  rw [expandText]
  cases Template.expand placeholder language.toList <;> simp

/-- **A name in a language** has the expansion of the language in the place of every placeholder. The language of the
empty name does not matter. -/
theorem localize_eq_ok_iff : localize name language = .ok result ↔
    name = "" ∧ result = "" ∨ name ≠ "" ∧ ∃ value, Template.expand placeholder language.toList = .ok value ∧
      Text.Replaces placeholder value name.toList result.toList := by
  by_cases hname : name = ""
  · rw [hname, localize, if_pos (by decide), Except.ok.injEq]
    simp [eq_comm]
  · rw [localize_eq hname, Outcome.map_eq_ok]
    simp only [expandText_eq_ok_iff, hname, false_and, false_or, ne_eq, not_false_eq_true, true_and]
    constructor
    · rintro ⟨value, hvalue, rfl⟩
      exact ⟨value, hvalue, replaces_filled value name⟩
    · rintro ⟨value, hvalue, hreplaces⟩
      have hresult := (replaces_filled value name).unique placeholder_ne_nil hreplaces
      exact ⟨value, hvalue, String.toList_inj.1 hresult⟩

/-- A name can be put into a language, and then it has the very text of the language in the place of every
placeholder. -/
def IsLiteral (name language : String) : Prop :=
  ∃ result, localize name language = .ok result ∧
    Text.Replaces placeholder language.toList name.toList result.toList

/-- **A name in a language has the text of the language** in the place of every placeholder exactly if each backslash
of the language comes before a character that it leaves as it is, or if there is nothing to replace and the language
can be expanded all the same. -/
theorem localize_literal_iff (name language : String) : IsLiteral name language ↔
    name = "" ∨ Template.Inert language.toList ∨
      ¬ placeholder <:+: name.toList ∧ ∃ value, Template.expand placeholder language.toList = .ok value := by
  unfold IsLiteral
  by_cases hname : name = ""
  · refine iff_of_true ⟨"", ?_, ?_⟩ (.inl hname)
    · exact localize_eq_ok_iff.2 (.inl ⟨hname, rfl⟩)
    · rw [hname]
      exact .none (by decide)
  rw [or_iff_right hname, ← Template.expand_eq_self_iff weight_placeholder]
  simp only [localize_eq_ok_iff, hname, false_and, false_or, ne_eq, not_false_eq_true, true_and]
  constructor
  · rintro ⟨result, ⟨value, hvalue, hreplaces⟩, hliteral⟩
    by_cases hoccurs : placeholder <:+: name.toList
    · rw [hvalue, hreplaces.value_unique placeholder_ne_nil hoccurs hliteral]
      exact .inl rfl
    · exact .inr ⟨hoccurs, value, hvalue⟩
  · rintro (hself | ⟨hnot, value, hvalue⟩)
    · have hfilled := replaces_filled language.toList name
      exact ⟨filled language.toList name, ⟨language.toList, hself, hfilled⟩, hfilled⟩
    · exact ⟨name, ⟨value, hvalue, .none hnot⟩, .none hnot⟩

/-- A digit after a backslash refers to a group, which the placeholder does not have, and the letter `n` becomes a line
break. -/
theorem not_localize_literal :
    ¬ IsLiteral "title_lang.%lang%" "\\1" ∧ ¬ IsLiteral "title_lang.%lang%" "a\\nb" := by
  constructor
  · rintro ⟨result, hresult, -⟩
    have hreference : Template.expand placeholder "\\1".toList =
        .error (.malformed (.noSuchGroup 1) 1 "\\1".toList) := by
      decide
    rw [localize_eq_ok_iff, hreference] at hresult
    obtain ⟨hname, -⟩ | ⟨-, value, hvalue, -⟩ := hresult
    · exact absurd hname (by decide)
    · cases hvalue
  · rintro ⟨result, hresult, hliteral⟩
    have hbreak : Template.expand placeholder "a\\nb".toList = .ok "a\nb".toList := by decide
    rw [localize_eq_ok_iff, hbreak] at hresult
    obtain ⟨hname, -⟩ | ⟨-, value, hvalue, hreplaces⟩ := hresult
    · exact absurd hname (by decide)
    · have hsame := hreplaces.value_unique placeholder_ne_nil (by decide) hliteral
      rw [← Except.ok.inj hvalue] at hsame
      exact absurd hsame (by decide)

end PageSearch.Field
