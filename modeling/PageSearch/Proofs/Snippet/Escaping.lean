import Mathlib.Data.List.Infix
import PageSearch.Snippet.Escaping

/-!
# Text in HTML, read back

A reader of HTML takes an entity for the character that it stands for. Every text is read back from the HTML
that it is written as (`unescape_flatMap_escapeChar`), and that HTML holds nothing but text: no tag can begin in
it and no attribute can end, and each ampersand begins an entity (`isHtmlText_flatMap_escapeChar`).
-/

namespace PageSearch.Snippet

/-- The entities of the characters that HTML gives a meaning to. -/
def entities : List (List Char) := ["&amp;", "&lt;", "&gt;", "&quot;", "&#x27;"].map String.toList

/-- The characters that begin or end a tag or a quoted attribute. -/
def markupChars : List Char := ['<', '>', '"', '\'']

/-- Reads the entities of a text, from left to right, as what they stand for. -/
def unescape : List Char → List Char
  | [] => []
  | '&' :: 'a' :: 'm' :: 'p' :: ';' :: r => '&' :: unescape r
  | '&' :: 'l' :: 't' :: ';' :: r => '<' :: unescape r
  | '&' :: 'g' :: 't' :: ';' :: r => '>' :: unescape r
  | '&' :: 'q' :: 'u' :: 'o' :: 't' :: ';' :: r => '"' :: unescape r
  | '&' :: '#' :: 'x' :: '2' :: '7' :: ';' :: r => '\'' :: unescape r
  | c :: r => c :: unescape r

/-- HTML that is text only. -/
structure IsHtmlText (s : List Char) : Prop where
  /-- No tag begins or ends, and no quoted attribute does. -/
  not_mem : ∀ c ∈ markupChars, c ∉ s
  /-- Each ampersand begins an entity. -/
  entity : ∀ before after, s = before ++ '&' :: after → ∃ e ∈ entities, e <+: '&' :: after

/-! ### Reading back -/

theorem unescape_cons {c : Char} (hc : c ≠ '&') (r : List Char) : unescape (c :: r) = c :: unescape r := by
  rw [unescape] <;> simp [hc]

/-- A character is written as itself, or as an entity if HTML gives it a meaning. -/
theorem escapeChar_cases (c : Char) :
    (escapeChar c = [c] ∧ c ≠ '&' ∧ c ∉ markupChars) ∨
      (escapeChar c ∈ entities ∧ (c = '&' ∨ c ∈ markupChars) ∧
        ∀ r, unescape (escapeChar c ++ r) = c :: unescape r) := by
  by_cases hspecial : c ∈ '&' :: markupChars
  · right
    have hmeaning := List.mem_cons.1 hspecial
    simp only [markupChars, List.mem_cons, List.not_mem_nil, or_false] at hspecial
    refine ⟨?_, hmeaning, fun r => ?_⟩
    · rcases hspecial with rfl | rfl | rfl | rfl | rfl <;> decide
    · rcases hspecial with rfl | rfl | rfl | rfl | rfl <;> rfl
  · left
    simp only [markupChars, List.mem_cons, List.not_mem_nil, or_false, not_or] at hspecial
    obtain ⟨hamp, hlt, hgt, hquot, hapos⟩ := hspecial
    simp [escapeChar, markupChars, hamp, hlt, hgt, hquot, hapos]

/-- **What is written** is read back. -/
theorem unescape_flatMap_escapeChar (s : List Char) : unescape (s.flatMap escapeChar) = s := by
  induction s with
  | nil => rfl
  | cons c s ih =>
    rw [List.flatMap_cons]
    rcases escapeChar_cases c with ⟨hself, hamp, -⟩ | ⟨-, -, hread⟩
    · rw [hself, List.singleton_append, unescape_cons hamp, ih]
    · rw [hread, ih]

/-! ### Nothing but text -/

theorem isHtmlText_nil : IsHtmlText [] := ⟨by simp, by simp⟩

theorem IsHtmlText.cons {c : Char} {s : List Char} (h : IsHtmlText s) (hc : c ∉ markupChars)
    (hentity : c = '&' → ∃ e ∈ entities, e <+: c :: s) : IsHtmlText (c :: s) := by
  constructor
  · intro d hd hmem
    rcases List.mem_cons.1 hmem with rfl | hmem
    · exact hc hd
    · exact h.not_mem d hd hmem
  · intro before after hs
    cases before with
    | nil =>
      obtain ⟨rfl, rfl⟩ := List.cons.inj hs
      exact hentity rfl
    | cons b before => exact h.entity before after (List.cons.inj hs).2

/-- Characters without a meaning in HTML may stand before a text. -/
theorem IsHtmlText.append {x s : List Char} (h : IsHtmlText s) (hx : ∀ c ∈ x, c ≠ '&' ∧ c ∉ markupChars) :
    IsHtmlText (x ++ s) := by
  induction x with
  | nil => exact h
  | cons c x ih =>
    obtain ⟨hc, hx⟩ := List.forall_mem_cons.1 hx
    exact (ih hx).cons hc.2 fun hamp => absurd hamp hc.1

theorem IsHtmlText.entity_append {e s : List Char} (h : IsHtmlText s) (he : e ∈ entities) :
    IsHtmlText (e ++ s) := by
  -- an entity is an ampersand and characters without a meaning
  have hshape : ∀ e ∈ entities, e = '&' :: e.tail ∧ ∀ c ∈ e.tail, c ≠ '&' ∧ c ∉ markupChars := by
    simp [entities, markupChars]
  obtain ⟨hamp, hrest⟩ := hshape e he
  rw [hamp, List.cons_append]
  refine (h.append hrest).cons (by decide) fun _ => ⟨e, he, ?_⟩
  rw [← List.cons_append, ← hamp]
  exact List.prefix_append e s

/-- **What is written** is text only. -/
theorem isHtmlText_flatMap_escapeChar (s : List Char) : IsHtmlText (s.flatMap escapeChar) := by
  induction s with
  | nil => exact isHtmlText_nil
  | cons c s ih =>
    rw [List.flatMap_cons]
    rcases escapeChar_cases c with ⟨hself, hamp, hmarkup⟩ | ⟨hentity, -⟩
    · rw [hself]
      exact ih.cons hmarkup fun h => absurd h hamp
    · exact ih.entity_append hentity

end PageSearch.Snippet
