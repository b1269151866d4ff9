import PageSearch.Proofs.Outcome
import PageSearch.Proofs.Text.Words
import PageSearch.Snippet.Truncation

/-!
# Truncated texts

A text is cut at its limit or before it, so that what is left is never longer than the limit
(`length_le_of_truncate`).
-/

namespace PageSearch.Snippet

/-- A cut at a position or before it leaves a text that ends there. -/
theorem prefix_of_cutAtWord {leftmost : Outcome Int} {position : Nat} {s head : List Char}
    (h : cutAtWord leftmost position s = .ok head) : head <+: s.take position := by
  rw [cutAtWord] at h
  split at h
  · exact Except.ok.inj h ▸ List.prefix_rfl
  · split at h
    · exact Except.ok.inj h ▸ List.prefix_rfl
    · rename_i space _
      simp only [Outcome.bind_eq_ok, Outcome.pure_eq_ok] at h
      obtain ⟨threshold, -, rfl⟩ := h
      split
      · exact List.take_prefix space _
      · exact List.prefix_rfl

/-- **A truncated text** is not longer than the limit. -/
theorem length_le_of_truncate {text cut : String} {limit : Int} {share : Value}
    (h : truncate text limit share = .ok cut) (hlimit : 0 ≤ limit) : (cut.toList.length : Int) ≤ limit := by
  rw [truncate] at h
  split at h
  · obtain rfl := Except.ok.inj h
    exact hlimit
  · split at h
    · -- the text is cut at the limit
      rw [positionOf, if_pos hlimit] at h
      simp only [Outcome.bind_eq_ok, Outcome.pure_eq_ok, Except.ok.injEq] at h
      obtain ⟨_, rfl, head, hhead, rfl⟩ := h
      rw [String.toList_ofList]
      have htrim := (Text.trim_sublist head).length_le
      have hcut := (prefix_of_cutAtWord hhead).length_le
      rw [List.length_take] at hcut
      omega
    · obtain rfl := Except.ok.inj h
      rw [String.toList_ofList]
      have htrim := (Text.trim_sublist text.toList).length_le
      omega

end PageSearch.Snippet
