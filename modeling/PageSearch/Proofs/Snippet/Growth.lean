import PageSearch.Proofs.Snippet.WordCut

/-!
# A larger limit never shows less

The threshold of a larger limit is not smaller (`threshold_mono`), so it could forbid the space at which the text is
cut for the smaller one. Still the cut does not move to the left (`IsCut.mono`): a cut left of another one is made at a
space, after which there is no space up to the larger limit, so that the smaller limit would have been cut there as
well. So the text that is shown for the smaller limit is a beginning of the other one (`truncate_prefix_truncate`).
-/

namespace PageSearch.Snippet

variable {share : Value} {n m : Nat}

/-- **A larger limit has no smaller threshold.** -/
theorem threshold_mono (hshare : IsProportion share) (h : n ≤ m) {t t' : Int} (ht : threshold share n = .ok t)
    (ht' : threshold share m = .ok t') : t ≤ t' := by
  obtain ⟨number, q, hnumber, hq, hzero, -⟩ := hshare
  rw [threshold_eq hnumber, Outcome.bind_eq_ok] at ht ht'
  obtain ⟨b, hb, ht⟩ := ht
  obtain ⟨c, hc, ht'⟩ := ht'
  exact Number.times_mono hq hzero h hb hc ht ht'

/-- **The cut does not move to the left** when limit and threshold grow. -/
theorem IsCut.mono {s : List Char} {t t' : Int} {position position' : Nat} (h : IsCut s n t position)
    (h' : IsCut s m t' position') (hlimit : n ≤ m) (hleftmost : t ≤ t') : position ≤ position' := by
  have hle := h.le
  cases h' with
  | atSpace hlt hleast hspace hlast =>
    by_contra hleft
    -- there is no space between this cut and the other one
    cases h with
    | atSpace hlt' hleast' hspace' hlast' => exact hlast position (by omega) (by omega) hspace'
    | afterWord hspace' => exact hlast n (by omega) hlimit hspace'
    | inWord hnone => exact hnone position' (by omega) (by omega) hspace
  | afterWord => exact hle.trans hlimit
  | inWord => exact hle.trans hlimit

/-- What is trimmed for the smaller limit is a beginning of what is trimmed for the other one. -/
theorem IsHead.mono (hshare : IsProportion share) {text : String} {head head' : List Char}
    (h : IsHead text n share head) (h' : IsHead text m share head') (hlimit : n ≤ m) : head <+: head' := by
  cases h' with
  | whole hle' =>
    cases h with
    | whole => exact List.prefix_rfl
    | beginning => exact List.take_prefix _ _
  | beginning hlt' ht' hposition' =>
    cases h with
    | whole hle => omega
    | beginning _ ht hposition =>
      have hleftmost := threshold_mono hshare hlimit ht ht'
      exact List.take_prefix_take_left (hposition.mono hposition' hlimit hleftmost)

theorem IsHead.unique (hshare : IsProportion share) {text : String} {head head' : List Char}
    (h : IsHead text n share head) (h' : IsHead text n share head') : head = head' :=
  (h.mono hshare h' le_rfl).eq_of_length_le (h'.mono hshare h le_rfl).length_le

/-- **A larger limit never shows less** of a text, for every share from zero to one. -/
theorem truncate_prefix_truncate (hshare : IsProportion share) {text : String} (htext : text.length < floatLimit)
    (h : n ≤ m) : ∃ shown more, truncate text n share = .ok shown ∧ truncate text m share = .ok more ∧
      shown.toList <+: more.toList := by
  obtain ⟨head, hshown, hfirst⟩ := exists_isHead hshare htext n
  obtain ⟨head', hmore, hsecond⟩ := exists_isHead hshare htext m
  refine ⟨_, _, hshown, hmore, ?_⟩
  rw [String.toList_ofList, String.toList_ofList]
  exact Text.trim_prefix_trim (hfirst.mono hshare hsecond h)

theorem truncate_prefix_truncate_leastShare :
    IsProportion (.float leastShare) ∧ "the quick brown fox".length < floatLimit ∧ 7 ≤ 12 ∧
      truncate "the quick brown fox" 7 (.float leastShare) = .ok "the qui" ∧
      truncate "the quick brown fox" 12 (.float leastShare) = .ok "the quick" ∧
      "the qui".toList <+: "the quick".toList := by
  have hlength : "the quick brown fox".length < floatLimit := (isSome_floatOfInt? 19).1 rfl
  have hleft : truncate "the quick brown fox" (7 : Nat) (.float leastShare) = .ok "the qui" := by decide
  have hright : truncate "the quick brown fox" (12 : Nat) (.float leastShare) = .ok "the quick" := by decide
  obtain ⟨shown, more, hshown, hmore, h⟩ :=
    truncate_prefix_truncate isProportion_leastShare hlength (show 7 ≤ 12 by decide)
  rw [hleft] at hshown
  rw [hright] at hmore
  obtain rfl := Except.ok.inj hshown
  obtain rfl := Except.ok.inj hmore
  exact ⟨isProportion_leastShare, hlength, by decide, hleft, hright, h⟩

end PageSearch.Snippet
