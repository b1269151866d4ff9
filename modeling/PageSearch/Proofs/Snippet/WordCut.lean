import PageSearch.Proofs.Decimal.Order
import PageSearch.Proofs.Snippet.Truncation
import PageSearch.Proofs.Text.Search

/-!
# Cuts at words

A text that is longer than a limit is cut at one position (`IsCut`): at the last space up to the limit, at the limit
because a word ends there, or at the limit because there is no space that leaves enough. With a share from zero to one
there is always such a position (`exists_isCut`), and it decides what of the text is trimmed (`IsHead`) and all that
can be said about the truncated text: it is trimmed, not longer than the limit, a beginning of the text without the
blanks before it, and it is not truncated again (`exists_isTruncated`).
-/

namespace PageSearch.Snippet

/-- Where a text is cut that is longer than the limit. -/
inductive IsCut (s : List Char) (limit : Nat) (leftmost : Int) : Nat → Prop where
  /-- At the last space up to the limit, if it does not stand before the threshold. -/
  | atSpace {position : Nat} (hlt : position < limit) (hle : leftmost ≤ position) (hspace : s[position]? = some ' ')
      (hlast : ∀ i, position < i → i ≤ limit → s[i]? ≠ some ' ') : IsCut s limit leftmost position
  /-- At the limit, if a word ends there. -/
  | afterWord (hspace : s[limit]? = some ' ') : IsCut s limit leftmost limit
  /-- At the limit, if no space stands between the threshold and the limit. -/
  | inWord (hnone : ∀ i, i < limit → leftmost ≤ i → s[i]? ≠ some ' ') : IsCut s limit leftmost limit

theorem IsCut.le {s : List Char} {limit position : Nat} {leftmost : Int} (h : IsCut s limit leftmost position) :
    position ≤ limit := by
  cases h with
  | atSpace hlt => exact hlt.le
  | afterWord => exact le_refl _
  | inWord => exact le_refl _

/-- A cut leaves something of a text that does not begin with a blank. -/
theorem IsCut.pos {s : List Char} {limit position : Nat} {leftmost : Int} (h : IsCut s limit leftmost position)
    (hlimit : 1 ≤ limit) {c : Char} (hc : s.head? = some c) (hsolid : Text.isBlank c = false) : 1 ≤ position := by
  cases h with
  | atSpace _ _ hspace =>
    rcases Nat.eq_zero_or_pos position with rfl | hpos
    · -- the text would begin with the space
      rw [← List.head?_eq_getElem?, hc] at hspace
      obtain rfl := Option.some.inj hspace
      exact absurd hsolid (by decide)
    · exact hpos
  | afterWord => exact hlimit
  | inWord => exact hlimit

theorem getElem?_take_eq_some {s : List Char} {limit i : Nat} {c : Char} :
    (s.take limit)[i]? = some c ↔ i < limit ∧ s[i]? = some c := by
  rw [List.getElem?_take]
  split
  · next hlt => simp [hlt]
  · next hge => simp [hge]

/-- **A cut at a word** is made at one of these positions. -/
theorem exists_isCut (s : List Char) (limit : Nat) (leftmost : Int) :
    ∃ position, cutAtWord (.ok leftmost) limit s = .ok (s.take position) ∧ IsCut s limit leftmost position := by
  unfold cutAtWord
  dsimp only
  split
  · next hspace => exact ⟨limit, rfl, .afterWord (beq_iff_eq.1 hspace)⟩
  · next hword =>
    rw [beq_iff_eq] at hword
    split
    · next hnone =>
      refine ⟨limit, rfl, .inWord fun i hi _ hspace => ?_⟩
      have hmem : ' ' ∈ s.take limit := List.mem_of_getElem? (getElem?_take_eq_some.2 ⟨hi, hspace⟩)
      exact Text.lastIndexOf?_eq_none_iff.1 hnone hmem
    · next space hsome =>
      obtain ⟨hspace, hlast⟩ := Text.lastIndexOf?_eq_some_iff.1 hsome
      obtain ⟨hlt, hspace⟩ := getElem?_take_eq_some.1 hspace
      have hafter : ∀ i, space < i → i ≤ limit → s[i]? ≠ some ' ' := by
        intro i hi hle hother
        rcases hle.eq_or_lt with rfl | hbelow
        · exact hword hother
        · exact hlast i hi (getElem?_take_eq_some.2 ⟨hbelow, hother⟩)
      by_cases hle : leftmost ≤ space
      · refine ⟨space, ?_, .atSpace hlt hle hspace hafter⟩
        have hcut : (s.take limit).take space = s.take space := by rw [List.take_take, Nat.min_eq_left hlt.le]
        rw [← hcut]
        simp [hle, bind, Except.bind, pure, Except.pure]
      · -- all spaces stand before the threshold
        refine ⟨limit, ?_, .inWord fun i _ hi hother => hafter i (by omega) (by omega) hother⟩
        simp [hle, bind, Except.bind, pure, Except.pure]

/-! ### Shares from zero to one -/

/-- A share of a whole: what counts as a number from zero to one. -/
def IsProportion (share : Value) : Prop :=
  ∃ n q, share.asNumber? = some n ∧ n.rational? = some q ∧ 0 ≤ q ∧ q ≤ 1

theorem isProportion_leastShare : IsProportion (.float leastShare) := by
  have hparts : Binary.ofFloat leastShare = .finite false 5404319552844595 (-53) := by decide
  refine ⟨.float leastShare, 5404319552844595 * 2 ^ (-53 : Int), rfl, ?_, by positivity, by norm_num⟩
  rw [Number.rational?, hparts]
  simp [Binary.rational?]

theorem threshold_eq {share : Value} {n : Number} (h : share.asNumber? = some n) (limit : Int) :
    threshold share limit = (do (← n.times limit).toInt) := by
  unfold threshold
  rw [h]

theorem IsProportion.exists_threshold {share : Value} (hshare : IsProportion share) {limit : Int}
    (hlimit : limit.natAbs < floatLimit) : ∃ t, threshold share limit = .ok t := by
  obtain ⟨n, q, hnumber, hq, hzero, hone⟩ := hshare
  obtain ⟨b, t, htimes, ht⟩ := Number.exists_times hq hzero hone hlimit
  refine ⟨t, ?_⟩
  rw [threshold_eq hnumber, htimes]
  exact ht

/-! ### Truncated texts -/

theorem truncate_of_length_le {text : String} {limit : Nat} (h : text.length ≤ limit) (share : Value) :
    truncate text limit share = .ok (Text.trimmed text) := by
  have hlimit : ¬ (limit : Int) < text.toList.length := by
    rw [String.length_toList]
    omega
  unfold truncate
  dsimp only
  rw [if_neg hlimit]
  split
  · next hempty =>
    rw [List.isEmpty_iff] at hempty
    rw [Text.trimmed, hempty]
    rfl
  · rfl

theorem truncate_of_lt_length {text : String} {limit : Nat} {share : Value} {t : Int} (h : limit < text.length)
    (ht : threshold share limit = .ok t) :
    ∃ position, truncate text limit share = .ok (String.ofList (Text.trim (text.toList.take position))) ∧
      IsCut text.toList limit t position := by
  obtain ⟨position, hcut, hposition⟩ := exists_isCut text.toList limit t
  refine ⟨position, ?_, hposition⟩
  rw [← String.length_toList] at h
  have hempty : text.toList.isEmpty = false := by
    rw [List.isEmpty_eq_false_iff]
    exact List.ne_nil_of_length_pos (Nat.zero_lt_of_lt h)
  have hpositionOf : positionOf limit text.toList.length = .ok limit := by
    rw [positionOf, if_pos (Int.natCast_nonneg limit), Int.toNat_natCast]
  unfold truncate
  dsimp only
  rw [hempty, if_neg Bool.false_ne_true, if_pos (Int.ofNat_lt.2 h), ht, hpositionOf]
  simp only [bind, Except.bind, hcut]
  rfl

/-- What of a text is trimmed: all of it, or what stands before the cut if it is longer than the limit. -/
inductive IsHead (text : String) (limit : Nat) (share : Value) : List Char → Prop where
  /-- A text that is not longer than the limit is not cut. -/
  | whole (hle : text.length ≤ limit) : IsHead text limit share text.toList
  /-- A longer one is cut at a word. -/
  | beginning (hlt : limit < text.length) {t : Int} {position : Nat} (ht : threshold share limit = .ok t)
      (hposition : IsCut text.toList limit t position) : IsHead text limit share (text.toList.take position)

/-- **A text is truncated** by trimming such a beginning of it. -/
theorem exists_isHead {share : Value} (hshare : IsProportion share) {text : String} (htext : text.length < floatLimit)
    (limit : Nat) :
    ∃ head, truncate text limit share = .ok (String.ofList (Text.trim head)) ∧ IsHead text limit share head := by
  rcases Nat.lt_or_ge limit text.length with hlong | hshort
  · have hlimit : (limit : Int).natAbs < floatLimit := by
      rw [Int.natAbs_natCast]
      exact hlong.trans htext
    obtain ⟨t, ht⟩ := hshare.exists_threshold hlimit
    obtain ⟨position, htruncate, hposition⟩ := truncate_of_lt_length hlong ht
    exact ⟨_, htruncate, .beginning hlong ht hposition⟩
  · exact ⟨_, truncate_of_length_le hshort share, .whole hshort⟩

/-- A text that does not begin with a blank keeps its first character. -/
theorem IsHead.head?_eq {text : String} {limit : Nat} {share : Value} {head : List Char}
    (h : IsHead text limit share head) (hlimit : 1 ≤ limit) {c : Char} (hc : text.toList.head? = some c)
    (hsolid : Text.isBlank c = false) : head.head? = some c := by
  cases h with
  | whole => exact hc
  | beginning _ _ hposition =>
    have hpos := hposition.pos hlimit hc hsolid
    rw [List.head?_take, if_neg (Nat.pos_iff_ne_zero.1 hpos)]
    exact hc

/-- **What a truncated text is.** -/
structure IsTruncated (text : String) (limit : Nat) (share : Value) (cut : String) : Prop where
  /-- There are no blanks at its ends. -/
  trimmed : Text.Trimmed cut.toList
  /-- It is not longer than the limit. -/
  length_le : cut.length ≤ limit
  /-- The text begins with it, after the blanks. -/
  beginning : cut.toList <+: Text.trimStart text.toList
  /-- A text that is not longer than the limit is only trimmed. -/
  whole : text.length ≤ limit → cut = Text.trimmed text
  /-- A longer text is cut at a word and trimmed. -/
  atWord : limit < text.length → ∃ t position, threshold share limit = .ok t ∧
    IsCut text.toList limit t position ∧ cut = String.ofList (Text.trim (text.toList.take position))
  /-- It is not truncated again. -/
  again : truncate cut limit share = .ok cut

section Truncated

variable {share : Value} {text cut : String} {limit : Nat}

theorem truncate_of_trimmed (htrimmed : Text.Trimmed cut.toList) (hle : cut.length ≤ limit) :
    truncate cut limit share = .ok cut := by
  rw [truncate_of_length_le hle, Text.trimmed, htrimmed.trim_eq, String.ofList_toList]

/-- A beginning of the text that is trimmed, and is not longer than the limit. -/
theorem isTruncated_of_prefix {head : List Char} (hhead : head <+: text.toList) (hle : head.length ≤ limit)
    (hcut : cut = String.ofList (Text.trim head)) (hwhole : text.length ≤ limit → cut = Text.trimmed text)
    (hword : limit < text.length → ∃ t position, threshold share limit = .ok t ∧
      IsCut text.toList limit t position ∧ cut = String.ofList (Text.trim (text.toList.take position))) :
    IsTruncated text limit share cut := by
  have hlist : cut.toList = Text.trim head := by rw [hcut, String.toList_ofList]
  have htrimmed : Text.Trimmed cut.toList := by
    rw [hlist]
    exact Text.trimmed_trim head
  have hlength : cut.length ≤ limit := by
    rw [← String.length_toList, hlist]
    exact (Text.trim_sublist head).length_le.trans hle
  have hbeginning : cut.toList <+: Text.trimStart text.toList := by
    rw [hlist]
    exact (Text.trim_prefix_trim hhead).trans (Text.trim_prefix_trimStart text.toList)
  exact ⟨htrimmed, hlength, hbeginning, hwhole, hword, truncate_of_trimmed htrimmed hlength⟩

theorem IsHead.isTruncated {head : List Char} (h : IsHead text limit share head) :
    IsTruncated text limit share (String.ofList (Text.trim head)) := by
  cases h with
  | whole hle =>
    have hlength : text.toList.length ≤ limit := by rwa [String.length_toList]
    refine isTruncated_of_prefix List.prefix_rfl hlength rfl ?_ ?_
    · intro _
      rfl
    · intro hlt
      omega
  | beginning hlt ht hposition =>
    have hlength := (List.length_take_le _ text.toList).trans hposition.le
    refine isTruncated_of_prefix (List.take_prefix _ _) hlength rfl ?_ ?_
    · intro hle
      omega
    · intro _
      exact ⟨_, _, ht, hposition, rfl⟩

/-- **Truncation is bounded and keeps words whole**, for every text, limit, and share from zero to one. A limit
that cuts the text must be one that has a float, for its threshold; no text in a memory is too long for that. -/
theorem exists_isTruncated (hshare : IsProportion share) (htext : text.length < floatLimit) (limit : Nat) :
    ∃ cut, truncate text limit share = .ok cut ∧ IsTruncated text limit share cut := by
  obtain ⟨head, htruncate, hhead⟩ := exists_isHead hshare htext limit
  exact ⟨_, htruncate, hhead.isTruncated⟩

theorem exists_isTruncated_leastShare :
    IsProportion (.float leastShare) ∧ "the quick brown fox".length < floatLimit ∧
      truncate "the quick brown fox" 12 (.float leastShare) = .ok "the quick" ∧
      IsTruncated "the quick brown fox" 12 (.float leastShare) "the quick" := by
  have hlength : "the quick brown fox".length < floatLimit := (isSome_floatOfInt? 19).1 rfl
  have hcut : truncate "the quick brown fox" (12 : Nat) (.float leastShare) = .ok "the quick" := by decide
  obtain ⟨cut, htruncate, h⟩ := exists_isTruncated isProportion_leastShare hlength 12
  rw [hcut] at htruncate
  obtain rfl := Except.ok.inj htruncate
  exact ⟨isProportion_leastShare, hlength, hcut, h⟩

end Truncated

end PageSearch.Snippet
