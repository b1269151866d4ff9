import Mathlib.Data.List.Induction
import PageSearch.External.Outline
import PageSearch.Hit.Result
import PageSearch.Proofs.Outcome

/-!
# The marks of groups

Both marks of a result are set by passes that look at one hit after the other. This module says what they
come to without the passes: a result can be grouped exactly if it has the host of the one before it, and it
leads to more exactly if it is the last of a run of two or more results of one host, where `IsRun` is a run
that cannot be made longer on either side.

The pass over the flags writes one position behind the one that it looks at. `MorePass.Covers` is its
invariant: after some of the flags, the marks are those of the ends that can be seen so far, and no other
(`MorePass.Covers.step`). A run that reaches the end of the list is not among them; it is marked when the
pass is over, by the last flag itself (`getElem?_markMoreBy`).
-/

namespace PageSearch.Hit

/-! ### The pass over the flags -/

section Flags

variable {α : Type} {isSet : α → Bool} {mark : Bool → α}

/-- Whether a position has a flag that is set, and the next one has a flag that is not. -/
def isEnd (isSet : α → Bool) (flags : List α) (i : Nat) : Bool :=
  flags[i]?.any isSet && flags[i + 1]?.any fun flag => !isSet flag

/-- What a pass has in hand after the first flags of a list of `count` flags. -/
structure MorePass.Covers (isSet : α → Bool) (mark : Bool → α) (count : Nat) (seen : List α)
    (pass : MorePass α) : Prop where
  /-- There is a mark for each flag of the list. -/
  length_eq : pass.marks.length = count
  /-- The flag before is the last one that was seen. -/
  previous_eq : pass.previous = seen.getLast?.getD (mark false)
  /-- Exactly the ends that were seen are marked. -/
  mark_eq : ∀ i < count, pass.marks[i]? = some (mark (isEnd isSet seen i))

theorem isEnd_nil (i : Nat) : isEnd isSet [] i = false := rfl

/-- One flag more shows whether the flag before it is an end. -/
theorem isEnd_concat (seen : List α) (flag : α) (i : Nat) :
    isEnd isSet (seen ++ [flag]) i =
      if i + 1 = seen.length then seen[i]?.any isSet && !isSet flag else isEnd isSet seen i := by
  rw [isEnd, isEnd]
  split
  · rename_i h
    rw [List.getElem?_append_left (by omega), h, List.getElem?_concat_length, Option.any_some]
  · rename_i h
    rcases Nat.lt_or_ge (i + 1) seen.length with hlt | hge
    · rw [List.getElem?_append_left (by omega), List.getElem?_append_left hlt]
    · -- the position is the last one or lies behind it, and has nothing after it
      have hnext : (seen ++ [flag])[i + 1]? = none := by
        rw [List.getElem?_eq_none_iff, List.length_append, List.length_singleton]
        omega
      have hnone : seen[i + 1]? = none := List.getElem?_eq_none hge
      rw [hnext, hnone, Option.any_none, Bool.and_false, Bool.and_false]

namespace MorePass

theorem covers_start (count : Nat) : Covers isSet mark count [] (start mark count) where
  length_eq := List.length_replicate
  previous_eq := rfl
  mark_eq i hi := by rw [start, List.getElem?_replicate_of_lt hi, isEnd_nil]

/-- **One step** of the pass: the flag that is taken in decides on the position before it. -/
theorem Covers.step (hmark : ∀ b, isSet (mark b) = b) {count : Nat} {seen : List α} {pass : MorePass α}
    (h : Covers isSet mark count seen pass) (flag : α) :
    Covers isSet mark count (seen ++ [flag]) (pass.step isSet mark (flag, seen.length)) where
  length_eq := by
    rw [MorePass.step]
    split
    · rw [List.length_set, h.length_eq]
    · exact h.length_eq
  previous_eq := by simp [MorePass.step]
  mark_eq i hi := by
    have hprevious : isSet pass.previous = seen[seen.length - 1]?.any isSet := by
      rw [h.previous_eq, ← List.getLast?_eq_getElem?]
      cases seen.getLast? with
      | none => exact hmark false
      | some last => rfl
    rw [isEnd_concat, MorePass.step, hprevious]
    by_cases hlast : i + 1 = seen.length
    · have hi' : seen.length - 1 = i := by omega
      have hnone : isEnd isSet seen i = false := by
        rw [isEnd, hlast, List.getElem?_eq_none (Nat.le_refl _), Option.any_none, Bool.and_false]
      rw [if_pos hlast, hi']
      cases hend : seen[i]?.any isSet && !isSet flag with
      | false => rw [if_neg Bool.false_ne_true, h.mark_eq i hi, hnone]
      | true => rw [if_pos rfl, List.getElem?_set_self (h.length_eq ▸ hi)]
    · rw [if_neg hlast]
      split
      · rename_i hset
        -- the flag before is set, so there is one
        have hne : seen ≠ [] := by
          rintro rfl
          simp at hset
        have hpos := List.length_pos_iff.2 hne
        rw [List.getElem?_set_ne (by omega), h.mark_eq i hi]
      · exact h.mark_eq i hi

/-- **The whole pass**, by induction on the flags that were seen. -/
theorem covers_foldl (hmark : ∀ b, isSet (mark b) = b) (count : Nat) (flags : List α) :
    Covers isSet mark count flags (flags.zipIdx.foldl (MorePass.step isSet mark) (start mark count)) := by
  induction flags using List.reverseRecOn with
  | nil => exact covers_start count
  | append_singleton seen flag ih =>
    rw [List.zipIdx_append, List.foldl_append]
    simpa using ih.step hmark flag

end MorePass

theorem length_markMoreBy (hmark : ∀ b, isSet (mark b) = b) (flags : List α) :
    (markMoreBy isSet mark flags).length = flags.length := by
  rw [markMoreBy, List.length_set]
  exact (MorePass.covers_foldl hmark flags.length flags).length_eq

/-- **The marks of flags**: the ends that have a flag after them, and the last flag as it is. -/
theorem getElem?_markMoreBy (hmark : ∀ b, isSet (mark b) = b) {flags : List α} {i : Nat}
    (hi : i < flags.length) :
    (markMoreBy isSet mark flags)[i]? =
      if i + 1 = flags.length then flags[i]? else some (mark (isEnd isSet flags i)) := by
  have h := MorePass.covers_foldl hmark flags.length flags
  rw [markMoreBy]
  split
  · rename_i hlast
    have hi' : flags.length - 1 = i := by omega
    rw [hi', List.getElem?_set_self (h.length_eq.symm ▸ hi), h.previous_eq, List.getLast?_eq_getElem?, hi',
      List.getElem?_eq_getElem hi, Option.getD_some]
  · rw [List.getElem?_set_ne (by omega)]
    exact h.mark_eq i hi

end Flags

theorem length_markMore (flags : List Bool) : (markMore flags).length = flags.length :=
  length_markMoreBy (fun _ => rfl) flags

/-- **A flag is marked** exactly if it is set, and the next one is not or does not exist. -/
theorem getElem?_markMore_eq_some_true_iff (flags : List Bool) (i : Nat) :
    (markMore flags)[i]? = some true ↔
      flags[i]? = some true ∧ (i + 1 = flags.length ∨ flags[i + 1]? = some false) := by
  rcases Nat.lt_or_ge i flags.length with hi | hi
  · rw [markMore, getElem?_markMoreBy (fun _ => rfl) hi]
    split
    · rename_i hlast
      simp [hlast]
    · rename_i hlast
      have hset : flags[i]?.any id = true ↔ flags[i]? = some true := by cases flags[i]? <;> simp
      have hnext : (flags[i + 1]?.any fun flag => !flag) = true ↔ flags[i + 1]? = some false := by
        cases flags[i + 1]? <;> simp
      rw [isEnd, id_def, Option.some.injEq, Bool.and_eq_true, hset]
      simp [hlast, hnext]
  · have hnone : flags[i]? = none := List.getElem?_eq_none hi
    have hnone' : (markMore flags)[i]? = none := List.getElem?_eq_none (length_markMore flags ▸ hi)
    rw [hnone, hnone']
    simp

/-! ### Hosts and their runs -/

section Runs

variable {α : Type}

/-- The items from one position to another are equal, and the ones next to them are others: a run that
cannot be made longer. -/
structure IsRun (items : List α) (first last : Nat) : Prop where
  /-- The run has a first and a last position. -/
  first_le : first ≤ last
  /-- Its last position is one of the list. -/
  last_lt : last < items.length
  /-- Its items are equal. -/
  equal : ∀ i, first ≤ i → i ≤ last → items[i]? = items[last]?
  /-- The item before it is another one, if there is any. -/
  before : 0 < first → items[first - 1]? ≠ items[last]?
  /-- The item after it is another one, if there is any. -/
  after : items[last + 1]? ≠ items[last]?

/-- Whether a position has the same item as the one before it. -/
def Repeats (items : List α) (i : Nat) : Prop := 0 < i ∧ i < items.length ∧ items[i - 1]? = items[i]?

instance [DecidableEq α] (items : List α) (i : Nat) : Decidable (Repeats items i) :=
  inferInstanceAs (Decidable (_ ∧ _ ∧ _))

/-- Every position lies in a run, which begins at it or before it. -/
theorem exists_first (items : List α) (i : Nat) :
    ∃ first ≤ i, (∀ j, first ≤ j → j ≤ i → items[j]? = items[i]?) ∧
      (0 < first → items[first - 1]? ≠ items[i]?) := by
  induction i with
  | zero => exact ⟨0, Nat.le_refl 0, fun j _ hj => by rw [Nat.le_zero.1 hj], fun h => absurd h (Nat.lt_irrefl 0)⟩
  | succ i ih =>
    by_cases heq : items[i]? = items[i + 1]?
    · obtain ⟨first, hle, hequal, hbefore⟩ := ih
      refine ⟨first, by omega, fun j hj hj' => ?_, fun hpos => heq ▸ hbefore hpos⟩
      rcases Nat.lt_or_ge i j with hlt | hge
      · rw [show j = i + 1 by omega]
      · exact (hequal j hj hge).trans heq
    · exact ⟨i + 1, Nat.le_refl _, fun j hj hj' => by rw [show j = i + 1 by omega], fun _ => heq⟩

/-- **A run of two or more items ends** exactly where an item is repeated and is not repeated again. -/
theorem exists_isRun_iff {items : List α} {i : Nat} :
    (∃ first < i, IsRun items first i) ↔ Repeats items i ∧ ¬ Repeats items (i + 1) := by
  constructor
  · rintro ⟨first, hlt, hrun⟩
    refine ⟨⟨by omega, hrun.last_lt, hrun.equal (i - 1) (by omega) (by omega)⟩, ?_⟩
    rintro ⟨-, -, heq⟩
    exact hrun.after heq.symm
  · rintro ⟨⟨hpos, hlt, heq⟩, hnot⟩
    obtain ⟨first, hle, hequal, hbefore⟩ := exists_first items i
    have hfirst : first ≠ i := by
      rintro rfl
      exact hbefore hpos heq
    refine ⟨first, by omega, hle, hlt, hequal, hbefore, fun hafter => ?_⟩
    have hnext : i + 1 < items.length := by
      by_contra hge
      rw [List.getElem?_eq_none (by omega), List.getElem?_eq_getElem hlt] at hafter
      cases hafter
    exact hnot ⟨by omega, hnext, hafter.symm⟩

theorem repeatsFrom_eq_zipWith [BEq α] (previous : α) (items : List α) :
    repeatsFrom previous items = List.zipWith (· == ·) items (previous :: items) := by
  induction items generalizing previous with
  | nil => rfl
  | cons item items ih => rw [repeatsFrom, ih, List.zipWith_cons_cons]

end Runs

/-- **A host is suggested for grouping** exactly if it is repeated and grouping is not blocked. -/
theorem getElem?_suggestGrouping (hosts : List String) (blocked : Bool) {i : Nat} (hi : i < hosts.length) :
    (suggestGrouping none (hosts.map some) blocked)[i]? = some (!blocked && decide (Repeats hosts i)) := by
  have hrepeats : (repeatsFrom none (hosts.map some))[i]? = some (decide (Repeats hosts i)) := by
    rw [repeatsFrom_eq_zipWith, List.getElem?_zipWith, List.getElem?_map]
    cases i with
    | zero => simp [Repeats, hi]
    | succ i =>
      have hi' : i < hosts.length := by omega
      simp only [Repeats, List.getElem?_eq_getElem hi, List.getElem?_map, List.getElem?_cons_succ,
        List.getElem?_eq_getElem hi', Option.map_some, Nat.add_sub_cancel]
      simp [hi, beq_eq_decide, eq_comm]
  rw [suggestGrouping, List.getElem?_map, hrepeats, Option.map_some]

/-! ### Results -/

/-- The result with the marks that it has among others with some hosts. -/
def markedAt (hosts : List String) (blocked : Bool) (i : Nat) (r : Result) : Result :=
  { r with
    groupingSuggested := !blocked && decide (Repeats hosts i)
    moreSuggested := !blocked && decide (Repeats hosts i ∧ ¬ Repeats hosts (i + 1)) }

theorem length_suggestGrouping (hosts : List String) (blocked : Bool) :
    (suggestGrouping none (hosts.map some) blocked).length = hosts.length := by
  rw [suggestGrouping, List.length_map, repeatsFrom_eq_zipWith, List.length_zipWith]
  simp

/-- A host leads to more exactly if it is repeated and is not repeated again, and grouping is not
blocked. -/
theorem getElem?_markMore_suggestGrouping (hosts : List String) (blocked : Bool) {i : Nat}
    (hi : i < hosts.length) :
    (markMore (suggestGrouping none (hosts.map some) blocked))[i]? =
      some (!blocked && decide (Repeats hosts i ∧ ¬ Repeats hosts (i + 1))) := by
  have hlength := length_suggestGrouping hosts blocked
  rw [markMore, getElem?_markMoreBy (fun _ => rfl) (hlength.symm ▸ hi), hlength]
  split
  · rename_i hlast
    have hnot : ¬ Repeats hosts (i + 1) := fun h => absurd h.2.1 (by omega)
    rw [getElem?_suggestGrouping hosts blocked hi]
    simp [hnot]
  · have hi' : i + 1 < hosts.length := by omega
    rw [isEnd, getElem?_suggestGrouping hosts blocked hi, getElem?_suggestGrouping hosts blocked hi']
    cases blocked <;> simp

theorem getElem?_marked (results : List Result) (blocked : Bool) (i : Nat) :
    (marked results blocked)[i]? = results[i]?.map (markedAt (results.map Result.hostname) blocked i) := by
  have hhosts : (results.map fun r => some r.hostname) = (results.map Result.hostname).map some := by
    rw [List.map_map]
    rfl
  rw [marked, List.getElem?_zipWith, List.zip, List.getElem?_zipWith, hhosts]
  rcases Nat.lt_or_ge i results.length with hi | hi
  · have hi' : i < (results.map Result.hostname).length := by rwa [List.length_map]
    rw [getElem?_suggestGrouping _ blocked hi', getElem?_markMore_suggestGrouping _ blocked hi',
      List.getElem?_eq_getElem hi]
    rfl
  · rw [List.getElem?_eq_none hi]
    rfl

/-- **The marks of results** are those that each has at its place among the hosts of all. -/
theorem marked_eq_mapIdx (results : List Result) (blocked : Bool) :
    marked results blocked = results.mapIdx (markedAt (results.map Result.hostname) blocked) := by
  refine List.ext_getElem? fun i => ?_
  rw [getElem?_marked, List.getElem?_mapIdx]

/-- Marks do not change the hosts. -/
theorem map_hostname_marked (results : List Result) (blocked : Bool) :
    (marked results blocked).map Result.hostname = results.map Result.hostname := by
  refine List.ext_getElem? fun i => ?_
  rw [List.getElem?_map, List.getElem?_map, getElem?_marked, Option.map_map]
  rfl

/-- A host is repeated exactly if the result before has it, too. -/
theorem repeats_map_hostname_iff {results : List Result} {i : Nat} {r : Result} (hr : results[i]? = some r) :
    Repeats (results.map Result.hostname) i ↔
      ∃ before, 1 ≤ i ∧ results[i - 1]? = some before ∧ r.hostname = before.hostname := by
  obtain ⟨hi, -⟩ := List.getElem?_eq_some_iff.1 hr
  rw [Repeats, List.length_map, List.getElem?_map, List.getElem?_map, hr, Option.map_some,
    Option.map_eq_some_iff]
  constructor
  · rintro ⟨hpos, -, before, hbefore, hhost⟩
    exact ⟨before, hpos, hbefore, hhost.symm⟩
  · rintro ⟨before, hpos, hbefore, hhost⟩
    exact ⟨hpos, hi, before, hbefore, hhost.symm⟩

/-- What a result has from its hit as it is: the score, and the identifier and the index or the empty
text for them. -/
structure Carries (hit : Value) (r : Result) : Prop where
  /-- The score of the hit. -/
  score_eq : r.score = (hit.get? "_score").getD .null
  /-- The identifier of the hit. -/
  documentId_eq :
    r.documentId = if ((hit.get? "_id").getD .null).isTruthy then (hit.get? "_id").getD .null else .str ""
  /-- The index of the hit. -/
  index_eq :
    r.index = if ((hit.get? "_index").getD .null).isTruthy then (hit.get? "_index").getD .null else .str ""

theorem carries_of_parse {settings : Settings} {language hit : Value} {r : Result}
    (h : parse settings language hit = .ok r) : Carries hit r := by
  simp only [parse, Outcome.bind_eq_ok, Outcome.pure_eq_ok] at h
  obtain ⟨fields, hfields, trecId, -, title, -, hostname, -, uri, -, snippet, -, pageRank, -, spamRank, -, rfl⟩ := h
  cases hit with
  | obj fields' =>
    obtain rfl : fields' = fields := by simpa [Value.fields] using hfields
    exact ⟨rfl, rfl, rfl⟩
  | _ => cases hfields

/-- What holds of a result with and without marks holds of the marked results. -/
theorem forall₂_marked {α : Type} {R : α → Result → Prop} {hits : List α} {results : List Result}
    (hR : ∀ hosts blocked i hit r, R hit r → R hit (markedAt hosts blocked i r)) (h : List.Forall₂ R hits results)
    (blocked : Bool) : List.Forall₂ R hits (marked results blocked) := by
  rw [List.forall₂_iff_get] at h ⊢
  rw [marked_eq_mapIdx]
  refine ⟨h.1.trans List.length_mapIdx.symm, fun i hi hi' => ?_⟩
  have hresult := h.2 i hi (h.1 ▸ hi)
  rw [List.get_eq_getElem, List.get_eq_getElem, List.getElem_mapIdx]
  exact hR _ _ _ _ _ hresult

/-- Marks do not change what a result has from its hit. -/
theorem forall₂_carries_marked {hits : List Value} {results : List Result} (h : List.Forall₂ Carries hits results)
    (blocked : Bool) : List.Forall₂ Carries hits (marked results blocked) :=
  forall₂_marked (fun _ _ _ _ _ hcarries => ⟨hcarries.score_eq, hcarries.documentId_eq, hcarries.index_eq⟩) h blocked

/-- An answer that can be read has hits, and a result for each. -/
theorem exists_of_read [Terminal] {settings : Settings} {q : RawQuery} {res total : Value} {noting : Bool}
    {results : List Result} (h : read settings q res noting = .ok (results, total)) :
    ∃ top hits parsed, hitsOf res = .ok top ∧ (top.getD "hits").itemsOrNone = .ok hits ∧
      List.Forall₂ Carries hits parsed ∧ results = marked parsed q.groupingBlocked.isTruthy := by
  simp only [read, parseAll, Outcome.bind_eq_ok, Outcome.pure_eq_ok] at h
  obtain ⟨results', ⟨top, htop, hits, hhits, parsed, hparsed, hmarked⟩, total', -, hnoted⟩ := h
  have hresults : results' = results := by
    split at hnoted
    · obtain ⟨fields, -, -, -, heq⟩ := by simpa only [Outcome.bind_eq_ok] using hnoted
      exact congrArg Prod.fst (Except.ok.inj heq)
    · exact congrArg Prod.fst (Except.ok.inj hnoted)
  refine ⟨top, hits, parsed, htop, hhits, ?_, hresults ▸ hmarked.symm⟩
  exact (Outcome.mapM_eq_ok_iff.1 hparsed).imp fun _ _ => carries_of_parse

/-- **Grouping marks the runs of hosts.** An answer that can be read has one result for each hit, in the
order of the hits and with their scores, identifiers and indices. If grouping is not blocked, a result can be
grouped exactly if the one before it has the same host, and it leads to more exactly if it is the last of a
run of two or more results of one host, at the end of the list as elsewhere. If grouping is blocked, no result
has a mark. The pass that marks the ends of runs of flags does so for any list of flags. -/
theorem read_groups [Terminal] (settings : Settings) (q : RawQuery) (res : Value) (noting : Bool) :
    (∀ results total, read settings q res noting = .ok (results, total) →
      (∃ top hits, hitsOf res = .ok top ∧ (top.getD "hits").itemsOrNone = .ok hits ∧
        List.Forall₂ Carries hits results) ∧
      (q.groupingBlocked.isTruthy = false → ∀ i r, results[i]? = some r →
        (r.groupingSuggested = true ↔
          ∃ before, 1 ≤ i ∧ results[i - 1]? = some before ∧ r.hostname = before.hostname) ∧
        (r.moreSuggested = true ↔ ∃ first < i, IsRun (results.map Result.hostname) first i)) ∧
      (q.groupingBlocked.isTruthy = true →
        ∀ r ∈ results, r.groupingSuggested = false ∧ r.moreSuggested = false)) ∧
    ∀ flags : List Bool, (markMore flags).length = flags.length ∧
      ∀ i, (markMore flags)[i]? = some true ↔
        flags[i]? = some true ∧ (i + 1 = flags.length ∨ flags[i + 1]? = some false) := by
  refine ⟨fun results total h => ?_, fun flags =>
    ⟨length_markMore flags, getElem?_markMore_eq_some_true_iff flags⟩⟩
  obtain ⟨top, hits, parsed, htop, hhits, hcarries, rfl⟩ := exists_of_read h
  have hresult : ∀ i r, (marked parsed q.groupingBlocked.isTruthy)[i]? = some r →
      ∃ r', r = markedAt (parsed.map Result.hostname) q.groupingBlocked.isTruthy i r' := by
    intro i r hr
    rw [getElem?_marked, Option.map_eq_some_iff] at hr
    obtain ⟨r', -, rfl⟩ := hr
    exact ⟨r', rfl⟩
  refine ⟨⟨top, hits, htop, hhits, forall₂_carries_marked hcarries _⟩, fun hfree i r hr => ?_,
    fun hblocked r hr => ?_⟩
  · rw [← repeats_map_hostname_iff hr, exists_isRun_iff, map_hostname_marked]
    obtain ⟨r', rfl⟩ := hresult i r hr
    simp [markedAt, hfree]
  · obtain ⟨i, hi⟩ := List.mem_iff_getElem?.1 hr
    obtain ⟨r', rfl⟩ := hresult i r hi
    simp [markedAt, hblocked]

/-- Two hits of one host and one of another: the second result leads to more. -/
theorem read_groups_two_hosts :
    let hit := fun host : String =>
      Value.obj [("_id", .int 0), ("_source", .obj [("warc_target_hostname", .str host)])]
    let res : Value := .obj [("hits", .obj [("hits", .list [hit "a", hit "a", hit "b"])])]
    let q := ({ text := "owls", language := "en" } : Query).raw
    ∃ results total r, read {} q res false = .ok (results, total) ∧ results[1]? = some r ∧
      r.moreSuggested = true ∧ ∃ first < 1, IsRun (results.map Result.hostname) first 1 := by
  intro hit res q
  obtain ⟨results, total, r, hread, hr, hmore⟩ : ∃ results total r,
      read {} q res false = .ok (results, total) ∧ results[1]? = some r ∧ r.moreSuggested = true :=
    ⟨_, _, _, rfl, rfl, rfl⟩
  obtain ⟨-, hfree, -⟩ := (read_groups {} q res false).1 results total hread
  exact ⟨results, total, r, hread, hr, hmore, (hfree rfl 1 r hr).2.1 hmore⟩

end PageSearch.Hit
