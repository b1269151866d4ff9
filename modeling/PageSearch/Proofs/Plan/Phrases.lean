import PageSearch.Plan.Compile
import PageSearch.Proofs.Plan.Clause
import PageSearch.Proofs.Value.Writing

/-!
# The slops of a plan

The phrases of a first stage have the slop of the plan, so that a simple search has none there
(`slopsIn_preQuery`). The phrases of a second stage have the slops that the settings give to the fields of a
simple search (`slopsIn_rescoreQuery`).
-/

namespace PageSearch.Plan

/-- All phrases among some clauses have a slop of a kind. -/
def SlopsIn (p : Int → Prop) (clauses : List Clause) : Prop :=
  ∀ field text slop boost, Clause.phrase field text slop boost ∈ clauses → p slop

variable {p : Int → Prop} {settings : Settings} {plan : Plan} {q : RawQuery}

/-! ### Lists of clauses -/

theorem slopsIn_nil : SlopsIn p [] := fun _ _ _ _ h => nomatch h

theorem slopsIn_append {cs cs' : List Clause} : SlopsIn p (cs ++ cs') ↔ SlopsIn p cs ∧ SlopsIn p cs' := by
  constructor
  · intro h
    exact ⟨fun field text slop boost hc => h field text slop boost (List.mem_append_left _ hc),
      fun field text slop boost hc => h field text slop boost (List.mem_append_right _ hc)⟩
  · rintro ⟨h, h'⟩ field text slop boost hc
    rcases List.mem_append.1 hc with hc | hc
    · exact h field text slop boost hc
    · exact h' field text slop boost hc

/-- The slops of a query are those of its four lists. -/
theorem slopsIn_clauses {bool : BoolQuery} :
    SlopsIn p bool.clauses ↔
      SlopsIn p bool.must ∧ SlopsIn p bool.should ∧ SlopsIn p bool.filter ∧ SlopsIn p bool.mustNot := by
  simp only [BoolQuery.clauses, slopsIn_append, and_assoc]

/-- Clauses that are no phrases have no slops. -/
theorem slopsIn_of_ne {cs : List Clause}
    (h : ∀ c ∈ cs, ∀ field text slop boost, c ≠ .phrase field text slop boost) : SlopsIn p cs :=
  fun field text slop boost hc => absurd rfl (h _ hc field text slop boost)

/-- The phrases that a rendered query asks for have the slops of its clauses. -/
theorem SlopsIn.exists_slop {bool : BoolQuery} (h : SlopsIn p bool.clauses) {phrase : Value}
    (hphrase : BoolQuery.AsksForPhrase bool.toValue phrase) :
    ∃ slop : Int, phrase.get? "slop" = some (.int slop) ∧ p slop := by
  obtain ⟨field, text, slop, boost, hclause, hslop⟩ := BoolQuery.exists_of_asksForPhrase hphrase
  exact ⟨slop, hslop, h field text slop boost hclause⟩

/-! ### Steps without phrases -/

theorem slopsIn_matchAll : SlopsIn p [.matchAll] :=
  slopsIn_of_ne fun c hc field text slop boost heq => by simp [heq] at hc

theorem slopsIn_termFilters {terms : List Clause} (h : termFilters settings q = .ok terms) : SlopsIn p terms := by
  simp only [termFilters, Outcome.bind_eq_ok, Outcome.pure_eq_ok] at h
  obtain ⟨demands, -, rfl⟩ := h
  refine slopsIn_of_ne fun c hc field text slop boost heq => ?_
  subst heq
  simp at hc

theorem slopsIn_rangeFilters {negate : Bool} {ranges : List Clause}
    (h : rangeFilters settings q negate = .ok ranges) : SlopsIn p ranges := by
  simp only [rangeFilters, Outcome.bind_eq_ok, Outcome.pure_eq_ok] at h
  obtain ⟨found, hfound, rfl⟩ := h
  refine slopsIn_of_ne fun c hc field text slop boost heq => ?_
  subst heq
  obtain ⟨spec, -, hspec⟩ := Outcome.exists_of_mem_of_mapM hfound (by simpa using hc)
  rw [rangeClause?] at hspec
  split at hspec
  · cases hspec
  · obtain ⟨name, -, hname⟩ := by simpa only [Outcome.bind_eq_ok, Outcome.pure_eq_ok] using hspec
    cases hname

theorem slopsIn_addFilters {bool bool' : BoolQuery} (h : addFilters settings q bool = .ok bool')
    (hbool : SlopsIn p bool.clauses) : SlopsIn p bool'.clauses := by
  simp only [addFilters, Outcome.bind_eq_ok, Outcome.pure_eq_ok] at h
  obtain ⟨inside, hinside, outside, houtside, terms, hterms, rfl⟩ := h
  rw [slopsIn_clauses] at hbool ⊢
  obtain ⟨hmust, hshould, hfilter, hmustNot⟩ := hbool
  simp only [slopsIn_append]
  exact ⟨hmust, hshould, ⟨⟨hfilter, slopsIn_termFilters hterms⟩, slopsIn_rangeFilters hinside⟩,
    hmustNot, slopsIn_rangeFilters houtside⟩

theorem slopsIn_wordsClause {specs : List FieldSpec} {flags : List String} {weighted : Bool} {minimum : Value}
    {words : Clause} (h : wordsClause q specs flags weighted minimum = .ok words) : SlopsIn p [words] := by
  simp only [wordsClause, Outcome.bind_eq_ok, Outcome.pure_eq_ok] at h
  obtain ⟨names, -, rfl⟩ := h
  exact slopsIn_of_ne fun c hc field text slop boost heq => by simp [heq] at hc

theorem slopsIn_recallClauses {excluded : Value} {loose : List Clause}
    (h : recallClauses settings q excluded = .ok loose) : SlopsIn p loose := by
  simp only [recallClauses, Outcome.bind_eq_ok, Outcome.pure_eq_ok] at h
  obtain ⟨found, hfound, rfl⟩ := h
  refine slopsIn_of_ne fun c hc field text slop boost heq => ?_
  subst heq
  obtain ⟨spec, -, hspec⟩ := Outcome.exists_of_mem_of_mapM hfound (by simpa using hc)
  obtain ⟨name, -, holds, -, hname⟩ := by simpa only [Outcome.bind_eq_ok, Outcome.pure_eq_ok] using hspec
  split at hname <;> cases hname

theorem slopsIn_hostBoosts (settings : Settings) (q : RawQuery) : SlopsIn p (hostBoosts settings q) :=
  slopsIn_of_ne fun c hc field text slop boost heq => by simp [heq, hostBoosts] at hc

theorem slopsIn_writtenHostBoosts {boosts : List Clause} (h : writtenHostBoosts settings q = .ok boosts) :
    SlopsIn p boosts := by
  obtain ⟨-, rfl⟩ := Value.afterWriting_eq_ok.1 h
  exact slopsIn_hostBoosts settings q

/-! ### Steps with phrases -/

/-- The phrases of a phrase search have the slop that is asked for. -/
theorem slopsIn_phraseClauses {slop : Int} {phrases : List Clause}
    (h : phraseClauses settings q slop = .ok phrases) : SlopsIn (· = slop) phrases := by
  intro field text slop' boost hphrase
  obtain ⟨spec, -, hspec⟩ := Outcome.exists_of_mem_of_mapM h hphrase
  obtain ⟨name, -, hname⟩ := by simpa only [Outcome.bind_eq_ok, Outcome.pure_eq_ok] using hspec
  injection hname with _ _ hslop
  exact hslop.symm

/-- The words that stand near each other have the slops of the settings. -/
theorem slopsIn_proximityClauses {near : List Clause} (h : proximityClauses settings q = .ok near) :
    SlopsIn (fun slop => ∃ spec ∈ settings.mainFields, slop = spec.proximitySlop) near := by
  intro field text slop boost hphrase
  obtain ⟨spec, hspec, hname⟩ := Outcome.exists_of_mem_of_mapM h hphrase
  obtain ⟨name, -, hname⟩ := by simpa only [Outcome.bind_eq_ok, Outcome.pure_eq_ok] using hname
  injection hname with _ _ hslop
  exact ⟨spec, (List.mem_filter.1 hspec).1, hslop.symm⟩

/-! ### Stages -/

/-- **The phrases of a first stage** have the slop of the plan. -/
theorem slopsIn_preQuery {bool : BoolQuery} (h : plan.preQuery settings q = .ok bool) :
    SlopsIn (fun slop => plan = .phrase slop) bool.clauses := by
  cases plan with
  | simple =>
    simp only [preQuery, simplePreQuery, Outcome.bind_eq_ok] at h
    obtain ⟨filtered, hfiltered, empty, -, h⟩ := h
    have hadded : SlopsIn (fun slop => simple = phrase slop) filtered.clauses :=
      slopsIn_addFilters hfiltered slopsIn_nil
    have hlists := (slopsIn_clauses.1 hadded).2
    split at h
    · obtain ⟨words, hwords, rfl⟩ := by simpa only [Outcome.bind_eq_ok, Outcome.pure_eq_ok] using h
      obtain rfl := Except.ok.inj hwords
      exact slopsIn_clauses.2 ⟨slopsIn_matchAll, hlists⟩
    · obtain ⟨words, hwords, rfl⟩ := by simpa only [Outcome.bind_eq_ok, Outcome.pure_eq_ok] using h
      exact slopsIn_clauses.2 ⟨slopsIn_wordsClause hwords, hlists⟩
  | phrase slop =>
    simp only [preQuery, phrasePreQuery, Outcome.bind_eq_ok] at h
    obtain ⟨empty, -, h⟩ := h
    split at h
    · exact slopsIn_addFilters h (slopsIn_clauses.2 ⟨slopsIn_matchAll, slopsIn_nil, slopsIn_nil, slopsIn_nil⟩)
    · simp only [Outcome.bind_eq_ok] at h
      obtain ⟨phrases, hphrases, names, -, loose, hloose, boosts, hboosts, h⟩ := h
      refine slopsIn_addFilters h (slopsIn_clauses.2 ⟨?_, ?_, slopsIn_nil, slopsIn_nil⟩)
      · split
        · exact slopsIn_matchAll
        · intro field text slop' boost hphrase
          rw [slopsIn_phraseClauses hphrases field text slop' boost hphrase]
      · exact slopsIn_append.2 ⟨slopsIn_recallClauses hloose, slopsIn_writtenHostBoosts hboosts⟩
  | bare => cases h

/-- **The phrases of a second stage** have the slops of the settings. -/
theorem slopsIn_rescoreQuery {bool : BoolQuery} (h : plan.rescoreQuery settings q = .ok (some bool)) :
    SlopsIn (fun slop => ∃ spec ∈ settings.mainFields, slop = spec.proximitySlop) bool.clauses := by
  cases plan with
  | simple =>
    simp only [rescoreQuery, Outcome.bind_eq_ok, Outcome.pure_eq_ok, Option.some.injEq] at h
    obtain ⟨words, hwords, near, hnear, boosts, hboosts, rfl⟩ := h
    exact slopsIn_clauses.2 ⟨slopsIn_wordsClause hwords,
      slopsIn_append.2 ⟨slopsIn_proximityClauses hnear, slopsIn_writtenHostBoosts hboosts⟩, slopsIn_nil, slopsIn_nil⟩
  | phrase slop => cases h
  | bare => cases h

end PageSearch.Plan
