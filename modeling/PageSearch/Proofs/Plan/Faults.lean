import PageSearch.Proofs.Field.Localization
import PageSearch.Proofs.Plan.Compilation
import PageSearch.Proofs.Plan.Filters

/-!
# Faults of a compilation

A query that was made of a text has parts of the right kinds, so that a variant of a plan that does not compile
it has one reason only: the language cannot be put into the names of fields (`failsOnly_compile`). Each step
passes the fault of the names on. The check of the request at the end adds none.
-/

namespace PageSearch.Plan

open Outcome

/-- The faults of a language that cannot be put into names. -/
def IsLanguageFault (language : String) (fault : Fault) : Prop := Field.expansion (.str language) = .error fault

variable {settings : Settings} {plan : Plan} {q : Query}

/-! ### Names -/

theorem failsOnly_localize (q : Query) (name : String) :
    FailsOnly (IsLanguageFault q.language) (localize q.raw name) := by
  by_cases hname : name = ""
  · subst hname
    exact failsOnly_ok ""
  · rw [localize, Field.localizeIn_eq hname]
    exact FailsOnly.map (fun fault hfault => hfault) _

theorem failsOnly_fieldNames (q : Query) (specs : List FieldSpec) (weighted : Bool) :
    FailsOnly (IsLanguageFault q.language) (fieldNames q.raw specs weighted) :=
  .mapM fun spec _ => (failsOnly_localize q spec.name).bind fun _ _ => failsOnly_ok _

/-! ### Clauses -/

theorem failsOnly_wordsClause (q : Query) (specs : List FieldSpec) (flags : List String) (weighted : Bool)
    (minimum : Value) : FailsOnly (IsLanguageFault q.language) (wordsClause q.raw specs flags weighted minimum) :=
  (failsOnly_fieldNames q specs weighted).bind fun _ _ => failsOnly_ok _

theorem failsOnly_proximityClauses (settings : Settings) (q : Query) :
    FailsOnly (IsLanguageFault q.language) (proximityClauses settings q.raw) :=
  .mapM fun spec _ => (failsOnly_localize q spec.name).bind fun _ _ => failsOnly_ok _

theorem failsOnly_phraseClauses (settings : Settings) (q : Query) (slop : Int) :
    FailsOnly (IsLanguageFault q.language) (phraseClauses settings q.raw slop) :=
  .mapM fun spec _ => (failsOnly_localize q spec.name).bind fun _ _ => failsOnly_ok _

theorem failsOnly_recallClauses (settings : Settings) (q : Query) (excluded : List String) :
    FailsOnly (IsLanguageFault q.language) (recallClauses settings q.raw (.strings excluded)) := by
  refine FailsOnly.bind (.mapM fun spec _ => ?_) fun _ _ => failsOnly_ok _
  exact (failsOnly_localize q spec.name).bind fun _ _ => failsOnly_ok _

theorem failsOnly_rangeFilters (settings : Settings) (q : Query) (negate : Bool) :
    FailsOnly (IsLanguageFault q.language) (rangeFilters settings q.raw negate) := by
  refine FailsOnly.bind (.mapM fun spec _ => ?_) fun _ _ => failsOnly_ok _
  rw [rangeClause?]
  split
  · exact failsOnly_ok none
  · exact (failsOnly_localize q spec.name).bind fun _ _ => failsOnly_ok _

theorem failsOnly_addFilters (settings : Settings) (q : Query) (bool : BoolQuery) :
    FailsOnly (IsLanguageFault q.language) (addFilters settings q.raw bool) := by
  refine (failsOnly_rangeFilters settings q false).bind fun inside _ =>
    (failsOnly_rangeFilters settings q true).bind fun outside _ => ?_
  rw [termFilters_raw]
  exact failsOnly_ok _

/-! ### Stages -/

theorem failsOnly_preQuery (settings : Settings) (q : Query) (hplan : plan ≠ .bare) :
    FailsOnly (IsLanguageFault q.language) (plan.preQuery settings q.raw) := by
  cases plan with
  | simple =>
    refine (failsOnly_addFilters settings q {}).bind fun filtered _ => ?_
    refine FailsOnly.bind (failsOnly_ok _) fun empty _ => ?_
    split
    · exact failsOnly_ok _
    · exact (failsOnly_wordsClause q _ _ _ _).bind fun _ _ => failsOnly_ok _
  | phrase slop =>
    refine FailsOnly.bind (failsOnly_ok _) fun empty _ => ?_
    split
    · exact failsOnly_addFilters settings q _
    · exact (failsOnly_phraseClauses settings q slop).bind fun _ _ =>
        (failsOnly_fieldNames q _ _).bind fun names _ =>
          (failsOnly_recallClauses settings q names).bind fun _ _ => failsOnly_addFilters settings q _
  | bare => exact absurd rfl hplan

theorem failsOnly_rescoreQuery (settings : Settings) (plan : Plan) (q : Query) :
    FailsOnly (IsLanguageFault q.language) (plan.rescoreQuery settings q.raw) := by
  cases plan with
  | simple =>
    exact (failsOnly_wordsClause q _ _ _ _).bind fun _ _ =>
      (failsOnly_proximityClauses settings q).bind fun _ _ => failsOnly_ok _
  | phrase slop => exact failsOnly_ok none
  | bare => exact failsOnly_ok none

theorem failsOnly_highlightSizes (settings : Settings) (q : Query) (hplan : plan ≠ .bare) :
    FailsOnly (IsLanguageFault q.language) (plan.highlightSizes settings q.raw) := by
  cases plan with
  | simple =>
    exact (failsOnly_localize q _).bind fun _ _ => (failsOnly_localize q _).bind fun _ _ => failsOnly_ok _
  | phrase slop => exact (failsOnly_localize q _).bind fun _ _ => failsOnly_ok _
  | bare => exact absurd rfl hplan

theorem failsOnly_nodeLimit (settings : Settings) (language : String) (hplan : plan ≠ .bare) :
    FailsOnly (IsLanguageFault language) (plan.nodeLimit settings) := by
  cases plan with
  | simple => exact failsOnly_ok _
  | phrase slop => exact failsOnly_ok _
  | bare => exact absurd rfl hplan

/-! ### Compilations -/

theorem failsOnly_parts (settings : Settings) (q : Query) (hplan : plan ≠ .bare) :
    FailsOnly (IsLanguageFault q.language) (plan.parts settings q.raw) := by
  refine FailsOnly.bind (failsOnly_ok _) fun _ _ => ?_
  refine (failsOnly_preQuery settings q hplan).bind fun _ _ => ?_
  refine (failsOnly_rescoreQuery settings plan q).bind fun _ _ => ?_
  refine (failsOnly_highlightSizes settings q hplan).bind fun _ _ => ?_
  refine (failsOnly_nodeLimit settings _ hplan).bind fun _ _ => ?_
  exact FailsOnly.bind (.mapM fun name _ => failsOnly_localize q name) fun _ _ => failsOnly_ok _

/-- **A compilation fails** only with the fault of a language that cannot be put into names. -/
theorem failsOnly_compile (settings : Settings) (q : Query) (hplan : plan ≠ .bare) (start size explain : Value) :
    FailsOnly (IsLanguageFault q.language) (plan.compile settings q.raw start size explain) := by
  refine (failsOnly_parts settings q hplan).bind fun c hc => ?_
  rw [check_request (isCompiled_of_parts hc)]
  exact failsOnly_ok _

/-- A language that cannot be put into names is no usable template. -/
theorem IsLanguageFault.exists_template {language : String} {fault : Fault} (h : IsLanguageFault language fault) :
    ∃ error, fault = .template error := by
  have htext : Field.expansion (.str language) = Field.expandText language := by
    by_cases hlanguage : language = ""
    · subst hlanguage
      rfl
    · simp [Field.expansion, Value.textOrEmpty, Value.isTruthy, Value.asText, hlanguage, bind, Except.bind]
  rw [IsLanguageFault, htext, Field.expandText] at h
  split at h
  · cases h
  · rename_i error _
    exact ⟨error, (Except.error.inj h).symm⟩

end PageSearch.Plan
