import PageSearch.Proofs.Hit.Faults
import PageSearch.Proofs.Plan.Faults
import PageSearch.Proofs.Searcher.Preparation

/-!
# Faults of a search

Before the backend is asked, a search can have the fault of a blank text and faults of values (`failsOnly_prepare`),
and after that faults of values only (`failsOnly_answer`). The service passes these on as they are.
-/

namespace PageSearch

open Outcome

/-- A fault by which the service or the library refuses a request. -/
def Fault.IsRefusal : Fault → Prop
  | .invalid _ | .refused _ _ => True
  | _ => False

namespace Searcher

theorem failsOnly_validate (query : Value) : FailsOnly (· = .invalid emptyQueryMessage) (validate query) := by
  cases query with
  | str s =>
    unfold validate
    dsimp only
    split
    · exact failsOnly_error rfl
    · exact failsOnly_ok _
  | _ => exact failsOnly_error rfl

theorem failsOnly_buildQuery (settings : Settings) (text : String) (indices : Value) :
    FailsOnly Fault.IsOfValue (buildQuery settings text indices) := by
  rw [buildQuery_eq]
  exact (Settings.failsOnly_resolveIndices settings _).map _

theorem failsOnly_planFor (settings : Settings) (slop : Value) (mode : Mode) :
    FailsOnly Fault.IsOfValue (planFor settings slop mode) := by
  cases mode with
  | simple => exact failsOnly_ok _
  | phrase => exact (Settings.failsOnly_resolveSlop settings slop).bind fun _ _ => failsOnly_ok _

theorem failsOnly_note (plan : Plan) : FailsOnly Fault.IsOfValue (note plan) := by
  unfold note
  split
  · exact Value.failsOnly_isOfValue_afterWriting _ _
  · exact failsOnly_ok ()

/-- The plan of a search is one of the variants. -/
theorem ne_bare_of_planFor {settings : Settings} {slop : Value} {mode : Mode} {plan : Plan}
    (h : planFor settings slop mode = .ok plan) : plan ≠ .bare := by
  cases mode with
  | simple => exact Except.ok.inj h ▸ by decide
  | phrase =>
    simp only [planFor, Plan.ofSlop, Outcome.bind_eq_ok, Outcome.pure_eq_ok] at h
    obtain ⟨slop, -, rfl⟩ := h
    exact fun hbare => nomatch hbare

theorem failsOnly_compile {settings : Settings} {slop : Value} {mode : Mode} {plan : Plan}
    (hplan : planFor settings slop mode = .ok plan) (q : Query) (start size explain : Value) :
    FailsOnly Fault.IsOfValue (plan.compile settings q.raw start size explain) := by
  refine (Plan.failsOnly_compile settings q (ne_bare_of_planFor hplan) start size explain).mono fun fault hfault => ?_
  obtain ⟨error, rfl⟩ := hfault.exists_template
  trivial

/-- **A request that cannot be prepared** has no text, or there is something wrong with a value. -/
theorem failsOnly_prepare (settings : Settings) (mode : Mode) (params : SearchParams) :
    FailsOnly (fun fault => fault = .invalid emptyQueryMessage ∨ fault.IsOfValue) (prepare settings mode params) := by
  refine ((failsOnly_validate params.query).mono fun fault h => .inl h).bind fun text _ => ?_
  refine FailsOnly.mono ?_ fun fault h => .inr h
  refine (failsOnly_buildQuery settings text params.indices).bind fun q _ => ?_
  refine (failsOnly_planFor settings params.slop mode).bind fun plan hplan => ?_
  refine (failsOnly_note plan).bind fun _ _ => ?_
  refine (Settings.failsOnly_atLeastOne 1 params.start).bind fun start _ => ?_
  refine (Settings.failsOnly_atLeastOne _ params.size).bind fun size _ => ?_
  exact (failsOnly_compile hplan q _ _ _).bind fun _ _ => failsOnly_ok _

/-- **An answer that cannot be made** has something wrong with a value. -/
theorem failsOnly_answer [Terminal] (settings : Settings) (q : Query) (res : Value) (verbose : Bool) :
    FailsOnly Fault.IsOfValue (answer settings q res verbose) := by
  unfold answer
  refine (Hit.failsOnly_read settings q.raw res verbose).bind fun found _ => ?_
  exact (Terminal.failsOnly_outline _).bind fun _ _ => failsOnly_ok _

end Searcher

namespace App

theorem failsOnly_listTexts (v : Value) : FailsOnly Fault.IsOfValue (Param.listTexts v) := by
  cases v with
  | str s => exact failsOnly_ok _
  | _ => exact (Value.failsOnly_items _).bind fun items _ =>
      FailsOnly.mapM fun item _ => item.failsOnly_isOfValue_afterWriting _

theorem failsOnly_searchParams (inputs : Inputs) : FailsOnly Fault.IsOfValue (searchParams inputs) := by
  refine FailsOnly.bind ?_ fun _ _ =>
    (Value.failsOnly_isOfValue_afterWriting inputs.explain _).bind fun _ _ => failsOnly_ok _
  cases inputs.index with
  | null => exact failsOnly_ok none
  | _ => exact (failsOnly_listTexts _).bind fun _ _ => failsOnly_ok _

/-- The fault of a value is answered with as it is. -/
theorem refusal_of_isOfValue {fault : Fault} (h : fault.IsOfValue) : refusal fault = fault := by
  cases fault with
  | invalid message => exact h.elim
  | engineFailed message => exact h.elim
  | _ => rfl

end App

end PageSearch
