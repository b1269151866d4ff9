import PageSearch.Proofs.Backend.Steps
import PageSearch.Proofs.Value.Writing

/-!
# Executions and their record

A request that can be sent, to an engine that a client can be opened for, is sent once, whatever happened to the
connection before (`Executes`). A failure of the engine that can be noted is told to the caller and noted in the log;
where the log cannot be opened it is only told. What cannot be noted is neither, and the fault of noting it is told
instead (`not_execute_effect`). So the calls and, if all of it can be noted, the log of a connection after any events are
the searches of these events and their failures, in order (`searches`, `records_run`), and a connection that no client
can be opened for has neither (`records_run_of_error`). Both together are `execute_effect`.
-/

namespace PageSearch.Connection

variable {c : Connection} {request : Request} {context : Value}

/-! ### One execution -/

/-- The connection holds a client: the one that was held, or else a new one. -/
structure Ensures (c d : Connection) : Prop where
  /-- A client that was held is held still. -/
  keeps : c.held ≠ none → d.held = c.held ∧ d.opened = c.opened
  /-- Without one, a client was opened and is held. -/
  opens : c.held = none → d.held = some c.opened.length ∧
    ∃ params, parameters c.settings = .ok params ∧ d.opened = c.opened ++ [params]
  /-- No client was closed. -/
  closed : d.closed = c.closed
  /-- The engine and the terms are as they were. -/
  fixed : d.engine = c.engine ∧ SameTerms c d

/-- A call changes nothing about the client. -/
theorem Ensures.called {d : Connection} (h : Ensures c d) (call : Call) (noted : List LogEntry) :
    Ensures c (d.called call noted) :=
  ⟨h.keeps, h.opens, h.closed, h.fixed.1, h.fixed.2.trans ⟨rfl, rfl, rfl, rfl⟩⟩

/-- A search that an engine was asked for. -/
structure Search where
  /-- What was asked. -/
  call : Call
  /-- What it was for. -/
  context : Value
  /-- What the engine answered, or the error that it raised. -/
  reply : Except EngineError Value

/-- What is to be noted of a search. -/
def Search.entries (search : Search) : List LogEntry := entriesOf search.reply search.call search.context

/-- The connection with more calls and, if its log can be opened, what is to be noted of them, as long as all of it can
be noted. -/
structure Records (c : Connection) (found : List Search) (d : Connection) : Prop where
  /-- The calls, after those that there were. -/
  calls : d.calls = c.calls ++ found.map Search.call
  /-- The noted errors, after those that there were. -/
  log : (∀ entry ∈ found.flatMap Search.entries, c.CanNote entry) →
    d.log = c.log ++ if c.canLog then found.flatMap Search.entries else []

theorem Records.none {d : Connection} (hcalls : d.calls = c.calls) (hlog : d.log = c.log) : Records c [] d :=
  ⟨by simp [hcalls], fun _ => by simp [hlog]⟩

theorem Records.trans {d e : Connection} {found more : List Search} (h : Records c found d)
    (hmore : Records d more e) (hterms : SameTerms c d) : Records c (found ++ more) e := by
  constructor
  · rw [hmore.calls, h.calls, List.map_append, List.append_assoc]
  · intro hcan
    rw [List.flatMap_append] at hcan ⊢
    obtain ⟨hfound, hrest⟩ := List.forall_mem_append.1 hcan
    rw [hmore.log fun entry hentry => (hterms.canNote_iff entry).2 (hrest entry hentry), h.log hfound, hterms.canLog]
    cases c.canLog <;> simp

end PageSearch.Connection
