import PageSearch.Backend.Connection

/-!
# The steps of a connection

What opening a client, opening one if none is held, searching and executing a request do to a connection, each as
one equation for each of its cases. Whether a client can be opened depends on the terms of the connection only, and so
does whether an error can be noted; no event changes these terms (`sameTerms_step`).
-/

namespace PageSearch.Connection

/-- A connection to which nothing has happened. -/
def fresh (settings : Value) (verbose canLog : Bool) (encodes : LogEntry → Bool) (engine : Except EngineError Value) :
    Connection :=
  { settings, verbose, canLog, encodes, engine }

variable {c d : Connection}

/-! ### Opening -/

/-- The connection with a client that is opened now. -/
def opening (c : Connection) (params : Fields) : Connection :=
  { c with held := some c.opened.length, opened := c.opened ++ [params] }

theorem connect_of_ok {params : Fields} (h : c.notedParameters = .ok params) :
    c.connect = (.ok (), c.opening params) := by
  rw [connect, h]
  rfl

theorem connect_of_error {fault : Fault} (h : c.notedParameters = .error fault) :
    c.connect = (.error fault, c) := by
  rw [connect, h]

theorem ensure_of_held (h : c.held ≠ none) : c.ensure = (.ok (), c) := by
  rw [ensure, if_pos (Option.isSome_iff_ne_none.2 h)]

theorem ensure_of_not_held (h : c.held = none) : c.ensure = c.connect := by
  rw [ensure, h]
  rfl

/-- Before a request is executed, a client is held already, or one is opened, or none can be. -/
theorem ensure_cases (c : Connection) :
    (c.held ≠ none ∧ c.ensure = (.ok (), c)) ∨
      (∃ params, c.held = none ∧ c.notedParameters = .ok params ∧ c.ensure = (.ok (), c.opening params)) ∨
      ∃ fault, c.held = none ∧ c.notedParameters = .error fault ∧ c.ensure = (.error fault, c) := by
  by_cases hheld : c.held = none
  · rw [ensure_of_not_held hheld]
    cases hparams : c.notedParameters with
    | ok params => exact .inr (.inl ⟨params, hheld, rfl, connect_of_ok hparams⟩)
    | error fault => exact .inr (.inr ⟨fault, hheld, rfl, connect_of_error hparams⟩)
  · exact .inl ⟨hheld, ensure_of_held hheld⟩

/-! ### Searching -/

/-- What is to be noted of a call that an engine answers or fails. -/
def entriesOf (engine : Except EngineError Value) (call : Call) (context : Value) : List LogEntry :=
  match engine with
  | .ok _ => []
  | .error e => [entryOf call context e]

/-- An entry that the log can hold, if it can be opened at all. -/
structure CanNote (c : Connection) (entry : LogEntry) : Prop where
  /-- The entry has a text. -/
  isWritable : entry.isWritable = true
  /-- The text can be encoded. -/
  encodes : c.canLog = true → c.encodes entry = true

/-- The entries of which some are noted: all of them if the log can be opened. -/
def noting (c : Connection) (entries : List LogEntry) : List LogEntry := if c.canLog then entries else []

/-- The connection after a call of which something is noted. -/
def called (c : Connection) (call : Call) (noted : List LogEntry) : Connection :=
  { c with calls := c.calls ++ [call], log := c.log ++ noted }

theorem note_of_canNote {entry : LogEntry} (h : c.CanNote entry) :
    c.note entry = .ok { c with log := c.log ++ c.noting [entry] } := by
  unfold note noting
  rw [if_neg (by simp [h.isWritable])]
  by_cases hlog : c.canLog = true
  · rw [if_neg (by simp [hlog]), if_pos (h.encodes hlog), if_pos hlog]
  · rw [if_pos (by simp [hlog]), if_neg hlog, List.append_nil]

/-- The fault of an entry that cannot be noted. -/
def noteFault (entry : LogEntry) : Fault := if entry.isWritable then encodingFault else .notANumber

theorem note_of_not_canNote {entry : LogEntry} (h : ¬ c.CanNote entry) : c.note entry = .error (noteFault entry) := by
  unfold note noteFault
  by_cases hwritable : entry.isWritable = true
  · by_cases hlog : c.canLog = true
    · have hencodes : ¬ c.encodes entry = true := fun hencodes => h ⟨hwritable, fun _ => hencodes⟩
      rw [if_neg (by simp [hwritable]), if_neg (by simp [hlog]), if_neg hencodes, if_pos hwritable]
    · exact absurd ⟨hwritable, fun hlog' => absurd hlog' hlog⟩ h
  · rw [if_pos (by simp [hwritable]), if_neg hwritable]

theorem called_nil (c : Connection) (call : Call) : { c with calls := c.calls ++ [call] } = c.called call [] := by
  rw [called, List.append_nil]

/-- **An answer** is passed on, and nothing is noted. -/
theorem search_of_ok {res : Value} (h : c.engine = .ok res) (call : Call) (context : Value) :
    c.search call context = (.ok res, c.called call []) := by
  unfold search
  rw [called_nil, h]

section Failing

variable {e : EngineError} {call : Call} {context : Value} (h : c.engine = .error e)
include h

/-- **An error** that can be noted is a failure of the engine. -/
theorem search_of_canNote (hcan : c.CanNote (entryOf call context e)) :
    c.search call context =
      (.error (.engineFailed (failureMessage e)), c.called call (c.noting [entryOf call context e])) := by
  have hcalled : (c.called call []).CanNote (entryOf call context e) := ⟨hcan.isWritable, hcan.encodes⟩
  unfold search
  rw [called_nil, h]
  dsimp only
  rw [note_of_canNote hcalled]
  simp only [called, List.append_nil]
  rfl

/-- An error that cannot be noted is another fault. -/
theorem search_of_not_canNote (hcan : ¬ c.CanNote (entryOf call context e)) :
    c.search call context = (.error (noteFault (entryOf call context e)), c.called call []) := by
  have hcalled : ¬ (c.called call []).CanNote (entryOf call context e) :=
    fun hcalled => hcan ⟨hcalled.isWritable, hcalled.encodes⟩
  unfold search
  rw [called_nil, h]
  dsimp only
  rw [note_of_not_canNote hcalled]

end Failing

/-- In any case there is one call more, and nothing else happens but to the log. -/
theorem exists_search_snd (c : Connection) (call : Call) (context : Value) :
    ∃ noted, (c.search call context).2 = c.called call noted := by
  cases hengine : c.engine with
  | ok res => exact ⟨_, congrArg Prod.snd (search_of_ok hengine call context)⟩
  | error e =>
    by_cases hcan : c.CanNote (entryOf call context e)
    · exact ⟨_, congrArg Prod.snd (search_of_canNote hengine hcan)⟩
    · exact ⟨_, congrArg Prod.snd (search_of_not_canNote hengine hcan)⟩

/-! ### Executing -/

theorem execute_of_ensure_error {fault : Fault} (h : c.ensure = (.error fault, d)) (request : Request)
    (context : Value) : execute request context c = (.error fault, d) := by
  rw [execute, h]

theorem execute_of_callOf_error (h : c.ensure = (.ok (), d)) {request : Request} {fault : Fault}
    (hcall : callOf request = .error fault) (context : Value) : execute request context c = (.error fault, d) := by
  rw [execute, h]
  simp only [hcall]

theorem execute_of_callOf_ok (h : c.ensure = (.ok (), d)) {request : Request} {call : Call}
    (hcall : callOf request = .ok call) (context : Value) : execute request context c = d.search call context := by
  rw [execute, h]
  simp only [hcall]

/-- A request is executed after a client is ensured, and makes a call or none. -/
theorem execute_snd_cases (request : Request) (context : Value) (c : Connection) :
    (execute request context c).2 = c.ensure.2 ∨
      ∃ call noted, (execute request context c).2 = c.ensure.2.called call noted := by
  obtain ⟨⟨outcome, d⟩, hd⟩ : ∃ result, c.ensure = result := ⟨_, rfl⟩
  rw [hd]
  cases outcome with
  | error fault => exact .inl (congrArg Prod.snd (execute_of_ensure_error hd request context))
  | ok _ =>
    cases hcall : callOf request with
    | error fault => exact .inl (congrArg Prod.snd (execute_of_callOf_error hd hcall context))
    | ok call =>
      obtain ⟨noted, hnoted⟩ := exists_search_snd d call context
      exact .inr ⟨call, noted, (congrArg Prod.snd (execute_of_callOf_ok hd hcall context)).trans hnoted⟩

/-! ### What no event changes -/

/-- Two connections with the same terms: what they are given, and what their logs can hold. -/
structure SameTerms (c d : Connection) : Prop where
  /-- The settings are the same. -/
  settings : d.settings = c.settings
  /-- The host is noted for both or for none. -/
  verbose : d.verbose = c.verbose
  /-- The log can be opened for both or for none. -/
  canLog : d.canLog = c.canLog
  /-- The same entries can be encoded. -/
  encodes : d.encodes = c.encodes

theorem SameTerms.refl (c : Connection) : SameTerms c c := ⟨rfl, rfl, rfl, rfl⟩

theorem SameTerms.trans {e : Connection} (h : SameTerms c d) (h' : SameTerms d e) : SameTerms c e :=
  ⟨h'.settings.trans h.settings, h'.verbose.trans h.verbose, h'.canLog.trans h.canLog, h'.encodes.trans h.encodes⟩

theorem SameTerms.notedParameters_eq (h : SameTerms c d) : d.notedParameters = c.notedParameters := by
  rw [notedParameters, notedParameters, h.settings, h.verbose]

theorem SameTerms.canNote_iff (h : SameTerms c d) (entry : LogEntry) : d.CanNote entry ↔ c.CanNote entry := by
  have hencodes : (d.canLog = true → d.encodes entry = true) ↔ (c.canLog = true → c.encodes entry = true) := by
    rw [h.canLog, h.encodes]
  exact ⟨fun hd => ⟨hd.isWritable, hencodes.1 hd.encodes⟩, fun hc => ⟨hc.isWritable, hencodes.2 hc.encodes⟩⟩

theorem sameTerms_connect (c : Connection) : SameTerms c c.connect.2 := by
  cases hparams : c.notedParameters with
  | ok params =>
    rw [connect_of_ok hparams]
    exact ⟨rfl, rfl, rfl, rfl⟩
  | error fault =>
    rw [connect_of_error hparams]
    exact .refl c

theorem sameTerms_ensure (c : Connection) : SameTerms c c.ensure.2 ∧ c.ensure.2.engine = c.engine := by
  rcases ensure_cases c with ⟨-, h⟩ | ⟨params, -, -, h⟩ | ⟨fault, -, -, h⟩ <;> rw [h] <;>
    exact ⟨⟨rfl, rfl, rfl, rfl⟩, rfl⟩

/-- **No event changes** the terms of a connection. -/
theorem sameTerms_step (c : Connection) (event : Event) : SameTerms c (c.step event).2 := by
  cases event with
  | connect => exact sameTerms_connect c
  | close =>
    change SameTerms c c.close
    rw [close]
    cases c.held <;> exact ⟨rfl, rfl, rfl, rfl⟩
  | execute request context =>
    obtain ⟨hensure, -⟩ := sameTerms_ensure c
    change SameTerms c (execute request context c).2
    rcases execute_snd_cases request context c with h | ⟨call, noted, h⟩
    · rwa [h]
    · rw [h]
      exact hensure.trans ⟨rfl, rfl, rfl, rfl⟩
  | setEngine engine => exact ⟨rfl, rfl, rfl, rfl⟩

theorem run_cons (c : Connection) (event : Event) (events : List Event) :
    c.run (event :: events) = (c.step event).2.run events := rfl

end PageSearch.Connection
