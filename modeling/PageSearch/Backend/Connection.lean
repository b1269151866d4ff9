import PageSearch.Backend.ErrorLog

/-!
# The connection to the search engine

A connection holds at most one client of the engine. It opens one when it is told to and when it has
to execute a request without one, and closes the one that it holds. Opening does not look at the
client that is held already; that client is given up and stays open.

An error of the engine is noted in the log before it is told as a failure. Where the log cannot be
opened, nothing is noted; but an entry that has no text, or that the log cannot hold, is a fault of its
own, which takes the place of the failure.

Clients are numbered in the order in which they are opened. The record of what happened is a part of
the state: the opened and the closed clients, the calls, and the log of errors.
-/

namespace PageSearch

/-- A search that a client was asked for. -/
structure Call where
  /-- The indices, in one text. -/
  index : String
  /-- The search body. -/
  body : Fields

/-- A connection, with what has happened to it. -/
structure Connection where
  /-- The settings of the connection. -/
  settings : Value
  /-- Whether the host is noted on the terminal when a client is opened. -/
  verbose : Bool := true
  /-- Whether the log can be opened. -/
  canLog : Bool := true
  /-- Whether the log can hold the text of an entry. A text may have characters that the encoding of the
  log does not have. -/
  encodes : LogEntry → Bool := fun _ => true
  /-- What the engine answers, or the error that it raises. -/
  engine : Except EngineError Value := .ok (.obj [])
  /-- The number of the client that is held. -/
  held : Option Nat := none
  /-- What the opened clients were opened with, in order. -/
  opened : List Fields := []
  /-- The numbers of the closed clients, in order. -/
  closed : List Nat := []
  /-- The searches, in order. -/
  calls : List Call := []
  /-- The noted errors, in order. -/
  log : List LogEntry := []

namespace Connection

/-- The settings that a client takes over if they count as true. -/
def optionalSettings : List String := ["ca_certs", "api_key", "request_timeout"]

/-- What a client is opened with, from the settings of the connection. -/
def parametersOf (settings : Fields) : Outcome Fields :=
  match settings.get? "host" with
  | none => .error (.missingField "host")
  | some host =>
    .ok (("hosts", host) :: optionalSettings.filterMap fun key =>
      if (settings.getD key).isTruthy then some (key, settings.getD key) else none)

/-- What a client is opened with. Settings that are no object have no host. -/
def parameters (settings : Value) : Outcome Fields :=
  match settings with
  | .obj fields => parametersOf fields
  | _ => .error .unsuitable

/-- What a client is opened with, once its host has been noted if that is wanted. -/
def notedParameters (c : Connection) : Outcome Fields := do
  let params ← parameters c.settings
  if c.verbose then (Fields.getD params "hosts").afterWriting params else .ok params

/-- Opens a client, which is held from now on. -/
def connect (c : Connection) : Outcome Unit × Connection :=
  match c.notedParameters with
  | .error fault => (.error fault, c)
  | .ok params =>
    (.ok (), { c with held := some c.opened.length, opened := c.opened ++ [params] })

/-- Opens a client if none is held. -/
def ensure (c : Connection) : Outcome Unit × Connection :=
  if c.held.isSome then (.ok (), c) else c.connect

/-- Closes the client that is held. -/
def close (c : Connection) : Connection :=
  match c.held with
  | some client => { c with held := none, closed := c.closed ++ [client] }
  | none => c

/-- The fault of an entry that the log cannot hold. -/
def encodingFault : Fault := .foreign "UnicodeEncodeError"

/-- Notes an error. The entry is written before the log is opened, and a log that cannot be opened is
left as it is. -/
def note (c : Connection) (entry : LogEntry) : Outcome Connection :=
  if !entry.isWritable then .error .notANumber
  else if !c.canLog then .ok c
  else if c.encodes entry then .ok { c with log := c.log ++ [entry] }
  else .error encodingFault

/-- The words for a failure of the engine. -/
def failureMessage (e : EngineError) : String := "Search backend failed: " ++ e.kind

/-- What is noted of an error. -/
def entryOf (call : Call) (context : Value) (e : EngineError) : LogEntry :=
  ⟨.str call.index, context, e, .value (.obj call.body)⟩

/-- Asks the client that is held for a search. An error is noted and becomes a failure, unless it cannot
be noted. -/
def search (c : Connection) (call : Call) (context : Value) : Outcome Value × Connection :=
  let called := { c with calls := c.calls ++ [call] }
  match c.engine with
  | .ok res => (.ok res, called)
  | .error e =>
    match called.note (entryOf call context e) with
    | .ok noted => (.error (.engineFailed (failureMessage e)), noted)
    | .error fault => (.error fault, called)

/-- The call that a request is. -/
def callOf (request : Request) : Outcome Call := do
  let body ← request.body
  return ⟨← request.indexName, body⟩

/-- Executes a request, with a client that is opened if none is held. -/
def execute (request : Request) (context : Value) (c : Connection) : Outcome Value × Connection :=
  match c.ensure with
  | (.error fault, c) => (.error fault, c)
  | (.ok (), c) =>
    match callOf request with
    | .error fault => (.error fault, c)
    | .ok call => c.search call context

/-- The connection as a backend. -/
def backend : Backend Connection where
  execute request context c := execute request (.str context) c

/-! ### Runs -/

/-- What can happen to a connection. -/
inductive Event where
  /-- A client is opened. -/
  | connect
  /-- The client that is held is closed. -/
  | close
  /-- A request is executed. -/
  | execute (request : Request) (context : Value)
  /-- The engine changes what it answers. -/
  | setEngine (engine : Except EngineError Value)

/-- One event: its outcome, which is `null` if there is nothing to tell, and the connection after it. -/
def step (c : Connection) : Event → Outcome Value × Connection
  | .connect => let (outcome, c) := c.connect; (outcome.map fun _ => .null, c)
  | .close => (.ok .null, c.close)
  | .execute request context => c.execute request context
  | .setEngine engine => (.ok .null, { c with engine })

/-- The connection after events, one after the other. -/
def run (c : Connection) (events : List Event) : Connection := events.foldl (fun c e => (c.step e).2) c

end Connection

end PageSearch
