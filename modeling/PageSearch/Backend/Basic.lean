import PageSearch.Plan.Request

/-!
# Backends

A backend executes requests. It may remember things from one request to the next, so an execution
takes a state and gives the next one, with or without a result.

`Scripted` is a backend that answers as it is told, and remembers what it was asked.
-/

namespace PageSearch

/-- The way of searching that a request is for, as it is noted in a log. -/
abbrev Context := String

/-- Something that executes requests; `σ` is what it remembers. -/
structure Backend (σ : Type) where
  /-- Executes a request. -/
  execute : Request → Context → σ → Outcome Value × σ

/-- An error that a search engine raises. -/
structure EngineError where
  /-- The name of its kind. -/
  kind : String
  /-- Its words. -/
  message : String
  /-- What it carries, by name. -/
  details : Fields := []
  /-- What it knows about the answer of the engine, if there was one. -/
  answer : Option Fields := none

namespace EngineError

/-- The fault that an error is, if it is passed on. The kinds of faults that the library has itself
are these faults. -/
def fault (e : EngineError) : Fault :=
  if e.kind == "ValidationFailure" then .invalid e.message
  else if e.kind == "BackendFailure" then .engineFailed e.message
  else .foreign e.kind

end EngineError

/-! ### A backend that follows a script -/

/-- A request that a backend was asked to execute. -/
structure Sent where
  /-- The request. -/
  request : Request
  /-- What it was for. -/
  context : Context

/-- A backend that gives the same answer until it is told another. -/
structure Scripted where
  /-- The answer, or the error that is raised. -/
  reply : Except EngineError Value
  /-- What it was asked, in order. -/
  received : List Sent := []

namespace Scripted

/-- The answer without hits. -/
def noHits : Value :=
  .obj [("hits", .obj [("total", .obj [("value", .int 0)]), ("hits", .list [])])]

/-- At first there are no hits. -/
def initial : Scripted where
  reply := .ok noHits

/-- Answers with a value from now on. -/
def respond (s : Scripted) (res : Value) : Scripted := { s with reply := .ok res }

/-- Raises an error from now on. -/
def fail (s : Scripted) (e : EngineError) : Scripted := { s with reply := .error e }

/-- The backend that follows its script. -/
def backend : Backend Scripted where
  execute request context s :=
    (s.reply.mapError EngineError.fault, { s with received := s.received ++ [⟨request, context⟩] })

end Scripted

end PageSearch
