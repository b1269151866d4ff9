import PageSearch.Backend.Basic
import PageSearch.Value.Text

/-!
# The log of engine errors

Each error of the search engine is noted with the request that raised it: the indices, what the
request was for, the kind and the words of the error, what the error carries, and the search body. All
of it must have a text for that.
-/

namespace PageSearch

namespace EngineError

/-- The parts of an error that are noted, in this order. -/
def notedParts : List String := ["info", "status_code", "error", "body"]

/-- What is noted about the answer of the engine. -/
def noteOfAnswer (answer : Fields) : Value :=
  .obj [("status", answer.getD "status"), ("http_version", answer.getD "http_version")]

/-- What an error carries, as far as it is noted. -/
def info (e : EngineError) : Fields :=
  notedParts.filterMap (fun key => (e.details.get? key).map (key, ·))
    ++ (e.answer.map fun answer => ("meta", noteOfAnswer answer)).toList

end EngineError

/-! ### Bodies -/

/-- A body as it is noted. -/
inductive NotedBody where
  /-- A value. -/
  | value (v : Value)
  /-- An object that holds itself under a name. It is no JSON. -/
  | cyclic (fields : Fields) (key : String)

namespace NotedBody

/-- A body as JSON, or on one line if it is none. An object that holds itself has three points in
the place of the inner one. -/
def text : NotedBody → String
  | value v => v.indented
  | cyclic fields key =>
    Value.braced ((fields.put key .null).map fun (k, v) =>
      (k, if k == key then "\x7b...\x7d" else v.literal))

/-- Whether a body can be written in either way. -/
def isWritable : NotedBody → Bool
  | value v => v.isWritable
  | cyclic fields key => Value.fieldsWritable (fields.put key .null)

end NotedBody

/-! ### Entries -/

/-- A noted error. -/
structure LogEntry where
  /-- The searched indices, in one text. -/
  index : Value
  /-- What the request was for. -/
  context : Value
  /-- The error. -/
  error : EngineError
  /-- The search body. -/
  body : NotedBody

namespace LogEntry

/-- The file that entries are appended to. -/
def defaultFile : String := "logs/es.log"

/-- The line above and below the time. -/
def rule : String := String.ofList (List.replicate 80 '=')

/-- The lines of an entry, up to the one that announces the trace of the calls. -/
def lines (entry : LogEntry) (time : String) : List String :=
  [rule, "[ES ERROR] " ++ time, rule, "Index: " ++ entry.index.text, "Context: " ++ entry.context.text,
    "Error Type: " ++ entry.error.kind, "Error Message: " ++ entry.error.message, ""]
  ++ (if entry.error.info.isEmpty then []
      else ["--- Elasticsearch Error Info ---", (Value.obj entry.error.info).indented])
  ++ ["--- Request Body ---", entry.body.text, "--- Traceback ---"]

/-- The text of an entry that has one, with the time and the trace of the calls. -/
def text (entry : LogEntry) (time trace : String) : String :=
  "\n".intercalate (entry.lines time ++ [trace])

/-- Whether an entry has a text. -/
def isWritable (entry : LogEntry) : Bool :=
  (Value.list [entry.index, entry.context, .obj entry.error.info]).isWritable && entry.body.isWritable

/-- Writes an entry. -/
def write (entry : LogEntry) (time trace : String) : Outcome String :=
  if entry.isWritable then .ok (entry.text time trace) else .error .notANumber

end LogEntry

end PageSearch
