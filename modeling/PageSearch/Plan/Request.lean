import PageSearch.Value.Kind
import PageSearch.Value.Number

/-!
# Requests to the search engine

A `Request` is what the backend takes: the indices, and the parts of a search body. Its parts are
values, so that a request that was written by hand can be passed on as it is. `Request.body` puts
the body together. Rescoring and collapsing exclude each other, and `Request.check` refuses a
request that asks for both.
-/

namespace PageSearch

/-! ### Parts of a body -/

namespace Body

/-- How many fragments of a field are highlighted. -/
def defaultFragments : Value := .int 1

/-- How highlighted fragments are encoded. -/
def defaultEncoder : Value := .str "html"

/-- The highlighting of fields with the sizes of their fragments. -/
def highlighting (sizes : Value) (fragments encoder : Value) : Outcome Value := do
  let fields := (← sizes.fields).map fun (field, size) =>
    (field, Value.obj [("fragment_size", size), ("number_of_fragments", fragments)])
  return .obj [("fields", .obj fields), ("encoder", encoder)]

/-- A time of a number of seconds: in milliseconds, a half to the even neighbour. -/
def milliseconds (seconds : Number) : Outcome String := do
  let n ← (← seconds.times 1000).round
  return (← (Value.int n).write) ++ "ms"

/-- Sets how long the engine may search: a text as it is, a number of seconds in milliseconds. A
value of another kind sets nothing. -/
def setTimeout (body : Fields) (timeout : Value) : Outcome Fields :=
  match timeout, timeout.asNumber? with
  | .str s, _ => .ok (body.put "timeout" (.str s))
  | _, some n => do return body.put "timeout" (.str (← milliseconds n))
  | _, none => .ok body

/-- Sets how many documents are collected in a shard. -/
def setTerminateAfter (body : Fields) (limit : Value) : Fields :=
  match limit with
  | .null => body
  | v => body.put "terminate_after" v

/-- Asks for explanations. -/
def setExplain (body : Fields) (explain : Value) : Fields :=
  if explain.isTruthy then body.put "explain" (.bool true) else body

/-- Puts parts into a search body. A body that is no object takes none. -/
def extend (body : Value) (parts : Fields) : Outcome Value :=
  match body with
  | .obj fields => .ok (.obj (Fields.putAll fields parts))
  | _ => if parts.isEmpty then .ok body else .error .unsuitable

end Body

/-! ### Requests -/

/-- A request to the search engine. -/
structure Request where
  /-- The indices to search. -/
  indices : Value
  /-- The query that every document is judged by. -/
  preQuery : Value
  /-- How many documents are collected in a shard. -/
  terminateAfter : Value
  /-- The query that the best hits are judged by again, or nothing. -/
  rescoreQuery : Value := .null
  /-- The field of whose values only the best hit is kept, or nothing. -/
  collapseField : Value := .null
  /-- The highlighted fields, with the sizes of their fragments. -/
  highlightFields : Value := .obj []
  /-- The stored fields to return. -/
  sourceFields : Value := .list []
  /-- How many of the best hits are judged again. -/
  rescoreWindow : Value := .int 0
  /-- Where the page of results begins. -/
  start : Value := .int 1
  /-- How many results the page has. -/
  size : Value := .int 10
  /-- Whether the scores are explained. -/
  explain : Value := .bool false
  /-- How long the engine may search. -/
  timeout : Value := .null

namespace Request

/-- Refuses a request that asks to rescore the hits that it collapses. -/
def check (r : Request) : Outcome Request :=
  match r.rescoreQuery, r.collapseField with
  | .null, _ => .ok r
  | _, .null => .ok r
  | _, _ => .error .rescoreOfCollapsed

/-- The second stage of a request. -/
def rescore (r : Request) : Value :=
  .obj [("window_size", r.rescoreWindow), ("query", .obj [
    ("rescore_query", r.rescoreQuery), ("query_weight", .float 0.1),
    ("rescore_query_weight", .float 1.0), ("score_mode", .str "total")])]

/-- A field that is only there if its value is not nothing. -/
def optional (name : String) (condition : Value) (v : Value) : Fields :=
  match condition with
  | .null => []
  | _ => [(name, v)]

/-- The highlighting of a request, if it highlights any field. -/
def highlight (r : Request) : Outcome Fields :=
  if r.highlightFields.isTruthy then do
    return [("highlight", ← Body.highlighting r.highlightFields Body.defaultFragments Body.defaultEncoder)]
  else .ok []

/-- The search body of a request. -/
def body (r : Request) : Outcome Fields := do
  let base : Fields :=
    [("query", r.preQuery), ("from", r.start), ("size", r.size), ("track_total_hits", .bool true)]
  let source : Fields := if r.sourceFields.isTruthy then [("_source", r.sourceFields)] else []
  let highlight ← r.highlight
  let rescoring := optional "rescore" r.rescoreQuery r.rescore
  let collapsing := optional "collapse" r.collapseField (.obj [("field", r.collapseField)])
  let parts := base ++ source ++ highlight ++ rescoring ++ collapsing
  return Body.setExplain (← Body.setTimeout (Body.setTerminateAfter parts r.terminateAfter) r.timeout)
    r.explain

/-- The names of the parts of a request that is written by hand. -/
def partNames : List String :=
  ["indices", "pre_query", "terminate_after", "rescore_query", "collapse_field", "highlight_fields",
    "source_fields", "rescore_window", "from_", "size", "explain", "timeout"]

/-- Reads a request that is written by hand. It must have the first three parts, and no others than
those that there are. -/
def ofFields (parts : Fields) : Outcome Request :=
  match parts.get? "indices", parts.get? "pre_query", parts.get? "terminate_after" with
  | some indices, some preQuery, some terminateAfter =>
    if parts.all fun (name, _) => partNames.contains name then
      check {
        indices, preQuery, terminateAfter
        rescoreQuery := parts.getD "rescore_query"
        collapseField := parts.getD "collapse_field"
        highlightFields := (parts.get? "highlight_fields").getD (.obj [])
        sourceFields := (parts.get? "source_fields").getD (.list [])
        rescoreWindow := (parts.get? "rescore_window").getD (.int 0)
        start := (parts.get? "from_").getD (.int 1)
        size := (parts.get? "size").getD (.int 10)
        explain := (parts.get? "explain").getD (.bool false)
        timeout := parts.getD "timeout" }
    else .error .unsuitable
  | _, _, _ => .error .unsuitable

/-- Reads a request that is given as a value, which must be an object of its parts. -/
def ofValue (v : Value) : Outcome Request :=
  match v with
  | .obj parts => ofFields parts
  | _ => .error .unsuitable

/-- The indices in one text, as the engine takes them. -/
def indexName (r : Request) : Outcome String := do
  let names ← (← r.indices.items).mapM fun v =>
    match v with
    | .str s => .ok s
    | _ => .error .unsuitable
  return ",".intercalate names

end Request

end PageSearch
