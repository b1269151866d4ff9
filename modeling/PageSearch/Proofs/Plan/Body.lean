import PageSearch.Proofs.Plan.Compilation
import PageSearch.Proofs.Value.Change

/-!
# Search bodies

The body of a compiled request has each part under its own name (`exists_body`). The optional parts are put in
last, one after the other, and each leaves the other parts as they are.
-/

namespace PageSearch

/-! ### Setting parts -/

namespace Body

variable {name : String}

theorem get?_setExplain (h : name ≠ "explain") (body : Fields) (explain : Value) :
    (setExplain body explain).get? name = body.get? name := by
  rw [setExplain]
  split
  · exact Fields.get?_put_of_ne h body _
  · rfl

/-- A time of the settings can always be set. -/
theorem exists_setTimeout (body : Fields) (timeout : Option String) :
    ∃ body', setTimeout body (.ofOption .str timeout) = .ok body' ∧
      ∀ name ≠ "timeout", body'.get? name = body.get? name := by
  cases timeout with
  | none => exact ⟨body, rfl, fun _ _ => rfl⟩
  | some s => exact ⟨body.put "timeout" (.str s), rfl, fun _ hname => Fields.get?_put_of_ne hname body _⟩

end Body

/-! ### Bodies of compiled requests -/

namespace Plan

/-- The highlighting of fields with the sizes of their fragments. -/
def highlighting (sizes : List (String × Int)) : Value :=
  .obj [("fields", .obj (sizes.map fun (field, size) =>
    (field, .obj [("fragment_size", .int size), ("number_of_fragments", Body.defaultFragments)]))),
    ("encoder", Body.defaultEncoder)]

/-- The second stage for a number of hits. -/
def rescoring (window : Int) (query : BoolQuery) : Value :=
  .obj [("window_size", .int window), ("query", .obj [("rescore_query", query.toValue),
    ("query_weight", .float 0.1), ("rescore_query_weight", .float 1.0), ("score_mode", .str "total")])]

/-- The parts of the body that a search for a page of results has. -/
structure IsBody (c : Compiled) (start size : Value) (body : Fields) : Prop where
  /-- The first stage. -/
  query : body.get? "query" = some c.preQuery.toValue
  /-- Where the page begins. -/
  start : body.get? "from" = some start
  /-- How many results the page has. -/
  size : body.get? "size" = some size
  /-- How many documents are collected in a shard. -/
  nodeLimit : body.get? "terminate_after" = some (.int c.nodeLimit)
  /-- The highlighted fields, if there are any. -/
  highlight : c.highlightSizes ≠ [] → body.get? "highlight" = some (highlighting c.highlightSizes)
  /-- The second stage, if there is one. -/
  rescore : body.get? "rescore" = c.rescoreQuery.map (rescoring c.rescoreWindow)
  /-- The field of whose values only the best hit is kept, if there is one. -/
  collapse : body.get? "collapse" = c.collapseField.map fun field => .obj [("field", .str field)]

theorem request_highlight (c : Compiled) (start size explain : Value) :
    (c.request start size explain).highlight =
      .ok (if c.highlightSizes = [] then [] else [("highlight", highlighting c.highlightSizes)]) := by
  rw [Request.highlight, Compiled.request]
  cases c.highlightSizes with
  | nil => rfl
  | cons size sizes =>
    simp [Value.isTruthy, Body.highlighting, Value.fields, highlighting, bind, Except.bind, pure, Except.pure]

/-- The parts of a body, without the limit, the time and the explanations. -/
def Compiled.bodyParts (c : Compiled) (start size : Value) : Fields :=
  let r := c.request start size .null
  [("query", r.preQuery), ("from", start), ("size", size), ("track_total_hits", .bool true)]
    ++ (if r.sourceFields.isTruthy then [("_source", r.sourceFields)] else [])
    ++ (if c.highlightSizes = [] then [] else [("highlight", highlighting c.highlightSizes)])
    ++ Request.optional "rescore" r.rescoreQuery r.rescore
    ++ Request.optional "collapse" r.collapseField (.obj [("field", r.collapseField)])

theorem request_body (c : Compiled) (start size explain : Value) :
    (c.request start size explain).body =
      (Body.setTimeout ((c.bodyParts start size).put "terminate_after" (.int c.nodeLimit))
        (.ofOption .str c.timeout)).map (Body.setExplain · explain) := by
  rw [Request.body, request_highlight]
  rfl

theorem lookup_highlight_bodyParts {c : Compiled} (h : c.highlightSizes ≠ []) (start size : Value) :
    (c.bodyParts start size).lookup "highlight" = some (highlighting c.highlightSizes) := by
  obtain ⟨indices, preQuery, rescoreQuery, collapseField, sizes, limit, names, window, timeout⟩ := c
  cases sizes with
  | nil => exact absurd rfl h
  | cons entry sizes => cases names <;> rfl

theorem lookup_rescore_bodyParts (c : Compiled) (start size : Value) :
    (c.bodyParts start size).lookup "rescore" = c.rescoreQuery.map (rescoring c.rescoreWindow) := by
  obtain ⟨indices, preQuery, rescoreQuery, collapseField, sizes, limit, names, window, timeout⟩ := c
  cases names <;> cases sizes <;> cases rescoreQuery <;> cases collapseField <;> rfl

theorem lookup_collapse_bodyParts (c : Compiled) (start size : Value) :
    (c.bodyParts start size).lookup "collapse" = c.collapseField.map fun field => .obj [("field", .str field)] := by
  obtain ⟨indices, preQuery, rescoreQuery, collapseField, sizes, limit, names, window, timeout⟩ := c
  cases names <;> cases sizes <;> cases rescoreQuery <;> cases collapseField <;> rfl

/-- **The body** of a compiled request has its parts, whatever time and explanations are asked for. -/
theorem exists_body (c : Compiled) (start size explain : Value) :
    ∃ body, (c.request start size explain).body = .ok body ∧ IsBody c start size body := by
  obtain ⟨body, hbody, hkept⟩ :=
    Body.exists_setTimeout ((c.bodyParts start size).put "terminate_after" (.int c.nodeLimit)) c.timeout
  refine ⟨Body.setExplain body explain, by rw [request_body, hbody]; rfl, ?_⟩
  have hget : ∀ name, name ≠ "explain" → name ≠ "timeout" → name ≠ "terminate_after" →
      (Body.setExplain body explain).get? name = (c.bodyParts start size).lookup name := by
    intro name hexplain htimeout hlimit
    rw [Body.get?_setExplain hexplain, hkept name htimeout, Fields.get?_put_of_ne hlimit, Fields.get?]
  exact {
    query := hget "query" (by decide) (by decide) (by decide)
    start := hget "from" (by decide) (by decide) (by decide)
    size := hget "size" (by decide) (by decide) (by decide)
    nodeLimit := by rw [Body.get?_setExplain (by decide), hkept _ (by decide), Fields.get?_put_self]
    highlight := fun hsizes => by
      rw [hget _ (by decide) (by decide) (by decide), lookup_highlight_bodyParts hsizes]
    rescore := by rw [hget _ (by decide) (by decide) (by decide), lookup_rescore_bodyParts]
    collapse := by rw [hget _ (by decide) (by decide) (by decide), lookup_collapse_bodyParts] }

end Plan

end PageSearch
