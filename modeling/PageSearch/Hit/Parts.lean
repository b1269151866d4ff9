import PageSearch.Document
import PageSearch.Field.Name
import PageSearch.Plan.Steps
import PageSearch.Settings.Basic
import PageSearch.Snippet.Cleansing
import PageSearch.Snippet.Escaping
import PageSearch.Snippet.Truncation
import PageSearch.Value.Kind

/-!
# Parts of a hit

A title and a snippet are the highlighted fragment of their field, if there is exactly one. Else they
are made from the stored text, cut to its length and written as HTML; a snippet prefers the
description of the page to its text. In the end both are cleansed.
-/

namespace PageSearch.Hit

/-- The fragment of a field, if exactly one is highlighted. A text of one character is its own only
fragment. -/
def singleHighlight (hit field : Value) : Outcome Value := do
  let highlights ← ((← hit.fields).getD "highlight").fieldsOrNone
  let fragments := (← Value.lookUp highlights field).getD .null
  if !fragments.isTruthy then return .null
  match fragments with
  | .list [fragment] => return fragment
  | .list _ => return .null
  | .str s => return if s.length == 1 then .str s else .null
  | .obj [_] => .error (.missingField "0")
  | .obj _ => return .null
  | _ => .error .unsuitable

/-- A stored text as HTML of a limited length. -/
def excerpt (text : String) (limit : Int) : Outcome String := do
  return Snippet.escape (← Snippet.truncate text limit (.float Snippet.leastShare))

/-- The description of a page, or its text if it has none. -/
def summarySource (source language : Value) : Outcome String := do
  let description ← Document.writtenAt source (← Field.localizeIn Plan.descriptionField language)
  if description.isEmpty then Document.writtenAt source (← Field.localizeIn Plan.bodyField language)
  else return description

/-- The snippet of a hit. -/
def snippet (settings : Settings) (hit source language : Value) : Outcome String := do
  let highlight ← singleHighlight hit (.str (← Field.localizeIn Plan.bodyField language))
  if highlight.isTruthy then Snippet.cleanseValue highlight true
  else
    let text ← summarySource source language
    return Snippet.cleanse (← excerpt text settings.snippetLength) true

/-- The title of a hit. -/
def title (settings : Settings) (hit source language : Value) : Outcome String := do
  let field ← Field.localizeIn Plan.titleField language
  match ← singleHighlight hit (.str field) with
  | .null =>
    let text ← Document.writtenAt source field
    return Snippet.cleanse (← excerpt text settings.titleLength) true
  | highlight => Snippet.cleanseValue highlight true

/-- What an answer of the engine says about its hits. -/
def hitsOf (res : Value) : Outcome Fields := do ((← res.fields).getD "hits").fieldsOrNone

/-- The total number of hits, as the engine gives it; zero if it does not. -/
def total (res : Value) : Outcome Value := do
  let total := (← hitsOf res).getD "total"
  let value :=
    match total with
    | .obj fields => Fields.getD fields "value"
    | v => v
  return if value.isTruthy then value else .int 0

/-- What is noted about an answer of the engine: the numbers of results and of hits, and what the
engine says about its search. -/
def noteOf (res : Fields) (results : Nat) (total : Value) : Value :=
  .obj [("return_hits", .int results), ("total_hits", total),
    ("took", (res.get? "took").getD (.int (-1))), ("timed_out", (res.get? "timed_out").getD (.bool false))]

end PageSearch.Hit
