import PageSearch.Hit.Grouping
import PageSearch.Hit.Parts
import PageSearch.Query
import PageSearch.Terminal

/-!
# Results

One result for each hit of an answer of the search engine, in its order, with the marks of the
groups of hosts.
-/

namespace PageSearch

/-- A result to show. -/
structure Result where
  /-- The score, as the engine gives it. -/
  score : Value
  /-- The identifier of the document. -/
  documentId : Value
  /-- The index of the document. -/
  index : Value
  /-- The identifier of the page in its collection. -/
  trecId : String
  /-- The title, in HTML. -/
  title : String
  /-- The host of the page. -/
  hostname : String
  /-- The address of the page. -/
  uri : String
  /-- The snippet, in HTML. -/
  snippet : String
  /-- The rank among all pages. -/
  pageRank : Option Float
  /-- The rank among the pages that are not spam. -/
  spamRank : Option Int
  /-- Why the score is what it is, as the engine gives it. -/
  explanation : Value
  /-- Whether the result can be grouped with the one before it. -/
  groupingSuggested : Bool := false
  /-- Whether more results of the host can be asked for here. -/
  moreSuggested : Bool := false

namespace Hit

/-- A value that counts as true, or the empty text. -/
def orEmpty (v : Value) : Value := if v.isTruthy then v else .str ""

/-- The result of a hit, without the marks of groups. -/
def parse (settings : Settings) (language hitValue : Value) : Outcome Result := do
  let hit ← hitValue.fields
  let stored := hit.getD "_source"
  let source := if stored.isTruthy then stored else .obj []
  let trecId ← Document.writtenAt source Plan.trecIdField
  let title ← title settings hitValue source language
  let hostname ← Document.writtenAt source settings.hostnameField
  let uri ← Document.writtenAt source Plan.targetUriField
  let snippet ← snippet settings hitValue source language
  let pageRank ← Document.numberAt? Value.toFloat source Plan.pageRankField
  let spamRank ← Document.numberAt? Value.toInt source Plan.spamRankField
  return {
    score := hit.getD "_score"
    documentId := orEmpty (hit.getD "_id")
    index := orEmpty (hit.getD "_index")
    explanation := hit.getD "_explanation"
    trecId, title, hostname, uri, snippet, pageRank, spamRank }

/-- Sets the marks of groups. -/
def marked (results : List Result) (blocked : Bool) : List Result :=
  let suggested := suggestGrouping none (results.map fun r => some r.hostname) blocked
  results.zipWith
    (fun r (flags : Bool × Bool) => { r with groupingSuggested := flags.1, moreSuggested := flags.2 })
    (suggested.zip (markMore suggested))

/-- The results of an answer of the engine. -/
def parseAll (settings : Settings) (q : RawQuery) (res : Value) : Outcome (List Result) := do
  let hits ← ((← hitsOf res).getD "hits").itemsOrNone
  return marked (← hits.mapM (parse settings q.language)) q.groupingBlocked.isTruthy

/-- The results of an answer of the engine, and the number of all hits. If asked to, both are noted
on the terminal. -/
def read [Terminal] (settings : Settings) (q : RawQuery) (res : Value) (noting : Bool) :
    Outcome (List Result × Value) := do
  let results ← parseAll settings q res
  let total ← total res
  if noting then Terminal.outline (noteOf (← res.fields) results.length total)
  return (results, total)

end Hit

/-- A result as a part of an answer. -/
def Result.toValue (r : Result) : Value :=
  .obj [("score", r.score), ("uuid", r.documentId), ("index", r.index), ("trec_id", .str r.trecId),
    ("target_hostname", .str r.hostname), ("target_uri", .str r.uri),
    ("page_rank", .ofOption .float r.pageRank), ("spam_rank", .ofOption .int r.spamRank),
    ("title", .str r.title), ("snippet", .str r.snippet), ("explanation", r.explanation)]

end PageSearch
