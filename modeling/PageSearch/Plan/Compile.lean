import PageSearch.Plan.Request
import PageSearch.Plan.Steps
import PageSearch.Settings.Resolve

/-!
# Plans

A plan turns a query into a request of up to two stages: a cheap query that every document is judged
by, and a costly one for the best hits of the first. There are two variants. A simple search judges
again; a phrase search keeps only the best hit of each host, which excludes judging again.

`Plan.bare` is a plan that has only the steps that the variants share.
-/

namespace PageSearch

/-- The way a query is searched for. -/
inductive Plan where
  /-- The words, in any order. -/
  | simple
  /-- The words as a phrase, with up to `slop` places between them. -/
  | phrase (slop : Int)
  /-- No variant. -/
  | bare
  deriving DecidableEq

namespace Plan

/-- A phrase search with the slop that a request asks for. -/
def ofSlop (settings : Settings) (requested : Value) : Outcome Plan := do
  return .phrase (← settings.resolveSlop requested)

/-- The slop of a phrase search. -/
def slop? : Plan → Option Int
  | phrase slop => some slop
  | _ => none

/-! ### The stages -/

/-- The first stage of a simple search. -/
def simplePreQuery (settings : Settings) (q : RawQuery) : Outcome BoolQuery := do
  let filtered ← addFilters settings q {}
  let words ←
    if ← q.isEmpty then .ok .matchAll
    else wordsClause q settings.mainFields preQueryFlags false .null
  return { filtered with must := [words] }

/-- The first stage of a phrase search. -/
def phrasePreQuery (settings : Settings) (q : RawQuery) (slop : Int) : Outcome BoolQuery := do
  if ← q.isEmpty then addFilters settings q { must := [.matchAll] }
  else
    let phrases ← phraseClauses settings q slop
    let loose ← recallClauses settings q (.strings (← phraseNames settings q))
    let boosts ← writtenHostBoosts settings q
    addFilters settings q {
      must := if phrases.isEmpty then [.matchAll] else phrases
      should := loose ++ boosts }

/-- The first stage. -/
def preQuery (settings : Settings) (q : RawQuery) : Plan → Outcome BoolQuery
  | simple => simplePreQuery settings q
  | phrase slop => phrasePreQuery settings q slop
  | bare => .error .undefinedStep

/-- The second stage, if the plan has one. -/
def rescoreQuery (settings : Settings) (q : RawQuery) : Plan → Outcome (Option BoolQuery)
  | simple => do
    let words ← wordsClause q settings.mainFields rescoreFlags true rescoreMinimum
    let near ← proximityClauses settings q
    let boosts ← writtenHostBoosts settings q
    return some { must := [words], should := near ++ boosts }
  | _ => .ok none

/-! ### Steps of one variant -/

/-- The clauses of a simple search for words near each other. -/
def proximity (settings : Settings) (q : RawQuery) : Plan → Outcome (List Clause)
  | simple => proximityClauses settings q
  | _ => .error .foreignStep

/-- The phrases of a phrase search, and the names of their fields. -/
def phrases (settings : Settings) (q : RawQuery) : Plan → Outcome (List Clause × List String)
  | phrase slop => do return (← phraseClauses settings q slop, ← phraseNames settings q)
  | _ => .error .foreignStep

/-- The words that a phrase search looks for outside of the excluded fields. -/
def looseWords (settings : Settings) (q : RawQuery) (excluded : Value) : Plan → Outcome (List Clause)
  | phrase _ => recallClauses settings q excluded
  | _ => .error .foreignStep

/-! ### The other parts -/

/-- The highlighted fields, with the sizes of their fragments. -/
def highlightSizes (settings : Settings) (q : RawQuery) : Plan → Outcome (List (String × Int))
  | simple => do
    return [(← localize q titleField, settings.titleLength), (← localize q bodyField, settings.snippetLength)]
  | phrase _ => do return [(← localize q bodyField, settings.snippetLength)]
  | bare => .error .undefinedStep

/-- How many documents are collected in a shard. -/
def nodeLimit (settings : Settings) : Plan → Outcome Int
  | simple => .ok settings.simpleNodeLimit
  | phrase _ => .ok settings.phraseNodeLimit
  | bare => .error .undefinedStep

/-- The field of whose values only the best hit is kept. -/
def collapseField (settings : Settings) : Plan → Option String
  | phrase _ => some settings.hostnameExactField
  | _ => none

/-! ### Compilation -/

/-- What a plan makes of a query. -/
structure Compiled where
  /-- The indices to search. -/
  indices : List Value
  /-- The first stage. -/
  preQuery : BoolQuery
  /-- The second stage. -/
  rescoreQuery : Option BoolQuery
  /-- The field of whose values only the best hit is kept. -/
  collapseField : Option String
  /-- The highlighted fields, with the sizes of their fragments. -/
  highlightSizes : List (String × Int)
  /-- How many documents are collected in a shard. -/
  nodeLimit : Int
  /-- The stored fields to return. -/
  sourceFields : List String
  /-- How many of the best hits are judged again. -/
  rescoreWindow : Int
  /-- How long the engine may search. -/
  timeout : Option String

/-- All parts of a plan for a query. -/
def parts (settings : Settings) (plan : Plan) (q : RawQuery) : Outcome Compiled := do
  return {
    indices := ← q.indices.items
    preQuery := ← plan.preQuery settings q
    rescoreQuery := ← plan.rescoreQuery settings q
    collapseField := plan.collapseField settings
    highlightSizes := ← plan.highlightSizes settings q
    nodeLimit := ← plan.nodeLimit settings
    sourceFields := ← sourceFields q
    rescoreWindow := settings.rescoreWindow
    timeout := settings.timeout }

/-- The request of the compiled parts, for a page of results. -/
def Compiled.request (c : Compiled) (start size explain : Value) : Request where
  indices := .list c.indices
  preQuery := c.preQuery.toValue
  terminateAfter := .int c.nodeLimit
  rescoreQuery := .ofOption BoolQuery.toValue c.rescoreQuery
  collapseField := .ofOption .str c.collapseField
  highlightFields := .obj (c.highlightSizes.map fun (field, size) => (field, .int size))
  sourceFields := .strings c.sourceFields
  rescoreWindow := .int c.rescoreWindow
  start := start
  size := size
  explain := explain
  timeout := .ofOption .str c.timeout

/-- The size of a page that is asked for, or the size of any page if none is. -/
def pageSize (settings : Settings) (size : Value) : Value :=
  if size.isTruthy then size else .int settings.resultsPerPage

/-- Compiles a query to a request for a page of results. -/
def compile (settings : Settings) (plan : Plan) (q : RawQuery) (start size explain : Value) :
    Outcome Request := do
  let c ← plan.parts settings q
  (c.request start (pageSize settings size) explain).check

end Plan

end PageSearch
