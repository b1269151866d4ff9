import PageSearch.Settings.Basic
import PageSearch.Text.Blank

/-!
# Request parameters against the settings

What a request asks for is checked against the settings, and replaced by a default where it is
missing, of the wrong kind or out of range. Places after the point of a number are dropped.
-/

namespace PageSearch.Settings

/-- Whether an index may be searched. -/
def allows (settings : Settings) (index : String) : Bool :=
  settings.indices.isEmpty || settings.indices.contains index

/-- The requested indices that may be searched, trimmed, each once. -/
def allowedIndices (settings : Settings) (requested : List Value) : List String :=
  requested.foldl (fun found v =>
    match v with
    | .str s =>
      let index := Text.trimmed s
      if index.isEmpty || found.contains index || !settings.allows index then found
      else found ++ [index]
    | _ => found) []

/-- The indices of a request: those that may be searched, or the default indices if there is none. -/
def resolveIndices (settings : Settings) (requested : Value) : Outcome (List String) := do
  let found := settings.allowedIndices (← requested.itemsOrNone)
  return if found.isEmpty then settings.defaultIndices else found

/-- Puts a slop between zero and the greatest slop. -/
def clampSlop (settings : Settings) (slop : Int) : Int := min (max 0 slop) settings.phraseMaxSlop

/-- The slop of a request. One that is out of range becomes the default and not the nearest slop
that is in range. -/
def resolveSlop (settings : Settings) (requested : Value) : Outcome Int :=
  match requested.number? with
  | none => .ok (settings.clampSlop settings.phraseSlop)
  | some n =>
    if n.lt (.int 0) || (Number.int settings.phraseMaxSlop).lt n then
      .ok (settings.clampSlop settings.phraseSlop)
    else n.toInt.map settings.clampSlop

/-- A number of a request that is one or more, or the default. -/
def atLeastOne (default : Int) (requested : Value) : Outcome Int :=
  match requested.number? with
  | none => .ok default
  | some n => if n.lt (.int 1) then .ok default else n.toInt

/-- Where the page of results begins. -/
def resolveFrom (requested : Value) : Outcome Int := atLeastOne 1 requested

/-- How many results the page has. -/
def resolveSize (settings : Settings) (requested : Value) : Outcome Int :=
  atLeastOne settings.resultsPerPage requested

end PageSearch.Settings
