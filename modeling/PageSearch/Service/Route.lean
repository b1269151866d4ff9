import PageSearch.External.Exchange
import PageSearch.External.Outline
import PageSearch.Service.App

/-!
# The service over HTTP

Two paths, one for each way of searching, and two methods. A `GET` gives its parameters as texts by
name; of a repeated one the last counts, except that all indices count. A `POST` gives them as the
fields of an object, whose kinds are checked and which may be left out. The other paths are those of
the pages about the service, which can only be read.

The paths and the parameters are those of the service. How a request is sent, checked and answered is up
to the libraries that carry it (`PageSearch.Http`).
-/

namespace PageSearch.Route

/-! ### Paths -/

/-- What a path leads to. -/
inductive Place where
  /-- A way of searching. -/
  | search (mode : Mode)
  /-- A page about the service. -/
  | page
  deriving DecidableEq

/-- The paths of the service. -/
def places : List (String × Place) :=
  [("/api/v1/_search", .search .simple), ("/api/v1/_phrases", .search .phrase), ("/", .page),
    ("/openapi.json", .page), ("/docs/oauth2-redirect", .page), ("/redoc", .page)]

/-! ### Parameters -/

/-- The parameters that come with a request. -/
abbrev Payload := Http.Payload

/-- The parameters of a `GET`. -/
def ofTexts (params : List (String × String)) : App.Inputs where
  query := Http.lastOf params "query"
  q := Http.lastOf params "q"
  index := Http.allOf params "index"
  start := Http.lastOf params "from"
  size := Http.lastOf params "size"
  slop := Http.lastOf params "slop"
  explain := Http.lastOf params "explain"

/-- The parameters of a `POST`, if all fields are of the right kinds. -/
def ofFields? (fields : Fields) : Option App.Inputs := do
  return {
    query := ← Http.textField? (fields.getD "query")
    q := ← Http.textField? (fields.getD "q")
    index := ← Http.listField? (fields.getD "index")
    start := ← Http.intField? (fields.getD "from")
    size := ← Http.intField? (fields.getD "size")
    slop := ← Http.intField? (fields.getD "slop")
    explain := ← Http.flagField? (fields.getD "explain") }

/-- The parameters of a `POST` with any body; a missing body has no fields. -/
def ofBody? : Value → Option App.Inputs
  | .null => ofFields? []
  | .obj fields => ofFields? fields
  | _ => none

/-- The parameters of a request, if they are of the right kinds. -/
def inputs? : Payload → Option App.Inputs
  | .texts params => some (ofTexts params)
  | .body json => ofBody? json

/-! ### Replies -/

/-- The reply to a search. An answer with a float that is no number or with a whole number without text
cannot be written, and a fault that is no refusal is not answered. -/
def replyOf : Outcome Answer → Outcome Http.Reply
  | .ok answer =>
    let body := Http.shown answer.toValue
    if Http.isFinite body then body.afterWriting ⟨200, some body⟩ else .error .notANumber
  | .error (.refused status message) => .ok ⟨status, some (Http.detail message)⟩
  | .error fault => .error fault

/-- Answers a request over HTTP. -/
def handle [Terminal] {σ : Type} (settings : Settings) (backend : Backend σ) (address : String)
    (payload : Payload) (s : σ) : Outcome Http.Reply × σ :=
  match Http.destination places address payload, inputs? payload with
  | .error fault, _ => (.error fault, s)
  | .ok none, _ => (.ok Http.notFound, s)
  | .ok (some .page), _ => (.ok payload.pageReply, s)
  | .ok (some (.search _)), none => (.ok Http.unprocessable, s)
  | .ok (some (.search mode)), some inputs =>
    let (outcome, s) := App.runSearch settings backend mode inputs s
    (replyOf outcome, s)

end PageSearch.Route
