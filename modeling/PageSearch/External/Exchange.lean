import PageSearch.External.Address
import PageSearch.Value.Number
import PageSearch.Value.Text

/-!
# Requests and replies over HTTP

**Not a part of the search.** A service over HTTP is run by a framework, and asked by a client. This module
restates what these do with a request before the service sees its parameters and with a reply after it:
the client finds the address that a request is sent to, the framework finds the place of the service that
has this path, checks the kinds of the parameters, and writes the reply. Nothing of the search depends
on it, and what is proved does not concern it.
-/

namespace PageSearch.Http

/-! ### Parameters as texts -/

/-- The last value of a parameter. -/
def lastOf (params : List (String × String)) (name : String) : Value :=
  .ofOption .str (params.reverse.lookup name)

/-- All values of a parameter, if there is any. -/
def allOf (params : List (String × String)) (name : String) : Value :=
  let found := (params.filter fun (n, _) => n == name).map Prod.snd
  if found.isEmpty then .null else .strings found

/-! ### Parameters as values -/

/-- A text, or nothing. -/
def textField? : Value → Option Value
  | .null => some .null
  | .str s => some (.str s)
  | _ => none

/-- A list of texts, a text, or nothing. -/
def listField? : Value → Option Value
  | .null => some .null
  | .str s => some (.str s)
  | .list vs => if vs.all (· matches .str _) then some (.list vs) else none
  | _ => none

/-- The least number that 64 bits with a sign do not hold. -/
def wordLimit : Int := 0x8000000000000000

/-- A whole number, a text, or nothing. A truth value counts as one or zero, and a float of 64 bits
without places as the whole number that it is. -/
def intField? : Value → Option Value
  | .null => some .null
  | .str s => some (.str s)
  | .int n => some (.int n)
  | .bool b => some (.int (if b then 1 else 0))
  | .float x =>
    match (Binary.ofFloat x).truncate? with
    | some n =>
      if (Binary.ofFloat x).compareInt n == some .eq && -wordLimit < n && n < wordLimit then some (.int n)
      else none
    | none => none
  | _ => none

/-- A truth value, a text, or nothing. One and zero count as truth values. -/
def flagField? : Value → Option Value
  | .null => some .null
  | .str s => some (.str s)
  | .bool b => some (.bool b)
  | v =>
    match intField? v with
    | some (.int 0) => some (.bool false)
    | some (.int 1) => some (.bool true)
    | _ => none

/-! ### Replies -/

/-- A reply over HTTP. -/
structure Reply where
  /-- The status. -/
  status : Nat
  /-- The body, if the service chooses it. -/
  body : Option Value

/-- The body of a reply with an error. -/
def detail (message : String) : Value := .obj [("detail", .str message)]

mutual
/-- Whether all floats of a value are numbers, as JSON demands. -/
def isFinite : Value → Bool
  | .float x => x.isFinite
  | .list vs => areFinite vs
  | .obj fields => haveFinite fields
  | _ => true

/-- Whether all floats of some values are numbers. -/
def areFinite : List Value → Bool
  | [] => true
  | v :: r => isFinite v && areFinite r

/-- Whether all floats of some fields are numbers. -/
def haveFinite : List (String × Value) → Bool
  | [] => true
  | (_, v) :: r => isFinite v && haveFinite r
end

/-- Whether a field is kept out of replies. -/
def isReserved (name : String) : Bool := "_sa".toList.isPrefixOf name.toList

mutual
/-- A value as it is replied, without its reserved fields. -/
def shown : Value → Value
  | .list vs => .list (allShown vs)
  | .obj fields => .obj (fieldsShown fields)
  | v => v

/-- Some values as they are replied. -/
def allShown : List Value → List Value
  | [] => []
  | v :: r => shown v :: allShown r

/-- Some fields as they are replied. -/
def fieldsShown : List (String × Value) → List (String × Value)
  | [] => []
  | (key, v) :: r => if isReserved key then fieldsShown r else (key, shown v) :: fieldsShown r
end

/-- The reply for a path that there is not. -/
def notFound : Reply := ⟨404, some (detail "Not Found")⟩

/-- The reply to a search on a page. -/
def notAllowed : Reply := ⟨405, some (detail "Method Not Allowed")⟩

/-- The reply with a page about the service, whose text is not given here. -/
def pageReply : Reply := ⟨200, none⟩

/-- The reply to fields of the wrong kinds. -/
def unprocessable : Reply := ⟨422, none⟩

/-! ### Requests -/

/-- The parameters that come with a request. -/
inductive Payload where
  /-- Those of a `GET`. -/
  | texts (params : List (String × String))
  /-- Those of a `POST`. -/
  | body (json : Value)

/-- Whether the parameters can be sent to an address. Texts take the place of its query and have a
greatest length; a body must be written, and its floats must be numbers. -/
def Payload.check (address : Address.Parts) : Payload → Outcome Unit
  | texts params =>
    if Address.lengthLimit < (Address.queryOf params).length || !address.takesQuery then .error .badAddress
    else .ok ()
  | body json => if isFinite json then json.afterWriting () else .error .notANumber

/-- The query that is sent with the parameters. -/
def Payload.query (address : Address.Parts) : Payload → List Char
  | texts params => Address.queryOf params
  | body _ => address.sentQuery

/-- The reply to a request that does not search. -/
def Payload.pageReply : Payload → Reply
  | texts _ => Http.pageReply
  | body _ => notAllowed

/-! ### Places -/

/-- What a path leads to, among the places of a service. A line break may end it. -/
def exactly? {α : Type} (places : List (String × α)) (path : List Char) : Option α :=
  places.lookup (String.ofList (if path.getLast? == some '\n' then path.dropLast else path))

/-- A path without the slashes at its end. -/
def bare (path : List Char) : List Char := (path.reverse.dropWhile (· == '/')).reverse

/-- The place that a request is sent to, if it can be sent. It is written before it is known how. If a
path would lead to a place without the slashes at its end, the request is sent again to that path. -/
def destination {α : Type} (places : List (String × α)) (address : String) (payload : Payload) :
    Outcome (Option α) := do
  let parts ← Address.parse address.toList
  payload.check parts
  let path ← parts.target
  match exactly? places path, exactly? places (bare path) with
  | some place, _ => return some place
  | none, none => return none
  | none, some place =>
    parts.checkMove (bare path) (payload.query parts)
    return some place

end PageSearch.Http
