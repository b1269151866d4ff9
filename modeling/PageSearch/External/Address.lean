import PageSearch.Fault
import PageSearch.External.Host.Name
import PageSearch.Text.Percent

/-!
# Addresses of requests

**Not a part of the search.** This module and those about hosts restate what the libraries that carry
requests over HTTP make of an address. Nothing of the search depends on them, apart from the faults that
they have among all others (`Fault`), and what is proved does not concern them.

A request over HTTP is sent to an address. Most often that is a path, but a query and a fragment may
follow it, and a scheme and a host may stand before it. The service is found by the path alone.

`Address.parse` reads an address, which must have a readable form and, if there is one, the name of a
host that there can be. `Parts.target` is the path that it leads to: its segments `.` and `..` are
resolved, and its escapes are written as the characters that they stand for. If an address names a
scheme and a host, the scheme must be one that the service speaks; which host it is does not matter.

The service can answer that a request should be sent to another path. `Parts.checkMove` says whether
this can be done.
-/

namespace PageSearch.Address

/-- The most characters of an address, or of a part of it. -/
def lengthLimit : Nat := 65536

/-- The control characters of ASCII, which no address has. -/
def isControl (c : Char) : Bool := c.toNat < 0x20 || c.toNat == 0x7F

/-! ### Parts -/

/-- The parts of an address. -/
structure Parts where
  /-- The scheme, in small letters; empty if there is none. -/
  scheme : List Char
  /-- The host; empty if there is none. -/
  host : List Char
  /-- The port, if there is one. -/
  port : Option Int
  /-- Whether anything is said about the host, the port or the user. -/
  hasAuthority : Bool
  /-- The path. -/
  path : List Char
  /-- The query; empty if there is none. -/
  query : List Char
  /-- The fragment; empty if there is none. -/
  fragment : List Char

/-- Whether an address names a scheme or a host. If not, its path is all that is said. -/
def Parts.isQualified (p : Parts) : Bool := !p.scheme.isEmpty || p.hasAuthority

/-- Whether an address names a scheme and a host. -/
def Parts.isAbsolute (p : Parts) : Bool := !p.scheme.isEmpty && !p.host.isEmpty

/-- Whether the path of an address would be taken for another part of it, as nothing stands before it. -/
def Parts.isAmbiguous (p : Parts) : Bool :=
  !p.isQualified && (p.path.take 2 == ['/', '/'] || p.path.head? == some ':')

/-- A character of a scheme. -/
def isSchemeChar (c : Char) : Bool := c.isAlphanum || c == '+' || c == '.' || c == '-'

/-- Splits off the scheme and its colon. A scheme begins with a letter, or is empty. -/
def takeScheme (s : List Char) : List Char × List Char :=
  let scheme := s.takeWhile isSchemeChar
  match s.dropWhile isSchemeChar with
  | ':' :: rest => if scheme.head?.all Char.isAlpha then (scheme.map Char.toLower, rest) else ([], s)
  | _ => ([], s)

/-- What ends the part with the host. -/
def endsAuthority (c : Char) : Bool := c == '/' || c == '?' || c == '#'

/-- Splits off the part with the host, which two slashes announce. -/
def takeAuthority (s : List Char) : List Char × List Char :=
  match s with
  | '/' :: '/' :: rest => (rest.takeWhile (!endsAuthority ·), rest.dropWhile (!endsAuthority ·))
  | _ => ([], s)

/-- The host of the part with the host, and what follows it. A host in brackets may have colons. -/
def takeHost (s : List Char) : List Char × List Char :=
  match s.head?, Text.lastIndexOf? ']' s with
  | some '[', some i => (s.take (i + 1), s.drop (i + 1))
  | _, _ => (s.takeWhile (· != ':'), s.dropWhile (· != ':'))

/-- What stands before the first character `c`, and what stands behind it. -/
def splitAt (c : Char) (s : List Char) : List Char × List Char :=
  (s.takeWhile (· != c), (s.dropWhile (· != c)).drop 1)

/-- The port after a host and its colon: a whole number, or nothing. -/
def port? (s : List Char) : Outcome (Option Int) :=
  let digits := if s.head? == some ':' then s.tail else s
  if digits.isEmpty then .ok none
  else
    match Reading.int? digits with
    | some n => .ok (some n)
    | none => .error .badAddress

/-! ### Paths -/

/-- Goes through the segments of a path: `.` stays where it is, and `..` leaves the last segment,
unless there is none but the empty one that a path begins with. `walked` holds the segments so far,
the last one first. -/
def walk (walked : List (List Char)) : List (List Char) → List (List Char)
  | [] => walked.reverse
  | segment :: rest =>
    if segment == ['.'] then walk walked rest
    else if segment == ['.', '.'] then walk (if walked == [[]] then walked else walked.tail) rest
    else walk (segment :: walked) rest

/-- A path without segments that only lead to others. -/
def resolve (path : List Char) : List Char :=
  List.intercalate ['/'] (walk [] (Text.splitWhere (· == '/') path))

/-- The path of an address without scheme or host, which begins at the root of the service. -/
def Parts.fromRoot (p : Parts) : List Char :=
  '/' :: (if p.isQualified then resolve p.path else p.path).dropWhile (· == '/')

/-! ### Reading -/

/-- The characters of ASCII that are escaped in a query, apart from the space. -/
def escapedInQuery : List Nat := [0x22, 0x23, 0x3C, 0x3E]

/-- The characters of ASCII that are escaped in a path, apart from the space. -/
def escapedInPath : List Nat := escapedInQuery ++ [0x3F, 0x60, 0x7B, 0x7D]

/-- The characters of ASCII that are escaped in a fragment, apart from the space. -/
def escapedInFragment : List Nat := [0x22, 0x3C, 0x3E, 0x60]

/-- The ports that schemes have without saying so. -/
def ownPorts : List (String × Int) := [("http", 80), ("https", 443)]

/-- The host and the port of an address, as they are sent. -/
def Parts.authority (p : Parts) : List Char :=
  Host.sent p.host ++
    match p.port with
    | none => []
    | some n =>
      if ownPorts.lookup (String.ofList p.scheme) == some n then [] else ':' :: (toString n).toList

/-- The query of an address, as it is sent. -/
def Parts.sentQuery (p : Parts) : List Char := Text.escape (Text.isPlainExcept escapedInQuery) p.query

/-- The path of an address, as it is sent. -/
def Parts.sentPath (p : Parts) : List Char :=
  Text.escape (Text.isPlainExcept escapedInPath) (if p.isAbsolute then resolve p.path else p.fromRoot)

/-- The fragment of an address, as it would be sent. -/
def Parts.sentFragment (p : Parts) : List Char :=
  Text.escape (Text.isPlainExcept escapedInFragment) p.fragment

/-- Whether the path or the query of an address is too long to be completed with a host. An absolute
address needs none. -/
def Parts.isTooLong (p : Parts) : Bool :=
  !p.isAbsolute && (lengthLimit < p.sentPath.length || lengthLimit < p.sentQuery.length)

/-- Whether an address can get another query: no other part of it is too long. -/
def Parts.takesQuery (p : Parts) : Bool :=
  !p.isAbsolute ||
    [p.authority, p.sentPath, p.sentFragment].all fun part => part.length ≤ lengthLimit

/-- Reads an address. -/
def parse (s : List Char) : Outcome Parts := do
  if lengthLimit < s.length || s.any isControl then .error .badAddress
  let (scheme, rest) := takeScheme s
  let (authority, rest) := takeAuthority rest
  let behindUser :=
    match Text.lastIndexOf? '@' authority with
    | some i => authority.drop (i + 1)
    | none => authority
  let hasUser := behindUser.length + 1 < authority.length
  let (host, afterHost) := takeHost behindUser
  let port ← port? afterHost
  let (rest, fragment) := splitAt '#' rest
  let (path, query) := splitAt '?' rest
  let hasAuthority := hasUser || !host.isEmpty || port.isSome
  let parts : Parts := { scheme, host, port, hasAuthority, path, query, fragment }
  if !Host.isHost host || parts.isAmbiguous || parts.isTooLong then .error .badAddress
  return parts

/-! ### Sending -/

/-- The schemes of protocols whose connections last. -/
def lastingSchemes : List String := ["ws", "wss"]

/-- The schemes of all protocols that are known. -/
def knownSchemes : List String := ["http", "https"] ++ lastingSchemes

/-- Checks that a request can be sent by the scheme to the host of an address. -/
def Parts.checkUse (p : Parts) : Outcome Unit := do
  let scheme := String.ofList p.scheme
  (Host.checkUse p.host).mapError .badHost
  if !knownSchemes.contains scheme then .error (.foreignProtocol scheme)
  (Host.checkEnd p.host).mapError .badHost
  if lastingSchemes.contains scheme then .error .lastingConnection

/-- The path that an address leads to. Escapes are read twice, once when the request is sent and once
when it arrives. -/
def Parts.target (p : Parts) : Outcome (List Char) := do
  if p.isAbsolute then p.checkUse
  let path := resolve (if p.isAbsolute then p.path else p.fromRoot)
  return if path.isEmpty then ['/'] else Text.unescape (Text.unescape path)

/-! ### Parameters behind an address -/

/-- A character that stays in a parameter. -/
def staysInParameter (c : Char) : Bool :=
  c.isAlphanum || c == ' ' || c == '_' || c == '.' || c == '-' || c == '~'

/-- A text in a parameter. A plus sign stands for a space. -/
def parameterText (s : String) : List Char :=
  (Text.escape staysInParameter s.toList).map fun c => if c == ' ' then '+' else c

/-- Parameters as the query of an address. -/
def queryOf (params : List (String × String)) : List Char :=
  List.intercalate ['&']
    (params.map fun (name, value) => parameterText name ++ '=' :: parameterText value)

/-! ### Moving on -/

/-- The service, which an address without scheme or host is sent to. -/
def ownRoot : List Char := "http://testserver".toList

/-- The scheme and the host that an address is sent to. -/
def Parts.root (p : Parts) : List Char :=
  if p.isAbsolute then p.scheme ++ "://".toList ++ p.authority else ownRoot

/-- The characters of ASCII that are escaped in an answer with an address, apart from the space. -/
def escapedInAnswer : List Nat := [0x22, 0x3C, 0x3E, 0x5C, 0x5E, 0x60, 0x7B, 0x7C, 0x7D]

/-- The address of another path of the same host, as the service answers with it. -/
def Parts.moved (p : Parts) (path query : List Char) : List Char :=
  Text.escape (Text.isPlainExcept escapedInAnswer)
    (p.root ++ path ++ if query.isEmpty then [] else '?' :: query)

/-- Checks that a request can be sent again to another path of the same host: its address must be
readable, and the fragment, which is kept without its escapes, must have no control characters. -/
def Parts.checkMove (p : Parts) (path query : List Char) : Outcome Unit := do
  if !(parse (p.moved path query)).isOk then .error .lostRequest
  if p.isAbsolute && (Text.unescape p.fragment).any isControl then .error .badAddress

end PageSearch.Address
