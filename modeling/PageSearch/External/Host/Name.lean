import PageSearch.External.Host.Label
import PageSearch.External.Host.Numeric
import PageSearch.Text.Percent

/-!
# Names of hosts

**Not a part of the search.** This module and those below it restate the rules that libraries have for the
names of hosts.

A host is given by a name or by numbers. Names in ASCII may be anything, except that a name which
begins like a label in punycode must be one when it is used. All other names are checked label by
label. A name is sent in ASCII.
-/

namespace PageSearch.Host

/-- The points between labels. Besides the full stop there are those of East Asian scripts. -/
def isPoint (c : Char) : Bool := c == '.' || c.toNat == 0x3002 || c.toNat == 0xFF0E || c.toNat == 0xFF61

/-- What stands between the points of a name, in small letters. -/
def pointed (name : List Char) : List (List Nat) :=
  (Text.splitWhere isPoint name).map fun label => label.flatMap fun c => inSmallLetters c.toNat

/-- The labels of a name. A point may end the name. -/
def labels (name : List Char) : List (List Nat) :=
  if (pointed name).getLast? == some [] then (pointed name).dropLast else pointed name

/-- The most characters of a label in ASCII. -/
def labelLimit : Nat := 63

/-- The most characters of a name in ASCII, with a point at its end. -/
def nameLimit : Nat := 254

/-- Checks the labels of a name. Each character takes at least one in ASCII, so that a name can be too
long before it is known how it is written there. -/
def checkLabels (check : List Nat → Except Flaw Unit) (name : List Char) : Except Flaw Unit :=
  if nameLimit < name.length then .error .malformed else (labels name).forM check

/-- Checks a label of a name that may be written in any script. -/
def checkNamed (label : List Nat) : Except Flaw Unit := do
  if label.all Punycode.isBasic then checkWritten label else checkLabel label
  if labelLimit < (writtenLabel label).length then .error .malformed

/-- Checks a name that may be written in any script. -/
def checkName (name : List Char) : Except Flaw Unit := do
  checkLabels checkNamed name
  let written := (labels name).flatMap fun label => writtenLabel label ++ ['.'.toNat]
  if nameLimit < written.length then .error .malformed

/-- Whether a host is in brackets, and what stands in them. -/
def inBrackets? (host : List Char) : Option (List Char) :=
  if 2 ≤ host.length && host.head? == some '[' && host.getLast? == some ']' then some host.tail.dropLast
  else none

/-- Whether a host can be one. -/
def isHost (host : List Char) : Bool :=
  if host.isEmpty then true
  else if looksNumeric host then isIPv4 host
  else
    match inBrackets? host with
    | some address => isZonedIPv6 address
    | none => host.all (Punycode.isBasic ·.toNat) || (checkName host).isOk

/-! ### Sending -/

/-- The characters of ASCII that are escaped in a host, apart from the space. -/
def escapedInHost : List Nat := [0x3C, 0x3E, 0x5B, 0x5D, 0x5E]

/-- A host as it is sent. -/
def sent (host : List Char) : List Char :=
  if (inBrackets? host).isSome then host
  else if host.all (Punycode.isBasic ·.toNat) then
    Text.escape (Text.isPlainExcept escapedInHost) (host.map Char.toLower)
  else List.intercalate ['.'] ((pointed host).map fun label => (writtenLabel label).map Char.ofNat)

/-- Checks a host that a request is sent to. A name can only be wrong then if it begins with a label in
punycode; what stands behind numbers must be ASCII. -/
def checkUse (host : List Char) : Except Flaw Unit :=
  let codes := (sent host).map Char.toNat
  if punycodeMark.isPrefixOf codes then checkLabels checkWritten (sent host)
  else if codes.all Punycode.isBasic then .ok ()
  else .error .unwritable

/-- Checks where the numbers of a host in brackets end, which is at the first bracket. -/
def checkEnd (host : List Char) : Except Flaw Unit :=
  if (inBrackets? host).any (·.contains ']') then .error .unbalanced else .ok ()

end PageSearch.Host
