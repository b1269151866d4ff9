import PageSearch.External.Host.Composition
import PageSearch.External.Host.Direction
import PageSearch.External.Host.Flaw
import PageSearch.External.Host.Joining
import PageSearch.External.Host.Punycode

/-!
# Labels

The name of a host is a row of labels with points between them. A label is a list of code points. It
must be written in small letters, in characters that names can have, and in one direction. Some
characters are permitted only next to certain others.

In ASCII a label with other characters has the mark `xn--` in front, and then it is written in
punycode; what counts is the label that it stands for, which must be written in this way.
-/

namespace PageSearch.Host

/-- The hyphen. -/
def hyphen : Nat := '-'.toNat

/-! ### Characters at their place -/

/-- The sign before Greek letters that are meant as numbers. -/
def keraia : Nat := 0x375

/-- The signs after Hebrew letters that are meant as numbers. -/
def isGeresh (n : Nat) : Bool := n == 0x5F3 || n == 0x5F4

/-- The middle dot of Japanese. -/
def katakanaDot : Nat := 0x30FB

/-- The sign that keeps two letters apart. -/
def nonJoiner : Nat := 0x200C

/-- The sign that joins two letters. -/
def joiner : Nat := 0x200D

/-- The two signs that say whether letters are joined. -/
def isJoining (n : Nat) : Bool := n == nonJoiner || n == joiner

/-- A character that is permitted at some places only. -/
def isContextual (n : Nat) : Bool :=
  n == middleDot || n == keraia || isGeresh n || n == katakanaDot || isArabicDigit n ||
    isExtendedDigit n || isJoining n

/-- A character of which it is not known whether it joins the sounds of two letters: a young one, or one
without a name. -/
def isObscure (n : Nat) : Bool := isYoung n || isTangut n

/-- Whether such a character may stand where it stands in a label: `before` is what comes before it,
the nearest first, and `after` what follows. The middle dot stands between two `l`, the signs of
numbers stand beside a letter of their script, the Japanese dot needs other Japanese characters, and a
label does not mix two kinds of digits. Letters are joined or kept apart after a mark that joins them,
and they can be kept apart wherever they would be joined in writing. -/
def fits (label before : List Nat) (n : Nat) (after : List Nat) : Bool :=
  if n == middleDot then before.head? == some 'l'.toNat && after.head? == some 'l'.toNat
  else if n == keraia then after.head?.any isGreek
  else if isGeresh n then before.head?.any isHebrew
  else if n == katakanaDot then label.any isKanaOrHan
  else if isArabicDigit n then !label.any isExtendedDigit
  else if isExtendedDigit n then !label.any isArabicDigit
  else
    before.head?.any isVirama ||
      (n == nonJoiner && firstPast isTransparent joinsOn before &&
        firstPast isTransparent joinsBack after)

/-- Checks the characters of a label, of which those before have been checked. Behind a character that
may or may not join letters nothing can be said about a sign that joins them. -/
def checkFrom (label before : List Nat) : List Nat → Except Flaw Unit
  | [] => .ok ()
  | n :: after =>
    if isPermitted n then checkFrom label (n :: before) after
    else if isJoining n && before.head?.any isObscure then .error .malformed
    else if !isContextual n then .error .badCharacter
    else if fits label before n after then checkFrom label (n :: before) after
    else .error .badContext

/-! ### Labels -/

/-- Whether the hyphens of a label stand where they may: not first, not last, and not both third and
fourth. -/
def hasGoodHyphens (label : List Nat) : Bool :=
  label.head? != some hyphen && label.getLast? != some hyphen && (label.drop 2).take 2 != [hyphen, hyphen]

/-- Checks a label. -/
def checkLabel (label : List Nat) : Except Flaw Unit := do
  if label.isEmpty || !isComposed label || !hasGoodHyphens label || label.head?.any isMark then
    .error .malformed
  checkFrom label [] label
  if !hasOneDirection label then .error .badDirection

/-- What stands before a label that is written in punycode. -/
def punycodeMark : List Nat := "xn--".toList.map Char.toNat

/-- Checks a label that is written in ASCII. -/
def checkWritten (label : List Nat) : Except Flaw Unit :=
  if punycodeMark.isPrefixOf label then
    let written := label.drop punycodeMark.length
    if written.isEmpty || written.getLast? == some hyphen then .error .malformed
    else
      match Punycode.decode? written with
      | some label => do
        checkLabel label
        if Punycode.encode label != written then .error .malformed
      | none => .error .malformed
  else checkLabel label

/-- A label in ASCII. -/
def writtenLabel (label : List Nat) : List Nat :=
  if label.all Punycode.isBasic then label else punycodeMark ++ Punycode.encode label

end PageSearch.Host
