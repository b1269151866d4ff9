import PageSearch.Text.Blank
import PageSearch.Text.Search
import PageSearch.Value.Kind
import PageSearch.Value.Number

/-!
# Truncation to whole words

A text that is longer than a limit is cut there. If the cut would end in the middle of a word, the
text is cut at the last space before the limit instead, unless that space stands so far to the left
that too little would remain. At the end the text is trimmed.
-/

namespace PageSearch.Snippet

/-- The least share of the limit that a cut at a space must leave. -/
def leastShare : Float := 0.6

/-- A text that is given for a share: as many of it as the limit says, one after the other, are read as
a whole number. -/
def textThreshold (share : String) (limit : Int) : Outcome Int :=
  match Reading.int? (List.replicate limit.toNat share.toList).flatten with
  | some n => .ok n
  | none => .error .notANumber

/-- The position before which a text is not cut at a space: a share of the limit, without places
after the point. -/
def threshold (share : Value) (limit : Int) : Outcome Int :=
  match share.asNumber?, share with
  | some n, _ => do (← n.times limit).toInt
  | none, .str s => textThreshold s limit
  | none, _ => .error .unsuitable

/-- Cuts at a position, or at the last space before it that does not stand before the threshold.
The threshold is asked for only if there is such a space to compare with it. -/
def cutAtWord (leftmost : Outcome Int) (position : Nat) (s : List Char) : Outcome (List Char) :=
  let head := s.take position
  if s[position]? == some ' ' then .ok head
  else
    match Text.lastIndexOf? ' ' head with
    | none => .ok head
    | some space => do return if (← leftmost) ≤ space then head.take space else head

/-- The position of a limit in a text; a negative limit counts from the end. -/
def positionOf (limit : Int) (length : Nat) : Outcome Nat :=
  if 0 ≤ limit then .ok limit.toNat
  else if 0 ≤ limit + length then .ok (limit + length).toNat
  else .error .outOfRange

/-- A text of at most `limit` characters, cut at a space if it can be, and trimmed. -/
def truncate (text : String) (limit : Int) (share : Value) : Outcome String :=
  let s := text.toList
  if s.isEmpty then .ok ""
  else if limit < s.length then do
    let head ← cutAtWord (threshold share limit) (← positionOf limit s.length) s
    return String.ofList (Text.trim head)
  else .ok (String.ofList (Text.trim s))

/-- What comes of truncating a list or an object: always a fault. One that is longer than the limit is
asked for its part at the limit, and none can be trimmed. -/
def truncateParts (parts : Value) (size : Nat) (limit : Value) (n : Number) : Fault :=
  if !n.lt (.int size) then .notAnObject
  else
    match parts, n with
    | .obj _, _ => .missingField limit.text
    | _, .int n =>
      match positionOf n size with
      | .ok _ => .notAnObject
      | .error fault => fault
    | _, _ => .unsuitable

/-- The same for values. What does not count as true is the empty text. A text that is longer than a
limit which is no whole number has no place to be cut at. -/
def truncateValue (text limit share : Value) : Outcome String :=
  if !text.isTruthy then .ok ""
  else do
    let size ← text.size
    match limit.asNumber?, text with
    | none, _ => .error .unsuitable
    | some (.int n), .str s => truncate s n share
    | some n, .str s => if n.lt (.int size) then .error .unsuitable else return Text.trimmed s
    | some n, parts => .error (truncateParts parts size limit n)

end PageSearch.Snippet
