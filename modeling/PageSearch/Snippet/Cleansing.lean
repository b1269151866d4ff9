import PageSearch.Text.Blank
import PageSearch.Value.Kind

/-!
# Cleansing

A text to show has no controls and no marks without width or form, every run of blanks is one
space, and it is trimmed. Controls that are blanks stay until the runs are collapsed.
-/

namespace PageSearch.Snippet

/-- Marks without width or form: spaces and joiners of no width, marks of direction, the mark of
byte order and the soft hyphen. -/
def isMark (c : Char) : Bool :=
  let n := c.toNat
  (0x200B ≤ n && n ≤ 0x200F) || n == 0x2060 || n == 0xFEFF || n == 0xAD

/-- The control characters. -/
def isControl (c : Char) : Bool := c.toNat < 0x20 || (0x7F ≤ c.toNat && c.toNat < 0xA0)

/-- Characters that a text to show does not have. -/
def isHidden (c : Char) : Bool := isMark c || (isControl c && !Text.isBlank c)

/-- The text without its hidden characters. -/
def removeHidden (s : List Char) : List Char := s.filter fun c => !isHidden c

/-- A text to show, on lists of characters; its runs of blanks are kept if they are not to be
collapsed. -/
def cleanseChars (collapsing : Bool) (s : List Char) : List Char :=
  let visible := removeHidden s
  Text.trim (if collapsing then Text.collapse visible else visible)

/-- A text to show. -/
def cleanse (text : String) (collapsing : Bool) : String :=
  String.ofList (cleanseChars collapsing text.toList)

/-! ### Values that are no texts -/

/-- Whether an item of a list of texts is left out: it stands in the sequence of all marks. -/
def isMarkText (s : List Char) : Bool :=
  let marks := [0x200B, 0x200C, 0x200D, 0x200E, 0x200F, 0x2060, 0xFEFF, 0xAD].map Char.ofNat
  (List.range (marks.length + 1)).any fun i => s.isPrefixOf (marks.drop i)

/-- The characters of a list of texts that have one character each. -/
def joinChars : List Value → Outcome (List Char)
  | [] => .ok []
  | .str s :: r =>
    if isMarkText s.toList then joinChars r
    else
      match s.toList with
      | [c] => (joinChars r).map (c :: ·)
      | _ => .error .unsuitable
  | _ :: _ => .error .unsuitable

/-- The visible characters of any value: the items of a list are its characters. -/
def visibleChars (v : Value) : Outcome (List Char) :=
  match v with
  | .str s => .ok (removeHidden s.toList)
  | v => do return removeHidden (← joinChars (← v.items))

/-- Any value as a text to show. What does not count as true is the empty text. -/
def cleanseValue (v : Value) (collapsing : Bool) : Outcome String :=
  if v.isTruthy then do return String.ofList (cleanseChars collapsing (← visibleChars v)) else .ok ""

end PageSearch.Snippet
