import PageSearch.Decimal.Layout
import PageSearch.Decimal.Reading
import PageSearch.Text.Quoted

/-!
# Substitution templates

A text that takes the place of a matched text can be a *template*: a backslash in it begins an
escape. `\n`, `\t` and the like are control characters, `\0` and three octal digits are characters
by number, `\g<0>` is the matched text, and a backslash before anything but a letter or a digit is
itself. A pattern without groups has no other group to refer to, so every other reference is an
error.

A template is read token by token, and a token is a character or a backslash with the character
after it. The reader always has the next token in hand; so a backslash at the very end is found
when the token before it is taken.
-/

namespace PageSearch.Template

/-! ### Errors -/

/-- What is wrong with a template. -/
inductive Cause where
  /-- A backslash with nothing after it. -/
  | danglingBackslash
  /-- A reference without an angle bracket. -/
  | missingBracket
  /-- A reference without a name. -/
  | missingName
  /-- A reference whose name does not end. -/
  | unclosedName
  /-- A name that is neither an identifier nor a number. -/
  | badName (name : List Char)
  /-- A group that the pattern does not have. -/
  | noSuchGroup (index : Nat)
  /-- Three octal digits for a number above 255. -/
  | octalTooLarge (escape : List Char)
  /-- A letter that is no escape. -/
  | badEscape (c : Char)
  deriving DecidableEq

/-- The words for what is wrong. -/
def Cause.message : Cause → String
  | danglingBackslash => "bad escape (end of pattern)"
  | missingBracket => "missing <"
  | missingName => "missing group name"
  | unclosedName => "missing >, unterminated name"
  | badName name => "bad character in group name " ++ Text.literal (String.ofList name)
  | noSuchGroup index => "invalid group reference " ++ natText index
  | octalTooLarge escape => "octal escape value " ++ String.ofList escape ++ " outside of range 0-0o377"
  | badEscape c => "bad escape " ++ String.ofList ['\\', c]

/-- Why a template cannot be used. -/
inductive Error where
  /-- It cannot be read, from a position on. -/
  | malformed (cause : Cause) (position : Nat) (template : List Char)
  /-- It refers to a group by a name, and no group has one. -/
  | unknownName (name : List Char)
  deriving DecidableEq

/-- The line and the column of a position, both counted from one. -/
def lineAndColumn (template : List Char) (position : Nat) : Nat × Nat :=
  let before := template.take position
  (before.count '\n' + 1, (before.reverse.takeWhile (· != '\n')).length + 1)

/-- The whole text of an error. A template of several lines has its line and column added. -/
def Error.message : Error → String
  | malformed cause position template =>
    let place := cause.message ++ " at position " ++ natText position
    if template.contains '\n' then
      let (line, column) := lineAndColumn template position
      place ++ " (line " ++ natText line ++ ", column " ++ natText column ++ ")"
    else place
  | unknownName name => "unknown group name " ++ Text.literal (String.ofList name)

/-! ### Tokens -/

/-- The smallest parts that a template is read in. -/
inductive Token where
  /-- A character that is not a backslash. -/
  | plain (c : Char)
  /-- A backslash and the character after it. -/
  | escaped (c : Char)
  /-- A backslash at the end. -/
  | dangling
  deriving DecidableEq

/-- The characters of a token. -/
def Token.chars : Token → List Char
  | plain c => [c]
  | escaped c => ['\\', c]
  | dangling => ['\\']

/-- Splits a template into tokens. -/
def tokens : List Char → List Token
  | [] => []
  | [c] => if c == '\\' then [.dangling] else [.plain c]
  | c :: d :: r => if c == '\\' then .escaped d :: tokens r else .plain c :: tokens (d :: r)

/-- The position of the first of the tokens that are left. -/
def positionOf (template : List Char) (rest : List Token) : Nat :=
  template.length - (rest.flatMap Token.chars).length

/-- An error, `back` characters before the tokens that are left. -/
def failAt {α : Type} (template : List Char) (rest : List Token) (back : Nat) (cause : Cause) :
    Except Error α :=
  .error (.malformed cause (positionOf template rest - back) template)

/-- Looks at the token after the one that is taken: a backslash at the end is an error. -/
def advance (template : List Char) (rest : List Token) : Except Error Unit :=
  match rest with
  | .dangling :: _ => .error (.malformed .danglingBackslash (template.length - 1) template)
  | _ => .ok ()

/-! ### Escapes -/

/-- A part of a template that has been read. -/
inductive Piece where
  /-- A character that stands for itself. -/
  | char (c : Char)
  /-- The matched text. -/
  | matched
  deriving DecidableEq

/-- An octal digit. -/
def isOctal (c : Char) : Bool := '0' ≤ c && c ≤ '7'

/-- The value of a digit. -/
def digitOf (c : Char) : Nat := c.toNat - '0'.toNat

/-- Up to `count` octal digits, and what follows them. -/
def takeOctal (template : List Char) : Nat → List Token → Except Error (List Char × List Token)
  | count + 1, .plain c :: rest =>
    if isOctal c then do
      advance template rest
      let (digits, rest) ← takeOctal template count rest
      return (c :: digits, rest)
    else .ok ([], .plain c :: rest)
  | _, rest => .ok ([], rest)

/-- The name of a reference, up to its closing bracket, and what follows it. -/
def takeName (template : List Char) (name : List Char) :
    List Token → Except Error (List Char × List Token)
  | [] => failAt template [] name.length (if name.isEmpty then .missingName else .unclosedName)
  | token :: rest => do
    advance template rest
    if token = .plain '>' then
      if name.isEmpty then failAt template rest 1 .missingName else return (name, rest)
    else takeName template (name ++ token.chars) rest

/-- A reference by name or number, after its letter. Only number zero, the whole match, exists. -/
def readReference (template : List Char) (rest : List Token) :
    Except Error (List Piece × List Token) :=
  match rest with
  | .plain '<' :: rest => do
    advance template rest
    let (name, rest) ← takeName template [] rest
    if Text.isIdentifier name then .error (.unknownName name)
    else
      match Reading.int? name with
      | some (.ofNat 0) => return ([.matched], rest)
      | some (.ofNat (n + 1)) => failAt template rest (name.length + 1) (.noSuchGroup (n + 1))
      | _ => failAt template rest (name.length + 1) (.badName name)
  | _ => failAt template rest 0 .missingBracket

/-- An escape that begins with a digit other than zero: three octal digits are a character by
number, and one or two digits a reference. -/
def readNumber (template : List Char) (c : Char) (rest : List Token) :
    Except Error (List Piece × List Token) :=
  match rest with
  | .plain d :: rest =>
    if !Reading.isDigit d then failAt template (.plain d :: rest) 1 (.noSuchGroup (digitOf c))
    else do
      advance template rest
      match rest with
      | .plain e :: rest' =>
        if isOctal c && isOctal d && isOctal e then
          advance template rest'
          let value := 64 * digitOf c + 8 * digitOf d + digitOf e
          if 0o377 < value then failAt template rest' 4 (.octalTooLarge ['\\', c, d, e])
          else return ([.char (Char.ofNat value)], rest')
        else failAt template rest 2 (.noSuchGroup (10 * digitOf c + digitOf d))
      | _ => failAt template rest 2 (.noSuchGroup (10 * digitOf c + digitOf d))
  | _ => failAt template rest 1 (.noSuchGroup (digitOf c))

/-- The control character that a letter stands for. -/
def control? (c : Char) : Option Char :=
  match c with
  | 'a' => some (Char.ofNat 7)
  | 'b' => some (Char.ofNat 8)
  | 'f' => some (Char.ofNat 12)
  | 'n' => some '\n'
  | 'r' => some '\r'
  | 't' => some '\t'
  | 'v' => some (Char.ofNat 11)
  | _ => none

/-- An escape, from the character after the backslash on. -/
def readEscape (template : List Char) (c : Char) (rest : List Token) :
    Except Error (List Piece × List Token) :=
  if c == 'g' then readReference template rest
  else if c == '0' then do
    let (digits, rest) ← takeOctal template 2 rest
    return ([.char (Char.ofNat (digits.foldl (fun n d => 8 * n + digitOf d) 0))], rest)
  else if Reading.isDigit c then readNumber template c rest
  else
    match control? c with
    | some d => .ok ([.char d], rest)
    | none =>
      if c == '\\' then .ok ([.char '\\'], rest)
      else if c.isAlpha then failAt template rest 2 (.badEscape c)
      else .ok ([.char '\\', .char c], rest)

/-! ### The whole template -/

/-- Reads the tokens that are left; `fuel` is at least their number. -/
def readPieces (template : List Char) : Nat → List Token → Except Error (List Piece)
  | 0, _ => .ok []
  | _, [] => .ok []
  | fuel + 1, token :: rest => do
    advance template rest
    match token with
    | .plain c => return .char c :: (← readPieces template fuel rest)
    | .escaped c =>
      let (pieces, rest) ← readEscape template c rest
      return pieces ++ (← readPieces template fuel rest)
    | .dangling => return []

/-- Reads a template. -/
def read (template : List Char) : Except Error (List Piece) := do
  let all := tokens template
  advance template all
  readPieces template all.length all

/-- What a piece stands for. -/
def Piece.expand (whole : List Char) : Piece → List Char
  | char c => [c]
  | matched => whole

/-- The text that takes the place of `whole`. A text without a backslash is no template and stands
for itself. -/
def expand (whole template : List Char) : Except Error (List Char) :=
  if template.contains '\\' then do
    let pieces ← read template
    return pieces.flatMap (Piece.expand whole)
  else .ok template

end PageSearch.Template
