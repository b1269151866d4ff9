import PageSearch.Text.Digit

/-!
# Escapes with percent signs

In an address some characters are escaped: each byte of the character in UTF-8 is written as a percent
sign and two digits of base 16. `escape` writes escapes, and `unescape` reads them.
-/

namespace PageSearch.Text

/-! ### Writing -/

/-- The digit of base 16 of a value below 16. -/
def hexDigit (d : Nat) : Char := if d < 10 then digitChar d else Char.ofNat ('A'.toNat + (d - 10))

/-- The escape of a byte. -/
def escapeByte (b : UInt8) : List Char := ['%', hexDigit (b.toNat / 16), hexDigit (b.toNat % 16)]

/-- The escapes of a character. -/
def escapeChar (c : Char) : List Char := (String.utf8EncodeChar c).flatMap escapeByte

/-- Escapes all characters but those that stay. -/
def escape (stays : Char → Bool) (s : List Char) : List Char :=
  s.flatMap fun c => if stays c then [c] else escapeChar c

/-- A character of ASCII with a form of its own that is none of some others. -/
def isPlainExcept (others : List Nat) (c : Char) : Bool :=
  0x20 < c.toNat && c.toNat < 0x7F && !others.contains c.toNat

/-! ### Reading -/

/-- The character of an escape. Those beyond ASCII take several escapes, and all of them are read as
one mark each. -/
def escapedChar (code : Nat) : Char := if code < 0x80 then Char.ofNat code else Char.ofNat 0xFFFD

/-- Writes the escapes as characters. A percent sign without two digits stands for itself. -/
def unescape : List Char → List Char
  | [] => []
  | '%' :: high :: low :: rest =>
    match hexValue? high, hexValue? low with
    | some h, some l => escapedChar (16 * h + l) :: unescape rest
    | _, _ => '%' :: unescape (high :: low :: rest)
  | c :: rest => c :: unescape rest

end PageSearch.Text
