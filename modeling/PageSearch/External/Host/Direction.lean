import PageSearch.External.Host.Mark

/-!
# Directions of writing

Some scripts are written from right to left. Digits are written from left to right in all of them, and
marks go along with their letters, as long as they take no place of their own.
-/

namespace PageSearch.Host

/-! ### Characters -/

/-- The scripts that are written from right to left; the marks between the letters are no letters. -/
def rightToLeftRanges : Array (Nat × Nat) :=
  #[
    (0x5D0, 0x64A), (0x66E, 0x6EF), (0x6FA, 0x8C9), (0xFE73, 0xFE73), (0x10800, 0x10D23),
    (0x10E80, 0x10FF6), (0x1E800, 0x1E959)
  ]

/-- A letter that is written from right to left. -/
def isRightToLeft (n : Nat) : Bool := Text.inRanges rightToLeftRanges n && !isMark n

/-- The other digits that are written from right to left. -/
def isOtherDigit (n : Nat) : Bool := 0x10D30 ≤ n && n < 0x10D3A

/-- A digit of a number that is written as in Latin script, whatever stands around it. -/
def isPlainDigit (n : Nat) : Bool := (0x30 ≤ n && n < 0x3A) || isExtendedDigit n

/-- Characters without a direction. -/
def neutralRanges : Array (Nat × Nat) :=
  #[
    (0x2D, 0x2D), (0xB7, 0xB7), (0x2B9, 0x2BA), (0x2C6, 0x2CF), (0x2EC, 0x2EC), (0x375, 0x375),
    (0x200C, 0x200D), (0x2E2F, 0x2E2F), (0x30FB, 0x30FB), (0xA67F, 0xA67F), (0xA717, 0xA71F),
    (0xA788, 0xA788)
  ]

/-- A character that follows the direction of those around it. -/
def isNeutral (n : Nat) : Bool := Text.inRanges neutralRanges n

/-- Overlaid marks that are written from left to right all the same. -/
def leftToRightMarks : List Nat := [0xCBF, 0xCC6, 0x11A07, 0x11A08, 0x11C3F]

/-- A mark that goes along with its letter. -/
def isFollower (n : Nat) : Bool := isOverlaid n && !leftToRightMarks.contains n

/-! ### Labels -/

/-- A character that makes a label one that is written from right to left. -/
def turns (n : Nat) : Bool := isRightToLeft n || isArabicDigit n || isOtherDigit n

/-- A character that a label which is written from right to left can have. -/
def goesAlong (n : Nat) : Bool := turns n || isPlainDigit n || isFollower n || isNeutral n

/-- Whether a label is written in one direction that is known. From right to left it begins with a
letter, ends with a letter or a digit, apart from marks, and does not mix two kinds of digits. -/
def hasOneDirection (label : List Nat) : Bool :=
  !label.any isYoung &&
    (!label.any turns ||
      (label.head?.any isRightToLeft && label.all goesAlong &&
        firstPast isFollower (fun n => turns n || isPlainDigit n) label.reverse &&
        !(label.any isPlainDigit && label.any fun n => isArabicDigit n || isOtherDigit n)))

end PageSearch.Host
