/-!
# Finding a text in a text

`cutAt?` finds the first occurrence of a text and gives what stands before and after it.
`lastIndexOf?` finds the last occurrence of a character.
-/

namespace PageSearch.Text

/-- What stands before and after the first occurrence of `sought`, if it occurs. -/
def cutAt? (sought : List Char) : List Char → Option (List Char × List Char)
  | [] => if sought.isEmpty then some ([], []) else none
  | c :: r =>
    if sought.isPrefixOf (c :: r) then some ([], (c :: r).drop sought.length)
    else (cutAt? sought r).map fun (before, after) => (c :: before, after)

/-- The position of the last character `c`, if there is one. -/
def lastIndexOf? (c : Char) : List Char → Option Nat
  | [] => none
  | d :: r =>
    match lastIndexOf? c r with
    | some i => some (i + 1)
    | none => if d == c then some 0 else none

end PageSearch.Text
