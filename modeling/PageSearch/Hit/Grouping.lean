import PageSearch.Value.Equality

/-!
# Grouping hits by host

Hits of one host that follow each other can be shown as a group. Every hit but the first of such a
run is suggested for grouping, and the last one leads to more hits of the host. Each is found in a pass
from left to right with what came before in hand, so that the end of a run is only seen at the hit after
it, or at the end of the list.

Hosts can be of any type with an equality: texts, or values as they come.
-/

namespace PageSearch.Hit

/-- Whether each host is the same as the one before it; `previous` is the one before the first. -/
def repeatsFrom {α : Type} [BEq α] (previous : α) : List α → List Bool
  | [] => []
  | host :: rest => (host == previous) :: repeatsFrom host rest

/-- The hits that are suggested for grouping. A hit without host is grouped with another, and also
if it is the first; `noHost` stands for no host. -/
def suggestGrouping {α : Type} [BEq α] (noHost : α) (hosts : List α) (blocked : Bool) : List Bool :=
  (repeatsFrom noHost hosts).map fun isRepeat => !blocked && isRepeat

/-! ### The ends of groups -/

/-- What a pass over flags has in hand: a mark for each flag of the list, and the flag before. -/
structure MorePass (α : Type) where
  /-- The marks. -/
  marks : List α
  /-- The flag before. -/
  previous : α

section Flags

variable {α : Type} (isSet : α → Bool) (mark : Bool → α)

/-- Before the first flag nothing is marked. -/
def MorePass.start (count : Nat) : MorePass α where
  marks := List.replicate count (mark false)
  previous := mark false

/-- Takes in a flag and its position. If it ends a run of set flags, the position before is marked. -/
def MorePass.step (pass : MorePass α) (next : α × Nat) : MorePass α where
  marks :=
    if isSet pass.previous && !isSet next.1 then pass.marks.set (next.2 - 1) (mark true)
    else pass.marks
  previous := next.1

/-- Marks the ends of the runs of set flags, whatever a flag is. The last mark is the last flag as it
is. -/
def markMoreBy (flags : List α) : List α :=
  let pass := flags.zipIdx.foldl (MorePass.step isSet mark) (.start mark flags.length)
  pass.marks.set (flags.length - 1) pass.previous

end Flags

/-- Marks the ends of the runs of set flags. -/
def markMore (flags : List Bool) : List Bool := markMoreBy id id flags

/-- The same for flags of any kind: those that count as true are set. -/
def markMoreOf (flags : List Value) : List Value := markMoreBy Value.isTruthy Value.bool flags

end PageSearch.Hit
