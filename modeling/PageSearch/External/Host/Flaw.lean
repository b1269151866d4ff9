/-!
# What is wrong with a host

A name outside of ASCII is only that of a host if it keeps to the rules of its scripts. A host that is
given by numbers may have more behind them than can be sent.
-/

namespace PageSearch.Host

/-- Why a request cannot be sent to a host. -/
inductive Flaw where
  /-- A label is empty or too long, or it is not written the way labels are. -/
  | malformed
  /-- A character stands in no name. -/
  | badCharacter
  /-- A character stands in names, but not at its place. -/
  | badContext
  /-- A label is written in two directions, or in one that is not known. -/
  | badDirection
  /-- Characters outside of ASCII stand behind numbers. -/
  | unwritable
  /-- A bracket ends the numbers before they end. -/
  | unbalanced
  deriving DecidableEq

end PageSearch.Host
