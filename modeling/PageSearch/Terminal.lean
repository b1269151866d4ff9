import PageSearch.Fault
import PageSearch.Value.Basic

/-!
# The terminal

Settings and summaries are shown on a terminal, line by line. What shows them is not a part of the
library, and what they look like there is no part of any answer. But it may fail at a value that it
cannot show, and then so does what wanted it shown. So whatever is shown depends on a `Terminal`, about
which nothing else is known than how it fails.
-/

namespace PageSearch

/-- Something that shows values. -/
class Terminal where
  /-- Shows a value. -/
  outline : Value → Outcome Unit
  /-- If it fails, something is wrong with the value. -/
  isOfValue_of_outline : ∀ (v : Value) (fault : Fault), outline v = .error fault → fault.IsOfValue

end PageSearch
