import PageSearch.Field.Template
import PageSearch.External.Host.Flaw

/-!
# Faults

Everything that can go wrong in the library, as causes. Most of them say that a value of a request,
of the settings or of a stored document does not have the kind that is asked of it
(`Fault.IsOfValue`). A few are not faults of the library but of what carries requests over HTTP
around it (`PageSearch.External`).
-/

namespace PageSearch

/-- Why an operation has no result. -/
inductive Fault where
  /-- A field is asked of a value that is no object. -/
  | notAnObject
  /-- A value is of a kind that the operation does not take. -/
  | unsuitable
  /-- An object does not have a field that it must have. -/
  | missingField (key : String)
  /-- A position lies outside of a text. -/
  | outOfRange
  /-- Something that must be a pair has more parts or fewer. -/
  | notAPair
  /-- A text or a float stands for no number of the wanted kind, or a whole number for no text. -/
  | notANumber
  /-- A number is too large for the wanted kind. -/
  | tooLarge
  /-- A plan without a variant does not say how to do a step. -/
  | undefinedStep
  /-- A variant of a plan does not have a step that another one has. -/
  | foreignStep
  /-- A language is no usable substitution template. -/
  | template (error : Template.Error)
  /-- A request asks to rescore hits that it collapses. -/
  | rescoreOfCollapsed
  /-- A request is refused before the search engine is called. -/
  | invalid (message : String)
  /-- The search engine has failed. -/
  | engineFailed (message : String)
  /-- An error of the search engine that is passed on as it is. -/
  | foreign (kind : String)
  /-- A request over HTTP is answered with an error. -/
  | refused (status : Nat) (detail : String)
  /-- A request over HTTP has an address that cannot be read. -/
  | badAddress
  /-- A request over HTTP is to be sent again, to an address that cannot be read. -/
  | lostRequest
  /-- A request over HTTP is sent to a host that it cannot be sent to. -/
  | badHost (flaw : Host.Flaw)
  /-- A request over HTTP asks for a protocol that is not spoken. -/
  | foreignProtocol (scheme : String)
  /-- A request over HTTP asks for a lasting connection. -/
  | lastingConnection
  /-- A service must have a title and a version. -/
  | untitled
  /-- A command line that cannot be used, or that asks for help. -/
  | usage
  deriving DecidableEq

namespace Fault

/-- A fault of a value of the settings, of a request or of a document. -/
def IsOfValue : Fault → Prop
  | notAnObject | unsuitable | missingField _ | outOfRange | notAPair | notANumber | tooLarge => True
  | template _ => True
  | _ => False

/-- The words of a fault, for those that have any. -/
def message? : Fault → Option String
  | template (.malformed cause position t) => some (Template.Error.malformed cause position t).message
  | rescoreOfCollapsed => some "rescore_query and collapse_field are exclusive"
  | invalid message => some message
  | engineFailed message => some message
  | refused _ detail => some detail
  | _ => none

end Fault

/-- The outcome of an operation that may have no result. -/
abbrev Outcome (α : Type) := Except Fault α

end PageSearch
