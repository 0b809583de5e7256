/-!
What can go wrong, by cause. A document that does not have the shape a step expects, a service that
answers with an error, a request that is not valid: each cause has a constructor, and `Fault.message`
holds the wording in one place.
-/

namespace QueryDesk

/-- A reason why a step gave no result. -/
inductive Fault where
  /-- A value that the operation does not accept. -/
  | invalid (text : String)
  /-- A required key is absent; `shown` is the key as it is quoted in a message. -/
  | missingKey (text shown : String)
  | noAttribute (kind name : String)
  /-- An operation met a kind of value it is not made for. -/
  | mismatch (text : String)
  | outOfRange (text : String)
  | zeroDivision (text : String)
  | badJson (text : String)
  /-- A result that no branch has set. -/
  | unset (name : String)
  /-- A service outside the program answered with an error. -/
  | service (text : String)
  | database (code text : String)
  | runtime (text : String)
  /-- A service took longer than it may. -/
  | timeout (text : String)
  | general (text : String)
  | http (status : Nat) (detail : String)
  | noFile (text : String)
  /-- The path names a directory where a file is needed. -/
  | isDirectory (text : String)
  /-- A text with characters that a sheet cannot hold. -/
  | unwritable (text : String)
  /-- A model's reply that does not fit its form, with the raw reply when there is one. -/
  | unparsed (text : String) (raw : Option String)
  | interrupted
  /-- The person ended the run from the keyboard. -/
  | cancelled
  | endOfInput
  /-- The command line asks to end the program. -/
  | exit (code : Int)
  /-- The page asks to be drawn again. -/
  | redraw
  | tooDeep
  deriving DecidableEq, Inhabited

namespace Fault

def message : Fault → String
  | invalid t => t
  | missingKey _ shown => shown
  | noAttribute kind name => s!"'{kind}' object has no attribute '{name}'"
  | mismatch t => t
  | outOfRange t => t
  | zeroDivision t => t
  | badJson t => t
  | unset name => s!"cannot access local variable '{name}' where it is not associated with a value"
  | service t => t
  | database _ t => t
  | runtime t => t
  | timeout t => t
  | general t => t
  | http status detail => s!"{status}: {detail}"
  | noFile t => t
  | isDirectory t => t
  | unwritable t => s!"{t} cannot be used in worksheets."
  | unparsed t _ => t
  | interrupted => ""
  | cancelled => ""
  | endOfInput => ""
  | exit code => toString code
  | redraw => ""
  | tooDeep => "maximum recursion depth exceeded"

/-- Faults that a step may recover from; the others end the run whatever the step does. -/
def recoverable : Fault → Bool
  | cancelled | exit _ | redraw => false
  | _ => true

def notSubscriptable (kind : String) : Fault := .mismatch s!"'{kind}' object is not subscriptable"

def notIterable (kind : String) : Fault := .mismatch s!"'{kind}' object is not iterable"

def unhashable (kind : String) : Fault := .mismatch s!"unhashable type: '{kind}'"

def unordered (left right : String) : Fault :=
  .mismatch s!"'<' not supported between instances of '{left}' and '{right}'"

def notAssignable (kind : String) : Fault :=
  .mismatch s!"'{kind}' object does not support item assignment"

def notText (position : Nat) (kind : String) : Fault :=
  .mismatch s!"sequence item {position}: expected str instance, {kind} found"

end Fault

end QueryDesk
