import QueryDesk.Json.Read
import QueryDesk.Json.Write

/-!
The file of threads. A thread is a question with the runs that were made for it; the file holds one document
with all threads by their names.
-/

namespace QueryDesk

inductive ThreadFile where
  | absent
  | unreadable
  | document (doc : Value)
  deriving Inhabited

namespace ThreadFile

def ofText (text : String) : ThreadFile :=
  match Json.read text with
  | .ok doc => .document doc
  | .error _ => .unreadable

def noThreads : Value := .record [("threads", .record [])]

def isCountable (doc : Value) : Bool :=
  match doc.getD "threads" (.record []) with
  | .ok threads => threads.size.toBool
  | .error _ => false

/-- The document with all threads; there are none if the file is absent or cannot be read. -/
def states : ThreadFile → Value
  | .document doc => if isCountable doc then doc else noThreads
  | _ => noThreads

/-- The file after a document was written into it. A document that cannot be written leaves a part of its
text, which cannot be read. -/
def holding (doc : Value) : ThreadFile :=
  match Json.kept? doc with
  | some doc => .document doc
  | none => .unreadable

end ThreadFile

end QueryDesk
