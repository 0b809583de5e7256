import QueryDesk.Service.Desk

/-!
Threads of questions. Every run that ends is kept under its thread, with its messages as plain documents;
they are messages again when a state is fetched.
-/

namespace QueryDesk.Threads

/-- A message as a document, which tells its kind and its content. -/
def plainMessage (message : Value) : Attempt Value := do
  let kind := match message with
    | .message role _ => role.label
    | v => v.kind
  return .record [("type", .text kind), ("content", ← message.attr "content")]

/-- A message again, from its document; one of an unknown kind is taken as a person's. -/
def messageFrom (doc : Value) : Attempt Value := do
  let kind ← doc.getD "type" "HumanMessage"
  let content ← doc.getD "content" ""
  let role : Role := if kind == "AIMessage" then .assistant
    else if kind == "SystemMessage" then .system else .human
  return .message role content

/-- A state with each of its messages put through `f`. -/
def mapMessages (f : Value → Attempt Value) (state : Value) : Attempt Value :=
  match state with
  | .record fields =>
    match fields.lookup "messages" with
    | some messages =>
      if messages.truthy then do
        return .record (Fields.put fields "messages" (.list (← (← messages.items).mapM f)))
      else .ok state
    | none => .ok state
  | .list items =>
    if items.any (· == "messages") then .error (.mismatch "list indices must be integers or slices, not str")
    else .ok state
  | v => .error (.noAttribute v.kind "copy")

/-- A state as it is written to the file. -/
def plainState (state : Value) : Attempt Value := mapMessages plainMessage state

/-- A state as it is read from the file. -/
def liveState (state : Value) : Attempt Value :=
  if state.truthy then mapMessages messageFrom state else .ok state

def states : Desk Value := do return (← get).threads.states

def write (doc : Value) : Desk Unit := modify fun t => { t with threads := .holding doc }

def entry (threads name : Value) : Attempt Value :=
  match name.text?, threads with
  | some name, _ => threads.field name
  | none, .record _ => do
    let name ← name.hashable
    throw (.missingKey name.display name.quoted)
  | none, v => .error (.mismatch s!"{v.kind} indices must be integers or slices, not {name.kind}")

def withThread (name now : String) (question doc : Value) : Attempt Value := do
  let threads ← doc.field "threads"
  doc.setField "threads" (← threads.setField name (.record [("thread_id", .text name),
    ("original_query", question), ("created_at", .text now), ("last_updated", .text now),
    ("queries", .list [])]))

def create (question : Value) : Desk String := do
  let name ← Desk.freshName
  write (← withThread name (← read).now question (← states))
  pure name

def appended (v : Value) (x : Value) : Attempt Value :=
  match v with
  | .list xs => .ok (.list (xs ++ [x]))
  | v => .error (.noAttribute v.kind "append")

def withRun (run now : String) (thread question state doc : Value) : Attempt Value := do
  let threads ← doc.field "threads"
  let found ← entry threads thread
  let runs ← appended (← found.field "queries") (.record [("query_id", .text run), ("timestamp", .text now),
    ("user_question", question), ("state", state)])
  let found ← (← found.setField "queries" runs).setField "last_updated" (.text now)
  doc.setField "threads" (← threads.setField thread.display found)

/-- Keeps the state in which a run ended, and gives the run's name. -/
def save (thread question state : Value) : Desk String := do
  let run ← Desk.freshName
  let now := (← read).now
  let doc ← states
  if !(← thread.isIn (← doc.field "threads")) then
    let _ ← create question
  let state ← plainState state
  write (← withRun run now thread question state doc)
  pure run

def runs? (thread : Value) : Desk (Option Value) := do
  let threads ← (← states).field "threads"
  if !(← thread.isIn threads) then return none
  return some (← (← entry threads thread).getD "queries" (.list []))

/-- The state in which the last run of a thread ended. -/
def latest (thread : Value) : Desk Value := do
  match ← runs? thread with
  | some runs => if runs.truthy then liveState (← (← runs.last).field "state") else pure .null
  | none => pure .null

def runNamed? (run : Value) : List Value → Attempt (Option Value)
  | [] => .ok none
  | r :: rest => do if (← r.field "query_id") == run then return some r else runNamed? run rest

def find (thread run : Value) : Desk Value := do
  match ← runs? thread with
  | some runs =>
    match ← runNamed? run (← runs.items) with
    | some r => liveState (← r.field "state")
    | none => pure .null
  | none => pure .null

def runs (thread : Value) : Desk Value := do return (← runs? thread).getD (.list [])

def info (thread : Value) : Desk Value := do
  liftM ((← (← states).field "threads").lookupD thread .null)

def all : Desk Value := do liftM ((← states).getD "threads" (.record []))

end QueryDesk.Threads
