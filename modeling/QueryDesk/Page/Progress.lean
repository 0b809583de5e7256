import QueryDesk.Page.Result
import QueryDesk.Workflow.Run

/-!
Running a question while the page shows how it goes. Whatever fails is shown on the page.
-/

namespace QueryDesk.Page

/-- How a run is announced: the words before the note of a step, and how a step stands that does not say. -/
structure Announcing where
  lead : String
  unsaid : Value := .null

def updateStatus (label state : String) (done : Bool := false) : Desk Unit :=
  put "status.update" [] ([("label", .text label), ("state", .text state)] ++
    (if done then [("expanded", .bool false)] else []))

/-- Shows an event of a run; the state in which the run ended is kept. -/
def follow (how : Announcing) (event : Value) : Desk (Option Value) := do
  if ← (Value.text "node_name").isIn event then
    let standing ← event.getD "node_status" how.unsaid
    let note ← event.getD "node_message" "Processing"
    let log ← event.get "node_logs"
    if standing == "running" && note.truthy then updateStatus s!"{how.lead} {note.display}..." "running"
    if log.truthy then put "status.write" [log]
    return none
  else if (← event.get "type") == "complete" then return some (← event.field "state")
  else return none

/-- Runs a question, and gives the state in which it ended if it told one. -/
def watch (how : Announcing) (q : Workflow.Question) : Desk (Option Value) := do
  let before := (← get).outcome
  modify fun t => { t with outcome := none }
  Workflow.askWatched q fun event => do
    match ← follow how event with
    | some state => modify fun t => { t with outcome := some state }
    | none => pure ()
  let state := (← get).outcome
  modify fun t => { t with outcome := before }
  pure state

def reloadThreads : Desk Unit := do remember "thread_states" (← Threads.states)

def keepOutput (state : Value) : Desk Unit := do
  remember "current_output" state
  reloadThreads
  remember "show_results" (.bool true)

def showFailure (what : String) (f : Fault) : Desk Unit := do
  updateStatus s!"❌ Error: {f.message}" "error" true
  put "error" [.text s!"{what}: {f.message}"]
  put "exception" [.fault f]

def changedQuestion (change : Value) : Attempt Workflow.Question := do
  let question ← change.field "user_question"
  let patch ← change.field "operation"
  let plan ← change.field "executed_plan"
  let schema ← change.field "filtered_schema"
  return { question, patch, plan, schema, thread := ← change.get "thread_id" }

def changesStatus (state : Value) (success : String) : Desk Unit := do
  if (← state.get "result").isNull then updateStatus "⚠️ No results found" "error" true
  else updateStatus success "complete" true

def onTopOf (state? : Option Value) (change : Value) : Attempt Value :=
  match state? with
  | some state =>
    if state.truthy then do
      let change ← change.setField "executed_plan" (← state.get "executed_plan")
      change.setField "filtered_schema" (← state.get "filtered_schema")
    else .ok change
  | none => .ok change

/-- Remembers how one of the waiting changes looks now. -/
def rewriteWaiting (i : Nat) (change : Value) : Desk Unit := do
  match ← remembered? "pending_batch_patches" with
  | some (.list waiting) => remember "pending_batch_patches" (.list (waiting.set i change))
  | _ => pure ()

/-- Carries out waiting changes one after the other, each on top of the one before. -/
def carryOut (total : Nat) : Option Value → List (Value × Nat) → Desk (Option Value)
  | state?, [] => pure state?
  | state?, (change, i) :: rest => do
    updateStatus s!"Applying modification {i} of {total}..." "running"
    let change ← onTopOf state? change
    rewriteWaiting (i - 1) change
    let state ← watch ⟨s!"[{i}/{total}]", .null⟩ (← changedQuestion change)
    let state? := state.or state?
    match state? with
    | none | some .null => throw (.runtime s!"Stream {i} completed but no final result was received")
    | some _ => carryOut total state? rest

/-- Carries out all changes that wait together. -/
def applyWaiting (waiting : Value) : Desk Unit := do
  let total ← waiting.size
  put "status" [.text s!"Applying {total} modification(s)..."] [("expanded", .bool true)]
  Desk.recover (do
    let state := (← carryOut total none ((← waiting.items).zipIdx 1)).getD .null
    keepOutput state
    changesStatus state s!"✅ All {total} modifications applied successfully!") fun f =>
      showFailure "An error occurred applying modifications" f
  remember "pending_batch_patches" (.list [])

def ended (state : Option Value) : Attempt Value :=
  match state with
  | none | some .null => .error (.runtime "Stream completed but no final result was received")
  | some state => .ok state

def applyOne (change : Value) : Desk Unit := do
  put "status" ["Applying modification..."] [("expanded", .bool true)]
  Desk.recover (do
    let state ← ended (← watch ⟨"⏳", .null⟩ (← changedQuestion change))
    keepOutput state
    changesStatus state "✅ Modification applied successfully!") fun f =>
      showFailure "An error occurred applying modification" f

def questionStatus (state : Value) : Desk Unit := do
  let plan ← state.getD "planner_output" (.record [])
  if (← plan.get "decision") == "terminate" then updateStatus "❌ Query terminated" "error" true
  else if (← state.get "needs_clarification").truthy then
    updateStatus "✅ Query executed (clarification suggested)" "complete" true
  else if !(← state.get "query").truthy then
    let result ← state.getD "result" "Query error"
    updateStatus s!"❌ {result.display}" "error" true
  else changesStatus state "✅ Query executed successfully!"

def freshLabel : Value := "Query executed successfully!"

def runQuestion (q : Workflow.Question) : Desk Unit := do
  put "status" ["Starting query workflow..."] [("expanded", .bool true)]
  Desk.recover (do
    let state ← ended (← watch ⟨"⏳", "running"⟩ q)
    keepOutput state
    questionStatus state
    remember "current_dataframe" (← results state freshLabel)) fun f => showFailure "An error occurred" f

end QueryDesk.Page
