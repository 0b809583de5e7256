import QueryDesk.Service.Database
import QueryDesk.Service.DebugFile
import QueryDesk.Service.Runner
import QueryDesk.Service.Threads

/-!
A question from its beginning to its end: the state a run begins with, the run, and what is kept of it. A
question either begins a thread or goes on with one, and it may come with a change to a plan that was
carried out before.
-/

namespace QueryDesk.Workflow

structure Question where
  question : Value
  sortOrder : Value := "Default"
  limit : Value := .int 0
  timeFilter : Value := "All Time"
  thread : Value := .null
  /-- The state to go on from; null if it is to be looked up. -/
  previous : Value := .record []
  patch : Value := .null
  plan : Value := .null
  schema : Value := .null

def baseState (q : Question) (thread : Value) : Value :=
  .record [("thread_id", thread), ("db_connection", .null), ("messages", .list [.message .human q.question]),
    ("user_questions", .list [q.question]), ("user_question", q.question), ("schema", .list []),
    ("planner_outputs", .list []), ("planner_output", .null), ("filtered_schema", .null),
    ("schema_markdown", .null), ("queries", .list []), ("query", .text ""), ("result", .text ""), ("router_mode", .null),
    ("router_instructions", .null), ("sort_order", q.sortOrder), ("result_limit", q.limit),
    ("time_filter", q.timeFilter), ("last_step", .text "start_query_pipeline"), ("error_iteration", .int 0),
    ("refinement_iteration", .int 0), ("column_removal_count", .int 0), ("removed_columns", .list []),
    ("last_attempt_time", .null), ("needs_clarification", .bool false),
    ("clarification_suggestions", .list []), ("correction_history", .list []),
    ("refinement_history", .list []), ("patch_requested", .bool false), ("current_patch_operation", .null),
    ("patch_history", .list []), ("executed_plan", .null), ("modification_options", .null)]

/-- The state of a run that begins a thread; the schema of an earlier state is taken over. -/
def newThreadState (q : Question) (thread : Value) : Attempt Value := do
  let base := baseState q thread
  if !q.previous.truthy then return base
  return base.update [("schema", ← q.previous.getD "schema" (.list [])),
    ("filtered_schema", ← q.previous.get "filtered_schema"),
    ("schema_markdown", ← q.previous.get "schema_markdown")]

def continuedState (q : Question) (previous : Value) : Attempt Value := do
  let base := baseState q q.thread
  if !previous.truthy then return base
  let questions ← (← previous.getD "user_questions" (.list [])).followedBy [q.question]
  return base.update [
    ("messages", ← (← previous.getD "messages" (.list [])).followedBy [.message .human q.question]),
    ("user_questions", questions), ("planner_outputs", ← previous.getD "planner_outputs" (.list [])),
    ("planner_output", ← previous.get "planner_output"), ("queries", ← previous.getD "queries" (.list [])),
    ("query", ← previous.getD "query" "")]

/-- The state with the change to a plan that a question comes with. -/
def withPatch (q : Question) (state : Value) : Attempt Value := do
  if q.patch.isNull then return state
  if q.plan.isNull || q.schema.isNull then
    throw (.invalid "executed_plan and filtered_schema are required when patch_operation is provided")
  let _ ← q.patch.get "operation"
  return state.update [("patch_requested", .bool true), ("current_patch_operation", q.patch),
    ("executed_plan", q.plan), ("filtered_schema", q.schema), ("planner_output", q.plan)]

/-- The thread of a question and the state that its run begins with. -/
def beginning (q : Question) : Desk (Value × Value) := do
  if q.thread.isNull then
    let thread := Value.text (← Threads.create q.question)
    return (thread, ← withPatch q (← newThreadState q thread))
  else
    let previous ← if q.previous.isNull then Threads.latest q.thread else pure q.previous
    return (q.thread, ← withPatch q (← continuedState q previous))

/-- Closes the connection that a run has left open. That it fails does not matter. -/
def closeLeftOver (result : Value) : Desk Unit :=
  Desk.recover (do
    match result with
    | .record fields =>
      let connection := (fields.lookup "db_connection").getD .null
      match connection with
      | .connection replies => if !(replies.peek "closed").truthy then Database.close connection
      | _ => pure ()
    | _ => pure ()) fun _ => pure ()

/-- Runs a step, then `last`, whether the step failed or not. -/
def followedUp {α : Type} (step : Desk α) (last : Desk Unit) : Desk α := do
  let a ← tryCatch step fun f => do
    last
    throw f
  last
  pure a

/-- What a run leaves: its state, its thread, and the name it is kept under. -/
def kept (q : Question) (thread result : Value) : Desk Value := do
  let run ← Threads.save thread q.question result
  pure (.record [("type", "complete"), ("state", result), ("thread_id", thread), ("query_id", .text run)])

def opening (q : Question) : Desk (Value × Value) := do
  let _ ← DebugFile.clear .null
  Runner.wire
  beginning q

def ask (q : Question) : Desk Value := do
  let (thread, state) ← opening q
  let result ← Runner.run state
  followedUp (kept q thread result) (closeLeftOver result)

/-- Runs a question and hands its events and what it leaves to `tell`. -/
def askWatched (q : Question) (tell : Value → Desk Unit) : Desk Unit := do
  let (thread, state) ← opening q
  let mode : Value := .list ["custom", "values"]
  modify fun t => { t with runState := .null }
  followedUp (do
    Runner.watched state (.record [("recursion_limit", .int 1000)]) mode fun sight => do
      match sight with
      | .event v => tell v
      | .state v | .other v => modify fun t => { t with runState := v }
      pure true
    let result := (← get).runState
    if result.isNull then throw (.runtime "Workflow completed but no final state was produced")
    tell (← kept q thread result)) (do closeLeftOver (← get).runState)

end QueryDesk.Workflow
