import QueryDesk.Plan.JoinText
import QueryDesk.Plan.Repair
import QueryDesk.Plan.TableMention
import QueryDesk.Prompt.Correction
import QueryDesk.Workflow.Question
import QueryDesk.Workflow.SchemaSteps

/-!
The two steps that look back at a statement: one that failed gets a corrected strategy, one that found
nothing a broader one. Either way the planner takes the new strategy, and the attempt goes into a history.
-/

namespace QueryDesk.Workflow

def envCount (name : String) (dflt : Int) : Desk Int := do
  if (← Desk.env name "").isEmpty then pure dflt else envInt name ""

def schemaBlock (markdown schema : Value) : Attempt (String × String) := do
  if markdown.truthy then pure ("markdown", markdown.display)
  else pure ("json", ← Json.write .page schema)

def tableNames (schema : Value) : Attempt (List Value) := do
  let names ← (← schema.items).mapM fun t => (t.get "table_name" : Attempt Value)
  pure (names.filter (·.truthy))

/-- The text of a model's reply, without blanks at its ends. -/
def replyText (reply : Value) : Attempt String := do
  let content := match reply.attr "content" with
    | .ok c => c
    | .error _ => .text reply.display
  return Text.trim (← content.textFor "strip")

def tablePoint (name : Value) : Attempt String :=
  match name.text? with
  | some s => .ok ("- " ++ s)
  | none => .error (.mismatch s!"can only concatenate str (not \"{name.kind}\") to str")

/-- A strategy with a remark if it mentions tables that the schema lacks. -/
def remarked (walk : List Value → List Value) (strategy : String) (schema : Value) : Attempt String := do
  let (_, unknown) ← Plan.sortMentions walk strategy schema
  if unknown.isEmpty then return strategy
  let unknown ← unknown.mapM tablePoint
  let known ← (← tableNames schema).mapM tablePoint
  return strategy ++ "\n\n" ++ Prompt.unknownTablesRemark (Text.joinLines unknown) (Text.joinLines known)

def correctedStrategy (error previous question schema markdown : Value) : Desk String := do
  let (format, text) ← schemaBlock markdown schema
  let tables := Text.joinLines ((← tableNames schema).map fun t => s!"- {t.display}")
  let prompt := Prompt.correction question.display error.display tables format text previous.display
  let asked : Desk String := do
    let _ ← Model.chat (← Model.forStage "error_correction") (.float 0.5)
    let strategy ← replyText (← Desk.invoke (.text prompt))
    remarked (← Desk.walk) strategy schema
  Desk.recover asked fun f => pure (Prompt.uncorrected previous.display f.message error.display)

def refinedStrategy (statement previous question : Value) (plans : List Value) (schema markdown : Value) :
    Desk String := do
  let (format, text) ← schemaBlock markdown schema
  let attempts ← plans.zipIdx.mapM fun (p, i) => do
    let intent ← p.getD "intent_summary" "N/A"
    return s!"{i + 1}. Intent: {intent.display}"
  let attempts := if attempts.isEmpty then "No previous refinement attempts" else Text.joinLines attempts
  let prompt := Prompt.refinement question.display previous.display statement.display format text attempts
  let asked : Desk String := do
    let _ ← Model.chat (← Model.forStage "refinement")
    replyText (← Desk.invoke (.text prompt))
  Desk.recover asked fun f => pure (Prompt.unrefined previous.display (Text.take f.message 100))

def previousStrategy (state : Value) : Attempt Value := do
  return (← state.get "revised_strategy").orElse (← state.getD "pre_plan_strategy" "")

/-- Words a corrected strategy after a statement that failed. -/
def handleError (state : Value) : Desk Value := do
  let error ← (← (← state.field "messages").last).attr "content"
  let statement ← state.field "query"
  let plan := Plan.documentOf (← state.field "planner_output")
  let question ← state.getD "user_question" ""
  let iteration ← state.getD "error_iteration" (.int 0)
  let most ← envCount "ERROR_CORRECTION_COUNT" 3
  let schema ← schemaInUse state
  let previous ← previousStrategy state
  let round ← iteration.next
  let strategy ← correctedStrategy error previous question schema (← state.get "schema_markdown")
  let (strategy, fixes) ← Plan.repairJoins strategy schema
  let entry : Fields := [("strategy", .text strategy), ("plan", plan), ("query", statement),
    ("reasoning", .text (s!"SQL execution error encountered: {error.display}. " ++
      "Generated revised strategy to fix the error.")), ("error", error), ("iteration", round)]
  let _ ← DebugFile.append "error_correction_history.json"
    (.record (Fields.putAll entry [("previous_strategy", previous),
      ("fk_fixes_applied", Value.texts fixes)])) "corrections"
  Desk.status "handle_tool_error" "completed"
  let history ← (← state.getD "correction_history" (.list [])).followedBy [.record entry]
  pure (state.update [saying ("SQL error encountered, routing to planner with revised strategy " ++
      s!"(attempt {round.display}/{most})"), ("planner_output", plan), ("revised_strategy", .text strategy),
    ("error_iteration", round), ("correction_history", history), ("last_step", "handle_tool_error")])

/-- Words a broader strategy after a statement that found nothing. -/
def refineQuery (state : Value) : Desk Value := do
  let statement ← state.field "query"
  let plan := Plan.documentOf (← state.field "planner_output")
  let question ← state.field "user_question"
  let iteration ← state.getD "refinement_iteration" (.int 0)
  let most ← envCount "REFINE_COUNT" 3
  let previous ← previousStrategy state
  let round ← iteration.next
  let schema ← schemaInUse state
  let history ← state.getD "refinement_history" (.list [])
  let plans ← (← history.items).mapM fun r => (r.getD "plan" (.record []) : Attempt Value)
  let strategy ← refinedStrategy statement previous question plans schema (← state.get "schema_markdown")
  let entry : Fields := [("strategy", .text strategy), ("plan", plan), ("query", statement),
    ("reasoning", .text ("Query returned 0 results. Generated refined strategy to broaden filters and " ++
      "improve result retrieval.")), ("iteration", round)]
  let _ ← DebugFile.append "refinement_history.json"
    (.record (Fields.putAll entry [("previous_strategy", previous)])) "refinements"
  Desk.status "refine_query" "completed"
  let history ← history.followedBy [.record entry]
  pure (state.update [saying ("Query returned no results, routing to planner with refined strategy " ++
      s!"(attempt {round.display}/{most})"), ("planner_output", plan), ("revised_strategy", .text strategy),
    ("refinement_iteration", round), ("refinement_history", history), ("last_step", "refine_query")])

end QueryDesk.Workflow
