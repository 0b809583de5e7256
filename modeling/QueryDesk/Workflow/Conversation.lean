import QueryDesk.Prompt.Router
import QueryDesk.Workflow.SchemaSteps

/-!
The step that looks at a follow-up question in the light of the conversation, and decides whether the last
plan is changed or replaced.
-/

namespace QueryDesk.Workflow

/-- The questions before the last one, or a remark that there are none. -/
def questionHistory (questions : Value) : Attempt String := do
  if !questions.truthy then return "No previous questions"
  let earlier := (← questions.allButLast).zipIdx.map fun (q, i) => s!"{i + 1}. {q.display}"
  return if earlier.isEmpty then "No previous questions" else Text.joinLines earlier

/-- A statement at a glance: a long one is cut. -/
def preview (statement : Value) : Attempt String := do
  if (← statement.size) ≤ 200 then pure statement.display
  else match statement.text? with
    | some s => pure (Text.take s 197 ++ "...")
    | none => throw (.mismatch s!"can only concatenate {statement.kind} (not \"str\") to {statement.kind}")

/-- The statements so far; only the last one is shown in full. -/
def statementHistory (statements : Value) : Attempt String := do
  if !statements.truthy then return "No previous queries"
  let all ← statements.items
  let lines ← all.zipIdx.mapM fun (s, i) => do
    if i + 1 == all.length then return s!"Most Recent Query (Full SQL):\n{s.display}\n"
    else return s!"Query {i + 1}:\n{← preview s}\n"
  return Text.joinLines lines

/-- The plans so far: what each is for and which tables it takes. -/
def planHistory (plans : Value) : Attempt String := do
  if !plans.truthy then return "No previous plans"
  let lines ← (← plans.items).zipIdx.mapM fun (p, i) => do
    let intent ← p.getD "intent_summary" "N/A"
    let tables ← (← (← p.getD "selections" (.list [])).items).mapM fun s => (s.get "table" : Attempt Value)
    let tables := Text.join ", " (← Value.textItems tables)
    return s!"Plan {i + 1}:\n  Intent: {intent.display}\n  Tables: {tables}\n"
  return Text.joinLines lines

def routerPrompt (slots : Fields) : Attempt String := do
  return Prompt.routerTask ++ "\n\n" ++ (← Text.fill slots Prompt.routerQuestion)

def decided (state : Value) (mode words : String) (reply : Value) (step : String) : Attempt Value := do
  let reasoning ← reply.attr "reasoning"
  return state.update [saying s!"Router decision: {words} plan - {reasoning.display}",
    ("router_mode", .text mode), ("router_instructions", ← reply.attr "routing_instructions"),
    ("last_step", .text step)]

/-- Decides whether the last plan is changed or replaced. -/
def routeConversation (state : Value) : Desk Value := do
  let step := "conversational_router"
  let request ← state.field "user_question"
  let routed : Desk Value := do
    let questions ← state.getD "user_questions" (.list [])
    let statements ← state.getD "queries" (.list [])
    let plans ← state.getD "planner_outputs" (.list [])
    let schema ← state.getD "schema" (.list [])
    let asked ← questionHistory questions
    let ran ← statementHistory statements
    let planned ← planHistory plans
    let prompt ← routerPrompt [("conversation_history", .text asked), ("query_history", .text ran),
      ("plan_history", .text planned), ("schema", .text (← Json.write .page schema)),
      ("latest_request", request)]
    let _ ← DebugFile.save "router_prompt.json" (.record [("latest_request", request),
      ("conversation_history", .text asked), ("query_history_count", .nat ran.length),
      ("plan_history_count", .nat planned.length), ("prompt", .text prompt)])
    Model.structured "RouterOutput" (← Desk.envValue "AI_MODEL")
    let reply ← Model.patiently (.text prompt) 75 2
    if reply.isNull then
      return state.update [saying "Error: Router failed to make a decision", ("last_step", .text step)]
    let decision ← reply.attr "decision"
    let reasoning ← reply.attr "reasoning"
    let instructions ← reply.attr "routing_instructions"
    let confidence := match reply.attr "confidence" with
      | .ok c => c
      | .error _ => .null
    let _ ← DebugFile.save "router_output.json" (.record [("decision", decision), ("reasoning", reasoning),
      ("routing_instructions", instructions), ("confidence", confidence)])
    if decision == "update_plan" then decided state "update" "Update" reply step
    else decided state "rewrite" "Rewrite" reply step
  Desk.recover routed fun f =>
    match f with
    | .timeout text =>
      pure (state.update [saying s!"Router timeout - falling back to full planning: {text}",
        ("router_mode", "rewrite"), ("router_instructions",
          .text ("Router timed out while analyzing the conversation. " ++
            "Please generate a new plan and query based on the user's request.")),
        ("last_step", .text step)])
    | f => pure (state.update [saying s!"Error in conversational router: {f.message}",
        ("last_step", .text step)])

end QueryDesk.Workflow
