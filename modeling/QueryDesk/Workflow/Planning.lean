import QueryDesk.Plan.Repair
import QueryDesk.Prompt.Plan
import QueryDesk.Workflow.Question
import QueryDesk.Workflow.SchemaSteps

/-!
The step that asks a model for a plan. A reply that does not fit the form of a plan is repaired if that is
possible; otherwise the model is asked again, with the reason, a limited number of times.
-/

namespace QueryDesk.Workflow

/-- The words of the domain and what they mean, in words. -/
def terminologyText (guidance : Value) : Attempt String := do
  let terms ← (← guidance.getD "terminology_mappings" (.record [])).entries
  let lines ← terms.mapM fun (term, info) => do
    let refers ← info.field "refers_to"
    let description ← info.field "description"
    let primary ← info.field "primary_table"
    let related ← info.get "related_tables"
    let more ←
      if related.truthy then do
        let names ← Value.textItems (← (← info.field "related_tables").items)
        pure ("\n  Related tables: " ++ Text.join ", " names)
      else pure ""
    pure (s!"\n- **'{term}'** → {refers.display}: {description.display}" ++
      s!"\n  Primary table: {primary.display}" ++ more)
  pure (String.join lines)

def planGuidanceText (guidance : Value) : Attempt String := do
  if !guidance.truthy then
    return "No domain-specific guidance available. Use general database query planning principles."
  let domain ← guidance.getD "domain" "specialized"
  let terms ← terminologyText guidance
  let important ← guidance.get "important_fields"
  let fields ←
    if important.truthy then do
      let lines := (← important.entries).map fun (field, note) => s!"- {field}: {note.display}\n"
      pure ("\n\n**Important Fields:**\n" ++ String.join lines)
    else pure ""
  let defaults ← guidance.get "default_behaviors"
  let behaviors ←
    if defaults.truthy then do
      let lines := (← defaults.entries).map fun (_, note) => s!"- {note.display}\n"
      pure ("\n**Default Behaviors:**\n" ++ String.join lines)
    else pure ""
  pure (s!"This system works with a {domain.display} domain.\n\n**Terminology Mappings:**\n" ++ terms ++
    fields ++ behaviors)

def schemaNote (state : Value) : Attempt String := do
  let truncated ← state.get "truncated_schema"
  let filtered ← state.get "filtered_schema"
  pure (if !truncated.isNull then
      "**NOTE:** This is a filtered subset of the most relevant tables and columns from the full " ++
        "database schema, selected based on the user's query."
    else if !filtered.isNull then
      "**NOTE:** This is a filtered subset of the most relevant tables from the full database schema, " ++
        "selected based on the user's query."
    else "")

def earlierQuestions (state : Value) : Attempt String := do
  let questions ← (← state.getD "user_questions" (.list [])).allButLast
  pure (Text.joinLines (questions.zipIdx.map fun (q, i) => s!"{i + 1}. {q.display}"))

def previousPlan (state : Value) : Attempt String := do
  let plans ← state.getD "planner_outputs" (.list [])
  if plans.truthy then do Json.write .page (← plans.last)
  else pure "No previous plan available"

/-- The strategy that the plan is made from: a revised one before any other; null if there is none. -/
def strategyInUse (state : Value) : Attempt Value := do
  let revised ← state.get "revised_strategy"
  let strategy ← state.get "pre_plan_strategy"
  if revised.truthy then
    let _ ← revised.size
    pure revised
  else
    if strategy.truthy then
      let _ ← strategy.size
    pure strategy

def planSlots (state question mode strategy schema markdown : Value) (restrictions guidance day : String) :
    Attempt Fields := do
  let common : Fields := [("domain_guidance", .text guidance), ("user_query", question),
    ("parameters", .text restrictions), ("schema_note", .text (← schemaNote state)),
    ("current_date", .text day)]
  let followsUp := mode == "update" || mode == "rewrite"
  let earlier : Fields ←
    if followsUp then do
      let questions ← earlierQuestions state
      let plan ← previousPlan state
      pure [("conversation_history", .text questions), ("previous_plan", .text plan),
        ("router_instructions", ← state.getD "router_instructions" "")]
    else pure []
  let shown : Fields ←
    if strategy.isNull && !(mode == "update") then do
      pure [("schema", ← schemaText markdown schema)]
    else pure []
  let planned : Fields := if strategy.isNull then [] else [("pre_plan_strategy", strategy)]
  pure (common ++ earlier ++ shown ++ planned)

def planAttempts : Nat := 3

def refusalReason (r : Plan.Refusal) : String :=
  if r.aboutJoins then
    let tables := Text.join ", " r.missing
    Text.trim (Text.block 6 [
      s!"The 'join_edges' field references tables that are NOT in the 'selections' array: {tables}",
      "",
      "REQUIRED FIX:",
      s!"- Add these tables to the 'selections' array: {tables}",
      "- OR remove the join_edges that reference these tables",
      "- Every table in a join_edge MUST also appear in selections"])
  else s!"Validation error: {r.text}"

def retryMessage (reason : String) : Value :=
  .message .human (.text (Text.trim (Text.block 7 [
    "VALIDATION ERROR - Please fix the following issue in your response:",
    "",
    reason,
    "",
    "IMPORTANT: Ensure that ALL tables referenced in join_edges are also included in the selections array.",
    "If you need to join to a table, you MUST add it to selections first.",
    "",
    "Please regenerate your response with this issue corrected."])))

def fileTime (now : String) : String :=
  let digits := fun (start count : Nat) => Text.take (Text.drop now start) count
  digits 0 4 ++ digits 5 2 ++ digits 8 2 ++ "_" ++ digits 11 2 ++ digits 14 2 ++ digits 17 2

def keepRefusal (attempt : Nat) (question : Value) (r : Plan.Refusal) : Desk Unit := do
  let time := fileTime (← read).now
  let _ ← DebugFile.save (.text s!"failed_planner_output_attempt_{attempt}_{time}.json")
    (.record [("attempt", .nat attempt), ("error_message", .text r.text), ("error_details", r.document),
      ("user_query", question)]) false

/-- One request for a plan: the plan, or the refusal if the reply neither fits nor can be repaired so that it
does. -/
def askForPlan (tier : Plan.Tier) (messages : List Value) : Desk (Except Plan.Refusal Value) := do
  let options : Fields := if ← Model.isLocal then [("method", "json_schema")] else []
  Desk.send (.structured tier.form options)
  let walk ← Desk.walk
  tryCatch (return .ok (← Desk.invoke (.list messages))) fun f =>
    match f with
    | .unparsed text raw =>
      match Plan.repairedReply walk raw with
      | .ok plan => return if (← read).admits tier.form plan then .ok plan else .error (.ofText text)
      | .error _ => return .error (.ofText text)
    | f => throw f

/-- Asks for a plan until a reply is accepted, at most `left` times. `reason` is why the last reply was
refused. Gives the plan, null if there is none, and the last refusal. -/
def seekPlan (tier : Plan.Tier) (base : List Value) (question : Value) :
    (left : Nat) → (last : Option Plan.Refusal) → Desk (Value × Option Plan.Refusal)
  | 0, last => pure (.null, last)
  | left + 1, last => do
    let retry := match last with
      | some r => [retryMessage (refusalReason r)]
      | none => []
    match ← askForPlan tier (base ++ retry) with
    | .ok plan => pure (plan, last)
    | .error r => do
      keepRefusal (planAttempts - left) question r
      seekPlan tier base question left (some r)

def noPlanText (last : Option Plan.Refusal) : String :=
  let tables := match last with
    | some r => r.missing
    | none => []
  "Unable to create a valid query plan after multiple attempts." ++
    if tables.isEmpty then "" else " The system had issues with tables: " ++ Text.join ", " tables ++ "."

def asksBack (reply : Value) : Bool :=
  match reply.attr "decision" with
  | .ok d => d == "clarify"
  | .error _ => false

def selectedCount (reply : Value) : Attempt Nat :=
  match reply.attr "selections" with
  | .ok s => if s.truthy then s.size else pure 0
  | .error _ => pure 0

def withPlan (state reply : Value) (step : String) : Desk Value := do
  let plan := Plan.documentOf reply
  let plans ← (← state.getD "planner_outputs" (.list [])).followedBy [plan]
  let issues ← Plan.ungroupedIssues plan
  let _ ← selectedCount reply
  let _ ← DebugFile.save "generated_planner_output.json"
    (.record [("plan", plan), ("validation", .record [("passed", .bool issues.isEmpty),
      ("issues", Value.texts issues)])])
  modify fun t => { t with planIsLatest := true }
  let state := state.update [saying "Query plan created successfully", ("planner_output", plan),
    ("planner_outputs", plans), ("needs_clarification", .bool (asksBack reply)), ("last_step", .text step)]
  if (← state.get "revised_strategy").truthy then
    pure (state.update [("revised_strategy", .null)])
  else pure state

structure PromptParts where
  told : String
  asked : String
  slots : List String

def planPrompt (state question mode : Value) (tier : Plan.Tier) : Desk PromptParts := do
  let schema ← schemaInUse state
  let markdown ← state.getD "schema_markdown" ""
  let restrictions ← restrictionsText state
  let guidance ← planGuidanceText (← Domain.planGuidanceInUse)
  let strategy ← strategyInUse state
  let slots ← planSlots state question mode strategy schema markdown restrictions guidance (← today)
  let prompt ← if strategy.isNull then liftM (Prompt.plan tier mode slots)
    else liftM (Prompt.planFromStrategy tier slots)
  pure ⟨prompt.1, prompt.2, slots.map (·.1)⟩

/-- The state after the model was asked for a plan. -/
def withReply (state : Value) (found : Value × Option Plan.Refusal) (step : String) : Desk Value := do
  if found.1.isNull then
    return state.update [saying (noPlanText found.2), ("planner_output", .null),
      ("needs_clarification", .bool false), ("last_step", .text step)]
  withPlan state found.1 step

def planQuery (state : Value) : Desk Value := do
  let step := "planner"
  Desk.status step "running" "Planning query structure"
  let question ← state.field "user_question"
  let mode ← state.get "router_mode"
  let planned : Desk Value := do
    let tier ← tierInUse
    let prompt ← planPrompt state question mode tier
    let _ ← DebugFile.save "planner_prompt.json" (.record [("mode", mode.orElse "initial"),
      ("system_message", .text prompt.told), ("user_message", .text prompt.asked),
      ("format_params_keys", Value.texts prompt.slots)])
    let _ ← Model.chat (← Model.forStage "planning")
    let base := [.message .system (.text prompt.told), .message .human (.text prompt.asked)]
    let found ← seekPlan tier base question planAttempts none
    withReply state found step
  Desk.recover planned fun f =>
    pure (state.update [saying s!"Error creating query plan: {f.message}", ("last_step", .text step)])

end QueryDesk.Workflow
