import QueryDesk.Prompt.Strategy
import QueryDesk.Workflow.Question
import QueryDesk.Workflow.SchemaSteps

/-!
The step that words a strategy for a question, or words it anew after feedback on the last attempt.
-/

namespace QueryDesk.Workflow

/-- The feedback that a state holds: the kind that counts, and its text. -/
def feedbackOf (state : Value) : Attempt (Option (Prompt.FeedbackKind × Value)) := do
  let audit ← state.get "audit_feedback"
  let error ← state.get "error_feedback"
  let refinement ← state.get "refinement_feedback"
  pure (if audit.truthy then some (.audit, audit)
    else if error.truthy then some (.error, error)
    else if refinement.truthy then some (.refinement, refinement)
    else none)

/-- The name of a debug file of this step; after feedback it carries a number. -/
def strategyFile (stem : String) (kind : Option Prompt.FeedbackKind) (history : Value) :
    Attempt String := do
  match kind with
  | some kind => return s!"{stem}_{kind.label}_iteration_{(← history.size) + 1}.json"
  | none => return s!"{stem}_initial.json"

/-- A copy of a list with an item behind it. -/
def historyWith (history previous : Value) : Attempt Value :=
  match history with
  | .list xs => .ok (.list (if previous.truthy then xs ++ [previous] else xs))
  | .record _ => if previous.truthy then .error (.noAttribute "dict" "append") else .ok history
  | v => .error (.noAttribute v.kind "copy")

def strategyRound (feedback : Option (Prompt.FeedbackKind × Value)) (history : Value) : Attempt Nat := do
  if feedback.isSome then return (← history.size) + 1 else return 1

def strategyPrompt (state question previous : Value) (tier : Plan.Tier)
    (feedback : Option (Prompt.FeedbackKind × Value)) : Desk (String × String) := do
  let schema ← schemaInUse state
  let markdown ← state.getD "schema_markdown" ""
  let restrictions ← restrictionsText state
  let guidance := (← Domain.strategyGuidanceInUse).orElse "No domain-specific guidance available."
  let schemaShown ← if feedback.isSome then pure (.text "") else liftM (schemaText markdown schema)
  let prompt ← Prompt.strategy tier [("domain_guidance", guidance), ("user_query", question),
    ("parameters", .text restrictions), ("schema", schemaShown), ("current_date", .text (← today))]
  return (prompt.1, prompt.2 ++ match feedback with
    | some (kind, text) => Prompt.strategyFeedback kind previous text
    | none => "")

def createStrategy (state : Value) : Desk Value := do
  let step := "pre_planner"
  Desk.status step "running" "Creating query strategy"
  let question ← state.field "user_question"
  let tier ← tierInUse
  let feedback ← feedbackOf state
  let kind := feedback.map (·.1)
  let kindValue := Value.ofText? (kind.map (·.label))
  let previous ← state.getD "pre_plan_strategy" ""
  let history ← state.getD "preplan_history" (.list [])
  let created : Desk Value := do
    let prompt ← strategyPrompt state question previous tier feedback
    let told := prompt.1
    let asked := prompt.2
    let _ ← DebugFile.save (.text (← strategyFile "preplan_prompt" kind history))
      (.record [("system_message", .text told), ("user_message", .text asked),
        ("has_feedback", .bool feedback.isSome), ("feedback_type", kindValue),
        ("system_message_length", .nat told.length), ("user_message_length", .nat asked.length)])
    let _ ← Model.chat (← Model.forStage "strategy")
    let reply ← Desk.invoke (.list [.message .system (.text told), .message .human (.text asked)])
    let strategy ← reply.attr "content"
    let length ← strategy.size
    let iteration ← strategyRound feedback history
    let _ ← DebugFile.save (.text (← strategyFile "preplan_strategy" kind history))
      (.record [("strategy", strategy), ("complexity", .text tier.label), ("user_query", question),
        ("strategy_length", .nat length), ("has_feedback", .bool feedback.isSome),
        ("feedback_type", kindValue), ("iteration", .nat iteration)])
    pure (state.update [("pre_plan_strategy", strategy),
      ("preplan_history", ← historyWith history previous), ("preplan_feedback_type", kindValue),
      ("audit_feedback", .null), ("error_feedback", .null), ("refinement_feedback", .null),
      saying "Pre-planning strategy created", ("last_step", .text step)])
  Desk.recover created fun f =>
    pure (state.update [saying s!"Error creating pre-plan strategy: {f.message}",
      ("last_step", .text step)])

end QueryDesk.Workflow
