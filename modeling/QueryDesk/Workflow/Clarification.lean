import QueryDesk.Workflow.SchemaSteps

/-!
The step that offers statements by which a person can make an unclear question clearer.
-/

namespace QueryDesk.Prompt

/-- Asks for statements that make a question clearer. -/
def clarification (question intent ambiguities : String) : String :=
  Text.block 2 (Text.lines "# Clarification Assistant

We're building a SQL query assistant that converts natural language to SQL queries.
The query planner has identified ambiguities in the user's question.

## Your Role in the Pipeline

You help resolve ambiguity before SQL generation:

1. **Query Planning** (completed) - Planner flagged the query as ambiguous
2. **Clarification** (your step) - Generate statements to help user clarify their intent
3. **Refined Planning** (next) - User selects clarifications to augment their query

## Original User Question
" ++ [question] ++ Text.lines "
## Planner Analysis
" ++ [s!"**Intent Summary:** {intent}", "", "**Ambiguities Identified:**", ambiguities] ++ Text.lines r#"
---

## What We Need From You

Generate 3-5 declarative clarification statements to help the user refine their question.

Generate 3-5 declarative clarification statements that:
- Address the specific ambiguities mentioned
- Are phrased as DECLARATIVE STATEMENTS (not questions)
- Can be combined or selected by the user to augment/clarify their original query
- Provide different interpretations or specifications of what the user might mean
- Will be sent back to refine the plan, not create a new query

## Examples of Good Suggestions

**Original:** "Show me users"
**Clarification Statements:**
- "Only include active users"
- "Users created in the last 30 days"
- "Filter to users with admin role"
- "Include all user statuses"

**Original:** "Get computer data"
**Clarification Statements:**
- "Include operating system details"
- "Only computers scanned in the last 7 days"
- "Show installed applications for each computer"
- "Include hardware specifications"

**Original:** "Show vulnerabilities"
**Clarification Statements:**
- "Only critical and high severity vulnerabilities"
- "Vulnerabilities discovered in the last 30 days"
- "Group by affected application"
- "Include remediation status"

---

## Instructions

Generate 3-5 declarative clarification statements (NOT questions).

Remember: These are clarifications that augment the original query, not new query suggestions.
They should be combinable and will be used to refine the existing plan."#)

end QueryDesk.Prompt

namespace QueryDesk.Workflow

def bulletsOr (none_ : String) (points : Value) : Attempt String := do
  if points.truthy then
    return Text.joinLines ((← points.items).map fun p => s!"- {p.display}")
  else return none_

/-- Asks for statements that make the question clearer, if the plan needs them. -/
def checkClarification (state : Value) : Desk Value := do
  let step := "check_clarification"
  Desk.status step "running" "Checking for clarification needs"
  let plan ← state.field "planner_output"
  if !plan.truthy then return state.update [("last_step", .text step)]
  let decision ← plan.field "decision"
  if decision == "terminate" then
    let _ ← plan.get "termination_reason"
    Desk.log step "Planner terminated query, skipping clarification suggestions"
    return state.update [("needs_clarification", .bool false), ("last_step", .text step)]
  if !(decision == "clarify") then
    return state.update [("needs_clarification", .bool false), ("last_step", .text step)]
  Desk.log step "Planner flagged clarification, generating declarative clarification statements"
  let question ← state.field "user_question"
  let ambiguities ← plan.field "ambiguities"
  let intent ← plan.field "intent_summary"
  let points ← bulletsOr "No specific ambiguities provided" ambiguities
  let prompt := Prompt.clarification question.display (intent.orElse "N/A").display points
  let _ ← DebugFile.save "clarification_prompt.json" (.record [("user_question", question),
    ("ambiguities", ambiguities), ("prompt", .text prompt)])
  Model.structured "ClarificationSuggestions" (← Desk.envValue "AI_MODEL")
  let suggestions ← (← Desk.invoke (.text prompt)).attr "suggestions"
  let count ← suggestions.size
  let _ ← DebugFile.save "clarification_output.json" (.record [("suggestions", suggestions),
    ("suggestion_count", .nat count)])
  Desk.log step "Generated clarification statements"
  Desk.status step "completed"
  pure (state.update [saying "Clarification flagged - generated statements for user review",
    ("needs_clarification", .bool true), ("clarification_suggestions", suggestions),
    ("last_step", .text step)])

end QueryDesk.Workflow
