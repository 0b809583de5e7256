import QueryDesk.Workflow.Clarification
import QueryDesk.Workflow.Conversation
import QueryDesk.Workflow.Execution
import QueryDesk.Workflow.FilterSchema
import QueryDesk.Workflow.PlanSteps
import QueryDesk.Workflow.Planning
import QueryDesk.Workflow.Route
import QueryDesk.Workflow.Strategy

/-!
What happens at each station of a run, and the choices between stations by their names.
-/

namespace QueryDesk.Workflow

def Station.run : Station → Value → Desk Value
  | initializeConnection => Workflow.initializeConnection
  | analyzeSchema => Workflow.analyzeSchema
  | filterSchema => Workflow.filterSchema
  | inferForeignKeys => Workflow.inferForeignKeys
  | formatSchemaMarkdown => formatMarkdown
  | prePlanner => createStrategy
  | planner => planQuery
  | planAudit => Workflow.planAudit
  | checkClarification => Workflow.checkClarification
  | generateQuery => Workflow.generateQuery
  | executeQuery => Workflow.executeQuery
  | handleError => Workflow.handleError
  | cleanup => cleanUp
  | refineQuery => Workflow.refineQuery
  | transformPlan => Workflow.transformPlan
  | generateModificationOptions => offerChanges

/-- All steps by name: those of the stations, and the one that a conversation begins with. -/
def steps : List (String × (Value → Desk Value)) :=
  ("conversational_router", routeConversation) :: Station.all.map fun s => (s.label, s.run)

def afterAudit (state : Value) : Attempt Station := do
  let _ ← state.get "audit_feedback"
  return .checkClarification

def branches : List (String × (Value → Desk Station)) := [
  ("route_from_start", fun s => fromStart s), ("route_after_filter_schema", fun _ => afterFilterSchema),
  ("route_from_plan_audit", fun s => afterAudit s),
  ("route_after_clarification", fun s => afterClarification s), ("route_from_execute_query", afterExecution),
  ("should_continue", afterExecutionPlain), ("route_from_handle_error", fun s => withRevision s),
  ("route_from_refine_query", fun s => withRevision s)]

end QueryDesk.Workflow
