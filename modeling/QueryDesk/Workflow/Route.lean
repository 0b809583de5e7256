import QueryDesk.Service.Runner
import QueryDesk.Workflow.Correction

/-!
Where a run goes next. The stations of a run are fixed; at some of them the state decides where the run
goes on.
-/

namespace QueryDesk.Workflow

inductive Station where
  | initializeConnection
  | analyzeSchema
  | filterSchema
  | inferForeignKeys
  | formatSchemaMarkdown
  | prePlanner
  | planner
  | planAudit
  | checkClarification
  | generateQuery
  | executeQuery
  | handleError
  | cleanup
  | refineQuery
  | transformPlan
  | generateModificationOptions
  deriving DecidableEq, Inhabited

namespace Station

def label : Station → String
  | initializeConnection => "initialize_connection"
  | analyzeSchema => "analyze_schema"
  | filterSchema => "filter_schema"
  | inferForeignKeys => "infer_foreign_keys"
  | formatSchemaMarkdown => "format_schema_markdown"
  | prePlanner => "pre_planner"
  | planner => "planner"
  | planAudit => "plan_audit"
  | checkClarification => "check_clarification"
  | generateQuery => "generate_query"
  | executeQuery => "execute_query"
  | handleError => "handle_error"
  | cleanup => "cleanup"
  | refineQuery => "refine_query"
  | transformPlan => "transform_plan"
  | generateModificationOptions => "generate_modification_options"

def all : List Station := [initializeConnection, analyzeSchema, filterSchema, inferForeignKeys,
  formatSchemaMarkdown, prePlanner, planner, planAudit, checkClarification, generateQuery, executeQuery,
  handleError, cleanup, refineQuery, transformPlan, generateModificationOptions]

end Station

/-- Whether a result holds nothing: it is absent, no JSON text, or the text of an empty document. -/
def isEmptyResult (result : Value) : Bool :=
  match result with
  | .null => true
  | .text s =>
    match Json.read s with
    | .ok v => !v.truthy
    | .error _ => true
  | .statement _ => true
  | _ => false

def fromStart (state : Value) : Attempt Station := do
  return if (← state.get "patch_requested").truthy then .transformPlan else .initializeConnection

def afterFilterSchema : Desk Station := do
  return if Text.lower (← Desk.env "INFER_FOREIGN_KEYS" "false") == "true" then .inferForeignKeys
    else .formatSchemaMarkdown

/-- A plan that is absent or given up ends the run. -/
def afterClarification (state : Value) : Attempt Station := do
  let plan ← state.get "planner_output"
  if !plan.truthy then return .cleanup
  if (← plan.getD "decision" "proceed") == "terminate" then return .cleanup
  return .generateQuery

def withRevision (state : Value) : Attempt Station := do
  return if (← state.get "revised_strategy").truthy then .planner else .cleanup

/-- What decides the way on after a statement ran. -/
structure Standing where
  failed : Bool
  empty : Bool
  correctable : Bool
  refinable : Bool

/-- The way on after a statement ran: an error is corrected, or else refined; an empty result is refined;
otherwise the run goes to `done`. -/
def Standing.next (s : Standing) (done : Station) : Station :=
  if s.failed && s.correctable then .handleError
  else if s.failed && s.refinable then .refineQuery
  else if s.empty && s.refinable then .refineQuery
  else done

/-- Whether a count is still below its limit; it is looked at only if that matters. -/
def below (matters : Bool) (count : Value) (limit : Int) : Attempt Bool :=
  if matters then count.less (.int limit) else pure false

def standing (state : Value) : Desk Standing := do
  let last ← (← state.field "messages").last
  let corrections ← state.getD "error_iteration" (.int 0)
  let refinements ← state.getD "refinement_iteration" (.int 0)
  let result ← state.field "result"
  let mostCorrections ← envCount "ERROR_CORRECTION_COUNT" 3
  let mostRefinements ← envCount "REFINE_COUNT" 2
  let empty := isEmptyResult result
  let failed ← (Value.text "Error").isIn (← last.attr "content")
  let correctable ← below failed corrections mostCorrections
  let refinable ← below (!correctable && (failed || empty)) refinements mostRefinements
  pure ⟨failed, empty, correctable, refinable⟩

/-- The way on after a statement ran: a patch that is asked for comes first. -/
def afterExecution (state : Value) : Desk Station := do
  if (← state.get "patch_requested").truthy then return .transformPlan
  return (← standing state).next .generateModificationOptions

def afterExecutionPlain (state : Value) : Desk Station := do return (← standing state).next .cleanup

/-- The station after a station; none at the end of a run. -/
def nextStation (station : Station) (state : Value) : Desk (Option Station) :=
  match station with
  | .initializeConnection => pure (some .analyzeSchema)
  | .analyzeSchema => pure (some .filterSchema)
  | .filterSchema => do return some (← afterFilterSchema)
  | .inferForeignKeys => pure (some .formatSchemaMarkdown)
  | .formatSchemaMarkdown => pure (some .prePlanner)
  | .prePlanner => pure (some .planner)
  | .planner => pure (some .planAudit)
  | .planAudit => pure (some .checkClarification)
  | .checkClarification => do return some (← afterClarification state)
  | .generateQuery => pure (some .executeQuery)
  | .executeQuery => do return some (← afterExecution state)
  | .handleError => do return some (← withRevision state)
  | .refineQuery => do return some (← withRevision state)
  | .transformPlan => pure (some .generateQuery)
  | .generateModificationOptions => pure (some .cleanup)
  | .cleanup => pure none

def Station.stepName : Station → String
  | inferForeignKeys => "infer_foreign_keys_node"
  | formatSchemaMarkdown => "convert_schema_to_markdown"
  | prePlanner => "create_preplan_strategy"
  | planner => "plan_query"
  | handleError => "handle_tool_error"
  | cleanup => "cleanup_connection"
  | transformPlan => "transform_plan_node"
  | generateModificationOptions => "generate_modification_options_node"
  | station => station.label

def ways : List (Station × Station) := [(.initializeConnection, .analyzeSchema), (.analyzeSchema, .filterSchema),
  (.inferForeignKeys, .formatSchemaMarkdown), (.formatSchemaMarkdown, .prePlanner), (.prePlanner, .planner),
  (.planner, .planAudit), (.planAudit, .checkClarification), (.generateQuery, .executeQuery),
  (.transformPlan, .generateQuery), (.generateModificationOptions, .cleanup)]

def choices : List (Station × String) := [(.filterSchema, "route_after_filter_schema"),
  (.checkClarification, "route_after_clarification"), (.executeQuery, "route_from_execute_query"),
  (.handleError, "route_from_handle_error"), (.refineQuery, "route_from_refine_query")]

def wiring : Wiring where
  stations := Station.all.map fun s => (s.label, s.stepName)
  ways := (ways.map fun w => (w.1.label, w.2.label)) ++ [(Station.cleanup.label, Wiring.finish)]
  branches := (Wiring.start, "route_from_start") :: choices.map fun c => (c.1.label, c.2)

end QueryDesk.Workflow
