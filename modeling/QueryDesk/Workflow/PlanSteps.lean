import QueryDesk.Plan.Options
import QueryDesk.Plan.Repair
import QueryDesk.Workflow.SchemaSteps

/-!
The steps between a plan and its statement: the plan is audited and repaired, or patched, and the statement
is built from it; what can be changed about it is offered afterwards.
-/

namespace QueryDesk.Workflow

/-- The history of plans after a repair: if the plan at hand is its last entry, that is repaired too. -/
def repairedHistory (state plan : Value) : Desk Fields := do
  match state with
  | .record fields =>
    match (← get).planIsLatest, fields.lookup "planner_output", fields.lookup "planner_outputs" with
    | true, some (.record _), some (.list plans) => return [("planner_outputs", .list (plans.dropLast ++ [plan]))]
    | _, _, _ => return []
  | _ => return []

/-- A plan repaired, with what was changed and what is still wrong: the critical issues and the others. -/
structure Audited where
  plan : Value
  repairs : List String
  critical : List String
  others : List String

/-- Repairs a plan and checks it against the part of a schema that it uses. -/
def auditPlan (walk : List Value → List Value) (plan schema : Value) : Attempt Audited := do
  let schema := Value.list (← Plan.narrow plan schema)
  let (plan, repairs) ← Plan.repair schema plan
  let (critical, others) ← Plan.check walk plan schema
  pure ⟨plan, repairs, critical, others⟩

def criticalText (issues : List String) : String :=
  "Query plan validation failed with critical errors:\n\n" ++
    Text.joinLines (issues.map fun i => s!"• {i}") ++ "\n\n" ++
    "These are hallucinated tables that do not exist in the database schema. " ++
    "The query cannot be executed."

def planAudit (state : Value) : Desk Value := do
  let step := "plan_audit"
  Desk.status step "running" "Validating query plan"
  let skipped : Fields := [("audit_passed", .bool true), ("audit_issues", .list []),
    ("last_step", .text step)]
  let plan ← state.get "planner_output"
  if !plan.truthy then return state.update skipped
  let plan := Plan.documentOf plan
  if (← plan.get "decision") == "terminate" then return state.update skipped
  let schema := (← state.get "filtered_schema").orElse (← state.getD "schema" (.list []))
  let audited ← auditPlan (← Desk.walk) plan schema
  let state := state.update (← repairedHistory state audited.plan)
  let issues := audited.critical ++ audited.others
  let outcome := fun (text : String) => state.update [saying text, ("planner_output", audited.plan),
    ("audit_passed", .bool issues.isEmpty), ("audit_issues", Value.texts issues),
    ("audit_corrections", Value.texts audited.repairs), ("last_step", .text step)]
  if issues.isEmpty then return outcome "Plan audit passed"
  if !audited.critical.isEmpty then return outcome (criticalText audited.critical)
  let _ ← DebugFile.save "audit_issues.json" (.record [("critical_issues", Value.texts audited.critical),
    ("non_critical_issues", Value.texts audited.others), ("all_issues", Value.texts issues),
    ("plan", audited.plan), ("column_fixes_applied", Value.texts audited.repairs)]) false
  Desk.status step "completed"
  return outcome (s!"Plan audit found {audited.others.length} non-critical issues " ++
    "but continuing to execution")

def databaseContext : Desk Value := do
  let sample ← Desk.onSampleData
  Desk.status "generate_query" "completed"
  pure (.record [("type", .text (if sample then "SQLite" else "SQL Server")), ("is_sqlite", .bool sample),
    ("is_sql_server", .bool (!sample)), ("dialect", .text (if sample then "sqlite" else "tsql"))])

def planDocument (plan : Value) : Attempt Value :=
  match plan with
  | .record _ => .ok plan
  | .entity fields dump =>
    if dump.isNull then .error (.noAttribute (Value.entity fields dump).kind "model_dump") else .ok dump
  | v => if v.truthy then .error (.noAttribute v.kind "model_dump") else .ok (.record [])

def occasionOf (corrections refinements : Value) : Attempt String := do
  if ← corrections.isPositive then pure "error_correction_regenerated"
  else if ← refinements.isPositive then pure "refinement_regenerated"
  else pure "initial_generation"

def generateQuery (state : Value) : Desk Value := do
  let step := "generate_query"
  Desk.status step "running" "Generating SQL query"
  let generated : Desk Value := do
    let plan ← state.field "planner_output"
    if !plan.truthy then
      return state.update [saying "Error: No planner output available", ("last_step", .text step)]
    let plan ← planDocument plan
    let context ← databaseContext
    let statement ← Sql.build plan state context
    let _ ← DebugFile.save "generated_sql.json" (.record [("sql", statement),
      ("dialect", ← context.getD "dialect" "unknown")]) false
    let corrections ← state.getD "error_iteration" (.int 0)
    let refinements ← state.getD "refinement_iteration" (.int 0)
    let occasion ← occasionOf corrections refinements
    let _ ← DebugFile.append "generated_sql_queries.json" (.record [("step", .text occasion),
      ("sql", statement), ("error_iteration", corrections), ("refinement_iteration", refinements),
      ("status", .text "generated")]) "queries"
    pure (state.update [saying "Generated SQL query deterministically from execution plan",
      ("query", statement), ("last_step", .text step)])
  Desk.recover generated fun f =>
    pure (state.update [saying s!"Error generating query: {f.message}", ("last_step", .text step)])

/-- The conversation of a state with a remark of the assistant behind it. -/
def remarkedState (state : Value) (news : Fields) (text : String) : Attempt Value := do
  let remark := Value.record [("role", .text "assistant"), ("content", .text text)]
  let messages ← (← state.getD "messages" (.list [])).followedBy [remark]
  return state.update (news ++ [("messages", messages)])

def patchTaken : Fields := [("patch_requested", .bool false)]

/-- The state with a connection, or what is said when there is none to be had. -/
def connectedState (state : Value) (step : String) : Desk (Except String Value) := do
  if (← state.get "db_connection").truthy then return .ok state
  Desk.log step "Creating database connection for patch operation"
  Desk.recover (do return .ok (state.update [("db_connection", ← Database.connect)])) fun f => do
    Desk.log step s!"Failed to create database connection: {f.message}" "error"
    return .error s!"Error: Could not create database connection: {f.message}"

def patchPlan (state patch plan schema : Value) (step : String) : Desk Value :=
  Desk.recover (do
    let operation ← patch.get "operation"
    Desk.log step s!"Applying patch operation: {operation.display}"
    let plan ← Plan.applyPatch plan patch schema
    let history ← Plan.extended "append" (← state.getD "patch_history" (.list [])) [patch]
    Desk.log step "Plan patched successfully, proceeding to SQL generation"
    Desk.status step "completed"
    modify fun t => { t with planIsLatest := false }
    pure (state.update ([("planner_output", plan), ("patch_history", history)] ++ patchTaken ++
      [("current_patch_operation", .null)]))) fun f => do
    Desk.log step s!"Error applying patch: {f.message}" "error"
    Desk.status step "error"
    remarkedState state (patchTaken ++ [("current_patch_operation", .null)])
      s!"Error applying patch: {f.message}"

/-- Applies the patch of a state that has a connection to the plan that ran last. -/
def patchState (state : Value) (step : String) : Desk Value := do
  let patch ← state.get "current_patch_operation"
  let plan ← state.get "executed_plan"
  let schema ← state.get "filtered_schema"
  if !patch.truthy then
    Desk.log step "No patch operation provided" "error"
    return ← remarkedState state patchTaken "Error: No patch operation specified"
  if !plan.truthy then
    Desk.log step "No executed plan found - cannot apply patch" "error"
    return ← remarkedState state patchTaken "Error: No executed plan found to patch"
  if !schema.truthy then
    Desk.log step "No schema available for validation" "error"
    return ← remarkedState state patchTaken "Error: No schema available for validation"
  patchPlan state patch plan schema step

/-- Applies the patch of a state to the plan that ran last. -/
def transformPlan (state : Value) : Desk Value := do
  let step := "transform_plan"
  Desk.status step "running" "Applying plan modifications"
  Desk.log step "Transform Plan Node started"
  match ← connectedState state step with
  | .error text => remarkedState state patchTaken text
  | .ok state => patchState state step

def offerChanges (state : Value) : Desk Value := do
  let plan ← state.get "executed_plan"
  let schema ← state.get "filtered_schema"
  if !plan.truthy || !schema.truthy then return state
  match Plan.options plan schema with
  | .ok options => return state.update [("modification_options", options)]
  | .error _ => return state

/-- Closes the connection and leaves the schema out of what is kept. -/
def cleanUp (state : Value) : Desk Value := do
  Desk.status "cleanup" "running" "Finalizing results"
  let connection ← state.get "db_connection"
  if connection.truthy then Desk.recover (Database.close connection) fun _ => pure ()
  Desk.status "cleanup" "completed"
  pure (state.update [("schema", .list []), ("db_connection", .null), ("last_step", "cleanup")])

end QueryDesk.Workflow
