import QueryDesk.Sql.WithoutColumn
import QueryDesk.Workflow.SchemaSteps

/-!
The step that runs a statement. It first runs without a limit, to count what there is; then a limit of the
statement's own is put back, or a usual one if there are many rows.
-/

namespace QueryDesk.Workflow

def dialectInUse : Desk String := do return if ← Desk.onSampleData then "sqlite" else "tsql"

def usualLimit : Int := 500

/-- The name between quotes at the front of a text, if it is not empty. -/
def quotedFront? : List Char → Option String
  | '\'' :: rest =>
    let name := rest.takeWhile (· != '\'')
    if name.isEmpty || name.length == rest.length then none else some (String.ofList name)
  | _ => none

def invalidColumn? : List Char → Option String
  | [] => none
  | c :: rest =>
    ((Text.looselyAfter? "Invalid column name ".toList (c :: rest)).bind quotedFront?).or
      (invalidColumn? rest)

/-- A value of a row as it is told to others: days and moments as text, exact decimals as numbers, octets
as the text they encode. -/
def plainValue (v : Value) : Attempt Value :=
  match v with
  | .date d => .ok (.text d)
  | .moment d => .ok (.text d)
  | .decimal d =>
    match Number.readFloat? d with
    | some x => .ok (.float x)
    | none => .error (.mismatch s!"Type <class '{v.kind}'> not serializable")
  | .bytes octets => .ok (.text (Text.ofOctets octets))
  | v => .error (.mismatch s!"Type <class '{v.kind}'> not serializable")

def rowStyle : Json.Style := { Json.Style.line with other := fun v => do Json.write .line (← plainValue v) }

def rowDocument (columns : List Value) (row : Value) : Attempt Value := do
  let cells ← row.items
  return .record (Fields.putAll [] ((columns.zip cells).map fun (c, v) => (c.display, v)))

/-- A statement without its limit, and the limit if there was one. A statement that cannot be parsed, or
cannot be written without its limit, stays as it is. -/
def splitLimit (step : String) (statement : Value) : Desk (Value × Option Value) := do
  let dialect ← dialectInUse
  let unsplit := fun (limit : Option Value) (f : Fault) => do
    Desk.log step s!"Could not parse query to remove LIMIT: {f.message}"
    return (statement, limit)
  let parsed : Desk (Value × Option Value) := do
    let tree ← Sql.parse statement (.text dialect)
    let limit := Node.arg tree "limit"
    if limit.truthy then
      Desk.recover (do
        let bare ← Node.setArg tree "limit" .null
        return (.text (← Node.textOf bare), some limit)) (unsplit (some limit))
    else return (statement, none)
  Desk.recover parsed (unsplit none)

def replaceFirst (s old new : String) : String :=
  match Text.cut? s old with
  | some (before, after) => before ++ new ++ after
  | none => s

/-- A statement with a limit. Where the statement cannot be parsed the limit is put into its text. -/
def withLimit (step : String) (statement : Value) (limit : Int) : Desk Value := do
  let dialect ← dialectInUse
  let parsed : Desk Value := do
    let tree ← Sql.parse statement (.text dialect)
    let bound ← Sql.parse (.text (toString limit)) .null
    return .text (← Node.textOf (← Node.setArg tree "limit" (Node.make "Limit" [("expression", bound)])))
  Desk.recover parsed fun f => do
    Desk.log step s!"Could not add LIMIT clause: {f.message}"
    let text ← statement.textFor (if dialect == "sqlite" then "rstrip" else "replace")
    return .text (if dialect == "sqlite" then
        Text.trimEnd (· == ';') text ++ s!" LIMIT {limit}"
      else replaceFirst text "SELECT" s!"SELECT TOP {limit}")

def limitNumber (limit : Value) : Attempt Int := do
  let shown := (← Node.part limit "expression").display
  match Number.readInt? shown with
  | some n => pure n
  | none => throw (.invalid s!"invalid literal for int() with base 10: {Text.quoted shown}")

structure Outcome where
  statement : Value
  found : Database.Found
  /-- How many rows there are without a limit. -/
  total : Nat
  limited : Bool

/-- Gets ready to send a statement, and says so if that fails. -/
def prepareCursor (step : String) (connection : Value) : Desk Unit :=
  Desk.recover (Database.openCursor connection) fun f => do
    Desk.log step s!"Failed to create cursor - connection may be closed: {f.message}" "error"
    throw f

/-- The limit for a statement, and whether it applies: its own always does, the usual one if there are
more rows. -/
def limitFor (step : String) (limit : Option Value) (total : Nat) : Desk (Int × Bool) := do
  match limit with
  | some limit => do
    let n ← limitNumber limit
    Desk.log step s!"Query has explicit limit of {n}, will always apply it"
    pure (n, true)
  | none => pure (usualLimit, decide (usualLimit < total))

/-- Runs a statement: once to count, and once more if a limit applies. The cursor is open already. -/
def runLimited (step : String) (connection statement : Value) (limit : Option Value) : Desk Outcome := do
  let found ← Database.execute connection statement
  let total := found.rows.length
  Desk.log step s!"Query returned {total} total records"
  let bound ← limitFor step limit total
  if bound.2 then
    Desk.log step s!"Applying limit of {bound.1} records (total available: {total})"
    Database.closeCursor connection
    Database.openCursor connection
    let statement ← withLimit step statement bound.1
    return ⟨statement, ← Database.execute connection statement, total, true⟩
  else return ⟨statement, found, total, false⟩

def withStatement (statements statement : Value) : Attempt Value := do
  if ← statement.isIn statements then pure statements else statements.followedBy [statement]

def executedState (state original : Value) (outcome : Outcome) (connection : Value) (step : String) :
    Desk Value := do
  let rows ← outcome.found.rows.mapM fun r => (rowDocument outcome.found.columns r : Attempt Value)
  let result ← Json.write rowStyle (.list rows)
  Database.closeCursor connection
  let columns := outcome.found.columns
  let counts : Fields := [("total_records", .nat outcome.total), ("returned_records", .nat rows.length),
    ("limit_applied", .bool outcome.limited)]
  let _ ← DebugFile.save "execute_query_result.json"
    (.record ([("query", outcome.statement), ("original_query", original)] ++ counts ++
      [("columns", .list columns), ("sample_data", .list (rows.take 5))]))
  let queries ← withStatement (← state.getD "queries" (.list [])) outcome.statement
  Desk.log step "Query execution completed"
  let _ ← DebugFile.append "generated_sql_queries.json"
    (.record ([("step", .text "successful_execution"), ("sql", outcome.statement)] ++ counts ++
      [("column_count", .nat columns.length), ("status", .text "success")])) "queries"
  pure (state.update [saying "Query Successfully Executed", ("query", outcome.statement),
    ("result", .text result), ("queries", queries), ("total_records_available", .nat outcome.total),
    ("executed_plan", ← state.get "planner_output"), ("executed_query", outcome.statement),
    ("last_step", .text step), ("last_attempt_time", .text (← read).now)])

/-- Says which column is invalid, if that is what an error complains about. -/
def noteInvalidColumn (f : Fault) (step : String) : Desk Unit :=
  match f with
  | .database "42S22" text =>
    match invalidColumn? text.toList with
    | some column =>
      Desk.log step (s!"Invalid column '{column}' detected. " ++
        "Skipping inline removal - letting error correction fix the plan.")
    | none => pure ()
  | _ => pure ()

def failedState (state statement : Value) (f : Fault) (step : String) : Desk Value := do
  noteInvalidColumn f step
  Desk.log step "Query execution failed" "error"
  pure (state.update [saying s!"Error executing query: {f.message}", ("query", statement),
    ("last_step", .text step), ("result", .null), ("total_records_available", .null),
    ("last_attempt_time", .text (← read).now)])

/-- The state when there is nothing to run or nothing to run it on. -/
def refusedState (state : Value) (reason step : String) : Desk Value := do
  Desk.log step reason "error"
  let messages ← (← state.field "messages").followedBy [.message .assistant (.text s!"Error: {reason}")]
  pure (state.update [("result", .null), ("messages", messages)])

/-- Whether a statement is missing: null, or a text of blanks. -/
def isMissing (statement : Value) : Bool :=
  match statement with
  | .null => true
  | .text s => (Text.trim s).isEmpty
  | _ => false

def leaveCursor (connection : Value) : Desk Unit :=
  Desk.recover (Database.closeCursor connection) fun _ => pure ()

/-- Splits a statement's limit off and gets ready to send it. -/
def prepareStatement (step : String) (connection statement : Value) : Desk (Value × Option Value) := do
  let split ← splitLimit step statement
  prepareCursor step connection
  pure split

/-- Runs a statement that is ready: the state after it, whether it succeeds or fails. -/
def runPrepared (state connection statement : Value) (split : Value × Option Value) (step : String) :
    Desk Value :=
  Desk.recover (do
    let outcome ← runLimited step connection split.1 split.2
    executedState state statement outcome connection step) fun f => do
      leaveCursor connection
      failedState state statement f step

def runStatement (state connection statement : Value) (step : String) : Desk Value := do
  let split? : Except Value (Value × Option Value) ← Desk.recover
    (do return .ok (← prepareStatement step connection statement))
    fun f => do return .error (← failedState state statement f step)
  match split? with
  | .error failed => pure failed
  | .ok split => runPrepared state connection statement split step

def executeQuery (state : Value) : Desk Value := do
  let step := "execute_query"
  Desk.status step "running" "Executing query"
  let connection ← state.get "db_connection"
  if !connection.truthy then
    return ← refusedState state "No database connection available in state" step
  let statement ← state.field "query"
  if isMissing statement then
    return ← refusedState state ("Cannot execute query: query is None or empty. " ++
      "This indicates a bug in the workflow routing or query generation.") step
  Desk.log step "Starting query execution"
  let _ ← DebugFile.save "execute_query_input.json" (.record [("query", statement),
    ("error_iteration", ← state.getD "error_iteration" (.int 0)),
    ("refinement_iteration", ← state.getD "refinement_iteration" (.int 0))])
  runStatement state connection statement step

end QueryDesk.Workflow
