import QueryDesk.Domain.Enrichment
import QueryDesk.Schema.Introspection
import QueryDesk.Schema.KeyInference
import QueryDesk.Service.DebugFile

/-!
The steps that bring a schema into a state: connect, read the schema, guess foreign keys, and write the
schema as markdown.
-/

namespace QueryDesk.Workflow

def saying (text : String) : String × Value := ("messages", .list [.message .assistant (.text text)])

/-- Puts a database connection into the state; null if there is none to be had. -/
def initializeConnection (state : Value) : Desk Value := do
  let step := "initialize_connection"
  Desk.status step "running" "Initializing database connection"
  Desk.log step "Creating database connection"
  let connected : Desk Value := do
    let connection ← Database.connect
    Desk.log step "Database connection created successfully"
    Desk.status step "completed"
    pure connection
  let connection ← Desk.recover connected fun f => do
    Desk.log step s!"Error creating database connection: {f.message}" "error"
    Desk.status step "error"
    pure .null
  pure (state.update [("db_connection", connection), ("last_step", .text step)])

/-- Reads the schema of the connected database and combines it with what is known about the domain. -/
def analyzeSchema (state : Value) : Desk Value := do
  let step := "analyze_schema"
  if (← state.get "db_connection").truthy then
    Desk.status step "running" "Analyzing database schema"
    Desk.log step "Starting SQLAlchemy-based schema analysis"
    let analyzed : Desk Value := do
      let schema ← Schema.introspect
      Schema.check schema
      let count ← schema.size
      Desk.log step s!"Retrieved schema with {count} tables"
      let combined ← Domain.combine schema true
      let _ ← DebugFile.save "combined_schema_with_metadata.json" combined false
      Desk.log step "Schema analysis completed"
      Desk.status step "completed"
      pure (state.update [saying "Schema information gathered.", ("schema", combined),
        ("last_step", .text step)])
    Desk.recover analyzed fun f => do
      Desk.log step s!"Error retrieving schema: {f.message}" "error"
      Desk.status step "error"
      pure (state.update [saying s!"Error retrieving schema: {f.message}", ("last_step", .text step)])
  else
    Desk.log step "No database connection available in state" "error"
    Desk.status step "error"
    pure (state.update [saying "Error: No database connection available", ("last_step", .text step)])

/-- A number of the environment that need not be whole. -/
def envFloat (name dflt : String) : Desk Float := do
  let text ← Desk.env name dflt
  match Number.readFloat? text with
  | some x => pure x
  | none => throw (.invalid s!"could not convert string to float: {Text.quoted text}")

def envInt (name dflt : String) : Desk Int := do
  let text ← Desk.env name dflt
  match Number.readInt? text with
  | some n => pure n
  | none => throw (.invalid s!"invalid literal for int() with base 10: {Text.quoted text}")

def guessedKeys (table : Value) : Attempt (List Value) := do
  (← (← table.getD "foreign_keys" (.list [])).items).filterM fun k => do
    return (← k.get "inferred").truthy

/-- The guessed foreign keys as they are kept for people. -/
def guessNotes (state schema : Value) (threshold : Float) (limit : Int) : Attempt Value := do
  let tables ← schema.items
  let sizes ← tables.mapM fun t => do (← t.getD "foreign_keys" (.list [])).size
  let guessed ← tables.mapM fun t => do return (t, ← guessedKeys t)
  let total : Nat := sizes.foldl (· + ·) 0
  let fresh : Nat := (guessed.map (·.2.length)).foldl (· + ·) 0
  let names ← tables.mapM (·.field "table_name")
  let details ← (guessed.filter fun g => !g.2.isEmpty).mapM fun (t, keys) => do
    let keys ← keys.mapM fun k => do
      return Value.record [("foreign_key", ← k.field "foreign_key"),
        ("primary_key_table", ← k.field "primary_key_table"),
        ("primary_key_column", ← k.get "primary_key_column"), ("confidence", ← k.get "confidence")]
    return Value.record [("table", ← t.field "table_name"), ("inferred_fks", .list keys)]
  pure (.record [("user_query", ← state.getD "user_question" ""), ("filtered_tables", .list names),
    ("configuration", .record [("confidence_threshold", .float threshold), ("top_k", .int limit)]),
    ("statistics", .record [("total_foreign_keys", .nat total),
      ("existing_fks", .int ((total : Int) - fresh)), ("inferred_fks", .nat fresh)]),
    ("inferred_fks_detail", .list details)])

/-- Guesses foreign keys for the narrowed schema, if that is asked for. -/
def inferForeignKeys (state : Value) : Desk Value := do
  let step := "infer_foreign_keys"
  Desk.status step "running" "Inferring foreign key relationships"
  if Text.lower (← Desk.env "INFER_FOREIGN_KEYS" "false") != "true" then
    Desk.log step "Foreign key inference disabled (INFER_FOREIGN_KEYS=false), skipping"
    return state.update [("last_step", "infer_foreign_keys_skipped")]
  let schema ← state.getD "filtered_schema" (.list [])
  if !schema.truthy then
    Desk.log step "No filtered schema available for FK inference" "warning"
    return state.update [("last_step", "infer_foreign_keys_no_schema")]
  let count ← schema.size
  let _ ← (← schema.items).mapM fun t => (t.get "table_name" : Attempt Value)
  Desk.log step s!"Starting FK inference for {count} filtered tables"
  let threshold ← envFloat "FK_INFERENCE_CONFIDENCE_THRESHOLD" "0.6"
  let limit ← envInt "FK_INFERENCE_TOP_K" "3"
  Desk.log step "FK inference configuration"
  let inferred : Desk Value := do
    let schema ← Schema.guessKeys schema
    let tables ← schema.items
    let _ ← tables.mapM fun t => do (← t.getD "foreign_keys" (.list [])).size
    for t in tables do
      if !(← guessedKeys t).isEmpty then
        let _ ← t.field "table_name"
    Desk.log step "FK inference completed successfully"
    let _ ← DebugFile.save "inferred_foreign_keys.json" (← guessNotes state schema threshold limit)
    Desk.status step "completed"
    pure (state.update [("filtered_schema", schema), ("last_step", .text step)])
  Desk.recover inferred fun f => do
    Desk.log step s!"FK inference failed: {f.message}" "error"
    Desk.status step "error"
    pure (state.update [("last_step", "infer_foreign_keys_error")])

def keepPage (name text : String) : Desk Unit := do
  if (← read).debug.isSome && (← get).debugFiles.isSome then
    if ← DebugFile.isWritable name then DebugFile.store name text

/-- Writes the schema as markdown: the narrowest that the state has. -/
def formatMarkdown (state : Value) : Desk Value := do
  let step := "format_schema_markdown"
  Desk.status step "running" "Formatting schema for AI"
  let formatted : Desk Value := do
    let schema := ((← state.get "truncated_schema").orElse (← state.get "filtered_schema")).orElse
      (← state.getD "schema" (.list []))
    if !schema.truthy then
      return state.update [saying "No schema to format", ("last_step", .text step)]
    let page ← Schema.markdown (← schema.items)
    keepPage "debug_schema_markdown.md" page
    let _ ← schema.size
    pure (state.update [saying "Schema formatted to markdown", ("schema_markdown", .text page),
      ("last_step", .text step)])
  Desk.recover formatted fun f =>
    pure (state.update [saying s!"Error formatting schema: {f.message}", ("last_step", .text step)])

end QueryDesk.Workflow
