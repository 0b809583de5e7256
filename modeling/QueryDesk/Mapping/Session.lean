import QueryDesk.Mapping.Route
import QueryDesk.Service.Arguments

/-!
The command with which a person works out references between tables. The search index is built first; then
the workflow runs, and whenever it is interrupted the person is asked.
-/

namespace QueryDesk.Mapping

/-- Whether an answer is one of those that are understood. -/
def isChoice (choice : String) : Attempt Bool := do
  if ["q", "s", "p"].contains choice then return true
  if !Text.allDigits choice then return false
  let n ← choiceNumber (.text choice)
  return 1 ≤ n && n ≤ 5

/-- Asks until an answer is understood; `fuel` bounds the number of questions. -/
def askChoice : Nat → Desk String
  | 0 => throw .endOfInput
  | fuel + 1 => do
    let choice := Text.lower (Text.trim (← Console.readLine "\nYour choice: "))
    if ← isChoice choice then return choice
    Console.say "⚠️  [bold yellow]Invalid choice. Try again.[/bold yellow]"
    askChoice fuel

def userChoice : Desk String := do askChoice ((← get).lines.length + 1)

def sessionOptions : List CommandOption := [
  ⟨"--database", .text, .null⟩, ⟨"--threshold", .number, .float 0.1⟩, ⟨"--top-k", .whole, .int 10⟩,
  ⟨"--skip-primary-keys", .flag, .bool true⟩]

def initialState (database : String) (options : Fields) : Value :=
  let option := fun (name : String) => (options.lookup name).getD .null
  .record [("database_name", .text database), ("threshold", option "--threshold"),
    ("top_k", option "--top-k"), ("excel_path", .text s!"fk_mappings_{database}.xlsx"),
    ("skip_primary_keys", option "--skip-primary-keys"), ("schema", .list []), ("current_row_idx", .null),
    ("current_table", .text ""), ("current_column", .text ""), ("current_base_name", .text ""),
    ("current_is_pk", .bool false), ("candidates", .list []), ("score_gap", .float 0), ("chosen_table", .null),
    ("chosen_score", .null), ("decision_type", .null), ("notes", .text ""), ("has_next_row", .bool true),
    ("user_quit", .bool false), ("total_rows", .int 0), ("processed_count", .int 0),
    ("last_step", .text "start")]

def header (database : String) (options : Fields) : Value :=
  let option := fun (name : String) => (options.lookup name).getD .null
  let row := fun (label value : String) => Value.list [.text label, .text value]
  .record [("panel", .record [("grid", .list [row "Database:" database,
      row "Threshold:" (option "--threshold").display, row "Top-K:" (option "--top-k").display,
      row "Skip PKs:" (if (option "--skip-primary-keys").truthy then "✅ Yes" else "❌ No")])]),
    ("title", "🔍 [bold blue]FK INFERENCING AGENT[/bold blue]"), ("title_align", "left"),
    ("border_style", "blue"), ("padding", .tuple [.int 1, .int 2])]

def advance (what : String) : Desk Unit :=
  Console.show_ (.record [("advance", .int 1), ("task", .text what)])

def buildTableIndex (database : String) : Desk Nat := do
  Console.show_ (.record [("task", "🔨 Building vector store..."), ("total", .int 4)])
  let connection ← Database.connect
  let schema ← Schema.introspect
  Database.close connection
  advance "📊 Schema introspected"
  let _ ← Model.embedding false
  advance "🤖 Embedding model loaded"
  let tables ← schema.items
  let passages ← tables.mapM fun t =>
    (do return ⟨← Schema.referenceText t, t⟩ : Attempt Passage)
  advance "📝 Documents created"
  let _ ← Desk.buildIndex s!"fk_inference_{database}" (passages.map Passage.plain)
  advance "✅ Vector store ready"
  return tables.length

def pointToLogs : Desk Unit := Console.say "📋 [cyan]Check logs for details:[/cyan] logs/fk_agent.log"

/-- What the workflow goes on with after an interruption. -/
def resumption : Desk Value := do
  let choice ← Desk.recover userChoice fun f => do
    Console.say s!"\n❌ [bold red]Failed to process user input:[/bold red] {f.message}"
    Console.say "🔄 [cyan]Attempting to continue...[/cyan]"
    pure "s"
  pure (.record [("resume", .text choice)])

/-- One run of the workflow: what it goes on with if it was interrupted, and nothing if it ended. -/
def runOnce (config input : Value) : Desk (Option Value) := do
  modify fun t => { t with runState := .null }
  Runner.watched input config "updates" fun sight => do
    let event := match sight with
      | .state v => Value.tuple ["values", v]
      | .event v => Value.tuple ["custom", v]
      | .other v => v
    if ← (Value.text "__interrupt__").isIn event then
      let next ← resumption
      modify fun t => { t with runState := next }
      pure false
    else pure true
  let next := (← get).runState
  return if next.isNull then none else some next

/-- Runs the workflow until it ends; `fuel` bounds the number of runs. -/
def runToEnd (config : Value) : Nat → Value → Desk Unit
  | 0, _ => pure ()
  | fuel + 1, input => do
    match ← runOnce config input with
    | some next => runToEnd config fuel next
    | none => pure ()

/-- Runs the workflow, and gives the code with which the command ends. -/
def work (path : Value) (config input : Value) : Desk Int := do
  let most := (← get).runs.length + (← get).lines.length + 2
  tryCatch (do
    runToEnd config most input
    return 0) fun f => do
      match f with
      | .cancelled => do
        Console.say "\n\n⚠️  [bold yellow]Interrupted by user (Ctrl+C)[/bold yellow]"
        Console.say s!"💾 [green]Progress saved to:[/green] {path.display}"
        Console.say "🔄 [cyan]Run again to resume from where you left off[/cyan]"
        return 0
      | f =>
        if !f.recoverable then throw f
        Console.say s!"\n❌ [bold red]Workflow failed:[/bold red] {f.message}"
        Console.say s!"💾 [yellow]Partial progress saved to:[/yellow] {path.display}"
        pointToLogs
        return 1

/-- The command, once its options are read. -/
def session (options : Fields) : Desk Int := do
  let given := (options.lookup "--database").getD .null
  let database ← if given.truthy then pure given.display else Desk.env "DB_NAME" "unknown"
  let state := initialState database options
  let failed ← Desk.recover (do
    Runner.wire
    return none) fun f => return some f
  match failed with
  | some f => do
    Console.say s!"\n❌ [bold red]Failed to create agent:[/bold red] {f.message}"
    return 1
  | none => do
    Console.say ""
    Console.show_ (header database options)
    Console.say ""
    let built ← Desk.recover (do
      let size ← buildTableIndex database
      Console.say s!"✅ [bold green]Vector store built with {size} tables[/bold green]\n"
      return true) fun f => do
        Console.say s!"\n❌ [bold red]Failed to build vector store:[/bold red] {f.message}"
        pointToLogs
        return false
    if !built then return 1
    let config : Value := .record [("configurable", .record [("thread_id", .text database),
      ("vector_store", .handle "Chroma")]), ("recursion_limit", .int 10000)]
    work (state.peek "excel_path") config state

def sessionCommand (args : List String) : Desk Int := do session (← commandOptions sessionOptions [] args)

end QueryDesk.Mapping
