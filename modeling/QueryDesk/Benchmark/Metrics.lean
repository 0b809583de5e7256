import QueryDesk.Benchmark.Models
import QueryDesk.Service.DebugFile

/-!
Gathering what is known about a run: from the state in which it ended, and from the files it left.
-/

namespace QueryDesk.Benchmark

def share (f : Shared → Shared) : Desk Unit :=
  modify fun t => { t with gathering := { t.gathering with shared := f t.gathering.shared } }

def collector : Desk Collector := do
  match (← get).gathering.collector with
  | some c => pure c
  | none => throw (Value.absent "c")

def note (f : Collector → Collector) : Desk Unit :=
  modify fun t => { t with gathering := { t.gathering with collector := t.gathering.collector.map f } }

def begin (model query : Value) : Desk Unit := do
  let now := (← read).now
  modify fun t => { t with gathering := { t.gathering with collector := some { model, query, timestamp := now } } }

def cost (model input output : Value) : Attempt Value := do
  match model? (← model.hashable) with
  | none => return .float 0
  | some m => do
    let million := Value.int 1000000
    let going ← (← input.dividedBy million).times (.float m.inputCost)
    let coming ← (← output.dividedBy million).times (.float m.outputCost)
    (← going.plus coming).rounded 6

def reportOf (c : Collector) (s : Shared) (price : Value) : Value :=
  .record [("model_name", c.model), ("query_id", c.query), ("timestamp", .text c.timestamp),
    ("success", .bool c.success), ("execution_time_seconds", .float 0), ("sql_generated", c.sql),
    ("sql_correct", .bool false), ("error_message", c.error), ("retry_count", c.retries),
    ("refinement_count", c.refinements), ("tables_selected", .list s.tables),
    ("columns_selected", .list s.columns), ("joins_used", .list s.joins), ("filters_applied", .list s.filters),
    ("aggregations_used", .list s.aggregations),
    ("token_usage", .record [("input_tokens", s.inputTokens), ("output_tokens", s.outputTokens),
      ("total_tokens", s.totalTokens)]),
    ("quality_score", .int 0), ("result_row_count", c.rowCount), ("estimated_cost_usd", price)]

def report : Desk Value := do
  let c ← collector
  let s := (← get).gathering.shared
  return reportOf c s (← cost c.model s.inputTokens s.outputTokens)

/-- The column that an entry of a selection names; none if the entry names none. -/
def columnName (column : Value) : Attempt (Option Value) :=
  match column with
  | .record _ => do
    let name ← column.get "name"
    let name ← if name.truthy then pure name else column.get "column"
    return if name.truthy then some name else none
  | .text _ => .ok (some column)
  | _ => .ok none

def addColumn (table column : Value) : Desk Unit := do
  match ← columnName column with
  | some name => share fun s => { s with columns := s.columns ++ [.text s!"{table.display}.{name.display}"] }
  | none => pure ()

def addSelection (selection : Value) : Desk Unit := do
  let table ← selection.get "table"
  let table ← if table.truthy then pure table else liftM (selection.get "table_name")
  if table.truthy then share fun s => { s with tables := s.tables ++ [table] }
  for column in ← (← selection.getD "columns" (.list [])).items do addColumn table column

def pick (keys : List String) (v : Value) : Attempt Value := do
  return .record (← keys.mapM fun k => do return (k, ← v.get k))

/-- The parts of a plan under a name; none if it is absent or empty. -/
def partsOf (plan : Value) (name : String) : Attempt (List Value) :=
  match plan.attr name with
  | .ok parts => if parts.truthy then parts.items else .ok []
  | .error _ => .ok []

def addPlan (plan : Value) : Desk Unit := do
  for selection in ← partsOf plan "selections" do addSelection selection
  for edge in ← partsOf plan "join_edges" do
    let join ← pick ["from_table", "from_column", "to_table", "to_column"] edge
    share fun s => { s with joins := s.joins ++ [join] }
  for filter in ← partsOf plan "filters" do
    let filter ← pick ["table", "column", "operator", "value"] filter
    share fun s => { s with filters := s.filters ++ [filter] }
  for aggregation in ← partsOf plan "aggregations" do
    share fun s => { s with aggregations := s.aggregations ++ [aggregation] }

def rowCount? (result : Value) : Attempt (Option Nat) :=
  match result with
  | .list rows => .ok (some rows.length)
  | .record fields => (fields.lookup "rows").elim (.ok none) fun rows => do return some (← rows.size)
  | _ => .ok none

def noteError (messages : Value) : Desk Unit := do
  match (← messages.last).attr "content" with
  | .ok content =>
    let text := content.display
    if Text.contains text "Error" then note fun c => { c with error := .text text, success := false }
  | .error _ => pure ()

def noteRows (result : Value) : Desk Unit := do
  match ← rowCount? result with
  | some n => note fun c => { c with rowCount := .nat n }
  | none => pure ()

def addState (state : Value) : Desk Unit := do
  let _ ← collector
  let retries ← state.getD "error_iteration" (.int 0)
  note fun c => { c with retries := retries }
  let refinements ← state.getD "refinement_iteration" (.int 0)
  note fun c => { c with refinements := refinements }
  let sql := state.peek "query"
  if sql.truthy then note fun c => { c with sql := sql, success := true }
  let messages := state.peek "messages"
  if messages.truthy then noteError messages
  let result := state.peek "result"
  if result.truthy then noteRows result
  let plan := state.peek "planner_output"
  if plan.truthy then addPlan plan

/-- The document in a file that a run left; none if there is no such file. -/
def leftDocument? (name : String) : Desk (Option Value) := do
  match ← DebugFile.find? name with
  | none => return none
  | some none => throw (.isDirectory name)
  | some (some text) => return some (← Json.read (Text.plainLines text))

def tokensIn (characters : Nat) : Value := .nat (characters / 4)

/-- Does something with a file that a run left; that it fails does not matter. -/
def withLeft (name : String) (use : Value → Desk Unit) : Desk Unit :=
  Desk.recover (do
    match ← leftDocument? name with
    | some doc => use doc
    | none => pure ()) fun _ => pure ()

def addFiles : Desk Unit := do
  let _ ← collector
  withLeft "debug_planner_prompt.json" fun doc => do
    let lengths ← (← (← doc.getD "messages" (.list [])).items).mapM fun m =>
      (do return (← m.getD "content" "").display.length : Attempt Nat)
    share fun s => { s with inputTokens := tokensIn (lengths.foldl (· + ·) 0) }
  withLeft "debug_generated_planner_output.json" fun doc => do
    let text ← Json.write .line doc
    share fun s => { s with outputTokens := tokensIn text.length }
  let s := (← get).gathering.shared
  let total ← s.inputTokens.plus s.outputTokens
  share fun s => { s with totalTokens := total }
  if !(← collector).sql.truthy then
    withLeft "debug_generated_sql.json" fun doc => do
      let sql ← doc.getD "query" ""
      note fun c => { c with sql := sql }

def setTokens (input output : Value) : Desk Unit := do
  let _ ← collector
  share fun s => { s with inputTokens := input, outputTokens := output }

end QueryDesk.Benchmark
