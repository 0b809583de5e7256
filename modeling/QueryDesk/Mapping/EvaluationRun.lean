import QueryDesk.Domain.Files
import QueryDesk.Mapping.EvaluationReport
import QueryDesk.Schema.Introspection
import QueryDesk.Schema.KeyInference
import QueryDesk.Service.Arguments

/-!
The command that guesses foreign keys of the most promising tables, compares them with the known ones and
writes a report.
-/

namespace QueryDesk.Mapping

/-- The known foreign keys, by table. A file that cannot be read is reported and taken as empty. -/
def knownKeys : Desk Value :=
  Desk.recover (do
    let doc ← Domain.readDocument (Domain.directory ++ Domain.keysName)
    let keys ← Keyed.collect (fun entry => (do
      let table ← (← entry.field "table_name").hashable
      return (table, ← entry.getD "foreign_keys" (.list [])) : Attempt (Value × Value))) (← doc.items)
    return Keyed.record id keys) fun f => do
      Console.say s!"Error loading ground truth: {f.message}"
      return .record []

def keyCount (keys : Fields) : Attempt Nat := do return (← keys.mapM fun f => f.2.size).foldl (· + ·) 0

/-- The most promising tables, listed on the console. -/
def chooseTables (schema : List Value) (count : Int) : Desk (List Value) := do
  let chosen ← mostPromising schema count
  Console.say s!"\n[Simulated Filtering] Selected {chosen.length} tables:"
  for table in chosen do
    let name ← table.field "table_name"
    Console.say s!"  - {name.display}"
  pure chosen

def evaluationOptions : List CommandOption := [
  ⟨"--threshold", .number, .float 0.6⟩, ⟨"--top-k", .whole, .int 3⟩, ⟨"--num-tables", .whole, .int 10⟩,
  ⟨"--output", .text, "fk_inference_comparison_report.md"⟩, ⟨"--verbose", .flag, .bool false⟩]

/-- What the command says when it is asked for help. -/
def evaluationHelp : List String := [
  "usage: compare_fk_inference.py [-h] [--threshold THRESHOLD] [--top-k TOP_K]",
  "                               [--num-tables NUM_TABLES] [--output OUTPUT]",
  "                               [--verbose]",
  "",
  "Compare inferred FKs against ground truth",
  "",
  "options:",
  "  -h, --help            show this help message and exit",
  "  --threshold THRESHOLD",
  "                        Confidence threshold (0.0-1.0, default: 0.6)",
  "  --top-k TOP_K         Number of candidate tables to consider (default: 3)",
  "  --num-tables NUM_TABLES",
  "                        Number of tables to include in filtered set (default:",
  "                        10)",
  "  --output OUTPUT       Output file path (default:",
  "                        fk_inference_comparison_report.md)",
  "  --verbose             Enable verbose output"]

def rule : String := Text.repeated "=" 70

/-- The guessed keys of a schema, by table; tables without any are left out. -/
def guessedKeys (schema : Value) : Attempt (Keyed Value) := do
  let tables ← (← schema.items).mapM fun t => do
    let name ← t.field "table_name"
    let keys ← (← (← t.getD "foreign_keys" (.list [])).items).filterM fun k => do
      return (← k.get "inferred").truthy
    return (name, keys)
  tables.foldlM (fun known t => do
    if t.2.isEmpty then return known
    return Keyed.put known (← t.1.hashable) (.list t.2)) []

def sayMeasures (margin : String) (metrics : Value) : Desk Unit := do
  for (label, key) in [("Precision", "precision"), ("Recall", "recall"), ("F1 Score", "f1_score")] do
    let text ← (← metrics.field key).withPlaces 1
    Console.say s!"{margin}{label}: {text}%"

/-- Compares the guessed keys with the known ones, and writes the report. -/
def concludeEvaluation (settings : Value) (output : String) (known : Fields) (chosen : List Value)
    (guesses : Keyed Value) : Desk Unit := do
  Console.say "\n[Step 6] Comparing against ground truth..."
  let names ← chosen.mapM fun t => (t.field "table_name" : Attempt Value)
  let known := known.filter fun f => names.any (· == .text f.1)
  let results ← evaluate (← Desk.walk) (Keyed.record id guesses) (.record known)
  let metrics ← results.field "metrics"
  Console.say "  [PASS] Comparison completed"
  let precision ← (← metrics.field "precision").withPlaces 1
  Console.say s!"\n  Precision: {precision}%"
  let coverage ← (← metrics.field "recall").withPlaces 1
  Console.say s!"  Recall: {coverage}%"
  let f1 ← (← metrics.field "f1_score").withPlaces 1
  Console.say s!"  F1 Score: {f1}%"
  Console.say "\n[Step 7] Generating report..."
  let report ← evaluationReport (← read).now results settings (.list names)
  Console.writeFile output report
  Console.say s!"  [PASS] Report saved to: {output}"
  Console.say ("\n" ++ rule)
  Console.say "COMPARISON SUMMARY"
  Console.say rule
  sayMeasures "" metrics
  Console.say s!"\nDetailed report: {output}"

/-- The schema of the database; none if it cannot be read, which is said on the console. -/
def readSchema : Desk (Option Value) := do
  Console.say "\n[Step 2] Connecting to database..."
  let connected : Desk (Option Value) := Desk.recover (do
    let c ← Database.connect
    Console.say "  [PASS] Connected"
    return some c) fun f => do
      Console.say s!"  [FAIL] Connection failed: {f.message}"
      return none
  match ← connected with
  | none => pure none
  | some connection => do
    Console.say "\n[Step 3] Introspecting schema..."
    let schema ← Desk.recover (do
      let schema ← Schema.introspect
      let size ← schema.size
      Console.say s!"  [PASS] Introspected {size} tables"
      return some schema) fun f => do
        Console.say s!"  [FAIL] Introspection failed: {f.message}"
        return none
    Database.close connection
    pure schema

/-- The guesses for some tables; none if guessing fails, which is said on the console. -/
def guess (chosen : List Value) : Desk (Option (Keyed Value)) := do
  Console.say "\n[Step 5] Running FK inference..."
  Desk.recover (do
    let guessed ← Schema.guessKeys (.list chosen)
    Console.say "  [PASS] FK inference completed"
    let keys ← guessedKeys guessed
    let total := (← keys.mapM fun k => (k.2.size : Attempt Nat)).foldl (· + ·) 0
    Console.say s!"  Inferred {total} FKs across {keys.length} tables"
    return some keys) fun f => do
      Console.say s!"  [FAIL] FK inference failed: {f.message}"
      return none

def runEvaluation (options : Fields) : Desk Unit := do
  let option := fun (name : String) => (options.lookup name).getD .null
  Console.say rule
  Console.say "FK INFERENCE COMPARISON TEST"
  Console.say rule
  let database ← Desk.env "DB_NAME" "Unknown"
  let threshold := option "--threshold"
  let limit := option "--top-k"
  let settings : Value := .record [("database", .text database), ("confidence_threshold", threshold),
    ("top_k", limit)]
  Console.say "\nConfiguration:"
  Console.say s!"  Confidence threshold: {threshold.display}"
  Console.say s!"  Top-k candidates: {limit.display}"
  let verbose := option "--verbose"
  Console.say s!"  Verbose: {verbose.display}"
  Console.say "\n[Step 1] Loading ground truth FKs..."
  let known ← (← knownKeys).entries
  let count ← keyCount known
  Console.say s!"  Loaded ground truth: {known.length} tables, {count} FKs"
  match ← readSchema with
  | none => pure ()
  | some schema => do
    Console.say "\n[Step 4] Simulating schema filtering..."
    let chosen ← chooseTables (← schema.items) ((option "--num-tables").int?.getD 10)
    match ← guess chosen with
    | none => pure ()
    | some guesses => concludeEvaluation settings (option "--output").display known chosen guesses

def evaluationCommand (args : List String) : Desk Unit := do
  let options ← commandOptions evaluationOptions evaluationHelp args
  Desk.recover (runEvaluation options) fun f => do
    Console.say s!"\n\nUnexpected error: {f.message}"
    throw (.exit 1)

end QueryDesk.Mapping
