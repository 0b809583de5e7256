import QueryDesk.Benchmark.Models
import QueryDesk.Service.Desk

/-!
Reports on a series of runs: a summary over all models and questions, a comparison of what the models wrote,
and recommendations. A run is a document with the measures that were gathered.
-/

namespace QueryDesk.Benchmark

def measure (key : String) (run : Value) : Attempt Value := run.getD key (.int 0)

def tokensOf (run : Value) : Attempt Value := do
  (← run.getD "token_usage" (.record [])).getD "total_tokens" (.int 0)

def mean (measure : Value → Attempt Value) (runs : List Value) : Attempt Value := do
  (← Value.total (← runs.mapM measure)).dividedBy (.nat runs.length)

def successes (runs : List Value) : Attempt Nat := do
  return (← runs.filterM fun r => do return (← r.get "success").truthy).length

def successRate (runs : List Value) : Attempt Value := do
  (Value.nat (← successes runs)).dividedBy (.nat runs.length)

def distinctOf (key : String) (runs : List Value) : Attempt (List Value) := do
  Value.setOf (← runs.mapM fun r => r.field key)

def having (key : String) (v : Value) (runs : List Value) : Attempt (List Value) :=
  runs.filterM fun r => do return (← r.field key) == v

structure Standing where
  model : Value
  time : Value
  successRate : Value
  quality : Value
  cost : Value

/-- The first of some items with the greatest key; with the least one if `least` is set. -/
def best {α : Type} (least : Bool) (key : α → Attempt Value) : List α → Attempt α
  | [] => .error (.invalid ((if least then "min" else "max") ++ "() arg is an empty sequence"))
  | first :: rest => do
    let k ← key first
    let (_, winner) ← rest.foldlM (fun (top : Value × α) x => do
      let k ← key x
      let wins ← if least then k.less top.1 else k.above top.1
      return if wins then (k, x) else top) (k, first)
    pure winner

def inCategory (category : String) (standings : List Standing) : List Standing :=
  standings.filter fun s => categoryOf s.model == category

def shownMoment (now : String) : String := Text.take now 10 ++ " " ++ Text.take (Text.drop now 11) 8

def modelRow (runs : List Value) (model : Value) : Attempt (String × Standing) := do
  let own ← having "model_name" model runs
  let time ← mean (measure "execution_time_seconds") own
  let rate ← (← successRate own).times (.int 100)
  let quality ← mean (measure "quality_score") own
  let tokens ← mean tokensOf own
  let cost ← mean (measure "estimated_cost_usd") own
  let cells := [model.display, categoryOf model, ← time.withPlaces 2, (← rate.withPlaces 0) ++ "%",
    (← quality.withPlaces 0) ++ "/100", ← tokens.withPlaces 0, "$" ++ (← cost.withPlaces 6)]
  return ("| " ++ Text.join " | " cells ++ " |\n", ⟨model, time, rate, quality, cost⟩)

def findings (standings : List Standing) : Attempt (List String) := do
  let top ← best false (fun s => .ok s.quality) standings
  let fastest ← best true (fun s => .ok s.time) standings
  let remote := inCategory "remote" standings
  let value ← if remote.isEmpty then pure [] else do
    let s ← best false (fun s => do s.quality.dividedBy (← s.cost.greater (.float 0.000001))) remote
    let quality ← s.quality.withPlaces 0
    let cost ← s.cost.withPlaces 6
    pure [s!"- **Best Value (Remote):** {s.model.display} ({quality} quality / ${cost})\n"]
  let near := inCategory "local" standings
  let own ← if near.isEmpty then pure [] else do
    let s ← best false (fun s => .ok s.quality) near
    let quality ← s.quality.withPlaces 0
    pure [s!"- **Best Local Model:** {s.model.display} ({quality}/100)\n"]
  let quality ← top.quality.withPlaces 0
  let time ← fastest.time.withPlaces 2
  return [s!"- **Best Overall Quality:** {top.model.display} ({quality}/100)\n",
    s!"- **Fastest:** {fastest.model.display} ({time}s)\n"] ++ value ++ own

def runRow (run : Value) : Attempt String := do
  let mark := if (← run.get "success").truthy then "" else "X"
  let time ← measure "execution_time_seconds" run
  let quality ← measure "quality_score" run
  let tokens ← tokensOf run
  let cost ← measure "estimated_cost_usd" run
  let cells := [(← run.field "model_name").display, mark, ← time.withPlaces 2, quality.display ++ "/100",
    tokens.display, "$" ++ (← cost.withPlaces 6)]
  return "| " ++ Text.join " | " cells ++ " |\n"

/-- The table of a question: its runs, the best first. -/
def questionTable (runs : List Value) (question : Value) : Attempt (List String) := do
  let own ← having "query_id" question runs
  let ordered ← Value.ranked true (← own.mapM fun r => do return (← measure "quality_score" r, r))
  let rows ← ordered.mapM runRow
  return [s!"### {question.display}\n\n", "| Model | Success | Time (s) | Quality | Tokens | Cost |\n",
    "|-------|---------|----------|---------|--------|------|\n"] ++ rows ++ ["\n"]

def overview (now : String) (runs : List Value) : Attempt String := do
  let good ← successes runs
  let models ← distinctOf "model_name" runs
  let questions ← distinctOf "query_id" runs
  let rate ← (← (← (Value.nat good).dividedBy (.nat runs.length)).times (.int 100)).withPlaces 1
  let rows ← (← Value.sorted models).mapM (modelRow runs)
  let found ← findings (rows.map (·.2))
  let tables ← (← Value.sorted questions).mapM (questionTable runs)
  return String.join (["# LLM Benchmark Results\n", s!"**Date:** {shownMoment now}\n\n",
    "## Executive Summary\n\n", s!"- **Total Runs:** {runs.length}\n",
    s!"- **Successful Runs:** {good} ({rate}%)\n", s!"- **Models Tested:** {models.length}\n",
    s!"- **Queries Tested:** {questions.length}\n", "- **Planner Complexity:** Minimal (all models)\n\n",
    "## Overall Performance\n\n",
    "| Model | Category | Avg Time (s) | Success Rate | Avg Quality Score | Avg Tokens | Est. Cost/Query |\n",
    "|-------|----------|--------------|--------------|-------------------|------------|------------------|\n"] ++
    rows.map (·.1) ++ ["\n", "## Key Findings\n\n"] ++ found ++ ["\n", "## Query-by-Query Breakdown\n\n"] ++
    tables.flatten)

def pathPart (v : Value) : Attempt String :=
  match v.text? with
  | some s => .ok s
  | none => .error (.mismatch s!"join() argument must be str, bytes, or os.PathLike object, not '{v.kind}'")

def writtenPart (comparisons : Fields) (run : Value) (question : Value) : Attempt (List String) := do
  let name ← pathPart (← run.field "model_name")
  let path := name ++ "/" ++ (← pathPart question)
  let body ← match comparisons.lookup path with
    | none => pure ["*No SQL comparison available*\n\n"]
    | some c => do
      let quality ← c.getD "quality_score" (.int 0)
      let sql ← c.getD "generated_sql" "N/A"
      let differences ← c.getD "differences_summary" ""
      pure [s!"**Quality Score:** {quality.display}/100\n\n",
        s!"**Generated SQL:**\n```sql\n{sql.display}\n```\n\n", s!"{differences.display}\n\n"]
  return [s!"### {name}\n\n"] ++ body ++ ["---\n\n"]

/-- The comparison of what the models wrote, question by question. -/
def writings (comparisons : Fields) (runs : List Value) : Attempt String := do
  let questions ← Value.sorted (← distinctOf "query_id" runs)
  let parts ← questions.mapM fun q => do
    let own ← having "query_id" q runs
    return s!"## {q.display}\n\n" :: (← own.mapM fun r => writtenPart comparisons r q).flatten
  return String.join ("# Model Comparison Report\n\n" :: parts.flatten)

/-- How a model did, with the part of its runs that succeeded as a fraction. -/
def standingOf (runs : List Value) (model : Value) : Attempt Standing := do
  let own ← having "model_name" model runs
  let quality ← mean (measure "quality_score") own
  let time ← mean (measure "execution_time_seconds") own
  let cost ← mean (measure "estimated_cost_usd") own
  return ⟨model, time, ← successRate own, quality, cost⟩

def pairAbove (a b : Value × Value) : Attempt Bool := do
  if a.1 == b.1 then a.2.above b.2 else a.1.above b.1

/-- The first of some models that succeeds most often, and among those writes best. -/
def mostReliable : List Standing → Attempt Standing
  | [] => .error (.invalid "max() arg is an empty sequence")
  | first :: rest => rest.foldlM (fun top s => do
      return if ← pairAbove (s.successRate, s.quality) (top.successRate, top.quality) then s else top) first

def percent (rate : Value) : Attempt String := do (← rate.times (.int 100)).withPlaces 0

/-- The recommendations; `walk` is the order in which the models are met. -/
def recommendations (walk : List Value → List Value) (runs : List Value) : Attempt String := do
  let standings ← (walk (← distinctOf "model_name" runs)).mapM (standingOf runs)
  let top ← mostReliable standings
  let production := ["## Best Model for Production Use\n\n", s!"**Recommended:** {top.model.display}\n\n",
    "- Quality Score: " ++ (← top.quality.withPlaces 0) ++ "/100\n",
    "- Success Rate: " ++ (← percent top.successRate) ++ "%\n",
    "- Avg Time: " ++ (← top.time.withPlaces 2) ++ "s\n",
    "- Cost/Query: $" ++ (← top.cost.withPlaces 6) ++ "\n\n"]
  let near := inCategory "local" standings
  let cheap ← if near.isEmpty then pure [] else do
    let s ← best false (fun s => .ok s.quality) near
    pure [s!"**Recommended:** {s.model.display} (Free/Local)\n\n",
      "- Quality Score: " ++ (← s.quality.withPlaces 0) ++ "/100\n",
      "- Success Rate: " ++ (← percent s.successRate) ++ "%\n",
      "- Avg Time: " ++ (← s.time.withPlaces 2) ++ "s\n\n"]
  let fastest ← best true (fun s => .ok s.time) standings
  let fast := [s!"**Recommended:** {fastest.model.display}\n\n",
    "- Avg Time: " ++ (← fastest.time.withPlaces 2) ++ "s\n",
    "- Quality Score: " ++ (← fastest.quality.withPlaces 0) ++ "/100\n\n"]
  return String.join (["# Recommendations\n\n"] ++ production ++
    ["## Best for Cost-Conscious Applications\n\n"] ++ cheap ++ ["## Best for Speed Priority\n\n"] ++ fast ++
    ["## Configuration Recommendations\n\n", "Based on these benchmark results:\n\n",
      "1. **All models used PLANNER_COMPLEXITY=minimal** - This level is sufficient for most queries\n",
      "2. **Success rates varied** - Consider fallback strategies for less reliable models\n",
      "3. **Cost varies significantly** - Local models provide zero-cost alternative with acceptable quality\n\n"])

end QueryDesk.Benchmark
