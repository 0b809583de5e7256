import QueryDesk.Mapping.Evaluation

/-!
The report on how well guessed foreign keys agree with known ones.
-/

namespace QueryDesk.Mapping

def reportMoment (now : String) : String := Text.take now 10 ++ " " ++ Text.take (Text.drop now 11) 8

def keyText (key : Value) (suffix : String) : Attempt String := do
  return (← key.field "foreign_key").display ++ " → " ++ (← key.field "primary_key_table").display ++ suffix

def confidence (key : Value) : Attempt String := do
  return " (conf: " ++ (← (← key.getD "confidence" (.int 0)).withPlaces 3) ++ ")"

def rightLine (key : Value) : Attempt String := do
  let _ ← key.getD "confidence" (.int 0)
  let column ← key.get "primary_key_column"
  let suffix := if column.truthy then "." ++ column.display else ""
  return "- ✓ " ++ (← keyText key suffix) ++ (← confidence key)

def wrongLine (key : Value) : Attempt String := do
  let _ ← key.getD "confidence" (.int 0)
  return "- ⚠ " ++ (← keyText key "") ++ (← confidence key)

def missedLine (key : Value) : Attempt String := do return "- ✗ " ++ (← keyText key " (not inferred)")

def keyLines (heading : String) (line : Value → Attempt String) (keys : Value) : Attempt (List String) := do
  if !keys.truthy then return []
  return heading :: (← (← keys.items).mapM line) ++ [""]

/-- The part of the report on one table; nothing if it has no keys. -/
def tableLines (table : String) (result : Value) : Attempt (List String) := do
  let guessed ← result.field "inferred_count"
  if guessed == .int 0 then
    if (← result.field "ground_truth_count") == .int 0 then return []
  let known ← result.field "ground_truth_count"
  let guessed ← result.field "inferred_count"
  let right ← result.field "correct"
  let rightCount ← right.size
  let wrong ← result.field "false_positive"
  let wrongCount ← wrong.size
  let missed ← result.field "false_negative"
  let missedCount ← missed.size
  let lines := [s!"### {table}\n", s!"- Ground truth FKs: {known.display}", s!"- Inferred FKs: {guessed.display}",
    s!"- Correct: {rightCount}", s!"- False positives: {wrongCount}", s!"- False negatives: {missedCount}\n"]
  return lines ++ (← keyLines "**Correct Inferences:**" rightLine right) ++
    (← keyLines "**False Positives (Incorrect Inferences):**" wrongLine wrong) ++
    (← keyLines "**False Negatives (Missed FKs):**" missedLine missed)

/-- How well the guesses did, in a word. -/
def verdict (precision coverage : Value) : Attempt String := do
  let precise ← precision.atLeast (.int 80)
  let excellent ← if precise then coverage.atLeast (.int 70) else pure false
  if excellent then return "✅ **Excellent performance!** FK inference is working well.\n"
  let precise ← precision.atLeast (.int 70)
  let good ← if precise then pure true else coverage.atLeast (.int 60)
  return if good then "⚠️ **Good performance** with room for improvement.\n"
    else "❌ **Needs improvement.** Consider tuning parameters.\n"

/-- What could be done better. -/
def advice (precision coverage missed : Value) : Attempt (List String) := do
  let imprecise ← precision.less (.int 80)
  let incomplete ← coverage.less (.int 70)
  let lines := (if imprecise then
      ["- Consider **increasing confidence threshold** to reduce false positives"] else []) ++
    (if incomplete then ["- Consider **decreasing confidence threshold** to find more FKs",
      "- Add special handling for abbreviated IDs (APPID, CDAID)"] else []) ++
    (if 5 < (← missed.size) then ["- Review missed FKs for common patterns"] else [])
  return if lines.isEmpty then ["- Monitor performance on different query types"] else lines

def evaluationReport (now : String) (results settings tables : Value) : Attempt String := do
  let metrics ← results.field "metrics"
  let database ← settings.getD "database" "Unknown"
  let count ← tables.size
  let threshold ← settings.field "confidence_threshold"
  let limit ← settings.field "top_k"
  let precision ← metrics.field "precision"
  let preciseText ← precision.withPlaces 1
  let right ← metrics.field "total_correct"
  let guessed ← metrics.field "total_inferred"
  let coverage ← metrics.field "recall"
  let recallText ← coverage.withPlaces 1
  let known ← metrics.field "total_ground_truth"
  let f1 ← (← metrics.field "f1_score").withPlaces 1
  let byTable ← results.field "table_results"
  let names ← (← byTable.fieldsFor "keys").mergeSort (fun a b => !(b.1 < a.1)) |>.mapM fun f => pure f
  let parts ← names.mapM fun (name, result) => tableLines name result
  let word ← verdict precision coverage
  let hints ← advice precision coverage (← results.field "false_negatives")
  return Text.joinLines (["# Foreign Key Inference Comparison Report\n", s!"Generated: {reportMoment now}\n",
    "## Test Configuration\n", s!"- **Database**: {database.display}", s!"- **Filtered tables**: {count}",
    s!"- **Confidence threshold**: {threshold.display}", s!"- **Top-k candidates**: {limit.display}\n",
    "## Overall Metrics\n",
    s!"- **Precision**: {preciseText}% ({right.display}/{guessed.display} inferred correctly)",
    s!"- **Recall**: {recallText}% ({right.display}/{known.display} ground truth found)",
    s!"- **F1 Score**: {f1}%\n", "## Detailed Results by Table\n"] ++ parts.flatten ++
    ["## Summary\n", word, "## Recommendations\n"] ++ hints)

end QueryDesk.Mapping
