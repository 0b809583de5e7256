import QueryDesk.Mapping.Workbook
import QueryDesk.Number.Literal
import QueryDesk.Schema.Introspection
import QueryDesk.Schema.KeyInference

/-!
The steps that work out references between tables, one row of the sheet after the other: candidates are
looked up, a clear winner is taken, and otherwise a person decides.
-/

namespace QueryDesk.Mapping

def skip (state : Value) (notes step : String) : Value :=
  state.update [("chosen_table", "[SKIPPED]"), ("chosen_score", .null), ("decision_type", "skipped"),
    ("notes", .text notes), ("last_step", .text step)]

def skipUnknown (state : Value) (notes step : String) : Value :=
  skip (state.update [("candidates", .list []), ("score_gap", .float 0)]) notes step

/-- The columns of a schema that look like references, and the foreign keys of its tables. -/
def idColumnsOf (schema : List Value) : Attempt (List Value × Keyed Value) := do
  let found ← schema.mapM fun t => do
    let name ← t.field "table_name"
    let columns ← Schema.idColumns t
    let name ← name.hashable
    let keys ← t.getD "foreign_keys" (.list [])
    return (columns.map fun c => Value.tuple [name, .text c.column, .text c.base, .bool c.isKey], name, keys)
  pure ((found.map (·.1)).flatten, found.foldl (fun known f => Keyed.put known f.2.1 f.2.2) [])

/-- Reads the schema, and makes the sheet unless there is one. -/
def prepare (state : Value) : Desk Value := do
  let _ ← state.get "last_step"
  let _ ← state.field "database_name"
  let connection ← Database.connect
  let schema ← Schema.introspect
  Database.close connection
  let _ ← schema.size
  let (columns, existing) ← idColumnsOf (← schema.items)
  let path ← state.field "excel_path"
  if !(← Workbook.isPresent path) then
    Workbook.create path (.list columns) (Keyed.record id existing)
  pure (state.update [("schema", schema), ("total_rows", .nat columns.length), ("last_step", "initialize")])

def loadNextRow (state : Value) : Desk Value := do
  let _ ← state.get "last_step"
  let path ← state.field "excel_path"
  match ← Workbook.nextOpen? path with
  | none =>
    pure (state.update [("has_next_row", .bool false), ("current_row_idx", .null),
      ("last_step", "load_next_row_complete")])
  | some row => do
    let data ← Workbook.rowData path (.nat row)
    let count ← (← state.getD "processed_count" (.int 0)).next
    pure (state.update [("current_row_idx", .nat row), ("current_table", data.peek "table_name"),
      ("current_column", data.peek "fk_column"), ("current_base_name", data.peek "base_name"),
      ("current_is_pk", data.peek "is_pk"), ("has_next_row", .bool true), ("processed_count", count),
      ("candidates", .list []), ("score_gap", .float 0), ("chosen_table", .null), ("chosen_score", .null),
      ("decision_type", .null), ("notes", ""), ("last_step", "load_next_row")])

def checkShown (v : Value) : Attempt Unit :=
  if v.isNull || v.text?.isSome then .ok ()
  else .error (.mismatch s!"unable to render {v.kind}; a string or other renderable object is required")

def wholeNumber (v : Value) : Attempt Int :=
  match v with
  | .float x =>
    match Number.reading x with
    | .finite _ _ _ => .ok (Number.wholePart x)
    | .infinite _ => .error (.general "cannot convert float infinity to integer")
    | .notANumber => .error (.invalid "cannot convert float NaN to integer")
  | v => .ok v.whole

/-- Draws the bar of a score: the lower the score, the longer the bar, and there has to be room for it. -/
def drawBar (score : Value) : Attempt Unit := do
  let most := if ← (Value.float 1).less score then Value.float 1 else score
  let length ← wholeNumber (← (← (Value.int 1).minus most).times (.int 15))
  if Nat.pow 2 63 ≤ length then throw (.general "cannot fit 'int' into an index-sized integer")
  if Nat.pow 2 46 ≤ length then throw (.general "")

/-- Shows a candidate: its score has to be a number. -/
def showCandidate (candidate : Schema.Candidate) : Attempt Unit := do
  let score := candidate.score
  if !(← score.less (.float 0.3)) then
    let _ ← score.less (.float 0.5)
  drawBar score
  let _ ← score.withPlaces 3
  checkShown (candidate.table.peek "table_name")

def keepCandidates (state : Value) (found : List Schema.Candidate) : Desk Value := do
  let candidates := found.map fun c => Value.tuple [c.table.peek "table_name", c.score]
  match (found.head?.map (·.score)).elim (.ok "") (·.withPlaces 3) with
  | .error f =>
    pure (skipUnknown state s!"Candidate processing error: {f.message}" "find_candidates_extract_error")
  | .ok _ => do
    Desk.recover (do
      Workbook.writeCandidates (← state.field "excel_path") (← state.field "current_row_idx")
        (.list candidates)) fun _ => pure ()
    for c in found.take 10 do showCandidate c
    pure (state.update [("candidates", .list candidates), ("last_step", "find_candidates")])

/-- Looks candidates up for the column at hand. -/
def findCandidates (index : Option SearchIndex) (state : Value) : Desk Value :=
  Desk.recover (do
    let _ ← state.get "last_step"
    let table ← state.field "current_table"
    let _ ← state.field "current_column"
    let base ← state.field "current_base_name"
    let isKey ← state.getD "current_is_pk" (.bool false)
    let skipsKeys ← state.getD "skip_primary_keys" (.bool false)
    checkShown base
    if isKey.truthy && skipsKeys.truthy then
      return skipUnknown state "Auto-skipped (primary key)" "find_candidates_pk_skipped"
    match index with
    | none => return skipUnknown state "Vector store not available" "find_candidates_no_vector_store"
    | some index => do
      let searched : Desk (Except String (List Schema.Candidate)) := Desk.recover (do
        let schema ← state.field "schema"
        let limit ← state.field "top_k"
        return .ok (← Schema.keyCandidates base schema index table limit)) fun f =>
          return .error s!"Search error: {f.message}"
      match ← searched with
      | .error notes => return skipUnknown state notes "find_candidates_search_error"
      | .ok [] => do
        Workbook.writeCandidates (← state.field "excel_path") (← state.field "current_row_idx") (.list [])
        return skipUnknown state "No candidates found" "find_candidates_none"
      | .ok found => keepCandidates state found) fun f =>
    pure (skipUnknown state s!"Unexpected error: {f.message}" "find_candidates_exception")

/-- The gap between the scores of the two best candidates; the lower score is the better one. -/
def scoreGap (candidates : Value) : Attempt Value := do
  match ← candidates.size with
  | 0 => pure (.float 0)
  | 1 => pure (.float 1)
  | _ => do
    let second ← (← candidates.item 1).item 1
    let best ← (← candidates.item 0).item 1
    second.minus best

/-- Finds out how clear the best candidate is. -/
def evaluateAmbiguity (state : Value) : Desk Value := do
  let _ ← state.get "last_step"
  let gap ← scoreGap (← state.field "candidates")
  let threshold ← state.field "threshold"
  let _ ← gap.withPlaces 3
  let _ ← gap.atLeast threshold
  pure (state.update [("score_gap", gap), ("last_step", "evaluate_ambiguity")])

def autoSelect (state : Value) : Desk Value := do
  let _ ← state.get "last_step"
  let candidates ← state.field "candidates"
  let gap ← state.field "score_gap"
  let (table, score) ← (← candidates.item 0).pair
  let _ ← score.withPlaces 3
  let shown ← gap.withPlaces 3
  pure (state.update [("chosen_table", table), ("chosen_score", score), ("decision_type", "auto"),
    ("notes", .text s!"Gap: {shown} >= threshold"), ("last_step", "auto_select")])

/-- The number that a person's answer names. -/
def choiceNumber (choice : Value) : Attempt Int :=
  match choice with
  | .int n => .ok n
  | .bool b => .ok (if b then 1 else 0)
  | .float x => .ok (Number.wholePart x)
  | .text s =>
    match Number.readInt? s with
    | some n => .ok n
    | none => .error (.invalid s!"invalid literal for int() with base 10: {Text.quoted s}")
  | v => .error (.mismatch ("int() argument must be a string, a bytes-like object or a real number, " ++
      s!"not '{v.kind}'"))

/-- The state after a person named one of the candidates. -/
def choose (state choice : Value) : Attempt Value := do
  let candidates ← state.field "candidates"
  let index := (← choiceNumber choice) - 1
  let count ← candidates.size
  if index < 0 || (count : Int) ≤ index then
    return skip state s!"Invalid choice: {choice.display}" "request_decision_invalid"
  let (table, score) ← (← candidates.item index.toNat).pair
  let _ ← score.withPlaces 3
  return state.update [("chosen_table", table), ("chosen_score", score), ("decision_type", "manual"),
    ("notes", .text s!"User selected option {choice.display}"), ("last_step", "request_decision_manual")]

def decisionQuestion (state : Value) : Attempt Value := do
  let table ← state.field "current_table"
  let column ← state.field "current_column"
  let base ← state.field "current_base_name"
  let candidates ← (← (← state.field "candidates").firstItems 5).zipIdx.mapM fun (c, i) => do
    let (table, score) ← c.pair
    return Value.record [("index", .nat (i + 1)), ("table", table), ("score", .text (← score.withPlaces 3))]
  pure (.record [("table", table), ("column", column), ("base_name", base), ("candidates", .list candidates),
    ("score_gap", ← state.field "score_gap"), ("threshold", ← state.field "threshold")])

def answered (state choice : Value) : Attempt Value :=
  if choice == "q" then
    .ok (state.update [("user_quit", .bool true), ("chosen_table", .null), ("chosen_score", .null),
      ("decision_type", "skipped"), ("notes", "User quit session"), ("last_step", "request_decision_quit")])
  else if choice == "s" then .ok (skip state "User skipped this FK" "request_decision_skip")
  else if choice == "p" then .ok (skip state "Marked as primary key by user" "request_decision_pk")
  else
    match choose state choice with
    | .error (.invalid _) | .error (.outOfRange _) =>
      .ok (skip state s!"Invalid input: {choice.display}" "request_decision_error")
    | outcome => outcome

def requestDecision (state : Value) : Desk Value :=
  tryCatch (do
    let _ ← state.get "last_step"
    let choice ← Desk.ask (← decisionQuestion state)
    liftM (answered state choice)) fun f =>
    match f with
    | .interrupted => throw f
    | f => pure (skip state s!"Error: {f.message}" "request_decision_exception")

/-- Writes the decision into the sheet. A sheet that cannot be written does not stop the run. -/
def recordDecision (state : Value) : Desk Value :=
  Desk.recover (do
    let _ ← state.get "last_step"
    if !(← state.get "decision_type").truthy then
      return state.update [("last_step", "record_decision_skipped")]
    let decision : Value := .record [("chosen_table", ← state.field "chosen_table"),
      ("chosen_score", ← state.field "chosen_score"), ("decision_type", ← state.field "decision_type"),
      ("notes", ← state.field "notes")]
    Desk.recover (do
      Workbook.writeDecision (← state.field "excel_path") (← state.field "current_row_idx") decision)
      fun _ => pure ()
    return state.update [("last_step", "record_decision")]) fun _ =>
    pure (state.update [("last_step", "record_decision_exception")])

/-- Sums up how the rows were decided. -/
def finalize (state : Value) : Desk Value := do
  let _ ← state.get "last_step"
  let _ ← Workbook.statistics (← state.field "excel_path")
  pure (state.update [("last_step", "finalize")])

end QueryDesk.Mapping
