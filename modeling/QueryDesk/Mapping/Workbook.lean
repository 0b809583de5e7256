import QueryDesk.Schema.IdColumn
import QueryDesk.Service.Desk

/-!
Workbooks hold a sheet under a path. Every change reads the sheet, changes it and stores it again; a change
that fails on the way stores nothing.
-/

namespace QueryDesk.Workbook

def isPresent (path : Value) : Desk Bool := do
  let path ← path.textFor "path"
  return ((← get).workbooks.lookup path).isSome

def load (path : Value) : Desk Sheet := do
  let path ← path.textFor "path"
  match (← get).workbooks.lookup path with
  | some sheet => pure sheet
  | none => throw (.noFile s!"[Errno 2] No such file or directory: {Text.quoted path}")

def save (path : Value) (sheet : Sheet) : Desk Unit := do
  let path ← path.textFor "path"
  modify fun t => { t with workbooks := (path, sheet) :: t.workbooks.filter fun w => w.1 != path }

def rowNumber (row : Value) : Attempt Nat :=
  match row.int? with
  | some n => if n < 1 then .error (.invalid "Row or column values must be at least 1") else .ok n.toNat
  | none => .error (.unordered row.kind "int")

/-- The row of a column that looks like a reference. One that is a foreign key already is decided. -/
def columnRow (existing column : Value) : Attempt (List Value) := do
  match ← column.exactly 4 with
  | [table, name, base, isKey] => do
    let known ← Schema.hasKey name (← (← existing.lookupD table (.list [])).items)
    let start : List Value := [table, name, base, if isKey.truthy then "YES" else "NO"]
    let decided : List Value := ["[EXISTING]", "N/A", "", "", "", "", "", "", "", "", "[EXISTING]", "N/A",
      "existing", "", "Explicit FK exists"]
    Sheet.row (if known then start ++ decided else start)
  | _ => throw (.invalid "too many values to unpack (expected 4)")

def sheetOf (columns existing : Value) : Attempt Sheet := do
  let rows ← (← columns.items).mapM (columnRow existing)
  return ⟨Sheet.blank.rows ++ rows⟩

def create (path columns existing : Value) : Desk Unit := do
  save path (← sheetOf columns existing)
  let _ ← columns.size

def nextOpen? (path : Value) : Desk (Option Nat) := do return (← load path).nextOpen?

def rowData (path row : Value) : Desk Value := do
  let sheet ← load path
  let row ← rowNumber row
  pure (.record [("table_name", sheet.cell row 1), ("fk_column", sheet.cell row 2),
    ("base_name", sheet.cell row 3), ("is_pk", .bool (sheet.cell row 4 == "YES"))])

def setCell (row : Value) (column : Nat) (v : Value) (sheet : Sheet) : Attempt Sheet := do
  let row ← rowNumber row
  return sheet.put row column (← Sheet.stored v)

/-- Writes a candidate and its score at its place. -/
def putCandidate (row : Value) (sheet : Sheet) (candidate : Value × Nat) : Attempt Sheet := do
  let (table, score) ← candidate.1.pair
  let sheet ← setCell row (5 + 2 * candidate.2) table sheet
  setCell row (6 + 2 * candidate.2) (← score.rounded 3) sheet

def writeCandidates (path row candidates : Value) : Desk Unit := do
  let sheet ← load path
  let sheet ← (← candidates.firstItems 5).zipIdx.foldlM (fun s c => (putCandidate row s c : Attempt Sheet)) sheet
  save path sheet

def shownTime (now : String) : String := Text.take now 10 ++ " " ++ Text.take (Text.drop now 11) 8

def decide (now : String) (row decision : Value) (sheet : Sheet) : Attempt Sheet := do
  let sheet ← setCell row 15 (← decision.field "chosen_table") sheet
  let sheet ← setCell row 16 (← decision.getD "chosen_score" "") sheet
  let sheet ← setCell row 17 (← decision.field "decision_type") sheet
  let sheet ← setCell row 18 (.text (shownTime now)) sheet
  setCell row 19 (← decision.field "notes") sheet

def writeDecision (path row decision : Value) : Desk Unit := do
  save path (← decide (← read).now row decision (← load path))

def statistics (path : Value) : Desk Value := do
  return Keyed.record Value.nat (← load path).statistics

def contents? (path : Value) : Desk (Option (List (List Value))) := do
  if ← isPresent path then return some ((← load path).rows.drop 1) else return none

end QueryDesk.Workbook
