import QueryDesk.Domain.Delivered
import QueryDesk.Service.Desk

/-!
Reading the data files: those that a request brings, or else those that the program comes with. Paths are
relative to the program's directory.
-/

namespace QueryDesk.Domain

/-- A sheet that is read by the names of its columns. -/
structure Grid where
  columns : List String
  rows : List (List Value)

def Grid.cell (g : Grid) (row : List Value) (column : String) : Attempt Value :=
  match g.columns.idxOf? column with
  | some i => .ok (row[i]?.getD .null)
  | none => .error (Value.absent column)

inductive Entry where
  | file (text : String)
  | directory
  deriving DecidableEq

/-- Looks a path up among files; a name without text is a directory, and so is what leads to a file. -/
def entryAmong (files : List (String × Option String)) (path : String) : Option Entry :=
  match files.lookup path with
  | some (some text) => some (.file text)
  | some none => some .directory
  | none => if files.any fun f => Text.startsWith f.1 (path ++ "/") then some .directory else none

def filesInView : Desk (List (String × Option String)) := do
  return (← read).files.getD (Delivered.files.map fun f => (f.1, some f.2))

def isPresent (path : String) : Desk Bool := do
  return (entryAmong (← filesInView) path).isSome

def readText (path : String) : Desk String := do
  let full := s!"{(← read).home}/{path}"
  match entryAmong (← filesInView) path with
  | some (.file text) => return Text.plainLines text
  | some .directory => throw (.isDirectory s!"[Errno 21] Is a directory: {Text.quoted full}")
  | none => throw (.noFile s!"[Errno 2] No such file or directory: {Text.quoted full}")

def readDocument (path : String) : Desk Value := do liftM (Json.read (← readText path))

def directory : String := "domain_specific_guidance/"

def keysName : String := "domain-specific-foreign-keys.json"

def tablesName : String := "domain-specific-table-metadata.json"

def guidanceName : String := "domain-specific-guidance-instructions.md"

/-!
### What is known about the domain beyond its schema

The sample database has no such knowledge, and what cannot be read counts as absent.
-/

def offSample (absent : Value) (load : Desk Value) : Desk Value := do
  if ← Desk.onSampleData then pure absent else Desk.recover load fun _ => pure absent

def foreignKeys : Desk Value := offSample (.list []) (readDocument (directory ++ keysName))

def tableFacts : Desk Value :=
  offSample (.record []) do
    let entries ← (← readDocument (directory ++ tablesName)).items
    let facts ← Keyed.collect (fun e => do return (← e.field "table_name", e)) entries
    pure (Keyed.record id facts)

def guidance : Desk Value :=
  offSample .null do
    if ← isPresent (directory ++ guidanceName) then
      return .text (← readText (directory ++ guidanceName))
    else pure .null

def planGuidancePath : String := "domain-specific-guidance/domain-specific-guidance-instructions.json"

def planGuidance : Desk Value :=
  offSample .null do
    if ← isPresent planGuidancePath then readDocument planGuidancePath else pure .null

def unlessGiven (part : Given → Option Value) (load : Desk Value) : Desk Value := do
  match part (← read).given with
  | some v => pure v
  | none => load

def keysInUse : Desk Value := unlessGiven (·.keys) foreignKeys

def tablesInUse : Desk Value := unlessGiven (·.tables) tableFacts

def guidanceInUse : Desk Value := unlessGiven (·.guidance) guidance

def planGuidanceInUse : Desk Value := unlessGiven (·.planGuidance) planGuidance

def strategyGuidanceInUse : Desk Value := unlessGiven (·.strategyGuidance) guidance

end QueryDesk.Domain
