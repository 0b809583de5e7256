import QueryDesk.Domain.Files
import QueryDesk.Service.Console

/-!
Making data files from a sheet: foreign keys grouped by table, and facts about tables. Rows that lack a cell
they cannot do without are left out.
-/

namespace QueryDesk.Domain

def cellText (v : Value) : String := Text.trim v.display

/-- A foreign key in a row: its table, its column, and the table it refers to. -/
structure KeyRow where
  table : String
  column : String
  target : String

/-- The foreign key in a row; none if one of its three cells is empty. -/
def keyRow? (g : Grid) (row : List Value) : Attempt (Option KeyRow) := do
  let table ← g.cell row "table_name"
  if table.isNull then return none
  let column ← g.cell row "fk_column"
  if column.isNull then return none
  let target ← g.cell row "chosen_table"
  if target.isNull then return none
  return some ⟨cellText table, cellText column, cellText target⟩

def KeyRow.document (k : KeyRow) : Value :=
  .record [("foreign_key", .text k.column), ("primary_key_table", .text k.target)]

def groupKeys (keys : List KeyRow) : List (String × List KeyRow) :=
  let tables := (keys.map (·.table)).eraseDups.mergeSort fun a b => !(b < a)
  tables.map fun t => (t, keys.filter fun k => k.table == t)

def keysOf (g : Grid) : Attempt (List (String × List KeyRow)) := do
  return groupKeys ((← g.rows.mapM (keyRow? g)).filterMap id)

structure TableRow where
  table : String
  description : String
  key : String

def nameColumn (g : Grid) : String := if g.columns.contains "Table Name " then "Table Name " else "Table Name"

/-- What a row tells about its table; none if it names no table. -/
def tableRow? (g : Grid) (row : List Value) : Attempt (Option TableRow) := do
  let table ← g.cell row (nameColumn g)
  if table.isNull then return none
  let description ← g.cell row "Description"
  let key ← if g.columns.contains "Primary Key" then g.cell row "Primary Key" else pure .null
  let orEmpty := fun (v : Value) => if v.isNull then "" else cellText v
  return some ⟨cellText table, orEmpty description, orEmpty key⟩

def TableRow.document (r : TableRow) : Value :=
  .record [("table_name", .text r.table), ("description", .text r.description), ("primary_key", .text r.key)]

def factsOf (g : Grid) : Attempt (List TableRow) := do return (← g.rows.mapM (tableRow? g)).filterMap id

/-- Tells what a sheet looks like. -/
def sayGrid (name : String) (g : Grid) : Desk Unit := do
  Console.say s!"Reading {name}..."
  Console.say s!"Shape: ({g.rows.length}, {g.columns.length})"
  let names := (Value.texts g.columns).display
  Console.say s!"Columns: {names}"
  Console.say "\nFirst few rows:"
  Console.say "<head>"

def writeDocument (name : String) (entries : List Value) : Desk Unit := do
  let text ← Json.write .file (.list entries)
  modify fun t => { t with written := (name, text) :: t.written.filter fun f => f.1 != name }

/-- Makes the file of foreign keys from a sheet. -/
def convertKeys (g : Grid) : Desk Unit := do
  sayGrid "fk_mappings_CWPR_11-03-25.xlsx" g
  let tables ← keysOf g
  writeDocument keysName (tables.map fun t =>
    .record [("table_name", .text t.1), ("foreign_keys", .list (t.2.map KeyRow.document))])
  Console.say s!"\n[SUCCESS] Converted {tables.length} tables with foreign keys"
  Console.say s!"[OUTPUT] Saved to: {directory}{keysName}"
  Console.say "\n[SUMMARY]"
  Console.say s!"   - Total tables: {tables.length}"
  let count := (tables.map fun t => t.2.length).foldl (· + ·) 0
  Console.say s!"   - Total foreign keys: {count}"
  Console.say "\n[PREVIEW] First 3 tables:"
  for (table, keys) in tables.take 3 do
    Console.say s!"   {table}: {keys.length} foreign keys"

def shortened (description : String) : String :=
  if 60 < description.length then Text.take description 60 ++ "..." else description

/-- Makes the file of facts about tables from a sheet. -/
def convertFacts (g : Grid) : Desk Unit := do
  sayGrid "CWPr db metadata Table Mapping.xlsx" g
  let rows ← factsOf g
  writeDocument tablesName (rows.map TableRow.document)
  Console.say s!"\n[SUCCESS] Converted {rows.length} tables"
  Console.say s!"[OUTPUT] Saved to: {directory}{tablesName}"
  Console.say "\n[SUMMARY]"
  Console.say s!"   - Total tables: {rows.length}"
  let described := (rows.filter fun r => !r.description.isEmpty).length
  Console.say s!"   - Tables with descriptions: {described}"
  let keyed := (rows.filter fun r => !r.key.isEmpty).length
  Console.say s!"   - Tables with primary keys: {keyed}"
  Console.say "\n[PREVIEW] First 3 tables:"
  for row in rows.take 3 do
    Console.say s!"   {row.table}"
    Console.say s!"      Description: {shortened row.description}"
    if !row.key.isEmpty then Console.say s!"      Primary Key: {row.key}"

end QueryDesk.Domain
