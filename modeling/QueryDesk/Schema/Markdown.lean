import QueryDesk.Document.Access

/-!
A schema as a page of markdown, which language models read better than JSON. Tables with foreign keys
come first; a foreign key names the column it points to, which is looked up when it is not stated.
-/

namespace QueryDesk.Schema

def firstWhere (test : Value → Attempt Bool) : List Value → Attempt (Option Value)
  | [] => .ok none
  | v :: rest => do
    if ← test v then pure (some v) else firstWhere test rest

/-- A primary key as one column: itself if it is a name, its first column if it is a list. -/
def keyColumn? : Value → Option Value
  | .text s => some (.text s)
  | .list (first :: _) => some first
  | _ => none

def pointedColumn? (key table : Value) : Attempt (Option Value) := do
  let fromFacts ← (← table.getD "metadata" (.record [])).get "primary_key"
  let fromTable ← table.get "primary_key"
  let stated := (if fromFacts.truthy then keyColumn? fromFacts else none).or
    (if fromTable.truthy then keyColumn? fromTable else none)
  match stated with
  | some c => pure (some c)
  | none => do
    let name ← key.getD "foreign_key" ""
    let columns ← table.get "columns"
    if name.truthy && columns.truthy then
      let found ← firstWhere (fun c => do return (← c.get "column_name") == name) (← columns.items)
      pure (if (found.getD .null).truthy then some name else none)
    else pure none

/-- The column a foreign key points to: stated, or the primary key of the table, or the column of the
same name, or else `ID`. -/
def pointedColumn (key table : Value) (tables : List Value) : Attempt Value := do
  let stated ← key.get "to_column"
  if stated.truthy then pure stated
  else
    let found ← firstWhere (fun t => do return (← t.get "table_name") == table) tables
    match found with
    | some t => if t.truthy then return (← pointedColumn? key t).getD "ID" else pure "ID"
    | none => pure "ID"

def columnLines (columns : Value) : Attempt (List String) := do
  if columns.truthy then
    let rows ← (← columns.items).mapM fun c => do
      let name ← c.getD "column_name" ""
      let type ← c.getD "data_type" ""
      pure s!"| {name.display} | {type.display} |"
    pure (["### Columns", "", "| Column Name | Data Type |", "|-------------|-----------|"] ++ rows ++ [""])
  else pure []

def underEither (v : Value) (first second : String) : Attempt Value := do
  let dflt ← v.getD second ""
  v.getD first dflt

/-- The line of one foreign key; none if it lacks its column or its table. -/
def keyLine (tables : List Value) (key : Value) : Attempt (List String) := do
  let column ← underEither key "foreign_key" "from_column"
  let table ← underEither key "primary_key_table" "to_table"
  let target ← pointedColumn key table tables
  pure (if column.truthy && table.truthy then
    [s!"- **{column.display}** → `{table.display}.{target.display}`"] else [])

def keyLines (tables : List Value) (keys : Value) : Attempt (List String) := do
  if keys.truthy then
    let lines ← (← keys.items).mapM (keyLine tables)
    pure (["### Foreign Keys", ""] ++ lines.flatten ++ [""])
  else pure []

def tableLines (tables : List Value) (table : Value) : Attempt (List String) := do
  let name ← table.getD "table_name" "Unknown"
  let narrowed ← table.getD "column_filtered" (.bool false)
  let title := if narrowed.truthy then s!"## TABLE: {name.display} (filtered columns)"
    else s!"## {name.display}"
  let facts ← table.getD "metadata" (.record [])
  let about ← facts.get "description"
  let key ← facts.get "primary_key"
  let columns ← columnLines (← table.getD "columns" (.list []))
  let keys ← keyLines tables (← table.getD "foreign_keys" (.list []))
  pure ([title, ""] ++ (if about.truthy then [s!"**Description:** {about.display}", ""] else []) ++
    (if key.truthy then [s!"**Primary Key:** {key.display}", ""] else []) ++ columns ++ keys ++ ["---", ""])

def markdown (schema : List Value) : Attempt String := do
  let keyed ← schema.mapM fun t => return (t, (← t.get "foreign_keys").truthy)
  let tables := (keyed.filter (·.2) ++ keyed.filter fun t => !t.2).map (·.1)
  let lines ← tables.mapM (tableLines tables)
  pure (Text.joinLines (["# DATABASE SCHEMA", ""] ++ lines.flatten))

end QueryDesk.Schema
