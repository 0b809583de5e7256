import QueryDesk.Service.Database

/-!
The schema of a database as its inspection reports it: tables with columns, a primary key where it is one
column, and foreign keys, of which one over several columns becomes one entry for each. The type of a column is cut
down to what matters: the collation goes, and blanks are single.
-/

namespace QueryDesk.Schema

/-- What a collation is written as: between double quotes, between single quotes, or as one word. -/
inductive Collation where
  | between (quote : Char)
  | word

/-- What follows the name of a collation at the front. -/
def Collation.after? (form : Collation) (cs : List Char) : Option (List Char) :=
  match form, cs with
  | .between q, c :: rest =>
    if c == q then
      match rest.takeWhile (· != q), rest.dropWhile (· != q) with
      | _ :: _, _ :: after => some after
      | _, _ => none
    else none
  | .word, c :: rest => if Text.isBlank c then none else some (rest.dropWhile fun c => !Text.isBlank c)
  | _, [] => none

/-- What follows a collation clause at the front, blanks before it included. -/
def afterCollation? (form : Collation) (cs : List Char) : Option (List Char) :=
  match cs with
  | c :: _ =>
    if Text.isBlank c then
      let clause := cs.dropWhile Text.isBlank
      if "COLLATE".toList.isPrefixOf clause then
        match clause.drop 7 with
        | b :: rest => if Text.isBlank b then form.after? (rest.dropWhile Text.isBlank) else none
        | [] => none
      else none
    else none
  | [] => none

/-- Without the collation clauses of a form. `skip` characters still belong to a clause. -/
def dropCollations (form : Collation) : Nat → List Char → List Char
  | _, [] => []
  | skip + 1, _ :: rest => dropCollations form skip rest
  | 0, c :: rest =>
    match afterCollation? form (c :: rest) with
    | some after => dropCollations form (rest.length - after.length) rest
    | none => c :: dropCollations form 0 rest

def plainType (s : String) : String :=
  let cs := [.between '"', .between '\'', .word].foldl (fun cs f => dropCollations f 0 cs) s.toList
  Text.join " " (Text.words (String.ofList cs))

def inspectedColumn (column : Value) : Attempt Value := do
  let type := plainType (← column.field "type").display
  let name ← column.field "name"
  let nullable ← column.field "nullable"
  pure (.record [("column_name", name), ("data_type", .text type), ("is_nullable", nullable)])

/-- The item at a place of a list or a text. -/
def itemAt? (v : Value) (i : Nat) : Attempt (Option Value) := do
  if i < (← v.size) then
    match v with
    | .list xs | .tuple xs => pure xs[i]?
    | .text s => pure (s.toList[i]?.map fun c => .text (String.singleton c))
    | .record _ => throw (Value.absent (toString i))
    | _ => throw (.notSubscriptable v.kind)
  else pure none

def inspectedKey (constraint : Value) : Attempt Value := do
  if constraint.truthy then
    if ← (Value.text "constrained_columns").isIn constraint then
      let columns ← constraint.field "constrained_columns"
      if (← columns.size) == 1 then return (← itemAt? columns 0).getD .null
      else pure .null
    else pure .null
  else pure .null

/-- The entries of one foreign key: one for each of its columns. -/
def inspectedForeignKey (key : Value) : Attempt (List Value) := do
  let columns ← key.getD "constrained_columns" (.list [])
  let table ← key.get "referred_table"
  let targets ← key.getD "referred_columns" (.list [])
  (← columns.items).zipIdx.mapM fun (c, i) => do
    let target ← itemAt? targets i
    pure (.record [("foreign_key", c), ("primary_key_table", table),
      ("primary_key_column", target.getD .null)])

def inspectedTable (name : String) (info : Value) : Attempt Value := do
  let columns ← (← (← info.field "columns").items).mapM inspectedColumn
  let key ← inspectedKey (info.peek "pk")
  let keys ← (← (← info.getD "fks" (.list [])).items).mapM inspectedForeignKey
  pure (.record ([("table_name", .text name), ("columns", .list columns)] ++
    (if key.truthy then [("metadata", .record [("primary_key", key)])] else []) ++
    (if keys.flatten.isEmpty then [] else [("foreign_keys", .list keys.flatten)])))

def introspect : Desk Value := do
  Desk.send (.createEngine (← Database.address))
  let found : Attempt (List Value) := match (← read).inspector with
    | some tables => tables.mapM fun t => inspectedTable t.1 t.2
    | none => .error (.service "cannot inspect")
  Desk.send .disposeEngine
  match found with
  | .ok tables => pure (.list tables)
  | .error f => throw (.general s!"Schema introspection failed: {f.message}")

def require (v : Value) (key : String) (text : Attempt String) : Attempt Unit := do
  if ← (Value.text key).isIn v then pure () else throw (.invalid (← text))

def checkTable (table : Value) : Attempt Unit := do
  require table "table_name" (pure "Table missing 'table_name' field")
  let shown : Attempt String := do return (← table.field "table_name").display
  let broken : Attempt Unit := do
    let name ← shown
    throw (.invalid s!"Table {name} missing or invalid 'columns'")
  if ← (Value.text "columns").isIn table then
    match ← table.field "columns" with
    | .list columns =>
      columns.forM fun c => ["column_name", "data_type", "is_nullable"].forM fun part =>
        require c part do
          let name ← shown
          pure s!"Column in {name} missing '{part}' field"
    | _ => broken
  else broken
  if ← (Value.text "foreign_keys").isIn table then
    (← (← table.field "foreign_keys").items).forM fun k => require k "foreign_key" do
      let name ← shown
      pure s!"Foreign key in {name} missing 'foreign_key' field"

def check (schema : Value) : Attempt Unit := do (← schema.items).forM checkTable

end QueryDesk.Schema
