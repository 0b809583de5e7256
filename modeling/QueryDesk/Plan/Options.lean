import QueryDesk.Plan.Patch

/-!
What can still be changed about a plan that ran: for every selected table all columns of the schema, each
marked as selected or not, and the columns a result can be sorted by.
-/

namespace QueryDesk.Plan

/-- A blank before every capital that opens a word, the first character excepted. -/
def spaceWords : List Char → List Char
  | a :: b :: c :: rest =>
    if Text.isCapital b && Text.isSmall c then a :: ' ' :: spaceWords (b :: c :: rest)
    else a :: spaceWords (b :: c :: rest)
  | cs => cs

/-- A blank before the run of capitals that ends a name, if a small letter precedes it. The name is
reversed; a line break at its end is passed over. -/
def spaceEnding (reversed : List Char) : List Char :=
  let (tail, body) := match reversed with
    | '\n' :: rest => (['\n'], rest)
    | cs => ([], cs)
  match body.takeWhile Text.isCapital, body.dropWhile Text.isCapital with
  | [], _ => reversed
  | capitals, c :: rest =>
    if Text.isSmall c then tail ++ capitals ++ ' ' :: c :: rest else reversed
  | _, [] => reversed

/-- One part of a name with underscores: capitals stay, other letters are titled. -/
def partLabel (part : String) : String := if Text.allUpper part then part else Text.title part

/-- A column's name for people: words parted by blanks. -/
def label (name : String) : String :=
  if Text.contains name "_" then
    Text.join " " (((Text.split name "_").filter fun p => !p.isEmpty).map partLabel)
  else
    String.ofList (spaceEnding (spaceWords name.toList).reverse).reverse

/-- The label of a column entry; what is empty stays as it is. -/
def labelOf (name : Value) : Attempt Value := do
  if !name.truthy then pure name
  else match name.text? with
    | some s => pure (.text (label s))
    | none =>
      if ← (Value.text "_").isIn name then throw (.noAttribute name.kind "split")
      else throw (.mismatch s!"expected string or bytes-like object, got '{name.kind}'")

structure Listed where
  role : Value
  reason : Value
  valueType : Value

def listedColumns (selection : Value) : Attempt (Keyed Listed) := do
  (← Sql.itemsOf selection "columns").foldlM (fun known c => do
    let name ← c.field "column"
    let entry : Listed :=
      ⟨← c.field "role", ← c.get "reason", ← c.getD "value_type" "unknown"⟩
    pure (Keyed.put known (← name.hashable) entry)) []

def listedByTable (plan : Value) : Attempt (Keyed (Keyed Listed)) := do
  (← Sql.itemsOf plan "selections").foldlM (fun known s => do
    let table ← (← s.field "table").hashable
    pure (Keyed.put known table (← listedColumns s))) []

def listedDocument (plan : Value) : Attempt Value := do
  let entry := fun (l : Listed) =>
    Value.record [("role", l.role), ("reason", l.reason), ("value_type", l.valueType)]
  pure (Keyed.record (Keyed.record entry) (← listedByTable plan))

/-- The columns that a schema has for a table, whatever the case of its name. -/
def schemaColumns (table : Value) : List Value → Attempt Value
  | [] => .ok (.list [])
  | e :: rest => do
    if ← sameName (← e.field "table_name") table then e.getD "columns" (.list [])
    else schemaColumns table rest

/-- The options of one column: the entry itself, and the entry for sorting. -/
def columnOption (table : Value) (listed : Keyed Listed) (column : Value) :
    Attempt (Value × Value) := do
  let name ← column.field "column_name"
  let type ← column.field "data_type"
  let key ← column.getD "is_primary_key" (.bool false)
  let nullable ← column.getD "is_nullable" (.bool true)
  let found := Keyed.find? listed (← name.hashable)
  let friendly ← labelOf name
  pure (
    .record [("name", name), ("display_name", friendly), ("type", type),
      ("selected", .bool found.isSome), ("role", (found.map (·.role)).getD .null),
      ("is_primary_key", key), ("is_nullable", nullable)],
    .record [("table", table), ("column", name), ("type", type),
      ("display_name", .text (Sql.qualified table friendly))])

def tableOption (listed : Keyed (Keyed Listed)) (schema selection : Value) :
    Attempt (Value × Value × List Value) := do
  let table ← selection.field "table"
  let shortName ← selection.get "alias"
  let columns ← (← schemaColumns table (← schema.items)).items
  let options ← columns.mapM (columnOption table ((Keyed.find? listed table).getD []))
  pure (table, .record [("alias", shortName), ("columns", .list (options.map (·.1)))],
    options.map (·.2))

def options (plan schema : Value) : Attempt Value := do
  let listed ← listedByTable plan
  let tables ← (← Sql.itemsOf plan "selections").mapM (tableOption listed schema)
  let byTable := tables.foldl (fun known t => Keyed.put known t.1 t.2.1) []
  let order ← plan.getD "order_by" (.list [])
  let limit ← plan.get "limit"
  pure (.record [("tables", Keyed.record id byTable), ("current_order_by", order),
    ("current_limit", limit), ("sortable_columns", .list (tables.flatMap (·.2.2)))])

def optionLine (column : Value) : Attempt String := do
  let mark := if (← column.field "selected").truthy then "✓" else " "
  let role ← column.field "role"
  let role := if role.truthy then s!" [{role.display}]" else ""
  let key := if (← column.get "is_primary_key").truthy then " (PK)" else ""
  let name ← column.field "name"
  let type ← column.field "type"
  pure s!"    [{mark}] {name.display} ({type.display}){role}{key}"

def tableLines (table : String) (info : Value) : Attempt (List String) := do
  let shortName ← info.get "alias"
  let shown := if shortName.truthy then s!"{table} ({shortName.display})" else table
  let lines ← (← Sql.itemsOf info "columns").mapM optionLine
  pure (s!"\n  {shown}:" :: lines)

def optionsText (options : Value) : Attempt String := do
  let tables ← (← (← options.getD "tables" (.record [])).entries).mapM fun t => tableLines t.1 t.2
  let order ← options.getD "current_order_by" (.list [])
  let orderLines ←
    if order.truthy then do
      let keys ← (← order.items).mapM fun k => do
        let table ← k.field "table"
        let column ← k.field "column"
        let direction ← k.getD "direction" "ASC"
        pure s!"  {table.display}.{column.display} {direction.display}"
      pure ("\n\nCurrent ORDER BY:" :: keys)
    else pure ["\n\nCurrent ORDER BY: None"]
  let limit ← options.get "current_limit"
  let limitText := if limit.truthy then limit.display else "None"
  let count ← (← options.getD "sortable_columns" (.list [])).size
  pure (Text.joinLines (["=== Modification Options ===\n", "Available Columns:"] ++ tables.flatten ++
    orderLines ++ [s!"\nCurrent LIMIT: {limitText}", s!"\n\nTotal sortable columns: {count}"]))

end QueryDesk.Plan
