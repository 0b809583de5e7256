import QueryDesk.Plan.Audit

/-!
Changing a plan after it ran: adding and removing a shown column, a new order, a new limit. A patch that
does not fit the plan or the schema is refused and leaves the plan as it was. Names are compared without
regard to case.
-/

namespace QueryDesk.Plan

def sameName (a : Value) (b : Value) : Attempt Bool := do return (← a.lowered) == (← b.lowered)

def schemaColumn? (table column : Value) : List Value → Attempt (Option Value)
  | [] => .ok none
  | e :: rest => do
    let found ←
      if ← sameName (← e.field "table_name") table then do
        find (← (← e.field "columns").items)
      else pure none
    match found with
    | some c => pure (some c)
    | none => schemaColumn? table column rest
where
  find : List Value → Attempt (Option Value)
    | [] => .ok none
    | c :: rest => do
      if ← sameName (← c.field "column_name") column then pure (some c) else find rest

def hasColumn (table column schema : Value) : Attempt Bool := do
  return (← schemaColumn? table column (← schema.items)).isSome

/-- The data type of a column; null if the schema does not have it. -/
def columnType (table column schema : Value) : Attempt Value := do
  match ← schemaColumn? table column (← schema.items) with
  | some c => c.field "data_type"
  | none => pure .null

def filterUses (table column filter : Value) : Attempt Bool := do
  if ← sameName (← filter.field "table") table then sameName (← filter.field "column") column
  else pure false

def isInFilters (table column plan : Value) : Attempt Bool := do
  let own ← (← Sql.itemsOf plan "selections").anyM fun s => do
    if ← sameName (← s.field "table") table then
      (← Sql.itemsOf s "filters").anyM fun f => do sameName (← f.field "column") column
    else pure false
  if own then pure true
  else if ← (← Sql.itemsOf plan "global_filters").anyM (filterUses table column) then pure true
  else do
    let group ← plan.get "group_by"
    if group.truthy then (← Sql.itemsOf group "having_filters").anyM (filterUses table column)
    else pure false

/-- The value types of a plan, each with the words by which a data type is known to have it. -/
def typeWords : List (String × List String) := [
  ("integer", ["int", "serial"]),
  ("number", ["float", "double", "decimal", "numeric"]),
  ("boolean", ["bool", "bit"]),
  ("datetime", ["datetime", "timestamp"]),
  ("date", ["date"]),
  ("string", ["char", "text"])]

def valueType (dataType : String) : String :=
  let low := Text.lower dataType
  match typeWords.find? fun t => t.2.any fun w => Text.contains low w with
  | some t => t.1
  | none => "unknown"

def noColumn (table column : Value) : Fault :=
  .invalid s!"Column {column.display} does not exist in table {table.display}"

def noTable (table : Value) : Fault :=
  .invalid s!"Table {table.display} not found in plan selections"

def addedColumn (table column schema : Value) : Attempt Value := do
  let type ← columnType table column schema
  let kind ← if type.truthy then do pure (valueType (← type.textFor "lower")) else pure "unknown"
  pure (.record [("table", table), ("column", column), ("role", "projection"),
    ("reason", "Added via plan patching"), ("value_type", .text kind)])

/-- Shows a column that is already listed; none if it is not. -/
def showListed (column : Value) : List Value → Attempt (Option (List Value))
  | [] => .ok none
  | c :: rest => do
    if ← sameName (← c.field "column") column then do
      if (← c.field "role") == Value.text "filter" then do
        pure (some ((← c.setField "role" "projection") :: rest))
      else pure (some (c :: rest))
    else do
      pure ((← showListed column rest).map (c :: ·))

/-- Shows a column of a selection: one that is listed becomes visible, any other is added. -/
def showColumn (table column schema selection : Value) : Attempt Value := do
  let columns ← selection.getD "columns" (.list [])
  match ← showListed column (← columns.items) with
  | some listed => selection.setField "columns" (.list listed)
  | none => do
    let added ← addedColumn table column schema
    selection.setField "columns" (← extended "append" columns [added])

/-- A step on the first selection of a table; none if the table is not selected. -/
def onSelection (table : Value) (step : Value → Attempt Value) :
    List Value → Attempt (Option (List Value))
  | [] => .ok none
  | s :: rest => do
    if ← sameName (← s.field "table") table then do pure (some ((← step s) :: rest))
    else do pure ((← onSelection table step rest).map (s :: ·))

def addColumn (plan table column schema : Value) : Attempt Value := do
  if !(← hasColumn table column schema) then throw (noColumn table column)
  match ← onSelection table (showColumn table column schema) (← Sql.itemsOf plan "selections") with
  | some selections => plan.setField "selections" (.list selections)
  | none => throw (noTable table)

/-- Hides a listed column: one that filters keep using stays listed for them, any other goes. -/
def hideListed (column : Value) (filtered : Bool) : List Value → Attempt (Option (List Value))
  | [] => .ok none
  | c :: rest => do
    if ← sameName (← c.field "column") column then
      if filtered then do pure (some ((← c.setField "role" "filter") :: rest)) else pure (some rest)
    else do pure ((← hideListed column filtered rest).map (c :: ·))

def hideColumn (plan table column selection : Value) : Attempt Value := do
  let filtered ← isInFilters table column plan
  let columns ← Sql.itemsOf selection "columns"
  match ← hideListed column filtered columns with
  | some listed => selection.setField "columns" (.list listed)
  | none =>
    throw (.invalid s!"Column {column.display} not found in table {table.display} columns")

def removeColumn (plan table column : Value) : Attempt Value := do
  match ← onSelection table (hideColumn plan table column) (← Sql.itemsOf plan "selections") with
  | some selections => plan.setField "selections" (.list selections)
  | none => throw (noTable table)

/-- A sort key must name a column of the schema and one of the two directions. -/
def checkSortKey (schema key : Value) : Attempt Unit := do
  let table ← key.field "table"
  let column ← key.field "column"
  if !(← hasColumn table column schema) then throw (noColumn table column)
  let direction ← key.getD "direction" "ASC"
  if !(direction == Value.text "ASC" || direction == Value.text "DESC") then
    throw (.invalid s!"Invalid sort direction: {direction.display}. Must be 'ASC' or 'DESC'")

def setOrder (plan order schema : Value) : Attempt Value := do
  (← order.items).forM (checkSortKey schema)
  let plan ← plan.setField "order_by" order
  let _ ← order.size
  pure plan

/-- Whether a value may limit the rows: a whole number above zero. -/
def isLimit : Value → Bool
  | .int n => 0 < n
  | .bool b => b
  | _ => false

def setLimit (plan limit : Value) : Attempt Value := do
  if !isLimit limit then
    throw (.invalid s!"Invalid limit: {limit.display}. Must be a positive integer")
  plan.setField "limit" limit

def patchColumn (patch : Value) (name : String) : Attempt (Value × Value) := do
  let table ← patch.get "table"
  let column ← patch.get "column"
  if table.truthy && column.truthy then pure (table, column)
  else throw (.invalid s!"{name} operation requires 'table' and 'column' fields")

def patchField (patch : Value) (name key : String) : Attempt Value := do
  let v ← patch.get key
  if v.isNull then throw (.invalid s!"{name} operation requires '{key}' field") else pure v

def applyPatch (plan patch schema : Value) : Attempt Value := do
  let kind ← patch.get "operation"
  match kind.text? with
  | some "add_column" => do
    let (table, column) ← patchColumn patch "add_column"
    addColumn plan table column schema
  | some "remove_column" => do
    let (table, column) ← patchColumn patch "remove_column"
    removeColumn plan table column
  | some "modify_order_by" => do
    setOrder plan (← patchField patch "modify_order_by" "order_by") schema
  | some "modify_limit" => do setLimit plan (← patchField patch "modify_limit" "limit")
  | _ =>
    throw (.invalid (s!"Unknown operation type: {kind.display}. " ++
      "Supported: add_column, remove_column, modify_order_by, modify_limit"))

end QueryDesk.Plan
