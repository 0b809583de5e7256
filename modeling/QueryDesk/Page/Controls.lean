import QueryDesk.Page.Canvas

/-!
The controls with which a person changes a query: which columns are shown, in which order the rows come, and
how many there are. Nothing is changed before the changes are applied together.
-/

namespace QueryDesk.Page

structure ColumnChange where
  table : String
  column : Value
  added : Bool

def ColumnChange.operation (c : ColumnChange) : String := if c.added then "add_column" else "remove_column"

structure OrderChange where
  name : Value
  direction : Value
  columns : Value

structure Changes where
  columns : List ColumnChange
  order : Option OrderChange
  limit : Value

def Changes.any (c : Changes) : Bool := !c.columns.isEmpty || c.order.isSome || c.limit.truthy

def extended (label : Value) (more : String) : Attempt Value :=
  match label with
  | .text s => .ok (.text (s ++ more))
  | .list xs => .ok (.list (xs ++ more.toList.map fun c => .text (String.singleton c)))
  | v => .error (Value.misfit "+=" v (.text more))

/-- The label of a column's box: keys are marked, and columns that only filter. -/
def boxLabel (column name role : Value) : Attempt Value := do
  let label ← column.getD "display_name" name
  let label ← if (← column.getD "is_primary_key" (.bool false)).truthy then extended label " 🔑" else pure label
  if role == "filter" then extended label " (filter only)" else pure label

/-- The box of a column, and the change if it was ticked or cleared. -/
def columnBox (key table : String) (column : Value) : Desk (Option ColumnChange) := do
  let name ← column.field "name"
  let selected ← column.field "selected"
  let role ← column.get "role"
  let label ← boxLabel column name role
  let key := Value.text s!"col_{key}_{table}_{name.display}"
  if role == "filter" && selected.truthy then
    let _ ← valued "checkbox" label [("value", .bool false), ("key", key), ("disabled", .bool true),
      ("help", "This column is used in filters only")]
    return none
  let was : Value := if selected.truthy then .bool (role == "projection") else selected
  let type ← column.field "type"
  let ticked ← valued "checkbox" label [("value", was), ("key", key), ("help", .text s!"Type: {type.display}")]
  return if ticked == was then none else some ⟨table, name, ticked.truthy⟩

def inThrees : List Value → List (List Value)
  | a :: b :: c :: rest => [a, b, c] :: inThrees rest
  | [] => []
  | rest => [rest]

def sliced (v : Value) : Attempt (List Value) := do
  let size ← v.size
  if size == 0 then return [] else v.firstItems size

def tableBoxes (key table : String) (facts : Value) : Desk (List ColumnChange) := do
  let shortName ← facts.get "alias"
  let shown := if shortName.truthy then s!"{table} ({shortName.display})" else table
  write s!"**{shown}**"
  let groups := inThrees (← sliced (← facts.getD "columns" (.list [])))
  let changes ← groups.mapM fun group => do
    columns (.int 3)
    group.zipIdx.mapM fun (column, i) => inColumn i (columnBox key table column)
  divider
  return changes.flatten.filterMap id

/-- The order at hand: the column as it is named in the choices, and the direction. -/
def orderAtHand (order : Value) : Attempt (Value × Value) := do
  if !order.truthy then return (.null, "ASC")
  if (← order.size) == 0 then return (.null, "ASC")
  let first ← order.item 0
  let table ← first.field "table"
  let column ← first.field "column"
  return (.text s!"{table.display}.{column.display}", ← first.getD "direction" "ASC")

def orderControls (key : String) (sortable order : Value) : Desk (Option OrderChange) := do
  let names ← (← sortable.items).mapM fun c => (c.field "display_name" : Attempt Value)
  let choices := .text unsorted :: names
  let (name, direction) ← orderAtHand order
  let position := if name.isNull then 0 else (choices.findIdx? fun c => c == name).getD 0
  columns (.list [.int 3, .int 1])
  let chosen ← inColumn 0 (choice "selectbox" "Column" choices
    [("index", .nat position), ("key", .text s!"sort_column_select_{key}")])
  let way ← inColumn 1 (choice "radio" "Direction" ["ASC", "DESC"]
    [("index", .nat (if direction == "ASC" then 0 else 1)), ("key", .text s!"sort_direction_radio_{key}"),
      ("horizontal", .bool true)])
  let new := if chosen == .text unsorted then .null else chosen
  let turned := new.truthy && !(way == direction)
  return if !(new == name) || turned then some ⟨chosen, way, sortable⟩ else none

/-- A number that is neither below ten nor above a million. -/
def confined (limit : Value) : Attempt Value := do
  let low ← (Value.int 10).above limit
  let limit := if low then .int 10 else limit
  let high ← (Value.int 1000000).less limit
  return if high then .int 1000000 else limit

/-- The control for the number of rows, and the new number if there is one. -/
def limitControl (key : String) (limit : Value) : Desk Value := do
  let start ← confined (if limit.truthy then limit else .int 500)
  let new ← valued "slider" "Row limit" [("min_value", .int 10), ("max_value", .int 1000000), ("value", start),
    ("step", .int 100), ("key", .text s!"limit_slider_{key}")]
  return if new == limit then .null else new

def Changes.summary (c : Changes) : List String :=
  let added := (c.columns.filter (·.added)).length
  let removed := c.columns.length - added
  (if added == 0 then [] else [s!"➕ {added} column(s)"]) ++
    (if removed == 0 then [] else [s!"➖ {removed} column(s)"]) ++
    (if c.order.isSome then ["🔀 Sorting"] else []) ++
    (if c.limit.truthy then [s!"📊 Limit: {c.limit.display}"] else [])

def applyTogether (run : Value) (c : Changes) : Desk Unit :=
  Desk.recover (do
    remember "pending_batch_patches" (.list [])
    for change in c.columns do
      changeColumn run (.text change.table) change.column (.text change.operation) (.bool false)
    match c.order with
    | some order => changeOrder run order.name order.direction order.columns (.bool false)
    | none => pure ()
    if c.limit.truthy then changeLimit run c.limit (.bool false)
    if (← remembered "pending_batch_patches").truthy then
      remember "apply_batch_patches" (.bool true)
      redraw) fun f => put "error" [.text s!"Error applying changes: {f.message}"]

def applyButton (key : String) (run : Value) (c : Changes) : Desk Unit := do
  divider
  if c.any then
    let summary := Text.join ", " c.summary
    put "info" [.text s!"**Pending changes:** {summary}"]
  columns (.list [.int 1, .int 3])
  inColumn 0 do
    let label := if c.any then "Apply Changes" else "No changes to apply"
    if ← button label [("key", .text s!"apply_all_changes_btn_{key}"), ("type", "primary"),
        ("disabled", .bool !c.any), ("use_container_width", .bool true)] then
      applyTogether run c

/-- The controls, and the changes that a person has asked for with them. -/
def changesIn (key : String) (options : Value) : Desk Changes := do
  let columnChanges ← inTab 0 do
    write "**Select columns to display:**"
    let tables ← (← options.getD "tables" (.record [])).entries
    return (← tables.mapM fun (name, facts) => tableBoxes key name facts).flatten
  let (order, limit) ← inTab 1 do
    write "**Order results by:**"
    let sortable ← options.getD "sortable_columns" (.list [])
    let order ← options.getD "current_order_by" (.list [])
    let limit ← options.get "current_limit"
    let change ← orderControls key sortable order
    divider
    write "**Limit number of rows:**"
    return (change, ← limitControl key limit)
  return ⟨columnChanges, order, limit⟩

def controls (run options : Value) : Desk Unit :=
  expander "🔧 Modify Query" [("icon", "✏️"), ("expanded", .bool false)] do
    write "Make multiple modifications and click **'Apply Changes'** to re-execute the query."
    tabs ["📊 Columns", "🔀 Sort & Limit"]
    rememberFirst "controls_generation" (pure (.int 0))
    let thread ← run.getD "thread_id" "default"
    let generation ← remembered "controls_generation"
    let key := s!"{thread.display}_{generation.display}"
    applyButton key run (← changesIn key options)

end QueryDesk.Page
