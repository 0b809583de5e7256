import QueryDesk.Plan.Column
import QueryDesk.Plan.Connectivity

/-!
Checks of a plan before a statement is built from it. Every reference is looked up in the schema, every
referenced table must be selected, and the selected tables must hang together. An issue is critical when
the statement could not run at all.
-/

namespace QueryDesk.Plan

/-- The tables that a plan's selections and joins name, each once. -/
def planTables (plan : Value) : Attempt (List Value) := do
  let selected ← (← Sql.itemsOf plan "selections").mapM fun s => do (← s.get "table").hashable
  let joined ← (← Sql.itemsOf plan "join_edges").mapM fun e => do
    let a ← (← e.get "from_table").hashable
    let b ← (← e.get "to_table").hashable
    pure [a, b]
  pure (Value.distinct (selected ++ joined.flatten))

def narrow (plan schema : Value) : Attempt (List Value) := do
  let tables ← planTables plan
  (← schema.items).filterM fun e => do
    return Sql.isReached tables (← (← e.get "table_name").hashable)

/-- What a check says about a missing thing, and whether it goes on to the columns. -/
def missingHint : String := "check schema for correct table name."

def absentTable (kind part : String) (table : Value) : String :=
  s!"{kind} '{table.display}' does not exist in schema. Remove {part} or {missingHint}"

def absentColumn (kind hint : String) (table column : Value) : String :=
  s!"{kind} '{column.display}' does not exist in table '{table.display}'.{hint}"

/-- The issue of a column that its table does not have, under the name of its kind. -/
def columnIssue (kind hint : String) (schema table column : Value) : Attempt (List String) := do
  if ← columnExists table column schema then pure [] else pure [absentColumn kind hint table column]

def spellingHint : String := " Check schema for correct column name."

def columnIssues (schema table column : Value) : Attempt (List String) := do
  let name ← column.get "column"
  columnIssue "Column" spellingHint schema (← column.getD "table" table) name

def selectionIssues (plan schema : Value) : Attempt (List String) := do
  let issues ← (← Sql.itemsOf plan "selections").mapM fun s => do
    let table ← s.get "table"
    if ← tableExists table schema then do
      pure (← (← Sql.itemsOf s "columns").mapM (columnIssues schema table)).flatten
    else pure [absentTable "Table" "this table from the plan" table]
  pure issues.flatten

def keyHint : String :=
  " Common issue: Foreign key names may differ from primary keys (e.g., TagID → ID)."

def joinIssues (plan schema : Value) : Attempt (List String) := do
  let issues ← (← Sql.itemsOf plan "join_edges").mapM fun e => do
    let fromTable ← e.get "from_table"
    let fromColumn ← e.get "from_column"
    let toTable ← e.get "to_table"
    let toColumn ← e.get "to_column"
    if !(← tableExists fromTable schema) then pure [absentTable "JOIN from_table" "this join" fromTable]
    else if !(← tableExists toTable schema) then pure [absentTable "JOIN to_table" "this join" toTable]
    else do
      let first ← columnIssue "JOIN column" keyHint schema fromTable fromColumn
      let second ← columnIssue "JOIN column" keyHint schema toTable toColumn
      pure (first ++ second)
  pure issues.flatten

/-- The issue of a filter, under the name of its kind. -/
def filterIssue (label hint : String) (schema filter : Value) : Attempt (List String) := do
  let table ← filter.get "table"
  let column ← filter.get "column"
  if !(← tableExists table schema) then pure [absentTable s!"{label} table" "this filter" table]
  else columnIssue s!"{label} column" hint schema table column

def havingHint : String := " Common issue: Column may be in a different joined table."

def filterIssues (plan schema : Value) : Attempt (List String) := do
  let own ← (← Sql.itemsOf plan "selections").mapM fun s => do
    (← Sql.itemsOf s "filters").mapM (filterIssue "Filter" "" schema)
  let shared ← (← Sql.itemsOf plan "global_filters").mapM (filterIssue "Global filter" "" schema)
  let group ← plan.get "group_by"
  let having ←
    if group.truthy then do
      (← Sql.itemsOf group "having_filters").mapM (filterIssue "HAVING filter" havingHint schema)
    else pure []
  pure (own.flatten ++ shared ++ having).flatten

def groupIssues (plan schema : Value) : Attempt (List String) := do
  let group ← plan.get "group_by"
  if group.truthy then do
    let issues ← (← Sql.itemsOf group "group_by_columns").mapM fun c => do
      let table ← c.get "table"
      columnIssue "GROUP BY column" "" schema table (← c.get "column")
    pure issues.flatten
  else pure []

/-- The tables that some documents name under a key; an empty name counts for nothing. -/
def tablesNamed (key : String) (docs : List Value) : Attempt (List Value) := do
  let tables ← docs.mapM fun d => do
    let table ← d.get key
    if table.truthy then do pure [← table.hashable] else pure []
  pure tables.flatten

/-- The tables that a subquery filter names, outside and inside. -/
def subqueryTables (sub : Value) : Attempt (List Value) := do
  let outer ← sub.get "outer_table"
  let inner ← sub.get "subquery_table"
  let keep := fun (t : Value) => if t.truthy then do pure [← t.hashable] else Except.ok []
  pure ((← keep outer) ++ (← keep inner))

/-- The tables that the groups of a plan refer to: in the keys, the aggregates and the conditions. -/
def groupTables (group : Value) : Attempt (List Value) := do
  if group.truthy then do
    let keys ← tablesNamed "table" (← Sql.itemsOf group "group_by_columns")
    let aggregates ← tablesNamed "table" (← Sql.itemsOf group "aggregates")
    let having ← tablesNamed "table" (← Sql.itemsOf group "having_filters")
    pure (keys ++ aggregates ++ having)
  else pure []

/-- The tables that a plan refers to outside its selections, each once. -/
def referencedTables (plan : Value) : Attempt (List Value) := do
  let own ← (← Sql.itemsOf plan "selections").mapM fun s => do
    tablesNamed "table" (← Sql.itemsOf s "filters")
  let shared ← tablesNamed "table" (← Sql.itemsOf plan "global_filters")
  let orders ← tablesNamed "table" (← Sql.itemsOf plan "order_by")
  let grouped ← groupTables (← plan.get "group_by")
  let windows ← tablesNamed "table" (← Sql.itemsOf plan "window_functions")
  let subs ← (← Sql.itemsOf plan "subquery_filters").mapM subqueryTables
  pure (Value.distinct (own.flatten ++ shared ++ orders ++ grouped ++ windows ++ subs.flatten))

/-- What is said of a table that is referred to and not selected. -/
def unselectedIssue (table : String) : String :=
  s!"Table '{table}' is referenced in filters/order_by/aggregations " ++
    "but not included in selections. This will cause SQL error: " ++
    "'The multi-part identifier could not be bound'. " ++
    s!"Add '{table}' to selections or remove references to it."

def referenceIssues (plan : Value) : Attempt (List String) := do
  let selected ← selectedTables plan
  let missing ← Value.sorted (Value.without (← referencedTables plan) selected)
  pure (missing.map fun t => unselectedIssue t.display)

/-- Whether an issue keeps the statement from running at all. -/
def isCritical (issue : String) : Bool :=
  let low := Text.lower issue
  Text.contains low "does not exist in schema" ||
    (Text.contains low "join column" && Text.contains low "does not exist")

def allIssues (walk : List Value → List Value) (plan schema : Value) : Attempt (List String) := do
  let selections ← selectionIssues plan schema
  let joins ← joinIssues plan schema
  let filters ← filterIssues plan schema
  let groups ← groupIssues plan schema
  let references ← referenceIssues plan
  let connections ← connectivityIssues walk plan
  pure (selections ++ joins ++ filters ++ groups ++ references ++ connections)

def check (walk : List Value → List Value) (plan schema : Value) :
    Attempt (List String × List String) := do
  let issues ← allIssues walk plan schema
  pure (issues.filter isCritical, issues.filter (!isCritical ·))

def namedPair (doc : Value) : Attempt Value := do
  Value.hashable (.tuple [← doc.field "table", ← doc.field "column"])

def namesIn (c : Value) : Attempt Value := do
  return .record [("table", ← c.field "table"), ("column", ← c.field "column")]

def projectedColumn (c : Value) : Attempt (List Value) := do
  if (← c.get "role") == Value.text "projection" then return [← namesIn c] else return []

def projectedIn (s : Value) : Attempt (List Value) := do
  if (← s.get "include_only_for_join").truthy then return []
  else return (← (← Sql.itemsOf s "columns").mapM projectedColumn).flatten

def projectedColumns (plan : Value) : Attempt (List Value) := do
  return (← (← Sql.itemsOf plan "selections").mapM projectedIn).flatten

def parted (test : Value → Attempt Bool) (xs : List Value) : Attempt (List Value × List Value) := do
  let marked ← xs.mapM fun x => do return (x, ← test x)
  return ((marked.filter (·.2)).map (·.1), (marked.filter fun m => !m.2).map (·.1))

def extended (use : String) (v : Value) (news : List Value) : Attempt Value :=
  match v with
  | .list xs => .ok (.list (xs ++ news))
  | v => .error (.noAttribute v.kind use)

def appended (v : Value) (news : List Value) : Attempt Value :=
  if news.isEmpty then .ok v else extended "append" v news

/-- A plan with aggregates groups by every column that it shows. -/
def completeGrouping (plan : Value) : Attempt Value := do
  let group ← plan.get "group_by"
  if !group.truthy then pure plan
  else if !(← group.get "aggregates").truthy then pure plan
  else do
    let shown ← projectedColumns plan
    let keys ← group.getD "group_by_columns" (.list [])
    let known ← (← keys.items).mapM namedPair
    let (_, missing) ← parted (fun c => do return known.any (· == (← namedPair c))) shown
    let group ← group.setField "group_by_columns" (← appended keys missing)
    plan.setField "group_by" group

def aggregatedColumns (group : Value) : Attempt (List Value) := do
  let columns ← (← Sql.itemsOf group "aggregates").mapM fun a => do
    if (← a.get "column").truthy then do pure [← namedPair a] else pure []
  pure columns.flatten

def speaksOf (pairs : List Value) (f : Value) : Attempt Bool := do
  let pair ← Value.hashable (.tuple [← f.get "table", ← f.get "column"])
  return pairs.any (· == pair)

/-- A condition on groups that speaks of neither a grouping column nor an aggregated one is made a
condition on rows. -/
def moveHaving (plan : Value) : Attempt Value := do
  let group ← plan.get "group_by"
  if !group.truthy then pure plan
  else if !(← group.get "having_filters").truthy then pure plan
  else do
    let keys ← (← Sql.itemsOf group "group_by_columns").mapM namedPair
    let aggregated ← aggregatedColumns group
    let filters ← Sql.itemsOf group "having_filters"
    let (kept, moved) ← parted (speaksOf (keys ++ aggregated)) filters
    if moved.isEmpty then pure plan
    else do
      let globals ← extended "extend" (← plan.getD "global_filters" (.list [])) moved
      let plan ← plan.setField "global_filters" globals
      let group ← group.setField "having_filters" (.list kept)
      plan.setField "group_by" group

/-- Repairs a plan: its grouping is completed, conditions on groups that are none become conditions on rows,
and columns get names that the schema has. Tells what was renamed. -/
def repair (schema plan : Value) : Attempt (Value × List String) := do
  repairColumns schema (← moveHaving (← completeGrouping plan))

def section_ (heading : String) (issues : List String) : List String :=
  if issues.isEmpty then []
  else [s!"**{heading}:**\n" ++ Text.joinLines (issues.map fun i => s!"- {i}")]

/-- The issues of a plan in words, grouped by kind, with advice. -/
def feedback (issues : List String) : String :=
  let having := fun (words : List String) =>
    issues.filter fun i => words.any fun w => Text.contains i w
  let apart := having ["disconnected", "CROSS JOIN"]
  let references := issues.filter fun i =>
    Text.contains i "referenced" && Text.contains i "not included"
  Text.join "\n\n" (
    section_ "Column Validation Errors" (having ["does not exist", "Column"]) ++
    section_ "Table Connectivity Errors" apart ++
    (if apart.isEmpty then []
     else ["\n**Fix**: Check schema foreign_keys to find how to join disconnected tables."]) ++
    section_ "Join Errors" (having ["JOIN", "join"]) ++
    section_ "Table Reference Errors" references ++
    section_ "GROUP BY Errors" (having ["GROUP BY"]) ++
    ["\n**How to Fix:**\n" ++
      "1. Review the schema carefully - use EXACT column names (case-sensitive)\n" ++
      "2. For disconnected tables: Add join edges using foreign_keys from schema\n" ++
      "3. For wrong columns: Check which table actually contains the column\n" ++
      "4. For join errors: Foreign keys often join to primary keys with different names"])

end QueryDesk.Plan
