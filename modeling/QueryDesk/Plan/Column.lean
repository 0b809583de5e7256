import QueryDesk.Sql.Build
import QueryDesk.Text.Similarity

/-!
Columns of a plan against a schema. A name that its table does not have is replaced by the closest name
that it has: the same name in another case, the name without the table's name in front, a name that ends
or stands in the wrong one, or at last one that is spelled alike.
-/

namespace QueryDesk.Plan

def columnNames (entry : Value) : Attempt (List Value) := do
  (← Sql.itemsOf entry "columns").mapM fun c => c.get "column_name"

def tableExists (table schema : Value) : Attempt Bool := do
  (← schema.items).anyM fun e => do return (← e.get "table_name") == table

def entryIn? (table : Value) : List Value → Attempt (Option Value)
  | [] => .ok none
  | e :: rest => do
    if (← e.get "table_name") == table then pure (some e) else entryIn? table rest

def tableEntry? (table schema : Value) : Attempt (Option Value) := do
  entryIn? table (← schema.items)

/-- Whether the first entry of a table has a column. -/
def columnExists (table column schema : Value) : Attempt Bool := do
  match ← tableEntry? table schema with
  | some e => do return (← columnNames e).any (· == column)
  | none => pure false

/-- The first name that satisfies a test on its lower case. -/
def firstLowered (test : String → Bool) : List Value → Attempt (Option Value)
  | [] => .ok none
  | c :: rest => do
    if test (← c.lowered) then pure (some c) else firstLowered test rest

def tableMark : String := "tb_"

/-- The column whose name is the wrong one without the table's name in front. -/
def unprefixed (target : String) (table : Value) (columns : List Value) : Attempt (Option Value) := do
  let stem := Text.replace (← table.lowered) tableMark ""
  if Text.startsWith (Text.lower target) stem then do
    let name ← table.textFor "replace"
    let rest := Text.lower (Text.drop target (Text.replace name tableMark "").length)
    firstLowered (· == rest) columns
  else pure none

/-- The first of several searches that finds something. -/
def firstFound : List (Unit → Attempt (Option Value)) → Attempt (Option Value)
  | [] => .ok none
  | search :: rest => do
    match ← search () with
    | some v => pure (some v)
    | none => firstFound rest

/-- The column closest to a wrong name among the columns of a table. -/
def closestAmong (target table : Value) (columns : List Value) : Attempt (Option Value) := do
  let name ← target.textFor "lower"
  let low := Text.lower name
  firstFound [
    fun _ => firstLowered (· == low) columns,
    fun _ => unprefixed name table columns,
    fun _ => firstLowered (Text.endsWith low) columns,
    fun _ => firstLowered (Text.contains low) columns,
    fun _ => .ok ((Text.closest? name (columns.filterMap Value.text?)).map Value.text)]

/-- The column of a table closest to a wrong name; none if the table has no columns. -/
def closestColumn (target table schema : Value) : Attempt (Option Value) := do
  match ← tableEntry? table schema with
  | none => pure none
  | some e => do
    let columns ← columnNames e
    if columns.isEmpty then pure none else closestAmong target table columns

def someEntryHas (table column schema : Value) : Attempt Bool := do
  (← schema.items).anyM fun e => do
    if (← e.get "table_name") == table then return (← columnNames e).any (· == column) else return false

/-- The repaired name of a column, if it needs one and there is one. -/
def repaired? (table column schema : Value) : Attempt (Option Value) := do
  if ← someEntryHas table column schema then pure none
  else do
    match ← closestColumn column table schema with
    | some c => pure (if c.truthy then some c else none)
    | none => pure none

def repairColumn (table column schema : Value) : Attempt (Value × Bool) := do
  let fixed ← repaired? table column schema
  return (fixed.getD column, fixed.isSome)

def repairField (label : String) (schema : Value) (table : Value) (key : String) (doc : Value) :
    Attempt (Value × List String) := do
  let column ← doc.get key
  match ← repaired? table column schema with
  | none => pure (doc, [])
  | some fixed => do
    let old := Sql.qualified table column
    pure (← doc.setField key fixed, [s!"{label}: {old} → {Sql.qualified table fixed}"])

/-- A step over the documents of a list field; the notes of all documents are gathered. -/
def overItems (key : String) (step : Value → Attempt (Value × List String)) (doc : Value) :
    Attempt (Value × List String) := do
  let field ← doc.getD key (.list [])
  let results ← (← field.items).mapM step
  let notes := results.flatMap (·.2)
  match field, doc with
  | .list _, .record fields =>
    if fields.any fun f => f.1 == key then
      pure (.record (Fields.put fields key (.list (results.map (·.1)))), notes)
    else pure (doc, notes)
  | _, _ => pure (doc, notes)

def andThen (first second : Value → Attempt (Value × List String)) (doc : Value) :
    Attempt (Value × List String) := do
  let (doc, before) ← first doc
  let (doc, behind) ← second doc
  pure (doc, before ++ behind)

def repairOwn (label : String) (schema : Value) (doc : Value) : Attempt (Value × List String) := do
  repairField label schema (← doc.get "table") "column" doc

def repairWithin (label : String) (schema : Value) (table doc : Value) :
    Attempt (Value × List String) := do
  repairField label schema (← doc.getD "table" table) "column" doc

def repairSelection (schema : Value) (s : Value) : Attempt (Value × List String) := do
  let table ← s.get "table"
  andThen (overItems "columns" (repairWithin "Selection column" schema table))
    (overItems "filters" (repairWithin "Filter column" schema table)) s

def repairEdge (schema : Value) (e : Value) : Attempt (Value × List String) := do
  let fromTable ← e.get "from_table"
  let (e, first) ← repairField "Join from" schema fromTable "from_column" e
  let toTable ← e.get "to_table"
  let (e, second) ← repairField "Join to" schema toTable "to_column" e
  pure (e, first ++ second)

def repairAggregate (schema : Value) (agg : Value) : Attempt (Value × List String) := do
  if (← agg.get "column").truthy then repairOwn "Aggregate" schema agg else pure (agg, [])

def repairGroup (schema : Value) : Value → Attempt (Value × List String) :=
  andThen (overItems "group_by_columns" (repairOwn "GROUP BY" schema))
    (andThen (overItems "aggregates" (repairAggregate schema))
      (overItems "having_filters" (repairOwn "HAVING" schema)))

def repairGrouping (schema : Value) (plan : Value) : Attempt (Value × List String) := do
  let group ← plan.get "group_by"
  if group.truthy then do
    let (group, notes) ← repairGroup schema group
    pure (← plan.setField "group_by" group, notes)
  else pure (plan, [])

/-- Repairs every column that a plan names, and tells what was changed. -/
def repairColumns (schema : Value) : Value → Attempt (Value × List String) :=
  andThen (overItems "selections" (repairSelection schema))
    (andThen (overItems "join_edges" (repairEdge schema))
      (andThen (overItems "global_filters" (repairOwn "Global filter" schema))
        (andThen (repairGrouping schema) (overItems "order_by" (repairOwn "ORDER BY" schema)))))

end QueryDesk.Plan
