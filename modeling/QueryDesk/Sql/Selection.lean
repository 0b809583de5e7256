import QueryDesk.Sql.Condition

/-!
What a query selects, as nodes. A column that is listed for filtering only, while no filter of the plan
speaks of it, is shown after all: it would otherwise be neither seen nor used.
-/

namespace QueryDesk.Sql

def names (doc : Value) (tableKey columnKey : String) (table column : Value) : Attempt Bool := do
  if (← doc.get tableKey) == table then return (← doc.get columnKey) == column else return false

def anyNames (docs : List Value) (table column : Value) : Attempt Bool :=
  docs.anyM fun d => names d "table" "column" table column

/-- Whether a subquery filter speaks of a column, outside or inside. -/
def subqueryNames (table column sub : Value) : Attempt Bool := do
  if ← names sub "outer_table" "outer_column" table column then pure true
  else if ← names sub "subquery_table" "subquery_column" table column then pure true
  else anyNames (← (← sub.getD "subquery_filters" (.list [])).items) table column

def isFiltered (table column selection plan : Value) : Attempt Bool := do
  if ← anyNames (← (← selection.getD "filters" (.list [])).items) table column then pure true
  else if ← anyNames (← (← plan.getD "global_filters" (.list [])).items) table column then pure true
  else do
    let group ← plan.get "group_by"
    let inHaving ←
      if group.truthy then do
        anyNames (← (← group.getD "having_filters" (.list [])).items) table column
      else pure false
    if inHaving then pure true
    else (← (← plan.getD "subquery_filters" (.list [])).items).anyM (subqueryNames table column)

def shownColumns (table selection plan : Value) : List Value → Attempt (List Value)
  | [] => .ok []
  | c :: rest => do
    let shown ←
      if (← c.get "role") == Value.text "projection" then pure true
      else if (← c.get "role") == Value.text "filter" then do
        pure (!(← isFiltered table (← c.get "column") selection plan))
      else pure false
    let others ← shownColumns table selection plan rest
    pure (if shown then c :: others else others)

def star : Value := Node.make "Star" []

def aggregateKinds : List (String × String) :=
  [("COUNT", "Count"), ("SUM", "Sum"), ("AVG", "Avg"), ("MIN", "Min"), ("MAX", "Max")]

def aggregateArgument (column shortName aliases context : Value) : Desk Value := do
  if column.isNull then pure star
  else if ← isExpression column then do
    let parsed ← parseExpression column aliases context
    let _ ← if context.truthy then context.getD "dialect" "sqlite" else pure (.text "sqlite")
    let _ ← Node.textOf parsed
    pure parsed
  else pure (Node.column column shortName)

def aliased (node shortName : Value) : Value :=
  if shortName.truthy then Node.make "Alias" [("this", node), ("alias", shortName)] else node

def aggregateNode (doc aliases context : Value) : Desk Value := do
  let function ← doc.get "function"
  let table ← doc.get "table"
  let column ← doc.get "column"
  let output ← doc.get "alias"
  let shortName ← aliases.lookupD table table
  let node ←
    if function == Value.text "COUNT" && column.isNull then pure (Node.make "Count" [("this", star)])
    else do
      let arg ← aggregateArgument column shortName aliases context
      if function == Value.text "COUNT_DISTINCT" then
        pure (Node.make "Count" [("this", arg), ("distinct", .bool true)])
      else match function.text?.bind fun f => aggregateKinds.lookup f with
        | some kind => pure (Node.make kind [("this", arg)])
        | none => pure (Node.make "Anonymous" [("this", function), ("expressions", .list [arg])])
  pure (aliased node output)

def rankingKinds : List (String × String) :=
  [("ROW_NUMBER", "RowNumber"), ("RANK", "Rank"), ("DENSE_RANK", "DenseRank")]

/-- The column node of a document that names a table and a column. -/
def namedColumn (doc aliases : Value) : Attempt Value := do
  let table ← doc.get "table"
  let column ← doc.get "column"
  pure (Node.column column (← aliases.lookupD table table))

def orderedNode (node direction : Value) : Value :=
  Node.make "Ordered" [("this", node), ("desc", .bool (direction == Value.text "DESC"))]

def windowNode (doc aliases : Value) : Attempt Value := do
  let function ← doc.get "function"
  let partitions ← doc.getD "partition_by" (.list [])
  let orders ← doc.getD "order_by" (.list [])
  let output ← doc.get "alias"
  let partitions ← (← partitions.items).mapM fun c => namedColumn c aliases
  let orders ← (← orders.items).mapM fun o => do
    let table ← o.get "table"
    let column ← o.get "column"
    let direction ← o.getD "direction" "ASC"
    pure (orderedNode (Node.column column (← aliases.lookupD table table)) direction)
  let call := match function.text?.bind fun f => rankingKinds.lookup f with
    | some kind => Node.make kind []
    | none => Node.make "Anonymous" [("this", function)]
  let window := Node.make "Window" [("this", call),
    ("partition_by", if partitions.isEmpty then .null else .list partitions),
    ("order", if orders.isEmpty then .null
      else Node.make "Order" [("expressions", .list orders)])]
  pure (aliased window output)

/-- The nodes that a query without groups selects. -/
def projectionNodes (selections : List Value) (plan : Value) : Attempt (List Value) := do
  let parts ← selections.mapM fun s => do
    let table ← s.get "table"
    let shortName := (← s.get "alias").orElse table
    let columns ← (← s.getD "columns" (.list [])).items
    let shown ← shownColumns table s plan columns
    shown.mapM fun c => do pure (Node.column (← c.get "column") shortName)
  pure parts.flatten

def groupNodes (group aliases context : Value) : Desk (List Value) := do
  let columns ← (← group.getD "group_by_columns" (.list [])).items
  let keys ← columns.mapM fun c => do
    let table ← c.get "table"
    let column ← c.get "column"
    let shortName ← if aliases.truthy then aliases.lookupD table table else pure table
    (pure (Node.column column shortName) : Attempt Value)
  let aggregates ← (← group.getD "aggregates" (.list [])).items
  let values ← aggregates.mapM fun a => aggregateNode a (aliases.orElse (.record [])) context
  pure (keys ++ values)

/-- The nodes that a query selects; everything if there would be none. -/
def selectNodes (selections context plan group windows aliases : Value) : Desk (List Value) := do
  let columns ←
    if group.truthy then groupNodes group aliases context
    else projectionNodes (← selections.items) plan
  let windows ←
    if windows.truthy then do
      (← windows.items).mapM fun w => windowNode w (aliases.orElse (.record []))
    else pure []
  let all := columns ++ windows
  pure (if all.isEmpty then [star] else all)

def firstItem (v : Value) : Attempt Value :=
  match v with
  | .list (x :: _) | .tuple (x :: _) => .ok x
  | .list [] => .error (.outOfRange "list index out of range")
  | .tuple [] => .error (.outOfRange "tuple index out of range")
  | .text s =>
    match s.toList with
    | c :: _ => .ok (.text (String.singleton c))
    | [] => .error (.outOfRange "string index out of range")
  | .record _ => .error (.missingKey "0" "0")
  | v => .error (.notSubscriptable v.kind)

def tableNode (selections : Value) : Attempt Value := do
  if !selections.truthy then throw (.invalid "No tables in selections")
  let first ← firstItem selections
  let table ← first.get "table"
  let shortName := (← first.get "alias").orElse table
  if shortName.truthy && !(shortName == table) then
    pure (Node.make "Table" [("this", table), ("alias", shortName)])
  else pure (Node.make "Table" [("this", table)])

def joinKinds : List (String × String) :=
  [("inner", "INNER"), ("left", "LEFT"), ("right", "RIGHT"), ("full", "FULL")]

def joinKind (word : Value) : Attempt String := do
  return (joinKinds.lookup (← word.lowered)).getD "INNER"

def pairLookup (pairs : List (Value × Value)) (key : Value) : Attempt (Option Value) := do
  let key ← key.hashable
  pure ((pairs.reverse.find? fun p => p.1 == key).map (·.2))

/-- The aliases of the selected tables; a table without one stands for itself. -/
def selectionAliases (selections : List Value) : Attempt (List (Value × Value)) :=
  selections.mapM fun s => do
    let table ← s.get "table"
    let shortName ← s.get "alias"
    pure (← table.hashable, shortName.orElse table)

def joinNodes (edges selections : Value) : Attempt (List Value) := do
  let aliases ← selectionAliases (← selections.items)
  (← edges.items).mapM fun e => do
    let fromTable ← e.get "from_table"
    let fromColumn ← e.get "from_column"
    let toTable ← e.get "to_table"
    let toColumn ← e.get "to_column"
    let joinType ← e.getD "join_type" "inner"
    let fromAlias := (← pairLookup aliases fromTable).getD fromTable
    let toAlias := (← pairLookup aliases toTable).getD toTable
    let condition := binary "EQ" (Node.column fromColumn fromAlias) (Node.column toColumn toAlias)
    let table :=
      if toAlias.truthy && !(toAlias == toTable) then
        Node.make "Table" [("this", toTable),
          ("alias", Node.make "TableAlias" [("this", Node.identifier toAlias)])]
      else Node.make "Table" [("this", toTable)]
    let kind ← joinKind joinType
    pure (Node.make "Join" [("this", table), ("on", condition), ("kind", .text kind)])

def subqueryNode (doc aliases : Value) : Attempt Value := do
  let outerTable ← doc.get "outer_table"
  let outerColumn ← doc.get "outer_column"
  let op ← doc.get "op"
  let table ← doc.get "subquery_table"
  let column ← doc.get "subquery_column"
  let filters ← doc.getD "subquery_filters" (.list [])
  let outer := Node.column outerColumn (← aliases.lookupD outerTable outerTable)
  let call := fun (name : String) (args : List Value) =>
    Value.list [.text name, .list args, .record []]
  let conditions ← (← filters.items).mapM fun f => do
    let f ← Filter.read f
    pure (call "where" [.text (← f.condition .null .null).text])
  let sub := Value.draft
    (call "select" [Node.column column table] :: call "from_" [table] :: conditions)
  match op.text? with
  | some "not_in" => pure (notNode (inNode outer [sub]))
  | some "exists" => pure (Node.make "Exists" [("this", sub)])
  | some "not_exists" => pure (notNode (Node.make "Exists" [("this", sub)]))
  | _ => pure (inNode outer [sub])

/-- The node of all conditions on rows; nothing if there is none. -/
def whereNode (selections globals aliases subs context : Value) : Desk Value := do
  let own ← (← selections.items).mapM fun s => do
    (← (← s.getD "filters" (.list [])).items).mapM fun f => conditionNode f aliases context
  let shared ← (← globals.items).mapM fun f => conditionNode f aliases context
  let nested ←
    if subs.truthy then do (← subs.items).mapM fun s => (subqueryNode s aliases : Attempt Value)
    else pure []
  pure (Node.allOf (own.flatten ++ shared ++ nested))

def groupKeys (group aliases : Value) : Attempt (List Value) := do
  if group.truthy then
    (← (← group.getD "group_by_columns" (.list [])).items).mapM fun c => namedColumn c aliases
  else pure []

/-- The node of all conditions on groups; nothing if there is none. -/
def havingNode (filters aliases : Value) : Desk Value := do
  if filters.truthy then do
    pure (Node.allOf (← (← filters.items).mapM fun f => conditionNode f aliases .null))
  else pure .null

def firstProjection? (second : Value → Attempt Value) : List Value → Attempt (Option (Value × Value))
  | [] => .ok none
  | s :: rest => do
    let columns ← (← s.getD "columns" (.list [])).items
    let shown ← columns.filterM fun c => do return (← c.get "role") == Value.text "projection"
    match shown with
    | c :: _ => do pure (some (← c.get "column", ← second s))
    | [] => firstProjection? second rest

/-- A statement's node with the order and the limit that were asked for. -/
def withOrderAndLimit (query order limit context selections : Value) : Attempt Value := do
  let query ←
    if order.truthy && !(order == Value.text "Default") then do
      let second := fun (s : Value) => do s.getD "alias" (← s.get "table")
      match ← firstProjection? second (← selections.items) with
      | some (column, table) =>
        if column.truthy then do
          let desc := (← order.lowered) == "descending"
          let node := Node.make "Ordered" [("this", Node.column column table), ("desc", .bool desc)]
          Node.setArg query "order" (Node.make "Order" [("expressions", .list [node])])
        else pure query
      | none => pure query
    else pure query
  if ← (if limit.truthy then limit.isPositive else pure false) then do
    let _ ← context.field "is_sqlite"
    Node.setArg query "limit" (Node.make "Limit" [("expression", Node.numberLiteral limit)])
  else pure query

end QueryDesk.Sql
