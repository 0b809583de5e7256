import QueryDesk.Sql.JoinOrder

/-!
From a plan to a statement. The clauses are given in the order select, from, joins, conditions, time
window, groups, conditions on groups, order, limit. Columns are written with their tables; a column name
that is shown twice gets an alias made of its table and itself.
-/

namespace QueryDesk.Sql

/-- The items of a field that holds a list; an absent field is an empty list. -/
def itemsOf (doc : Value) (key : String) : Attempt (List Value) := do
  (← doc.getD key (.list [])).items

/-- The select items of the grouping columns; `seen` are the column names given before. -/
def groupItems : List Value → List Value → Attempt (List SelectItem)
  | _, [] => .ok []
  | seen, c :: rest => do
    let table ← c.get "table"
    let column ← (← c.get "column").hashable
    if isReached seen column then
      let shortName := s!"{table.display}_{column.display}"
      pure (.column ⟨table, column⟩ shortName :: (← groupItems seen rest))
    else pure (.column ⟨table, column⟩ none :: (← groupItems (seen ++ [column]) rest))

def aggregateItem (agg : Value) : Attempt SelectItem := do
  let function ← agg.get "function"
  let table ← agg.get "table"
  let column ← agg.get "column"
  let shortName := (← agg.get "alias").display
  if function == Value.text "COUNT" && column.isNull then pure (.countAll shortName)
  else do
    let arg : Subject := if ← isExpression column then .bare column else .column ⟨table, column⟩
    if function == Value.text "COUNT_DISTINCT" then pure (.countDistinct arg shortName)
    else pure (.aggregate function.display arg shortName)

/-- The alias of a column that is shown twice: its table without the usual marks, then its name. -/
def projectionAlias (table column : Value) : Attempt String := do
  let name ← table.textFor "replace"
  pure (Text.replace (Text.replace name "tb_" "") "Saas" "" ++ column.display)

/-- The select items of a selection's shown columns, and the column names given so far. -/
def columnItems (table : Value) : List Value → List Value → Attempt (List SelectItem × List Value)
  | seen, [] => .ok ([], seen)
  | seen, c :: rest => do
    let column ← (← c.get "column").hashable
    let shortName ←
      if isReached seen column then do pure (some (← projectionAlias table column)) else pure none
    let (items, seen) ← columnItems table (reach seen column) rest
    pure (.column ⟨table, column⟩ shortName :: items, seen)

def projectionItems (plan : Value) : List Value → List Value → Attempt (List SelectItem)
  | _, [] => .ok []
  | seen, s :: rest => do
    let table ← s.get "table"
    let shown ← shownColumns table s plan (← itemsOf s "columns")
    let (items, seen) ← columnItems table seen shown
    pure (items ++ (← projectionItems plan seen rest))

def windowItem (w : Value) : Attempt SelectItem := do
  let function ← w.get "function"
  let partitions ← w.getD "partition_by" (.list [])
  let orders ← w.getD "order_by" (.list [])
  let shortName ← w.get "alias"
  let partitions ← (← partitions.items).mapM fun c => do
    pure (qualified (← c.get "table") (← c.get "column"))
  let orders ← (← orders.items).mapM fun o => do
    let table ← o.get "table"
    let column ← o.get "column"
    pure (qualified table column ++ " " ++ (← o.getD "direction" "ASC").display)
  let parts :=
    (if partitions.isEmpty then [] else ["PARTITION BY " ++ Text.join ", " partitions]) ++
      (if orders.isEmpty then [] else ["ORDER BY " ++ Text.join ", " orders])
  pure (.window (function.display ++ "() OVER (" ++ Text.join " " parts ++ ") AS " ++ shortName.display))

def shownItems (plan : Value) (selections : List Value) (group : Value) : Attempt (List SelectItem) := do
  if group.truthy then do
    let keys ← groupItems [] (← itemsOf group "group_by_columns")
    pure (keys ++ (← (← itemsOf group "aggregates").mapM aggregateItem))
  else projectionItems plan [] selections

/-- The select items of a plan; everything if there would be none. -/
def selectItems (plan : Value) (selections : List Value) (group windows : Value) :
    Attempt (List SelectItem) := do
  let shown ← shownItems plan selections group
  let all := shown ++ (← (← windows.items).mapM windowItem)
  pure (if all.isEmpty then [.everything] else all)

/-- The tables that are selected more than once must be possible members of a set. -/
def checkRepeated (tables : List Value) : Attempt Unit :=
  (tables.filter fun t => 1 < (tables.filter (· == t)).length).forM fun t => do
    let _ ← t.hashable

def filterCondition (aliases context doc : Value) : Attempt Condition := do
  (← Filter.read doc).condition aliases context

/-- The condition of a subquery filter; kinds other than membership give none. -/
def subqueryCondition? (context doc : Value) : Attempt (Option Condition) := do
  let outerTable ← doc.get "outer_table"
  let outerColumn ← doc.get "outer_column"
  let op ← doc.get "op"
  let table ← doc.get "subquery_table"
  let column ← doc.get "subquery_column"
  let conditions ← (← itemsOf doc "subquery_filters").mapM (filterCondition .null context)
  let query := s!"SELECT {column.display} FROM {table.display}" ++
    (if conditions.isEmpty then "" else " WHERE " ++ Text.join " AND " (conditions.map (·.text)))
  let subject : Subject := .column ⟨outerTable, outerColumn⟩
  match op.text? with
  | some "in" => pure (some ⟨subject, .inQuery query⟩)
  | some "not_in" => pure (some ⟨subject, .notInQuery query⟩)
  | _ => pure none

/-- The conditions on rows: those of the selections, the shared ones, those with subqueries. -/
def rowConditions (selections : List Value) (globals subs context : Value) :
    Attempt (List Condition) := do
  let own ← selections.mapM fun s => do
    (← itemsOf s "filters").mapM (filterCondition .null context)
  let shared ← (← globals.items).mapM (filterCondition .null context)
  let nested ← (← subs.items).mapM (subqueryCondition? context)
  pure (own.flatten ++ shared ++ nested.filterMap id)

def aggregateAliases (group : Value) : Attempt (List Value) := do
  let aliases ← (← itemsOf group "aggregates").mapM fun a => do
    let shortName ← a.get "alias"
    if shortName.truthy then some <$> shortName.hashable else pure none
  pure (Value.distinct (aliases.filterMap id))

def groupClauses (group context : Value) : Attempt (List Clause) := do
  if group.truthy then do
    let keys ← (← itemsOf group "group_by_columns").mapM fun c => do
      pure (Clause.groupBy ⟨← c.get "table", ← c.get "column"⟩)
    let filters ← group.getD "having_filters" (.list [])
    let conditions ←
      if filters.truthy then do
        let aliases ← aggregateAliases group
        (← filters.items).mapM fun f => do
          pure (Clause.having (← filterCondition (.set aliases) context f))
      else pure []
    pure (keys ++ conditions)
  else pure []

/-- The clause of one sort key of the plan; every direction but one is ascending. -/
def orderClause (aliases : List Value) (tables context doc : Value) : Desk Clause := do
  let table ← doc.get "table"
  let column ← (← doc.get "column").hashable
  let direction ← doc.getD "direction" "ASC"
  let descending := direction == Value.text "DESC"
  if isReached aliases column then pure (.orderBy (.subject (.bare column) descending))
  else if ← isExpression column then do
    let node ← parseExpression column tables context
    pure (.orderBy (.node (orderedNode node direction)))
  else pure (.orderBy (.subject (.column ⟨table, column⟩) descending))

def tablesAsAliases (selections : List Value) : Attempt Value := do
  let tables ← selections.mapM fun s => do (← s.get "table").hashable
  pure (.record (Fields.putAll [] (tables.filterMap fun t => t.text?.map fun s => (s, t))))

def firstShown? (selections : List Value) (group : Value) : Attempt (Option (Value × Value)) := do
  if group.truthy then do
    match ← itemsOf group "group_by_columns" with
    | c :: _ => do pure (some (← c.get "column", ← c.get "table"))
    | [] => pure none
  else firstProjection? (·.get "table") selections

/-- The clause that sorts by the first shown column. -/
def defaultOrder (selections : List Value) (group order : Value) : Attempt (List Clause) := do
  if order.truthy && !(order == Value.text "Default") then do
    match ← firstShown? selections group with
    | some (column, table) =>
      if column.truthy && table.truthy then do
        let descending := (← order.lowered) == "descending"
        pure [.orderBy (.subject (.column ⟨table, column⟩) descending)]
      else pure []
    | none => pure []
  else pure []

/-- The clauses of the order: the plan's own keys, otherwise the preference of the state. -/
def orderClauses (selections : List Value) (plan group state context : Value) :
    Desk (List Clause) := do
  let keys ← plan.getD "order_by" (.list [])
  if keys.truthy then do
    let aliases ← if group.truthy then aggregateAliases group else pure []
    let tables ← tablesAsAliases selections
    (← keys.items).mapM (orderClause aliases tables context)
  else defaultOrder selections group (← state.getD "sort_order" "Default")

def isLimit (v : Value) : Attempt Bool := if v.truthy then v.isPositive else pure false

/-- The clause of the limit: the plan's own, otherwise the preference of the state. -/
def limitClause (plan state : Value) : Attempt (List Clause) := do
  let own ← plan.get "limit"
  let preferred ← state.getD "result_limit" (.int 0)
  if ← isLimit own then pure [.limit own]
  else if ← isLimit preferred then pure [.limit preferred]
  else pure []

def timeClause (selections : List Value) (state context : Value) : Attempt (List Clause) := do
  let window ← state.getD "time_filter" allTime
  if window == Value.text allTime then pure []
  else do
    match ← windowCondition? window selections context with
    | some c => pure [.filter c]
    | none => pure []

def buildClauses (plan state context : Value) : Desk (List Clause) := do
  let selections ← plan.getD "selections" (.list [])
  let edges ← plan.getD "join_edges" (.list [])
  let globals ← plan.getD "global_filters" (.list [])
  let group ← plan.get "group_by"
  let windows ← plan.getD "window_functions" (.list [])
  let subs ← plan.getD "subquery_filters" (.list [])
  if !selections.truthy then throw (.invalid "No table selections in planner output")
  let docs ← selections.items
  let tables ← docs.mapM fun s => (s.get "table" : Attempt Value)
  checkRepeated tables
  let items ← selectItems plan docs group windows
  let base ← (← firstItem selections).get "table"
  let base ← base.hashable
  let edges ← readEdges edges
  let joins ← joinClauses [base] (orderEdges base edges)
  let conditions ← rowConditions docs globals subs context
  let time ← timeClause docs state context
  let groups ← groupClauses group context
  let orders ← orderClauses docs plan group state context
  let limits ← limitClause plan state
  let dialect ← context.field "dialect"
  pure ([.select items, .source base] ++ joins ++ conditions.map Clause.filter ++ time ++ groups ++
    orders ++ limits ++ [.render dialect])

/-- The statement of a plan. Texts from the plan stand in it as they are, and the library may refuse them. -/
def build (plan state context : Value) : Desk Value := do
  let built := statement (← buildClauses plan state context)
  match (← read).refusal built with
  | some text => throw (.service text)
  | none => pure built

end QueryDesk.Sql
