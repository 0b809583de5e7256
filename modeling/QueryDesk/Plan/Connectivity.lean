import QueryDesk.Sql.Build

/-!
Whether the selected tables hang together. Two selected tables are neighbours when a join edge connects
them; tables that cannot be reached from the start would be multiplied with the others row by row.
-/

namespace QueryDesk.Plan

/-- An edge between two selected tables; an edge that leaves the selection counts for nothing. -/
def selectedEdge (selected : List Value) (edge : Value) : Attempt (Option (Value × Value)) := do
  let a ← edge.get "from_table"
  let b ← edge.get "to_table"
  let a ← a.hashable
  if Sql.isReached selected a then do
    let b ← b.hashable
    pure (if Sql.isReached selected b then some (a, b) else none)
  else pure none

/-- The tables that some edges join to a table, in one direction or the other, each once. -/
def neighbours (edges : List (Value × Value)) (table : Value) : List Value :=
  Value.distinct (edges.flatMap fun e =>
    (if e.1 == table then [e.2] else []) ++ if e.2 == table then [e.1] else [])

/-- The selected tables, each with its neighbours. -/
def adjacency (selected : List Value) (edges : List (Value × Value)) : List (Value × List Value) :=
  selected.map fun t => (t, neighbours edges t)

/-- Depth-first search: the tables visited once a table and all that it leads to have been visited. A path
along which every table is new is not longer than there are tables, so the depth never runs out. -/
def dfs (graph : List (Value × List Value)) : Nat → List Value → Value → Attempt (List Value)
  | 0, visited, _ => .ok visited
  | depth + 1, visited, table =>
    if Sql.isReached visited table then .ok visited
    else match graph.find? (·.1 == table) with
      | none => .error (.missingKey table.display table.quoted)
      | some entry => entry.2.foldlM (dfs graph depth) (visited ++ [table])

/-- The tables that a plan selects, each once. -/
def selectedTables (plan : Value) : Attempt (List Value) := do
  let tables ← (← Sql.itemsOf plan "selections").mapM fun s => do (← s.get "table").hashable
  pure (Value.distinct tables)

/-- What is said of several tables without any join. -/
def noJoinsIssue (tables : String) : String :=
  s!"Multiple tables in selections ({tables}) but no join edges defined. " ++
    "This will create a CROSS JOIN (Cartesian product). Add join edges to connect these tables."

/-- What is said of a table that the start does not reach. -/
def disconnectedIssue (table : String) : String :=
  s!"Table '{table}' is in selections but has no join edges connecting it " ++
    "to the rest of the query. This will cause a CROSS JOIN (Cartesian product). " ++
    s!"Either add a join edge from '{table}' to another table, or remove '{table}' " ++
    "from selections if it's not needed."

/-- The tables that the first of the selected ones does not reach. -/
def unreached (selected : List Value) (edges : List (Value × Value)) : Attempt (List Value) :=
  match selected with
  | [] => .ok []
  | start :: _ => do
    return Value.without selected (← dfs (adjacency selected edges) selected.length [] start)

/-- The issues of a plan whose tables do not hang together. `walk` is the order in which the set of
selected tables is met; its first member is the start. -/
def connectivityIssues (walk : List Value → List Value) (plan : Value) : Attempt (List String) := do
  let selected ← selectedTables plan
  if selected.length ≤ 1 then pure []
  else do
    let edges ← plan.getD "join_edges" (.list [])
    if !edges.truthy then do
      let names ← Value.textItems (← Value.sorted selected)
      pure [noJoinsIssue (Text.join ", " names)]
    else do
      let links ← (← edges.items).mapM (selectedEdge selected)
      let lost ← Value.sorted (← unreached (walk selected) (links.filterMap id))
      pure (lost.map fun t => disconnectedIssue t.display)

end QueryDesk.Plan
