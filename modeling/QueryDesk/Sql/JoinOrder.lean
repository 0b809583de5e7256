import QueryDesk.Sql.Selection

/-!
The clauses of a statement and the order of its joins. A statement under construction is the list of the
clauses given so far; as a call a clause is written out. A join can be added only when one of its two tables is already in the query, so the
edges are taken in passes: each pass takes, in the order of the plan, every edge that touches a table
reached so far. Edges that no pass can take are kept at the end.
-/

namespace QueryDesk.Sql

/-! ### Clauses -/

inductive SelectItem where
  | column (ref : Reference) (shortName : Option String)
  | countAll (shortName : String)
  /-- The number of different values. -/
  | countDistinct (arg : Subject) (shortName : String)
  | aggregate (function : String) (arg : Subject) (shortName : String)
  | window (text : String)
  | everything

def SelectItem.text : SelectItem → String
  | column r none => r.text
  | column r (some shortName) => s!"{r.text} AS {shortName}"
  | countAll shortName => s!"COUNT(*) AS {shortName}"
  | countDistinct arg shortName => s!"COUNT(DISTINCT {arg.text}) AS {shortName}"
  | aggregate function arg shortName => s!"{function}({arg.text}) AS {shortName}"
  | window text => text
  | everything => "*"

inductive SortKey where
  | subject (s : Subject) (descending : Bool)
  | node (ordered : Value)

def SortKey.value : SortKey → Value
  | subject s descending => .text (s.text ++ (if descending then " DESC" else " ASC"))
  | node ordered => ordered

inductive Clause where
  | select (items : List SelectItem)
  | source (table : Value)
  /-- A table joined where two columns are equal; an inner join has no side. -/
  | join (table : Value) (left right : Reference) (side : Option String)
  | filter (condition : Condition)
  | groupBy (column : Reference)
  | having (condition : Condition)
  | orderBy (key : SortKey)
  | limit (rows : Value)
  /-- The statement is written out in a dialect. -/
  | render (dialect : Value)

/-- A clause as the call that adds it: its name, its values and its options. -/
def Clause.call : Clause → Value
  | .select items => .list ["select", Value.texts (items.map (·.text)), .record []]
  | .source table => .list ["from_", .list [table], .record []]
  | .join table left right side =>
    .list ["join", .list [table], .record (("on", .text (left.text ++ " = " ++ right.text)) ::
      (side.map fun s => ("join_type", Value.text s)).toList)]
  | .filter c => .list ["where", .list [.text c.text], .record []]
  | .groupBy r => .list ["group_by", .list [.text r.text], .record []]
  | .having c => .list ["having", .list [.text c.text], .record []]
  | .orderBy k => .list ["order_by", .list [k.value], .record []]
  | .limit n => .list ["limit", .list [n], .record []]
  | .render d =>
    .list ["sql", .list [],
      .record [("dialect", d), ("pretty", .bool true), ("identify", .bool true)]]

def statement (clauses : List Clause) : Value := .statement (clauses.map Clause.call)

/-! ### The order of joins -/

/-- An edge of the join graph: its document and the two tables it connects. -/
structure Edge where
  doc : Value
  fromTable : Value
  toTable : Value

/-- The edge that a document describes; both tables must be possible members of a set. -/
def Edge.read (doc : Value) : Attempt Edge := do
  let fromTable ← doc.get "from_table"
  let toTable ← doc.get "to_table"
  pure ⟨doc, ← fromTable.hashable, ← toTable.hashable⟩

def isReached (reached : List Value) (table : Value) : Bool := reached.any (· == table)

def reach (reached : List Value) (table : Value) : List Value :=
  if isReached reached table then reached else reached ++ [table]

def Edge.touches (reached : List Value) (e : Edge) : Bool :=
  isReached reached e.fromTable || isReached reached e.toTable

def Edge.newEnd (reached : List Value) (e : Edge) : Value :=
  if isReached reached e.fromTable then e.toTable else e.fromTable

structure Sorting where
  reached : List Value
  taken : List Edge
  left : List Edge

/-- The edges left once an edge behind them is taken. Of equal edges it is the first that leaves the list, so
the edge itself stays in it if an equal one was left before. -/
def leftAfter (left : List Edge) (e : Edge) : List Edge :=
  if left.any (·.doc == e.doc) then left.eraseP (·.doc == e.doc) ++ [e] else left

/-- Takes an edge if it touches a table reached, and leaves it otherwise. -/
def Sorting.offer (s : Sorting) (e : Edge) : Sorting :=
  if e.touches s.reached then
    ⟨reach s.reached (e.newEnd s.reached), s.taken ++ [e], leftAfter s.left e⟩
  else { s with left := s.left ++ [e] }

def Sorting.pass (s : Sorting) : Sorting := s.left.foldl Sorting.offer { s with left := [] }

/-- Passes until no edge is left or none can be taken; `fuel` bounds the passes. -/
def sortPasses : Nat → Sorting → List Edge
  | 0, s => s.taken
  | n + 1, s =>
    if s.left.isEmpty then s.taken
    else
      let t := s.pass
      if t.left.length == s.left.length then s.taken ++ s.left else sortPasses n t

def orderEdges (base : Value) (edges : List Edge) : List Edge :=
  sortPasses (2 * edges.length) ⟨[base], [], edges⟩

def joinSides : List String := ["left", "right", "full"]

def joinSide (joinType : Value) : Attempt (Option String) := do
  let word ← joinType.lowered
  pure (if joinSides.contains word then some word else none)

/-- A table to join, and the two columns that its condition makes equal. -/
structure Junction where
  table : Value
  left : Reference
  right : Reference

/-- What an edge joins to the tables reached. An edge whose tables are both there joins nothing. -/
def Edge.joined? (reached : List Value) (e : Edge) (fromColumn toColumn : Value) : Option Junction :=
  let here : Reference := ⟨e.fromTable, fromColumn⟩
  let there : Reference := ⟨e.toTable, toColumn⟩
  match isReached reached e.fromTable, isReached reached e.toTable with
  | true, true => none
  | false, true => some ⟨e.fromTable, there, here⟩
  | true, false => some ⟨e.toTable, here, there⟩
  | false, false => some ⟨e.fromTable, here, there⟩

def joinClauses : List Value → List Edge → Attempt (List Clause)
  | _, [] => .ok []
  | reached, e :: rest => do
    let fromColumn ← e.doc.get "from_column"
    let toColumn ← e.doc.get "to_column"
    let joinType ← e.doc.getD "join_type" "inner"
    match e.joined? reached fromColumn toColumn with
    | none => joinClauses reached rest
    | some j => do
      let side ← joinSide joinType
      pure (.join j.table j.left j.right side :: (← joinClauses (reach reached j.table) rest))

/-- The edges of a plan, which must be a list that can be copied. -/
def readEdges (edges : Value) : Attempt (List Edge) :=
  match edges with
  | .list docs => docs.mapM Edge.read
  | .record [] | .set [] => .ok []
  | .record _ => .error (.unhashable "slice")
  | .set _ => .error (.notSubscriptable "set")
  | v => .error (.noAttribute v.kind "copy")

end QueryDesk.Sql
