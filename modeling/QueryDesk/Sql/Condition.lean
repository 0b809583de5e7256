import QueryDesk.Sql.Literal

/-!
Conditions of a statement, as text and as nodes. A list that holds NULL is split: membership among the
other values, and a test for NULL beside it.
-/

namespace QueryDesk.Sql

/-- A column and the table it is written with. -/
structure Reference where
  table : Value
  column : Value

def qualified (table column : Value) : String := table.display ++ "." ++ column.display

def Reference.text (r : Reference) : String := qualified r.table r.column

/-- What a part of a statement speaks of. -/
inductive Subject where
  /-- A plain column follows its table. -/
  | column (ref : Reference)
  /-- An expression and an alias of an aggregate stand alone. -/
  | bare (text : Value)

def Subject.text : Subject → String
  | column r => r.text
  | bare v => v.display

def subjectOf (table column aliases : Value) : Attempt Subject := do
  if ← isExpression column then pure (.bare column)
  else if ← (if aliases.truthy then column.isIn aliases else pure false) then pure (.bare column)
  else pure (.column ⟨table, column⟩)

inductive Test where
  | compare (op value : String)
  | between (low high : String)
  | member (row : String) (orNull : Bool)
  /-- Absence from a row of values, or else from a row of values and NULL. -/
  | nonMember (row : String) (norNull : Bool)
  | like (pattern : String)
  | isNull
  | isNotNull
  /-- Membership in the result of another query. -/
  | inQuery (query : String)
  | notInQuery (query : String)

def Test.on (subject : String) : Test → String
  | compare op value => subject ++ " " ++ op ++ " " ++ value
  | between low high => subject ++ " BETWEEN " ++ low ++ " AND " ++ high
  | member row false => subject ++ " IN (" ++ row ++ ")"
  | member row true => "(" ++ subject ++ " IN (" ++ row ++ ") OR " ++ subject ++ " IS NULL)"
  | nonMember row false => subject ++ " NOT IN (" ++ row ++ ")"
  | nonMember row true => "(" ++ subject ++ " NOT IN (" ++ row ++ ") AND " ++ subject ++ " IS NOT NULL)"
  | like pattern => subject ++ " LIKE '" ++ pattern ++ "'"
  | isNull => subject ++ " IS NULL"
  | isNotNull => subject ++ " IS NOT NULL"
  | inQuery query => subject ++ " IN (" ++ query ++ ")"
  | notInQuery query => subject ++ " NOT IN (" ++ query ++ ")"

/-- A condition: a test of a subject. -/
structure Condition where
  subject : Subject
  test : Test

def Condition.text (c : Condition) : String := c.test.on c.subject.text

def valueTexts (context : Value) (vs : List Value) : Attempt String := do
  return Text.join ", " (← vs.mapM (valueText context))

/-- Membership in a list of values; NULL among them is tested apart. -/
def memberTest (context : Value) (vs : List Value) : Attempt Test := do
  let others := vs.filter (!isNullWord ·)
  if vs.any isNullWord then
    if others.isEmpty then pure .isNull else pure (.member (← valueTexts context others) true)
  else pure (.member (← valueTexts context vs) false)

/-- Absence from a list of values; NULL among them is tested apart. -/
def nonMemberTest (context : Value) (vs : List Value) : Attempt Test := do
  let others := vs.filter (!isNullWord ·)
  if vs.any isNullWord then
    if others.isEmpty then pure .isNotNull else pure (.nonMember (← valueTexts context others) true)
  else pure (.nonMember (← valueTexts context vs) false)

def patternText (v : Value) : String := if v.isNull then "NULL" else escapeQuotes v.display

def comparisons : List String := ["=", "!=", ">", ">=", "<", "<="]

/-- The test that an operator and a value ask for; what is no operator asks for equality. -/
def testOf (op value context : Value) : Attempt Test := do
  let equals := do pure (Test.compare "=" (← valueText context value))
  match op.text? with
  | none => equals
  | some o =>
    if comparisons.contains o then pure (.compare o (← valueText context value))
    else match o, value with
    | "between", .list [low, high] => do
      let low ← valueText context low
      let high ← valueText context high
      pure (.between low high)
    | "in", .list vs => memberTest context vs
    | "not_in", .list vs => nonMemberTest context vs
    | "like", v => pure (.like (patternText v))
    | "ilike", v => pure (.like (patternText v))
    | "starts_with", v => pure (.like (patternText v ++ "%"))
    | "ends_with", v => pure (.like ("%" ++ patternText v))
    | "is_null", _ => pure .isNull
    | "is_not_null", _ => pure .isNotNull
    | _, _ => equals

def conditionOf (table column op value aliases context : Value) : Attempt Condition := do
  let subject ← subjectOf table column aliases
  pure ⟨subject, ← testOf op (unquoteValue value) context⟩

def conditionText (table column op value aliases context : Value) : Attempt String := do
  return (← conditionOf table column op value aliases context).text

structure Filter where
  table : Value
  column : Value
  op : Value
  value : Value

def Filter.read (v : Value) : Attempt Filter := do
  pure ⟨← v.get "table", ← v.get "column", ← v.get "op", ← v.get "value"⟩

def Filter.condition (f : Filter) (aliases context : Value) : Attempt Condition :=
  conditionOf f.table f.column f.op f.value aliases context

def isReferenceStart (c : Char) : Bool := Text.isCapital c || Text.isSmall c || c == '_'

def isReferenceChar (c : Char) : Bool := isReferenceStart c || ('0' ≤ c && c ≤ '9')

def afterReference? : List Char → Option (List Char)
  | c :: rest => if isReferenceStart c then some (rest.dropWhile isReferenceChar) else none
  | [] => none

def isColumnText (s : String) : Bool :=
  match afterReference? s.toList with
  | some ('.' :: rest) =>
    match afterReference? rest with
    | some rest => isEnd rest
    | none => false
  | _ => false

/-- Whether a value names a column with its table. -/
def isColumnReference (v : Value) : Bool :=
  match v.text? with
  | some s => isColumnText s
  | none => false

/-- The column node for a name with its table; any other number of parts is a column alone. -/
def columnReference (v aliases : Value) : Attempt Value := do
  let s ← v.textFor "split"
  match Text.split s "." with
  | [table, column] => pure (Node.column (.text column) (← aliases.lookupD (.text table) (.text table)))
  | _ => pure (Node.make "Column" [("this", v)])

/-- A column node, or the expression that stands in a column's place. -/
def columnNode (table column aliases context : Value) : Desk Value := do
  let shortName ← aliases.lookupD table table
  if ← isExpression column then parseExpression column aliases context
  else pure (Node.column column shortName)

def binary (kind : String) (left right : Value) : Value :=
  Node.make kind [("this", left), ("expression", right)]

def isNullNode (column : Value) : Value := binary "Is" column (Node.make "Null" [])

def isNotNullNode (column : Value) : Value :=
  Node.make "Is" [("this", column), ("expression", Node.make "Null" []), ("inverse", .bool true)]

def inNode (column : Value) (items : List Value) : Value :=
  Node.make "In" [("this", column), ("expressions", .list items)]

def notNode (v : Value) : Value := Node.make "Not" [("this", v)]

def memberNode (column context : Value) (vs : List Value) : Attempt Value := do
  let others := vs.filter (!isNullWord ·)
  if vs.any isNullWord then
    if others.isEmpty then pure (isNullNode column)
    else pure (binary "Or" (inNode column (← others.mapM (literal · context))) (isNullNode column))
  else pure (inNode column (← vs.mapM (literal · context)))

def nonMemberNode (column context : Value) (vs : List Value) : Attempt Value := do
  let others := vs.filter (!isNullWord ·)
  if vs.any isNullWord then
    if others.isEmpty then pure (isNotNullNode column)
    else
      pure (Node.both (notNode (inNode column (← others.mapM (literal · context))))
        (isNotNullNode column))
  else pure (notNode (inNode column (← vs.mapM (literal · context))))

def operand (v aliases context : Value) : Attempt Value :=
  if isColumnReference v then columnReference v aliases else literal v context

def orderKinds : List (String × String) := [(">", "GT"), (">=", "GTE"), ("<", "LT"), ("<=", "LTE")]

def conditionNodeOn (column op value aliases context : Value) : Attempt Value := do
  let like := fun (s : String) => binary "Like" column (Node.textLiteral s)
  let equals := binary "EQ" column (Node.textLiteral value.display)
  match op.text? with
  | none => pure equals
  | some o =>
    match orderKinds.lookup o with
    | some kind => pure (binary kind column (← literal value context))
    | none =>
      match o, value with
      | "=", v => pure (binary "EQ" column (← operand v aliases context))
      | "!=", v => pure (binary "NEQ" column (← operand v aliases context))
      | "between", .list [low, high] => do
        let low ← literal low context
        let high ← literal high context
        pure (Node.make "Between" [("this", column), ("low", low), ("high", high)])
      | "in", .list vs => memberNode column context vs
      | "not_in", .list vs => nonMemberNode column context vs
      | "like", v => pure (like v.display)
      | "ilike", v => pure (like v.display)
      | "starts_with", v => pure (like (v.display ++ "%"))
      | "ends_with", v => pure (like ("%" ++ v.display))
      | "is_null", _ => pure (isNullNode column)
      | "is_not_null", _ => pure (isNotNullNode column)
      | _, _ => pure equals

def conditionNode (doc aliases context : Value) : Desk Value := do
  let f ← Filter.read doc
  let column ← columnNode f.table f.column aliases context
  conditionNodeOn column f.op f.value aliases context

/-!
### Recent rows

The first selected column with the name of a time stamp carries the condition; a window that is not offered, or a
plan without such a column, adds none.
-/

def timeColumns : List String :=
  ["CreatedOn", "UpdatedOn", "Created", "Modified", "Timestamp", "Date"]

def windowDays : List (String × Nat) :=
  [("Last 7 Days", 7), ("Last 30 Days", 30), ("Last 90 Days", 90), ("Last 365 Days", 365)]

def allTime : String := "All Time"

def daysOf (window : Value) : Attempt (Option Nat) := do
  let window ← window.hashable
  pure (window.text?.bind fun w => windowDays.lookup w)

/-- The first column of a selection that holds a time. -/
def timeColumnOf : List Value → Attempt (Option Value)
  | [] => .ok none
  | c :: rest => do
    let name ← c.get "column"
    if timeColumns.any fun t => Value.text t == name then pure (some name) else timeColumnOf rest

/-- The first column that holds a time, with its table. -/
def timeColumn? : List Value → Attempt (Option (Value × Value))
  | [] => .ok none
  | s :: rest => do
    let columns ← (← s.getD "columns" (.list [])).items
    match ← timeColumnOf columns with
    | some column => do
      let table ← s.get "table"
      pure (if table.truthy then some (table, column) else none)
    | none => timeColumn? rest

def windowCondition? (window : Value) (selections : List Value) (context : Value) :
    Attempt (Option Condition) := do
  match ← timeColumn? selections with
  | none => pure none
  | some (table, column) =>
    match ← daysOf window with
    | none => pure none
    | some days =>
      let start := if (← context.field "is_sqlite").truthy then s!"datetime('now', '-{days} days')"
        else s!"DATEADD(day, -{days}, GETDATE())"
      pure (some ⟨.column ⟨table, column⟩, .compare ">=" start⟩)

def timeCondition (window : Value) (selections : List Value) (context : Value) :
    Attempt (Option String) := do
  return (← windowCondition? window selections context).map (·.text)

def windowStart (days : Nat) (sample : Bool) : Value :=
  if sample then
    Node.make "Anonymous" [("this", "datetime"),
      ("expressions", .list [Node.textLiteral "now", Node.textLiteral s!"-{days} days"])]
  else
    Node.make "Anonymous" [("this", "DATEADD"),
      ("expressions", .list [Node.make "Var" [("this", "day")], Node.numberLiteral (.int (-days)),
        Node.make "Anonymous" [("this", "GETDATE"), ("expressions", .list [])]])]

/-- The arguments of a statement's node, for an operation that reads them. -/
def argsOf (query : Value) : Attempt Fields :=
  match query with
  | .node _ args _ => .ok args
  | v => .error (.noAttribute v.kind "args")

/-- A statement's node narrowed to a time window. -/
def withTimeWindow (query window selections aliases context : Value) : Attempt Value := do
  if window == Value.text allTime then pure query
  else
    match ← timeColumn? (← selections.items) with
    | none => pure query
    | some (table, column) =>
      match ← daysOf window with
      | none => pure query
      | some days => do
        let column := Node.column column (← aliases.lookupD table table)
        let start := windowStart days (← context.field "is_sqlite").truthy
        let condition := binary "GTE" column start
        let args ← argsOf query
        match args.lookup "where" with
        | some old =>
          if old.truthy then do
            let inner ← Node.part old "this"
            Node.setArg query "where" (Node.make "Where" [("this", Node.both inner condition)])
          else Node.setArg query "where" (Node.make "Where" [("this", condition)])
        | none => Node.setArg query "where" (Node.make "Where" [("this", condition)])

end QueryDesk.Sql
