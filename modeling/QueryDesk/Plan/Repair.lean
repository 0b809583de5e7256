import QueryDesk.Plan.Audit

/-!
A model's reply that is not quite a plan yet. Missing parts get the values they usually have, parts that
no plan has are dropped, and tables that only joins mention are added to the selections. What a refused
reply lacked is read from the refusal's text.
-/

namespace QueryDesk.Plan

def joinOnly (table : Value) : Value :=
  .record [("table", table), ("confidence", .float 0.7), ("columns", .list []),
    ("include_only_for_join", .bool true), ("filters", .list [])]

def joinEnds (edges : List Value) : Attempt (List Value) := do
  let ends ← edges.mapM fun e => do
    return (← tablesNamed "from_table" [e]) ++ (← tablesNamed "to_table" [e])
  pure (Value.distinct ends.flatten)

/-- Adds the tables that only joins mention to the selections, in the order in which a set of them is
walked. -/
def addJoinTables (walk : List Value → List Value) (plan : Value) : Attempt Value := do
  let selections ← plan.getD "selections" (.list [])
  let selected ← tablesNamed "table" (← selections.items)
  let ends ← joinEnds (← Sql.itemsOf plan "join_edges")
  let missing := Value.without ends selected
  if missing.isEmpty then pure plan
  else do plan.setField "selections" (← extended "append" selections ((walk missing).map joinOnly))

def withField (doc : Value) (key : String) (usual : Value) : Attempt Value := do
  if ← (Value.text key).isIn doc then pure doc else doc.setField key usual

def withoutFields (keys : List String) (doc : Value) : Attempt Value :=
  keys.foldlM (fun doc key => do
    if ← (Value.text key).isIn doc then doc.dropField key else pure doc) doc

def mendColumn (column : Value) : Value :=
  match column with
  | .text _ => .record [("column", column), ("role", "projection")]
  | column => column

/-- A selection with its confidence, with columns that are documents, and without parts that selections
do not have. -/
def mendSelection (selection : Value) : Attempt Value := do
  let selection ← withField selection "confidence" (.float 0.7)
  let selection ←
    if ← (Value.text "columns").isIn selection then do
      let columns ← (← selection.field "columns").items
      selection.setField "columns" (.list (columns.map mendColumn))
    else pure selection
  withoutFields ["conditions", "date_filters"] selection

/-- A plan with the parts that every plan has and without those that no plan has. -/
def mend (plan : Value) : Attempt Value := do
  let plan ← withField plan "intent_summary" "Query plan generated"
  let plan ← withField plan "decision" "proceed"
  let plan ← withField plan "selections" (.list [])
  let selections ← plan.getD "selections" (.list [])
  let mended ← (← selections.items).mapM mendSelection
  let plan ← match selections with
    | .list _ => plan.setField "selections" (.list mended)
    | _ => pure plan
  withoutFields ["filters", "aggregations", "join_only_tables", "date_filters"] plan

/-- Where a walk stands in a list of quoted names: before a name, in one, or behind one. -/
inductive NamePlace where
  | before
  | inside (name : List Char)
  | behind

def namesFrom (names : List String) : NamePlace → List Char → Option (List String)
  | _, [] => none
  | .before, c :: rest =>
    if c == '\'' then namesFrom names (.inside []) rest
    else if Text.isBlank c then namesFrom names .before rest
    else none
  | .inside name, c :: rest =>
    if c == '\'' then
      if name.isEmpty then none else namesFrom (names ++ [String.ofList name.reverse]) .behind rest
    else namesFrom names (.inside (c :: name)) rest
  | .behind, c :: rest =>
    if c == ']' then some names
    else if c == ',' then namesFrom names .before rest
    else none

/-- The names of the first list of quoted names in a text. -/
def listedNames : List Char → Option (List String)
  | [] => none
  | c :: rest =>
    let here := match c, rest with
      | '[', '\'' :: inner => namesFrom [] (.inside []) inner
      | _, _ => none
    here.or (listedNames rest)

/-- Of several names the first and the last are kept. -/
def firstAndLast : List String → List String
  | [] => []
  | [a] => [a]
  | a :: b :: rest => [a, (b :: rest).getLastD b]

structure Refusal where
  /-- The refusal is about joins with tables that are not selected. -/
  aboutJoins : Bool
  /-- Tables that are missing, as far as they are kept. -/
  missing : List String
  text : String

namespace Refusal

def ofText (text : String) : Refusal :=
  if Text.contains text "join_edges reference tables not" then
    ⟨true, firstAndLast ((listedNames text.toList).getD []), text⟩
  else ⟨false, [], text⟩

def summary (r : Refusal) : String :=
  if r.missing.isEmpty then s!"Validation error: {r.text}"
  else "Tables referenced in join_edges but not in selections: " ++ Text.join ", " r.missing

def document (r : Refusal) : Value :=
  .record [("error_type", .text (if r.aboutJoins then "join_edges_invalid_tables" else "unknown")),
    ("missing_tables", Value.texts r.missing),
    ("problematic_field", if r.aboutJoins then "join_edges" else .null), ("raw_message", .text r.text)]

end Refusal

/-- A shown column that a plan with aggregates does not group by. -/
def ungroupedIssue (table column : String) : String :=
  s!"⚠️  GROUP BY Validation Issue: Column {table}.{column} has role='projection' " ++
    "but is not in group_by_columns. This will cause a SQL error. " ++
    "SQL requires all non-aggregated columns in SELECT to be in GROUP BY."

/-- Issues of a plan with aggregates whose shown columns are not all grouping columns. -/
def ungroupedIssues (plan : Value) : Attempt (List String) := do
  let group ← plan.get "group_by"
  if !group.truthy then pure []
  else if !(← group.get "aggregates").truthy then pure []
  else do
    let shown ← projectedColumns plan
    let keys ← (← Sql.itemsOf group "group_by_columns").mapM namesIn
    pure ((shown.filter fun c => !keys.any (· == c)).map fun c =>
      ungroupedIssue (c.peek "table").display (c.peek "column").display)

/-!
### The plan in a reply

A reply that was refused may still hold a plan: its text is a JSON document, or has one in a fenced block.
-/

def fence : List Char := ['`', '`', '`']

/-- From an opening brace on: up to the first closing brace that a fence follows. `passed` holds what was
passed, reversed. -/
def untilFence (passed : List Char) : List Char → Option String
  | [] => none
  | c :: rest =>
    if c == '\x7d' && fence.isPrefixOf (rest.dropWhile Text.isBlank) then
      some (String.ofList (c :: passed).reverse)
    else untilFence (c :: passed) rest

/-- The object in the first fenced block of JSON. -/
def fencedObject : List Char → Option String
  | [] => none
  | c :: rest =>
    let opening := fence ++ ['j', 's', 'o', 'n']
    let here :=
      if opening.isPrefixOf (c :: rest) then
        match ((c :: rest).drop opening.length).dropWhile Text.isBlank with
        | '\x7b' :: body => untilFence ['\x7b'] body
        | _ => none
      else none
    here.or (fencedObject rest)

def rawDocument (raw : String) : Attempt Value :=
  match Json.read raw with
  | .ok v => .ok v
  | .error f =>
    match fencedObject raw.toList with
    | some text => Json.read text
    | none => .error f

def repairedReply (walk : List Value → List Value) (raw : Option String) : Attempt Value := do
  match raw with
  | none => throw (.unparsed "" none)
  | some raw =>
    if raw.isEmpty then throw (.unparsed "" none)
    let plan ← addJoinTables walk (← mend (← rawDocument raw))
    match plan with
    | .record fields => pure (.entity fields plan)
    | v => throw (.mismatch s!"argument after ** must be a mapping, not {v.kind}")

/-- A reply as a plain document: the document of an object that has one, otherwise the reply itself. -/
def documentOf (reply : Value) : Value :=
  match reply with
  | .entity _ dump => if dump.isNull then reply else dump
  | v => v

end QueryDesk.Plan
