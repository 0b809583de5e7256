import QueryDesk.Sql.Expression

/-!
How near a statement comes to the statement that was wanted. Two statements are compared by the parts they
are made of: tables, joins, conditions, aggregations, groups and orders. A score of a hundred points tells
how much of the wanted statement was met.
-/

namespace QueryDesk.Benchmark

structure Outline where
  tables : List String
  joins : Nat
  conditions : Nat
  aggregations : List String
  groups : List String
  orders : List Value

def beforeFault {α : Type} : List (Attempt α) → List α
  | .ok a :: rest => a :: beforeFault rest
  | _ => []

def partText (v : Value) : Attempt String :=
  match v with
  | .node .. => Node.textOf v
  | v => .ok v.display

/-- The expressions that some nodes hold, one after the other. -/
def expressionsIn (nodes : List Value) : List (Attempt Value) :=
  nodes.flatMap fun n =>
    match (Node.arg n "expressions") with
    | .null => if (Node.args? n).all fun args => (args.lookup "expressions").isNone then [] else
        [.error (.notIterable "NoneType")]
    | v =>
      match v.items with
      | .ok items => items.map .ok
      | .error f => [.error f]

def tableName (table : Value) : Attempt (Option String) := do
  let name ← Node.part table "name"
  if name.truthy then return some (Text.upper (← name.textFor "upper")) else return none

/-- A column that results are ordered by, and the direction. -/
def orderOf (expression : Value) : Attempt Value :=
  match expression with
  | .node _ args _ => do
    let column ← partText (Node.arg expression "this")
    return .record [("column", .text column),
      ("direction", if ((args.lookup "desc").getD .null).truthy then "DESC" else "ASC")]
  | v => .error (.noAttribute v.kind "args")

def outline (statement : Value) : Outline where
  tables := ((beforeFault ((Node.findAll ["Table"] statement).map tableName)).filterMap id).eraseDups.mergeSort
    fun a b => !(b < a)
  joins := (beforeFault ((Node.findAll ["Join"] statement).map fun j => do
    let _ ← partText (Node.arg j "this")
    partText (Node.arg j "on"))).length
  conditions := (beforeFault ((Node.findAll ["Where"] statement).map fun w => partText (Node.arg w "this"))).length
  aggregations := beforeFault
    ((Node.findAll ["AggFunc", "Count", "Sum", "Avg", "Min", "Max"] statement).map Node.textOf)
  groups := beforeFault ((expressionsIn (Node.findAll ["Group"] statement)).map fun e => do partText (← e))
  orders := beforeFault ((expressionsIn (Node.findAll ["Order"] statement)).map fun e => do orderOf (← e))

def sameMembers (xs ys : List String) : Bool := xs.all ys.contains && ys.all xs.contains

def listed (wanted found : List String) : Fields :=
  [("ground_truth", Value.texts wanted), ("generated", Value.texts found),
    ("match", .bool (sameMembers wanted found))]

def counted (wanted found : Nat) : Value :=
  .record [("ground_truth_count", .nat wanted), ("generated_count", .nat found),
    ("match", .bool (wanted == found))]

def compareOutlines (wanted found : Outline) : Value :=
  .record [("tables", .record (listed wanted.tables found.tables ++
      [("missing", Value.texts (wanted.tables.filter fun t => !found.tables.contains t)),
        ("extra", Value.texts (found.tables.filter fun t => !wanted.tables.contains t))])),
    ("joins", counted wanted.joins found.joins), ("conditions", counted wanted.conditions found.conditions),
    ("aggregations", .record (listed wanted.aggregations found.aggregations)),
    ("group_by", .record (listed wanted.groups found.groups)),
    ("order_by", .record [("ground_truth", .list wanted.orders), ("generated", .list found.orders),
      ("match", .bool (Value.list wanted.orders == .list found.orders))])]

/-- The comparison of two statements; the reason if one of them cannot be parsed. -/
def compareStatements (wanted found : Value) : Desk (Except String Value) := do
  let wanted ← wanted.textFor "strip"
  let found ← found.textFor "strip"
  Desk.recover (do
    let wanted ← Sql.parse (.text (Text.trim wanted)) "tsql"
    let found ← Sql.parse (.text (Text.trim found)) "tsql"
    return .ok (compareOutlines (outline wanted) (outline found))) fun f =>
      return .error s!"Failed to parse SQL: {f.message}"

def comparison (wanted found : Value) : Desk Value := do
  match ← compareStatements wanted found with
  | .ok c => pure c
  | .error reason => pure (.record [("error", .text reason)])

/-- The points for two sets that overlap, of so many points for sets that agree. -/
def overlapPoints (points : Int) (part : Value) : Attempt Int := do
  if (← part.field "match").truthy then return points
  let wanted ← Value.setOf (← (← part.field "ground_truth").items)
  let found ← Value.setOf (← (← part.field "generated").items)
  if wanted.isEmpty || found.isEmpty then return 0
  let met := (wanted.filter fun w => found.any (· == w)).length
  let share ← (Value.nat met).dividedBy (.nat wanted.length)
  return (← (Value.int points).times share).whole

/-- The points for two counts that are near each other, of so many points for counts that agree. -/
def countPoints (points : Int) (part : Value) : Attempt Int := do
  if (← part.field "match").truthy then return points
  let wanted ← part.field "ground_truth_count"
  let found ← part.field "generated_count"
  if !(← wanted.above (.int 0)) then return 0
  let gap ← (← wanted.minus found).unsigned
  let likeness ← (Value.int 1).minus (← gap.dividedBy (← wanted.greater found))
  return (← (Value.int points).times (← (Value.int 0).greater likeness)).whole

/-- The points for the numbers of rows, of five points for numbers that agree. -/
def rowPoints (found wanted : Value) : Attempt Int := do
  if found.isNull || wanted.isNull then return 0
  if found == wanted then return 5
  if !(← wanted.above (.int 0)) then return 0
  let gap ← (← (← found.minus wanted).unsigned).dividedBy wanted
  if ← gap.above (.float 0.2) then return 0
  return (← (Value.int 5).times (← (Value.int 1).minus (← gap.dividedBy (.float 0.2)))).whole

/-- The score of a statement, from the comparison, from whether it can be carried out, and from the numbers
of rows. -/
def score (comparison runs found wanted : Value) : Attempt Int := do
  let running : Int := if runs.truthy then 30 else 0
  let tables ← overlapPoints 20 (← comparison.field "tables")
  let joins ← countPoints 20 (← comparison.field "joins")
  let filters ← countPoints 15 (← comparison.field "conditions")
  let aggregations ← overlapPoints 10 (← comparison.field "aggregations")
  let rows ← rowPoints found wanted
  return min 100 (max 0 (running + tables + joins + filters + aggregations + rows))

def namesLine (label : String) (names : Value) : Attempt (List String) := do
  if !names.truthy then return []
  return ["- " ++ label ++ ": " ++ Text.join ", " (← Value.textItems (← names.items)) ++ "\n"]

def partHeading (label : String) (part : Value) : Attempt String := do
  let mark := if (← part.field "match").truthy then "" else "X"
  return s!"**{label} {mark}**\n"

def summary (comparison : Value) : Attempt String := do
  let tables ← comparison.field "tables"
  let mut out := ["### SQL Comparison Summary\n\n", ← partHeading "Tables" tables]
  if !(← tables.field "match").truthy then
    out := out ++ (← namesLine "Missing" (← tables.field "missing"))
    out := out ++ (← namesLine "Extra" (← tables.field "extra"))
  out := out ++ ["\n"]
  let joins ← comparison.field "joins"
  out := out ++ [← partHeading "Joins" joins]
  let wanted ← joins.field "ground_truth_count"
  let found ← joins.field "generated_count"
  out := out ++ [s!"- Ground truth: {wanted.display} joins\n", s!"- Generated: {found.display} joins\n\n"]
  let aggregations ← comparison.field "aggregations"
  out := out ++ [← partHeading "Aggregations" aggregations]
  out := out ++ (← namesLine "Ground truth" (← aggregations.field "ground_truth"))
  out := out ++ (← namesLine "Generated" (← aggregations.field "generated"))
  return String.join out

end QueryDesk.Benchmark
