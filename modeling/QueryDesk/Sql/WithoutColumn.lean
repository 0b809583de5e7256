import QueryDesk.Sql.Expression
import QueryDesk.Text.Pattern

/-!
A statement without one of its columns. Every selection in it loses the expressions in which the column's
name stands as a word; a selection that would lose all of them cannot do without the column.
-/

namespace QueryDesk.Sql

/-- Whether an expression does without a column; `none` if it has no text. -/
def avoids? (column : String) (expression : Value) : Option Bool :=
  match Node.textOf expression with
  | .ok text => some (!Text.hasWord text column)
  | .error _ => none

/-- Whether a node's arguments hold a list of expressions. -/
def hasExpressions (args : Fields) : Bool :=
  match args.lookup "expressions" with
  | some (.list _) => true
  | _ => false

mutual

def withoutColumn? (column : String) : Value → Option Value
  | .node kind args source =>
    let selects := kind == "Select"
    if selects && !hasExpressions args then none
    else (withoutFields? column selects args).map fun args => .node kind args source
  | v => some v

/-- The same for the arguments of a node; `selects` tells whether it is a selection. -/
def withoutFields? (column : String) (selects : Bool) : List (String × Value) → Option Fields
  | [] => some []
  | f :: rest =>
    (withoutField? column selects f).bind fun f =>
      (withoutFields? column selects rest).map fun rest => f :: rest

def withoutField? (column : String) (selects : Bool) : String × Value → Option (String × Value)
  | (k, .list items) =>
    if selects && k == "expressions" then
      (keptItems? column items).bind fun items => if items.isEmpty then none else some (k, .list items)
    else (withoutItems? column items).map fun items => (k, .list items)
  | (k, v) => (withoutColumn? column v).map fun v => (k, v)

def withoutItems? (column : String) : List Value → Option (List Value)
  | [] => some []
  | v :: rest =>
    (withoutColumn? column v).bind fun v => (withoutItems? column rest).map fun rest => v :: rest

def keptItems? (column : String) : List Value → Option (List Value)
  | [] => some []
  | v :: rest =>
    match avoids? column v with
    | none => none
    | some true =>
      (withoutColumn? column v).bind fun v => (keptItems? column rest).map fun rest => v :: rest
    | some false => keptItems? column rest

end

/-- A statement's text without a column; null if it cannot do without it. -/
def removeColumn (statement column : Value) : Desk Value :=
  Desk.recover (do
    let tree ← parse statement "tsql"
    match column.text? with
    | none => return .null
    | some name =>
      match tree, withoutColumn? name tree with
      | .node _ _ _, some reduced => return .text (← Node.textOf reduced)
      | _, _ => return .null) fun _ => pure .null

end QueryDesk.Sql
