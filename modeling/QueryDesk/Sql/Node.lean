import QueryDesk.Service.Desk

/-!
Nodes of parsed statements: how they are made, what their name is, the order in which a walk meets them,
and the text they were parsed from. A node keeps only the arguments it was given.
-/

namespace QueryDesk.Node

def make (kind : String) (args : Fields) : Value := .node kind args none

def column (name table : Value) : Value := make "Column" [("this", name), ("table", table)]

def identifier (name : Value) : Value := make "Identifier" [("this", name)]

def numberLiteral (v : Value) : Value := .term "Literal.number" v

def textLiteral (s : String) : Value := .term "Literal.string" (.text s)

def both (a b : Value) : Value := make "And" [("this", a), ("expression", b)]

/-- All conditions of a list, joined from the left; nothing if there is none. -/
def allOf : List Value → Value
  | [] => .null
  | c :: rest => rest.foldl both c

def args? : Value → Option Fields
  | .node _ args _ => some args
  | _ => none

mutual

/-- The name of a node: its first argument, looked through as long as that is a node. -/
def nameOf : Value → Value
  | .node _ args _ => nameIn "this" args
  | v => v

/-- The name under one of the arguments; empty if it is absent. -/
def nameIn (key : String) : List (String × Value) → Value
  | [] => .text ""
  | f :: rest => (nameAt key f).getD (nameIn key rest)

def nameAt (key : String) : String × Value → Option Value
  | (k, v) => if k == key then some (nameOf v) else none

end

def tableOf (args : Fields) : Value := nameIn "table" args

mutual

/-- The nodes of a tree in the order of a walk: a node comes before the nodes of its arguments. -/
def walk : Value → List Value
  | .node kind args source => .node kind args source :: walkFields args
  | _ => []

def walkFields : List (String × Value) → List Value
  | [] => []
  | f :: rest => walkField f ++ walkFields rest

/-- The nodes under one argument; a list is looked through one level deep. -/
def walkField : String × Value → List Value
  | (_, .list items) => walkItems items
  | (_, v) => walk v

def walkItems : List Value → List Value
  | [] => []
  | v :: rest => walk v ++ walkItems rest

end

def findAll (kinds : List String) (v : Value) : List Value :=
  (walk v).filter fun n =>
    match n with
    | .node k _ _ => kinds.contains k
    | _ => false

/-- The argument of a node; null if it is absent. -/
def arg (v : Value) (key : String) : Value :=
  match v with
  | .node _ args _ => (args.lookup key).getD .null
  | _ => .null

/-- An attribute that every node has: the argument of that name, or its default. -/
def part (v : Value) (name : String) : Attempt Value :=
  match v with
  | .node _ args _ =>
    if name == "expressions" then .ok ((args.lookup name).getD (.list []))
    else if name == "name" then .ok (nameIn "this" args)
    else if name == "table" then .ok (nameIn "table" args)
    else if ["this", "expression", "kind", "on"].contains name then
      .ok ((args.lookup name).getD .null)
    else .error (.noAttribute v.kind name)
  | _ => .error (.noAttribute v.kind name)

def setArg (v : Value) (key : String) (x : Value) : Attempt Value :=
  match v with
  | .node kind args source => .ok (.node kind (Fields.put args key x) source)
  | _ => .error (.noAttribute v.kind "set")

/-- The clause that bounds the number of rows. -/
def limitText (args : Fields) : Attempt String :=
  match args.lookup "limit" with
  | none => .ok ""
  | some limit =>
    if limit.truthy then
      match limit with
      | .node _ inner _ =>
        match inner.lookup "expression" with
        | some e => .ok (" LIMIT " ++ e.display)
        | none => .error (Value.absent "expression")
      | _ => .error (.noAttribute limit.kind "args")
    else .ok ""

mutual

/-- The text of a node: what it was parsed from, or, for a selection, its expressions in a row. -/
def textOf : Value → Attempt String
  | .node kind args source => do
    let base ← match source with
      | some s => pure s
      | none =>
        if kind == "Select" then do pure ("SELECT " ++ Text.join ", " (← expressionTexts args))
        else pure ""
    pure (base ++ (← limitText args))
  | v => .error (.noAttribute v.kind "sql")

def expressionTexts : List (String × Value) → Attempt (List String)
  | [] => .ok []
  | f :: rest => (fieldTexts? f).getD (expressionTexts rest)

/-- The texts in an argument, if it holds the expressions. -/
def fieldTexts? : String × Value → Option (Attempt (List String))
  | (k, .list items) => if k == "expressions" then some (itemTexts items) else none
  | (k, v) => if k == "expressions" then some (.error (.notIterable v.kind)) else none

def itemTexts : List Value → Attempt (List String)
  | [] => .ok []
  | v :: rest => do
    let t ← textOf v
    pure (t :: (← itemTexts rest))

end

end QueryDesk.Node
