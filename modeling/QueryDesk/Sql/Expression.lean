import QueryDesk.Sql.Node

/-!
Expressions in place of column names. A plan may name a column or write an expression over columns; an
expression is parsed, and the tables in it are replaced by their aliases, each once.
-/

namespace QueryDesk.Sql

/-- Whether `word` stands at the front when case does not count. -/
def wordAt : List Char → List Char → Bool
  | [], _ => true
  | _ :: _, [] => false
  | w :: word, c :: cs => Text.matchesLetter w c && wordAt word cs

def hasWord (word : List Char) : List Char → Bool
  | [] => word.isEmpty
  | c :: cs => wordAt word (c :: cs) || hasWord word cs

def operatorChars : List Char := ['(', '*', '+', '-', '/']

def expressionWords : List String := ["COALESCE", "CASE", "CAST", "CONCAT"]

def looksLikeExpression (s : String) : Bool :=
  s.toList.any operatorChars.contains ||
    expressionWords.any fun w => hasWord w.toList s.toList

/-- Whether a column entry is an expression; an absent or empty one is not. -/
def isExpression (column : Value) : Attempt Bool :=
  if column.truthy then
    match column.text? with
    | some s => .ok (looksLikeExpression s)
    | none => .error (.mismatch s!"expected string or bytes-like object, got '{column.kind}'")
  else .ok false

/-- Whether a database context speaks of the sample dialect; without a context it does not. -/
def isSample (context : Value) : Attempt Value :=
  if context.truthy then context.getD "is_sqlite" (.bool false) else .ok context

def dialectOf (context : Value) : Attempt String := do
  return if (← isSample context).truthy then "sqlite" else "tsql"

def parse (source dialect : Value) : Desk Value := do
  Desk.send (.parse source dialect)
  match source.text? with
  | none => throw (.noAttribute source.kind "isdigit")
  | some s =>
    match (← read).parses.lookup s with
    | some node => pure node
    | none =>
      if Text.allDigits s then pure (.node "Literal" [] (some s))
      else throw (.service s!"cannot parse: {s}")

def aliasIn (aliases : Value) (args : Fields) : Attempt (Option Value) :=
  let table := Node.tableOf args
  if table.truthy then
    match table.text? with
    | none => .error (.noAttribute table.kind "this")
    | some s =>
      match aliases with
      | .record fields => .ok (fields.lookup s)
      | v => do
        if ← table.isIn v then .error (.notSubscriptable v.kind) else pure none
  else .ok none

mutual

/-- The tree with the table of every column replaced by its alias. -/
def withAliases (aliases : Value) : Value → Attempt Value
  | .node kind args source => do
    let inner ← fieldsWithAliases aliases args
    if kind == "Column" then
      match ← aliasIn aliases args with
      | some shortName => pure (.node kind (Fields.put inner "table" (Node.identifier shortName)) source)
      | none => pure (.node kind inner source)
    else pure (.node kind inner source)
  | v => .ok v

def fieldsWithAliases (aliases : Value) : List (String × Value) → Attempt (List (String × Value))
  | [] => .ok []
  | f :: rest => do
    let f' ← fieldWithAliases aliases f
    pure (f' :: (← fieldsWithAliases aliases rest))

/-- The same under one argument; a list is looked through one level deep. -/
def fieldWithAliases (aliases : Value) : String × Value → Attempt (String × Value)
  | (k, .list items) => do pure (k, .list (← itemsWithAliases aliases items))
  | (k, v) => do pure (k, ← withAliases aliases v)

def itemsWithAliases (aliases : Value) : List Value → Attempt (List Value)
  | [] => .ok []
  | v :: rest => do
    let v' ← withAliases aliases v
    pure (v' :: (← itemsWithAliases aliases rest))

end

/-- An expression parsed, its tables replaced by their aliases. What cannot be parsed is taken for the
name of a column. -/
def parseExpression (source aliases context : Value) : Desk Value := do
  let dialect ← dialectOf context
  Desk.recover
    (do
      let parsed ← parse source dialect
      withAliases aliases parsed)
    fun _ => pure (Node.make "Column" [("this", source)])

end QueryDesk.Sql
