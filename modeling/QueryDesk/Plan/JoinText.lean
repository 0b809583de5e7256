import QueryDesk.Plan.Column

/-!
Joins written out in a strategy's text, such as `tb_A.ID = tb_B.ForeignID`. A join whose columns do not
exist is set right where a foreign key of the schema tells how.
-/

namespace QueryDesk.Plan

structure TextJoin where
  fromTable : String
  fromColumn : String
  toTable : String
  toColumn : String
  deriving DecidableEq

def word? (cs : List Char) : Option (String × List Char) :=
  match cs.takeWhile Text.isWord with
  | [] => none
  | w => some (String.ofList w, cs.dropWhile Text.isWord)

/-- A table and a column with a point between them, at the front. -/
def reference? (cs : List Char) : Option (String × String × List Char) := do
  let (table, rest) ← word? cs
  match rest with
  | '.' :: rest => do
    let (column, rest) ← word? rest
    pure (table, column, rest)
  | _ => none

/-- A join at the front, and how many characters it takes. -/
def joinAt? (cs : List Char) : Option (TextJoin × Nat) := do
  let (fromTable, fromColumn, rest) ← reference? cs
  match rest.dropWhile Text.isBlank with
  | '=' :: rest => do
    let (toTable, toColumn, rest) ← reference? (rest.dropWhile Text.isBlank)
    pure (⟨fromTable, fromColumn, toTable, toColumn⟩, cs.length - rest.length)
  | _ => none

/-- The joins of a text from the left; `skip` characters still belong to the last one. -/
def joinsFrom : Nat → List Char → List TextJoin
  | _, [] => []
  | skip + 1, _ :: rest => joinsFrom skip rest
  | 0, c :: rest =>
    match joinAt? (c :: rest) with
    | some (j, n) => j :: joinsFrom (n - 1) rest
    | none => joinsFrom 0 rest

def textJoins (s : String) : List TextJoin := joinsFrom 0 s.toList

def TextJoin.text (j : TextJoin) : String :=
  s!"{j.fromTable}.{j.fromColumn} = {j.toTable}.{j.toColumn}"

/-- The set of a table's column names; empty if the schema does not have the table. -/
def columnSet (schema table : Value) : Attempt (List Value) := do
  match ← tableEntry? table schema with
  | some e => do
    Value.setOf (← (← Sql.itemsOf e "columns").mapM fun c => c.field "column_name")
  | none => pure []

/-- The foreign key of a column among some entries of a table. -/
def keyAmong? (column : Value) : List Value → Attempt (Option (Value × Value))
  | [] => .ok none
  | fk :: rest => do
    if (← fk.get "column_name") == column then
      pure (some (← fk.get "foreign_table_name", ← fk.get "foreign_column_name"))
    else keyAmong? column rest

/-- The foreign key of a column among the entries of a schema. -/
def keyIn? (table column : Value) : List Value → Attempt (Option (Value × Value))
  | [] => .ok none
  | e :: rest => do
    let found ←
      if (← e.get "table_name") == table then do
        keyAmong? column (← Sql.itemsOf e "foreign_keys")
      else pure none
    match found with
    | some key => pure (some key)
    | none => keyIn? table column rest

def foreignKey? (schema table column : Value) : Attempt (Option (Value × Value)) := do
  keyIn? table column (← schema.items)

/-- The column that a foreign key of `table` refers to in `target`. -/
def keyInto? (schema : Value) (table column target : String) : Attempt (Option Value) := do
  match ← foreignKey? schema (.text table) (.text column) with
  | some (t, c) => pure (if t == Value.text target then some c else none)
  | none => pure none

/-- How a join is set right: what kind of repair it is, and the two columns. -/
def joinRepair? (schema : Value) (j : TextJoin) : Attempt (Option (String × Value × Value)) := do
  let fromColumns ← columnSet schema (.text j.fromTable)
  let toColumns ← columnSet schema (.text j.toTable)
  let fromExists := fromColumns.any (· == Value.text j.fromColumn)
  let toExists := toColumns.any (· == Value.text j.toColumn)
  if fromExists && toExists then pure none
  else do
    let fromKey ←
      if !fromExists && toColumns.any (· == Value.text j.fromColumn) then
        keyInto? schema j.toTable j.toColumn j.fromTable
      else pure none
    match fromKey with
    | some c => pure (some ("Swapped join", c, .text j.toColumn))
    | none => do
      let target ←
        if !fromExists then keyInto? schema j.fromTable j.fromColumn j.toTable else pure none
      match target with
      | some c => pure (some ("Fixed FK target", .text j.fromColumn, c))
      | none => do
        let source ←
          if !toExists then keyInto? schema j.toTable j.toColumn j.fromTable else pure none
        match source with
        | some c => pure (some ("Fixed FK source", c, .text j.toColumn))
        | none => pure none

/-- Sets one join right in a text, with the note about it. -/
def repairJoin (schema : Value) (state : String × List String) (j : TextJoin) :
    Attempt (String × List String) := do
  match ← joinRepair? schema j with
  | none => pure state
  | some (label, fromColumn, toColumn) =>
    let fixed := s!"{j.fromTable}.{fromColumn.display} = {j.toTable}.{toColumn.display}"
    pure (Text.replace state.1 j.text fixed, state.2 ++ [s!"{label}: {fixed} (was {j.text})"])

def repairJoins (strategy : String) (schema : Value) : Attempt (String × List String) :=
  (textJoins strategy).foldlM (repairJoin schema) (strategy, [])

end QueryDesk.Plan
