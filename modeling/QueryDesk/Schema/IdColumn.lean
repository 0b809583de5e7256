import QueryDesk.Schema.Markdown

/-!
Columns that look like references: their name ends in `ID`, in any case, and what stands before it is the
name of the thing that is referred to.
-/

namespace QueryDesk.Schema

/-- A column whose name ends in `ID`. -/
structure IdColumn where
  column : String
  base : String
  /-- Whether it is the primary key of its own table. -/
  isKey : Bool
  deriving DecidableEq

/-- What stands before the ending `ID`; a line break may follow the ending, and none may precede it. -/
def idBase? (name : String) : Option String :=
  let reversed := match name.toList.reverse with
    | '\n' :: rest => rest
    | cs => cs
  match reversed with
  | d :: i :: c :: rest =>
    if Text.matchesLetter 'd' d && Text.matchesLetter 'i' i && !(c :: rest).contains '\n' then
      some (String.ofList (c :: rest).reverse)
    else none
  | _ => none

/-- The primary key of a table: as stated, or else the first column named `ID` or after the table. -/
def primaryKey (table : Value) : Attempt Value := do
  let stated ← (← table.getD "metadata" (.record [])).get "primary_key"
  if stated.truthy then pure stated
  else
    let name := (← table.getD "table_name" "").display
    let keys := ["ID", "Id", "id", name ++ "ID", name ++ "Id"]
    firstNamed keys (← (← table.getD "columns" (.list [])).items)
where
  firstNamed (keys : List String) : List Value → Attempt Value
    | [] => .ok .null
    | c :: rest => do
      let column ← c.field "column_name"
      if keys.any fun k => column == .text k then pure column else firstNamed keys rest

/-- The columns of a table that look like references. -/
def idColumns (table : Value) : Attempt (List IdColumn) := do
  let key ← primaryKey table
  (← (← table.getD "columns" (.list [])).items).filterMapM fun c => do
    let name ← c.field "column_name"
    match name.text? with
    | none => throw (.mismatch s!"expected string or bytes-like object, got '{name.kind}'")
    | some s =>
      match idBase? s with
      | none => pure none
      | some base => do
        let _ ← table.field "table_name"
        pure (some ⟨s, base, name == key⟩)

def hasKey (column : Value) (keys : List Value) : Attempt Bool := do
  return (← firstWhere (fun k => do return (← k.get "foreign_key") == column) keys).isSome

end QueryDesk.Schema
