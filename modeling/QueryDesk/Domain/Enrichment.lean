import QueryDesk.Domain.Files

/-!
A schema is combined with what is known about the domain. Tables and columns that mislead a planner go,
facts about tables and foreign keys come in, and empty parts are dropped. The sample database is left as
it is.
-/

namespace QueryDesk.Domain

/-- A text without content, or nothing at all. -/
def isVoid : Value → Bool
  | .null => true
  | .text s => s.isEmpty
  | _ => false

mutual

/-- A document without its void parts, at every depth. -/
def withoutVoids : Value → Value
  | .record fields => .record (fieldsWithoutVoids fields)
  | .list items => .list (itemsWithoutVoids items)
  | v => v

def itemsWithoutVoids : List Value → List Value
  | [] => []
  | v :: rest =>
    if isVoid v then itemsWithoutVoids rest else withoutVoids v :: itemsWithoutVoids rest

def fieldsWithoutVoids : List (String × Value) → List (String × Value)
  | [] => []
  | f :: rest =>
    if isVoid f.2 then fieldsWithoutVoids rest else fieldWithoutVoids f :: fieldsWithoutVoids rest

def fieldWithoutVoids : String × Value → String × Value
  | (k, v) => (k, withoutVoids v)

end

def misleadingWords : List String := ["nessus"]

def misleadingColumns : List String := ["IsDeleted", "StatusID", "OrgID"]

def statusTable : String := "tb_CVECDAMap"

def isMisleading (table : Value) : Attempt Bool := do
  let name ← (← table.getD "table_name" "").lowered
  return misleadingWords.any fun w => Text.contains name w

def withoutMisleadingTables (schema : List Value) : Attempt (List Value) :=
  schema.filterM fun t => return !(← isMisleading t)

def columnsToDrop (table : Value) : List String :=
  if table == .text statusTable then misleadingColumns.erase "StatusID" else misleadingColumns

def withoutMisleadingColumns (table : Value) : Attempt Value := do
  let name ← table.get "table_name"
  let columns ← table.getD "columns" (.list [])
  let _ ← columns.size
  let drop := columnsToDrop name
  let kept ← (← columns.items).filterM fun c => do
    let column ← c.get "column_name"
    return !(drop.any fun d => column == .text d)
  table.setField "columns" (.list kept)

/-- The document in a file of the domain; null if there is no such file or it is no JSON document. -/
def optionalDocument (name : String) : Desk Value := do
  if ← isPresent (directory ++ name) then
    tryCatch (readDocument (directory ++ name)) fun f =>
      match f with
      | .badJson _ => pure .null
      | f => throw f
  else pure .null

/-- A table with the facts and the foreign keys that are known under its name. -/
def withKnowledge (facts keys : Keyed Value) (table : Value) : Attempt Value := do
  let name ← (← table.get "table_name").hashable
  let table ← match Keyed.find? facts name with
    | some f => table.setField "metadata" f
    | none => pure table
  match Keyed.find? keys name with
    | some k => table.setField "foreign_keys" k
    | none => pure table

/-- Of a table's facts the description and the primary key stay; columns under a short name get their
full one. -/
def withEssentials (table : Value) : Attempt Value := do
  let table ←
    if ← (Value.text "metadata").isIn table then do
      let facts ← (← table.field "metadata").entries
      table.setField "metadata"
        (.record (facts.filter fun f => f.1 == "description" || f.1 == "primary_key"))
    else pure table
  match table with
  | .record fields =>
    match fields.lookup "c" with
    | some columns => pure (.record (Fields.put (Fields.erase fields "c") "columns" columns))
    | none => pure table
  | _ => pure table

def combineWith (facts keys : Value) (schema : List Value) : Attempt Value := do
  let factEntries ← if facts.truthy then facts.items else pure []
  let known ← Keyed.collect (fun e => do return (← e.field "table_name", e)) factEntries
  let keyEntries ← if keys.truthy then keys.items else pure []
  let linked ← Keyed.collect
    (fun e => do
      let name ← e.field "table_name"
      return (name, ← e.field "foreign_keys")) keyEntries
  let schema ← schema.mapM (withKnowledge known linked)
  return withoutVoids (.list (← schema.mapM withEssentials))

def withoutMisleading (schema : Value) : Attempt (List Value) := do
  let _ ← schema.size
  let tables ← withoutMisleadingTables (← schema.items)
  tables.mapM withoutMisleadingColumns

/-- A schema combined with what is known about the domain, with or without its foreign keys. -/
def combine (schema : Value) (includesKeys : Bool) : Desk Value := do
  if Text.lower (← Desk.env "USE_TEST_DB" "false") == "true" then pure schema
  else
    let tables ← withoutMisleading schema
    let facts ← optionalDocument tablesName
    let keys ← if includesKeys then optionalDocument keysName else pure .null
    if !facts.truthy && !keys.truthy then pure (.list tables)
    else combineWith facts keys tables

end QueryDesk.Domain
