import QueryDesk.Schema.IdColumn
import QueryDesk.Service.Model
import QueryDesk.Service.Search

/-!
Foreign keys guessed from column names: a column that ends in `ID` is compared with the names of all
tables, and the nearest ones are candidates for what it refers to.
-/

namespace QueryDesk.Schema

def referenceText (table : Value) : Attempt String := do
  let name ← table.field "table_name"
  pure s!"Table: {name.display}"

/-- A table that a column may refer to, with its score. -/
structure Candidate where
  table : Value
  score : Value

/-- The first `limit` results that are not the table itself; one at least is taken if there is any. -/
def takeOthers (source limit : Value) (taken : Nat) : List (Passage × Value) → Attempt (List Candidate)
  | [] => .ok []
  | (p, score) :: rest => do
    if (← p.facts.get "table_name") == source then takeOthers source limit taken rest
    else if ← (Value.nat (taken + 1)).atLeast limit then pure [⟨p.facts, score⟩]
    else return ⟨p.facts, score⟩ :: (← takeOthers source limit (taken + 1) rest)

/-- The tables that a column with the given base name may refer to. -/
def keyCandidates (base schema : Value) (index : SearchIndex) (source limit : Value) :
    Desk (List Candidate) := do
  let wanted ← limit.next
  let size := Value.nat (← schema.size)
  let results ← Desk.searchScored index (.text s!"Table related to {base.display}")
    (if ← size.less wanted then size else wanted)
  let found ← takeOthers source limit 0 results
  for c in found do
    let _ ← c.table.field "table_name"
  pure found

def hasGuessedKey (table : Value) : Attempt Bool := do
  let keys ← (← table.getD "foreign_keys" (.list [])).items
  return (← firstWhere (fun k => do return (← k.get "inferred").truthy) keys).isSome

/-- Guesses foreign keys. Guessing takes pairs of a column and a base name; a detected column is a triple,
so a table that has one ends the guessing, and a schema without any stays as it is. -/
def guessKeys (schema : Value) : Desk Value := do
  let _ ← schema.size
  if schema.truthy then
    let tables ← schema.items
    let _ ← Model.embedding false
    let passages ← tables.mapM fun t => do return Passage.mk (← referenceText t) t
    let _ ← Desk.buildIndex "fk_inference_filtered" passages
    for t in tables do
      let _ ← t.get "table_name"
      if !(← idColumns t).isEmpty then throw (.invalid "too many values to unpack (expected 2)")
    for t in tables do
      let _ ← hasGuessedKey t
    pure schema
  else pure schema

end QueryDesk.Schema
