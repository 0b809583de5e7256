import QueryDesk.Document.Quantity

/-!
How well guessed foreign keys agree with known ones. Keys are compared table by table: a guess is right if
the table is known to have a key of the same column to the same table, and a known key is missed if no guess
agrees with it.
-/

namespace QueryDesk.Mapping

/-- Whether two keys are of the same column and to the same table. -/
def sameKey (a b : Value) : Attempt Bool := do
  if (← a.get "foreign_key") == (← b.get "foreign_key") then
    return (← a.get "primary_key_table") == (← b.get "primary_key_table")
  else return false

/-- Which keys have a like among others. -/
def judge (same : Value → Value → Attempt Bool) (keys others : List Value) : Attempt (List (Value × Bool)) :=
  keys.mapM fun k => do return (k, ← others.anyM (same k))

def judgedAs (verdict : Bool) (judged : List (Value × Bool)) : List Value :=
  (judged.filter (·.2 == verdict)).map (·.1)

structure TableResult where
  table : String
  guessed : Nat
  known : Nat
  right : List Value
  wrong : List Value
  missed : List Value

def keysUnder (keys : Fields) (table : String) : Value := (keys.lookup table).getD (.list [])

def tableResult (guesses known : Fields) (table : String) : Attempt TableResult := do
  let guessed := keysUnder guesses table
  let wanted := keysUnder known table
  let guessCount ← guessed.size
  let knownCount ← wanted.size
  let guesses ← guessed.items
  let wanted ← wanted.items
  let judged ← judge sameKey guesses wanted
  let sought ← judge (fun w g => sameKey g w) wanted guesses
  return ⟨table, guessCount, knownCount, judgedAs true judged, judgedAs false judged, judgedAs false sought⟩

def percentage (part whole : Nat) : Attempt Value := do
  if whole == 0 then return .int 0
  (← (Value.nat part).dividedBy (.nat whole)).times (.int 100)

def harmonic (precision coverage : Value) : Attempt Value := do
  let both ← precision.plus coverage
  if !(← both.above (.int 0)) then return .int 0
  (← (← (Value.int 2).times precision).times coverage).dividedBy both

def pairsOf (keys : TableResult → List Value) (results : List TableResult) : Value :=
  .list (results.flatMap fun r => (keys r).map fun k => .tuple [.text r.table, k])

def TableResult.document (r : TableResult) : Value :=
  .record [("inferred_count", .nat r.guessed), ("ground_truth_count", .nat r.known),
    ("correct", .list r.right), ("false_positive", .list r.wrong), ("false_negative", .list r.missed)]

def measures (results : List TableResult) : Attempt Value := do
  let right := (results.flatMap (·.right)).length
  let guessed := right + (results.flatMap (·.wrong)).length
  let known := right + (results.flatMap (·.missed)).length
  let precision ← percentage right guessed
  let coverage ← percentage right known
  return .record [("total_correct", .nat right), ("total_inferred", .nat guessed),
    ("total_ground_truth", .nat known), ("precision", precision), ("recall", coverage),
    ("f1_score", ← harmonic precision coverage)]

/-- Compares guessed and known keys; `walk` is the order in which the tables are met. -/
def evaluate (walk : List Value → List Value) (guesses known : Value) : Attempt Value := do
  let guesses ← guesses.fieldsFor "keys"
  let known ← known.fieldsFor "keys"
  let tables := walk (Value.distinct ((guesses ++ known).map fun f => .text f.1))
  let results ← tables.mapM fun t => tableResult guesses known t.display
  return .record [("correct_inferences", pairsOf (·.right) results),
    ("false_positives", pairsOf (·.wrong) results), ("false_negatives", pairsOf (·.missed) results),
    ("table_results", .record (results.map fun r => (r.table, r.document))), ("metrics", ← measures results)]

def namesIdentity (column : Value) : Attempt Bool := do
  let name ← (← column.field "column_name").textFor "upper"
  return Text.contains (Text.upper name) "ID" || Text.contains name "Id"

/-- How promising a table is: its foreign keys and the columns that speak of an identity. -/
def promise (table : Value) : Attempt Nat := do
  let keys ← (← table.getD "foreign_keys" (.list [])).size
  let columns ← (← (← table.getD "columns" (.list [])).items).filterM namesIdentity
  return keys * 10 + columns.length

/-- The first items of a list; a negative number leaves so many out at the end. -/
def takeSigned {α : Type} (n : Int) (xs : List α) : List α :=
  if 0 ≤ n then xs.take n.toNat else xs.take (xs.length - n.natAbs)

def mostPromising (schema : List Value) (count : Int) : Attempt (List Value) := do
  let rated ← schema.mapM fun t => do return (Value.nat (← promise t), t)
  return takeSigned count (← Value.ranked true rated)

end QueryDesk.Mapping
