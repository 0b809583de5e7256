import QueryDesk.Service.Desk

/-!
Search by likeness. Texts are put into an index together with facts about what they describe, and a
search gives back what was stored, nearest first.
-/

namespace QueryDesk

/-- A text in an index, with facts about what it describes. -/
structure Passage where
  text : String
  facts : Value

structure SearchIndex where
  passages : List Passage

namespace Passage

/-- Whether a fact can be stored in an index: a text, a number or a truth value. -/
def isPlain : Value → Bool
  | .text _ | .statement _ | .bool _ | .int _ | .float _ => true
  | _ => false

/-- A passage with the facts that an index can store. -/
def plain (p : Passage) : Passage :=
  match p.facts with
  | .record fields => { p with facts := .record (fields.filter fun f => isPlain f.2) }
  | _ => p

end Passage

namespace SearchIndex

/-- The passage about a table; one that holds nothing but its name if none was stored. -/
def about (index : SearchIndex) (table : Value) : Passage :=
  (index.passages.find? fun p => p.facts.peek "table_name" == table).getD
    ⟨"", .record [("table_name", table)]⟩

end SearchIndex

namespace Desk

def buildIndex (collection : String) (passages : List Passage) : Desk SearchIndex := do
  let stored := passages.map Passage.plain
  send (.index collection (stored.map (·.text)))
  pure ⟨stored⟩

def nextResult : Desk (List Value) := do
  match (← get).searches with
  | [] => throw (.service "no scripted search")
  | r :: rest => do
    modify fun t => { t with searches := rest }
    match r with
    | .list xs => pure xs
    | _ => pure []

def search (index : SearchIndex) (query limit : Value) : Desk (List Passage) := do
  send (.search query limit)
  return (← nextResult).map fun r =>
    match r with
    | .list (name :: _) => index.about name
    | name => index.about name

def searchScored (index : SearchIndex) (query limit : Value) : Desk (List (Passage × Value)) := do
  send (.searchScored query limit)
  return (← nextResult).map fun r =>
    match r with
    | .list [name, score] => (index.about name, score)
    | name => (index.about name, .null)

end Desk

end QueryDesk
