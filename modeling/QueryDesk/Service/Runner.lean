import QueryDesk.Service.Desk

/-!
How the stations of a run hang together, and running a workflow to its end, or watching it on the way.
-/

namespace QueryDesk

/-- A plan of stations. Ways and branches name the stations, and a run begins and ends at none of them. -/
structure Wiring where
  /-- Every station with the name of the step that runs there. -/
  stations : List (String × String)
  ways : List (String × String)
  /-- Every station where the state decides, with the name of the choice made there. -/
  branches : List (String × String)
  /-- The settings that the plan is put into force with. -/
  settings : List String := []

namespace Wiring

def start : String := "__start__"

def finish : String := "__end__"

def pairs (ps : List (String × String)) : Value := .list (ps.map fun p => .tuple [.text p.1, .text p.2])

def document (w : Wiring) : Value :=
  .record [("nodes", pairs w.stations), ("edges", pairs w.ways), ("conditional", pairs w.branches),
    ("compile_args", Value.texts w.settings)]

end Wiring

end QueryDesk

namespace QueryDesk.Runner

def wire : Desk Unit := do
  match (← read).flow.wiringFailure with
  | some text => throw (.service text)
  | none => pure ()

def describe (plan : Wiring) : Desk Value := do
  wire
  pure plan.document

/-- Runs a workflow, and gives its state at the end. -/
def run (state : Value) : Desk Value := do
  Desk.send (.runFlow state)
  match (← read).flow.failure with
  | some text => throw (.service text)
  | none => return state.update (← read).flow.changes

inductive Sight where
  | state (v : Value)
  | event (v : Value)
  | other (v : Value)

/-- Hands the parts of a run to a watcher, one after the other, as long as the watcher wants to go on. -/
def passOn (state : Value) (watch : Sight → Desk Bool) : List Chunk → Desk Unit
  | [] => pure ()
  | c :: rest => do
    let goesOn ← match c with
      | .values fields => watch (.state (state.update fields))
      | .custom event => watch (.event event)
      | .other v => watch (.other v)
      | .fails text => throw (.service text)
      | .cancelled => throw .cancelled
    if goesOn then passOn state watch rest

def nextChunks : Desk (List Chunk) := do
  match (← get).runs with
  | [] => return (← read).flow.chunks
  | chunks :: rest => do
    modify fun t => { t with runs := rest }
    pure chunks

def watched (state config mode : Value) (watch : Sight → Desk Bool) : Desk Unit := do
  Desk.send (.watchFlow state config mode)
  passOn state watch (← nextChunks)

end QueryDesk.Runner
