import QueryDesk.Domain.Conversion
import QueryDesk.Mapping.EvaluationRun
import QueryDesk.Mapping.Session
import QueryDesk.Service.Scenario
import QueryDesk.Workflow.Run

/-!
The command line. The first argument names what is to be done, the others are its options. What the services
will reply is read from standard input as one JSON document; a sheet is a part of that document. What is said
goes to standard output, and files are written where the command is run.
-/

namespace QueryDesk.Commands

def named : List (String × (List String → Value → Desk Int)) := [
  ("map", fun args _ => Mapping.sessionCommand args),
  ("evaluate", fun args _ => do
    Mapping.evaluationCommand args
    return 0),
  ("convert-keys", fun _ doc => do
    Domain.convertKeys (Scenario.grid doc)
    return 0),
  ("convert-facts", fun _ doc => do
    Domain.convertFacts (Scenario.grid doc)
    return 0),
  ("ask", fun args _ => do
    let answer ← Workflow.ask { question := .text (Text.join " " args) }
    Console.show_ answer
    return 0)]

def usage : String := "usage: querydesk (" ++ Text.join " | " (named.map (·.1)) ++ ") [options] < scenario.json\n"

/-- What a command leaves: what it said, the files it wrote, and the code it ends with. -/
structure Ending where
  said : String
  files : List (String × String) := []
  code : Nat := 0

def carryOut (args : List String) (doc : Value) : Ending :=
  match args with
  | [] => ⟨usage, [], 2⟩
  | name :: args =>
    match named.lookup name with
    | none => ⟨usage, [], 2⟩
    | some run =>
      let (result, t) := Desk.carryOut (run args doc) (Scenario.surroundings "." "debug" doc) (Scenario.traffic doc)
      let said := Console.transcript t
      match result with
      | .ok code => ⟨said, t.written, code.toNat⟩
      | .error (.exit code) => ⟨said, t.written, code.toNat⟩
      | .error f => ⟨said ++ f.message ++ "\n", t.written, 1⟩

def documentOf (text : String) : Value := (Json.read text).toOption.getD (.record [])

end QueryDesk.Commands

/-- Reads the scenario, carries the command out, and prints what it says. -/
def main (args : List String) : IO UInt32 := do
  let text ← (← IO.getStdin).readToEnd
  let ending := QueryDesk.Commands.carryOut args (QueryDesk.Commands.documentOf text)
  IO.print ending.said
  for (name, text) in ending.files do
    IO.FS.writeFile name text
  return ending.code.toUInt32
