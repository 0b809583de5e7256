import QueryDesk.Benchmark.Gathering
import QueryDesk.Mapping.Sheet
import QueryDesk.Service.SettingsFile
import QueryDesk.Service.ThreadFile

/-!
A step of the program: it reads its surroundings, sends requests and takes replies, and ends in a result
or a fault. Every request is written down before its reply is taken, so a run can be read as the list of its
requests and the events it announced on the way; what was asked and announced before a fault is kept.
-/

namespace QueryDesk

inductive Request where
  /-- A client of a model or an embedding is set up. -/
  | construct (client : String) (options : Fields)
  /-- Replies are asked to fit a form. -/
  | structured (form : String) (options : Fields)
  | invoke (prompt : Value)
  | index (collection : String) (texts : List String)
  | search (query limit : Value)
  | searchScored (query limit : Value)
  | ask (question : Value)
  | runFlow (state : Value)
  /-- A workflow is run, its states being watched. -/
  | watchFlow (state config mode : Value)
  | execute (sql : Value)
  | closeCursor
  | closeConnection
  | connect (target : String)
  | createEngine (url : String)
  | disposeEngine
  | openDatabase (uri : String) (options : Fields)
  | parse (source dialect : Value)

/-- Something announced while a step runs. -/
inductive Event where
  | status (step status note : Value)
  | log (step note level : Value)

/-! ### What the engine that runs workflows does, told beforehand -/

inductive Chunk where
  /-- A state: the state at the beginning with some fields set. -/
  | values (fields : Fields)
  | custom (event : Value)
  | other (v : Value)
  | fails (text : String)
  | cancelled

structure FlowScript where
  failure : Option String := none
  changes : Fields := []
  chunks : List Chunk := []
  /-- The reason why the workflow cannot be put together. -/
  wiringFailure : Option String := none

/-! ### The world around a step -/

/-- Domain knowledge that is given from outside; what is absent is read from files. -/
structure Given where
  tables : Option Value := none
  keys : Option Value := none
  guidance : Option Value := none
  planGuidance : Option Value := none
  strategyGuidance : Option Value := none

/-- What a step can read but not change. -/
structure Surroundings where
  env : List (String × String) := []
  /-- The time on the clock, as `2025-01-15T10:30:00`. -/
  now : String := "2025-01-15T10:30:00"
  /-- Data files that stand in for the delivered ones; a name without text is a directory. -/
  files : Option (List (String × Option String)) := none
  parses : Fields := []
  /-- What the library that writes statements says of one that it cannot read. -/
  refusal : Value → Option String := fun _ => none
  /-- Whether a document fits the form of a given name, as far as it is checked. -/
  admits : String → Value → Bool := fun _ _ => true
  /-- The order in which the members of a set are met. -/
  pins : List String := []
  watched : Bool := true
  home : String := "."
  /-- The directory for debug files, if they are wanted. -/
  debug : Option String := none
  /-- What an inspection of the database finds, by table. -/
  inspector : Option Fields := none
  server : Option Value := none
  /-- Domain knowledge that was given instead of being read from files. -/
  given : Given := {}
  flow : FlowScript := {}
  /-- What a person has entered on the page, by key or label. -/
  widgets : Fields := []

/-- What a run has sent so far, and the replies still to come. -/
structure Traffic where
  requests : List Request := []
  events : List Event := []
  /-- Replies of the model, in the order in which they will be given. One that was to fit a form does so, or
  it is a fault that tells why it does not. -/
  replies : List (Attempt Value) := []
  /-- Results of searches, in the order in which they will be given. -/
  searches : List Value := []
  /-- Answers of a person, in the order in which they will be given. -/
  choices : List Value := []
  /-- The files of the debug directory once it exists; a name without text is a directory. -/
  debugFiles : Option (List (String × Option String)) := none
  workbooks : List (String × Sheet) := []
  threads : ThreadFile := .absent
  settings : SettingsFile := {}
  gathering : Benchmark.Gathering := {}
  /-- How many names were made up. -/
  names : Nat := 0
  /-- The parts of watched runs, run by run, that come before those every run has. -/
  runs : List (List Chunk) := []
  /-- The last state of the run that is being watched. -/
  runState : Value := .null
  outcome : Option Value := none
  page : List Value := []
  session : Fields := []
  console : List Value := []
  written : List (String × String) := []
  /-- Lines that a person will enter; null stands for an interruption. -/
  lines : List Value := []
  /-- The plan at hand is the last one of the plans so far: a repair of one is a repair of both. -/
  planIsLatest : Bool := false

abbrev Desk := ReaderT Surroundings (ExceptT Fault (StateM Traffic))

instance : MonadLift Attempt Desk where
  monadLift
    | .ok a => pure a
    | .error f => throw f

namespace Desk

def send (r : Request) : Desk Unit := modify fun t => { t with requests := t.requests ++ [r] }

def announce (e : Event) : Desk Unit := do
  if (← read).watched then modify fun t => { t with events := t.events ++ [e] }

def status (step state : String) (note : Value := .null) : Desk Unit :=
  announce (.status step state note)

def log (step note : String) (level : String := "info") : Desk Unit :=
  announce (.log step note level)

/-- Runs a step; a fault that a step may recover from is handed to `rescue`. -/
def recover {α : Type} (step : Desk α) (rescue : Fault → Desk α) : Desk α :=
  tryCatch step fun f => if f.recoverable then rescue f else throw f

def carryOut {α : Type} (step : Desk α) (s : Surroundings) (t : Traffic) : Attempt α × Traffic :=
  (step.run s).run.run t

def env? (name : String) : Desk (Option String) := do return (← read).env.lookup name

def env (name dflt : String) : Desk String := do return (← env? name).getD dflt

def envValue (name : String) : Desk Value := do return Value.ofText? (← env? name)

def onSampleData : Desk Bool := do return Text.lower (← env "USE_TEST_DB" "") == "true"

def ask (question : Value) : Desk Value := do
  send (.ask question)
  match (← get).choices with
  | [] => throw .interrupted
  | c :: rest => do
    modify fun t => { t with choices := rest }
    pure c

def freshName : Desk String := do
  modify fun t => { t with names := t.names + 1 }
  return s!"id-{(← get).names}"

def walk : Desk (List Value → List Value) := do return Value.arranged (← read).pins

def invoke (prompt : Value) : Desk Value := do
  send (.invoke prompt)
  match (← get).replies with
  | [] => throw (.service "no scripted response")
  | r :: rest => do
    modify fun t => { t with replies := rest }
    match r with
    | .ok v => pure v
    | .error f => throw f

end Desk

end QueryDesk
