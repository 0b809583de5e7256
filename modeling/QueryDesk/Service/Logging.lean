import QueryDesk.Service.Desk

/-!
Where log records go, and what is written of each. Every process has a logger of its own with two files, one
for all records and one for errors; a console is added if it is wanted. A process is configured once.
-/

namespace QueryDesk.Logging

def levels : List (String × Nat) := [("CRITICAL", 50), ("FATAL", 50), ("ERROR", 40), ("WARNING", 30),
  ("WARN", 30), ("INFO", 20), ("DEBUG", 10), ("NOTSET", 0)]

/-- The level with a name, in whatever case; an unknown name means information. -/
def levelNamed (name : String) : Nat := (levels.lookup (Text.upper name)).getD 20

def levelText (level : Value) : String :=
  ((levels.find? fun l => Value.nat l.2 == level).map (·.1)).getD s!"Level {level.display}"

/-- Where the records of a process go. -/
structure Logger where
  process : String
  level : Nat
  console : Bool

namespace Logger

def name (l : Logger) : String := "sql_query_assistant." ++ l.process

def handlers (l : Logger) : List (String × Nat) :=
  [("TimedRotatingFileHandler", l.level), ("TimedRotatingFileHandler", 40)] ++
    (if l.console then [("RichHandler", l.level)] else [])

end Logger

/-- The logger that a request asks for; a console is wanted unless the request says otherwise. -/
def wanted (request : Fields) : Logger where
  process := ((request.lookup "process_name").getD "app").display
  level := levelNamed ((request.lookup "level").getD "INFO").display
  console := ((request.lookup "console_output").getD (.bool true)).truthy

/-- The loggers with one for a process: the one there is, or else a new one. -/
def configure (known : List Logger) (wanted : Logger) : List Logger × Logger :=
  match known.find? fun l => l.process == wanted.process with
  | some l => (known, l)
  | none => (known ++ [wanted], wanted)

/-- How a logger stands among those that are known. -/
def describe (known : List Logger) (l : Logger) : Value :=
  .record [("name", .text l.name), ("level", .nat l.level), ("propagate", .bool false),
    ("handlers", .list (l.handlers.map fun h => .list [.text h.1, .nat h.2])),
    ("configured", Value.texts ((known.map (·.process)).mergeSort fun a b => !(b < a)))]

/-- The name of a file without its last extension; dots that lead the name are a part of it. -/
def stem (file : String) : String :=
  let leading := file.toList.takeWhile (· == '.')
  match Text.split (Text.drop file leading.length) "." with
  | [] | [_] => file
  | parts => String.ofList leading ++ Text.join "." parts.dropLast

/-- The module that a record comes from, by the path of its file. -/
def moduleOf (path : Value) : String :=
  match path.text? with
  | some p => stem ((Text.split p "/").getLast?.getD "")
  | none => "Unknown module"

def errorText (kind text : String) : String := if kind == "KeyError" then Text.quoted text else text

/-- What is written of a record beside its message. -/
def fields (now : String) (record : Value) : Value :=
  let (kind, text) := match record.peek "exc" with
    | .list [kind, text] => (kind, Value.text (errorText kind.display text.display))
    | _ => (.null, .null)
  .record [("timestamp", .text now), ("level", .text (levelText (record.peek "level"))),
    ("function", record.peek "func"), ("module", .text (moduleOf (record.peek "path"))), ("error_type", kind),
    ("error_message", text)]

end QueryDesk.Logging
