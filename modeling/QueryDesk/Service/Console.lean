import QueryDesk.Service.Desk

/-!
The console of a person, and the files that are written where the person works.
-/

namespace QueryDesk.Console

def show_ (v : Value) : Desk Unit := modify fun t => { t with console := t.console ++ [v] }

def say (line : String) : Desk Unit := show_ (.text line)

def readLine (prompt : String) : Desk String := do
  show_ (.record [("input", .text prompt)])
  match (← get).lines with
  | [] => throw .endOfInput
  | line :: rest => do
    modify fun t => { t with lines := rest }
    match line with
    | .null => throw .cancelled
    | line => pure line.display

def transcript (t : Traffic) : String := String.join (t.console.map fun line => line.display ++ "\n")

def straight (path : String) : String :=
  Text.join "/" ((Text.split path "/").filter fun part => part != "." && !part.isEmpty)

/-- Writes a file where the person works; there are no directories. -/
def writeFile (path text : String) : Desk Unit := do
  if path.isEmpty || Text.contains (straight path) "/" || Text.startsWith path "/" then
    throw (.noFile s!"[Errno 2] No such file or directory: {Text.quoted path}")
  if (straight path).isEmpty || Text.endsWith path "/" then
    throw (.isDirectory s!"[Errno 21] Is a directory: {Text.quoted path}")
  modify fun t => { t with written := (straight path, text) :: t.written.filter fun f => f.1 != straight path }

end QueryDesk.Console
