import QueryDesk.Service.Desk

/-!
Connections to a database: the sample database next to the program, or a server named by the environment.
-/

namespace QueryDesk.Database

def sample : Value := .connection .null

def samplePath : Desk String := do return (← read).home ++ "/sample-db.db"

def shown (name : String) : Desk String := do return (← Desk.envValue name).display

def serverTarget : Desk String := do
  let server ← shown "DB_SERVER"
  let name ← shown "DB_NAME"
  let user ← Desk.env "DB_USER" ""
  let password ← Desk.env "DB_PASSWORD" ""
  let login := if user.isEmpty || password.isEmpty then ["Trusted_Connection=yes"]
    else ["UID=" ++ user, "PWD=" ++ password]
  return Text.join ";" (["DRIVER=\x7bODBC Driver 17 for SQL Server\x7d", "SERVER=" ++ server,
    "DATABASE=" ++ name] ++ login)

def target : Desk String := do
  if ← Desk.onSampleData then samplePath else serverTarget

def address : Desk String := do
  if ← Desk.onSampleData then return "sqlite:///" ++ (← samplePath)
  else return "mssql+pyodbc:///?odbc_connect=" ++ (← serverTarget)

def connect : Desk Value := do
  if ← Desk.onSampleData then pure sample
  else
    Desk.send (.connect (← serverTarget))
    match (← read).server with
    | some replies => pure (.connection replies)
    | none => throw (.service "no server")

def openByAddress : Desk Value := do
  let options : Fields := if ← Desk.onSampleData then
      [("engine_args", .record [("connect_args", .record [("check_same_thread", .bool false)])])]
    else []
  Desk.send (.openDatabase (← address) options)
  pure (.handle "SQLDatabase")

/-- What a statement found: the names of the columns, and the rows. -/
structure Found where
  columns : List Value
  rows : List Value

/-- The replies of a connection, for an operation called `use`. -/
def repliesOf (use : String) (connection : Value) : Attempt Fields :=
  match connection with
  | .connection (.record replies) => .ok replies
  | .connection _ => .ok []
  | v => .error (.noAttribute v.kind use)

/-- An error that a connection is set up to give. -/
def failWith (replies : Fields) (key : String) : Desk Unit :=
  match replies.lookup key with
  | some text => if text.truthy then throw (.service text.display) else pure ()
  | none => pure ()

def openCursor (connection : Value) : Desk Unit := do
  failWith (← repliesOf "cursor" connection) "cursor_error"

def closeCursor (connection : Value) : Desk Unit := do
  let replies ← repliesOf "cursor" connection
  Desk.send .closeCursor
  failWith replies "cursor_close_error"

/-- Closes a connection. The sample database is closed without a request. -/
def close (connection : Value) : Desk Unit := do
  let replies ← repliesOf "close" connection
  match connection with
  | .connection .null => pure ()
  | _ => do
    Desk.send .closeConnection
    failWith replies "close_error"

/-- A refusal of the database, from the parts that its driver reports. -/
def refusal (parts : List Value) : Fault :=
  let code := match parts with
    | .text c :: _ => c
    | _ => ""
  match parts with
  | [] => .database code ""
  | [part] => .database code part.display
  | parts => .database code (Value.tuple parts).display

/-- The rows of a reply; a number stands for so many numbered rows. -/
def rowsOf (reply : Value) : List Value :=
  match reply.peek "rows" with
  | .list rows => rows
  | .int n => (List.range n.toNat).map fun i => .list [.nat i]
  | _ => []

def execute (connection statement : Value) : Desk Found := do
  let replies ← repliesOf "cursor" connection
  Desk.send (.execute statement)
  let reply := (statement.text?.bind fun s => replies.lookup s).or (replies.lookup "*")
  match reply with
  | none => throw (.service "unscripted sql")
  | some reply =>
    match reply.peek "error", reply.peek "error_args" with
    | .null, .list parts => throw (refusal parts)
    | .null, _ =>
      let columns := match reply.peek "columns" with
        | .list names => names
        | _ => []
      return ⟨columns, rowsOf reply⟩
    | text, _ => throw (.service text.display)

end QueryDesk.Database
