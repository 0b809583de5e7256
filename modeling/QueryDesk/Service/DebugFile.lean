import QueryDesk.Number.Literal
import QueryDesk.Service.Desk
import QueryDesk.Text.Pattern

/-!
Debug files: what a step was asked and what it answered, for people who look into a run afterwards. They
are written only when a directory for them is given. Writing never makes a step fail; what stands in a
file is what was written before a value that has no JSON form.
-/

namespace QueryDesk.DebugFile

/-- Dates are written as text and exact decimals as numbers. -/
def other (v : Value) : Attempt String :=
  match v with
  | .date d => .ok (Json.string false d)
  | .moment d => .ok (Json.string false d)
  | .decimal d =>
    match Number.readFloat? d with
    | some x => .ok (Json.number x)
    | none => Json.refuse v
  | _ => Json.refuse v

/-- Two blanks for every level, characters as they are, dates and decimals in their own form. -/
def style : Json.Style := { Json.Style.file with other := other }

def fullName (name : String) : String :=
  if Text.startsWith name "debug_" then name else "debug_" ++ name

def prepare : Desk Unit :=
  modify fun t => { t with debugFiles := some (t.debugFiles.getD []) }

def find? (name : String) : Desk (Option (Option String)) := do
  return ((← get).debugFiles.getD []).lookup name

/-- Puts a file with a text under a name, or a directory if there is no text. -/
def place (name : String) (text : Option String) : Desk Unit :=
  modify fun t =>
    let kept := (t.debugFiles.getD []).filter fun f => f.1 != name
    { t with debugFiles := some (kept ++ [(name, text)]) }

def store (name text : String) : Desk Unit := place name (some text)

/-- Whether a file can be written: no directory is in its place and none has to be made for it. -/
def isWritable (name : String) : Desk Bool := do
  if Text.contains name "/" then return false
  return match ← find? name with
    | some none => false
    | _ => true

/-- Writes a document into a file; the path if all of it could be written. -/
def put (directory name : String) (data : Value) : Desk Value := do
  if ← isWritable name then
    match Json.write style data with
    | .ok text => do
      store name text
      pure (.text (directory ++ "/" ++ name))
    | .error _ => do
      store name (Json.written style data)
      pure .null
  else pure .null

/-- The data with the time in front; a time that the data brings stays. -/
def stamped (now : String) (data : Value) : Attempt Value :=
  match data with
  | .record fields => .ok (.record (Fields.putAll [("timestamp", .text now)] fields))
  | v => .error (.mismatch s!"'{v.kind}' object is not a mapping")

def quietly (step : Desk Value) : Desk Value := Desk.recover step fun _ => pure .null

/-- Does nothing unless there is a directory for debug files. -/
def whenWanted (step : String → Desk Value) (unwanted : Value := .null) : Desk Value := do
  match (← read).debug with
  | some directory => step directory
  | none => pure unwanted

/-- Saves a document. The path if it was saved, otherwise null. -/
def save (name data : Value) (timed : Bool := true) : Desk Value :=
  whenWanted fun directory => quietly do
    prepare
    let data ← if timed then stamped (← read).now data else pure data
    put directory (fullName (← name.textFor "startswith")) data

/-- A model's reply as a document: its plain form if it has one, otherwise its text. -/
def replyDocument (reply : Value) : Attempt Value :=
  match reply with
  | .entity fields dump =>
    if !dump.isNull then .ok dump
    else if Fields.has fields "model_dump" || Fields.has fields "dict" then
      .error (.mismatch "not callable")
    else .ok (.text reply.display)
  | .record _ => .ok reply
  | v => .ok (.text v.display)

/-- Saves what a model was asked and what it answered. -/
def saveExchange (step prompt reply : Value) (model : Value := .null) (notes : Value := .null) :
    Desk Value :=
  whenWanted fun _ => quietly do
    let reply ← replyDocument reply
    let optional := fun (key : String) (v : Value) => if v.truthy then [(key, v)] else []
    save (.text s!"{step.display}_llm_interaction.json")
      (.record ([("step", step), ("prompt", prompt), ("response", reply)] ++
        optional "model" model ++ optional "metadata" notes))

/-- Saves the state of a run: the named parts, or all but the conversation and the connection. -/
def saveState (step state keys : Value) : Desk Value :=
  whenWanted fun _ => quietly do
    let fields ←
      if keys.truthy then do
        let found ← (← keys.items).filterMapM fun k => do
          if ← k.isIn state then
            return some (k.display, ← state.lookupD k .null)
          else return none
        pure (Fields.putAll [] found)
      else do
        let all ← state.entries
        pure (all.filter fun f => f.1 != "messages" && f.1 != "connection")
    save (.text s!"{step.display}_state.json") (.record [("step", step), ("state", .record fields)])

/-- The document of a file that collects entries under a key. -/
def collection (name : String) (key : Value) : Desk Value := do
  match ← find? name with
  | some (some text) => liftM (Json.read text)
  | some none => throw (.isDirectory name)
  | none => pure (.record [(key.display, .list [])])

/-- A collection with one more entry under a key; a key that is new begins a list. -/
def withEntry (known key entry : Value) : Attempt Value := do
  let field := key.display
  let known ← if ← key.isIn known then pure known else known.setField field (.list [])
  match ← known.field field with
  | .list entries => do
    let entries := entries ++ [entry]
    let known ← known.setField field (.list entries)
    known.setField "total_count" (.nat entries.length)
  | v => throw (.noAttribute v.kind "append")

/-- Adds an entry to the list that a file collects. -/
def append (name data : Value) (key : Value := "iterations") : Desk Value :=
  whenWanted fun directory => quietly do
    prepare
    let name := fullName (← name.textFor "startswith")
    if Text.contains name "/" then throw (.noFile name)
    let known ← collection name key
    let entry ← stamped (← read).now data
    put directory name (← withEntry known key entry)

/-- Removes the files that fit one of the patterns; how many there were. -/
def clear (pattern : Value) : Desk Value :=
  whenWanted (fun _ => do
    prepare
    let patterns ←
      if pattern.truthy then
        match pattern.text? with
        | some p => pure [p]
        | none => return .nat 0
      else pure ["*.json", "*.txt", "*.md"]
    let files := (← get).debugFiles.getD []
    let goes := fun f : String × Option String =>
      f.2.isSome && patterns.any fun p => Text.fitsPattern p f.1
    modify fun t => { t with debugFiles := some (files.filter fun f => !goes f) }
    return .nat (files.filter goes).length) (.nat 0)

end QueryDesk.DebugFile
