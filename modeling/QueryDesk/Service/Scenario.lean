import QueryDesk.Domain.Files

/-!
Scenarios: a document that describes what a run finds around it and what the services reply, so a run can
be told beforehand and repeated without any service. An object with a field that begins with `$` stands
for a value that JSON has no form for.
-/

namespace QueryDesk.Scenario

def itemsIn : Value → List Value
  | .list xs => xs
  | _ => []

def fieldsIn : Value → Fields
  | .record fs => fs
  | _ => []

def fieldsIn? : Value → Option Fields
  | .record fs => some fs
  | _ => none

def octets : List Char → List Nat
  | a :: b :: rest => ((Json.hexDigit? a).getD 0 * 16 + (Json.hexDigit? b).getD 0) :: octets rest
  | _ => []

def roleOf : String → Role
  | "HumanMessage" => .human
  | "SystemMessage" => .system
  | _ => .assistant

/-- A node of a parsed statement, from its description. -/
def nodeFrom (fields : Fields) : Value :=
  match fields.lookup "node" with
  | some (.text kind) =>
    .node kind (fieldsIn ((fields.lookup "args").getD .null)) ((fields.lookup "text").bind Value.text?)
  | _ => .record fields

mutual

def node : Value → Value
  | .record fields => nodeFrom (nodeFields fields)
  | .list items => .list (nodeItems items)
  | v => v

def nodeItems : List Value → List Value
  | [] => []
  | v :: rest => node v :: nodeItems rest

def nodeFields : List (String × Value) → Fields
  | [] => []
  | f :: rest => nodeField f :: nodeFields rest

def nodeField : String × Value → String × Value
  | (k, .record fields) => if k == "args" then (k, .record (nodeFields fields)) else (k, node (.record fields))
  | (k, v) => (k, node v)

end

mutual

/-- An object reached by attributes, and so are the objects in it. -/
def entity : Value → Value
  | .record fields => .entity (entityFields fields) .null
  | .list items => .list (entityItems items)
  | v => v

def entityItems : List Value → List Value
  | [] => []
  | v :: rest => entity v :: entityItems rest

def entityFields : List (String × Value) → Fields
  | [] => []
  | f :: rest => entityField f :: entityFields rest

def entityField : String × Value → String × Value
  | (k, v) => (k, entity v)

end

def marked (fields : Fields) : Value :=
  match fields with
  | [("$db", replies)] => .connection replies
  | [("$ns", .record fs)] => .entity fs .null
  | [("$deepns", v)] => entity v
  | [("$model", .record fs)] => .entity fs (.record fs)
  | [("$node", v)] => node v
  | [("$decimal", .text s)] => .decimal s
  | [("$date", .text s)] => .date s
  | [("$datetime", .text s)] => .moment s
  | [("$bytes", .text s)] => .bytes (octets s.toList)
  | [("$set", .list xs)] => .set (Value.distinct xs)
  | fs =>
    match fs.lookup "$msg" with
    | some (.text role) => .message (roleOf role) ((fs.lookup "content").getD .null)
    | _ => .record fs

mutual

def value : Value → Value
  | .record fields => marked (valueFields fields)
  | .list items => .list (valueItems items)
  | v => v

def valueItems : List Value → List Value
  | [] => []
  | v :: rest => value v :: valueItems rest

def valueFields : List (String × Value) → Fields
  | [] => []
  | f :: rest => valueField f :: valueFields rest

def valueField : String × Value → String × Value
  | (k, v) => (k, value v)

end

def reply (doc : Value) : Attempt Value :=
  let value := doc.peek "value"
  match (doc.peek "kind").display with
  | "text" => .ok (.message .assistant (doc.peek "text"))
  | "object" => .ok (entity value)
  | "dict" => .ok value
  | "model" =>
    match value with
    | .record fs => .ok (.entity fs value)
    | v => .ok v
  | "deep_model" =>
    match entity value with
    | .entity fs _ => .ok (.entity fs value)
    | v => .ok v
  | "none" => .ok .null
  | "parse_error" => .error (.unparsed (doc.peek "message").display (doc.peek "llm_output").text?)
  | "timeout" => .error (.timeout "")
  | _ => .error (.service (doc.peek "message").display)

def chunk (doc : Value) : Chunk :=
  match fieldsIn doc with
  | ("values", v) :: _ => .values (fieldsIn v)
  | ("custom", v) :: _ => .custom v
  | ("raise", v) :: _ => .fails v.display
  | ("keyboard_interrupt", _) :: _ => .cancelled
  | (_, v) :: _ => .other v
  | [] => .other doc

def flow (doc : Value) : FlowScript :=
  let doc := value doc
  { failure := ((fieldsIn doc).lookup "raise").map Value.display
    changes := fieldsIn (doc.peek "update")
    chunks := (itemsIn (doc.peek "chunks")).map chunk
    wiringFailure := ((fieldsIn doc).lookup "compile_error").map Value.display }

def runs (doc : Value) : List (List Chunk) :=
  (itemsIn ((value doc).peek "streams")).map fun run => (itemsIn run).map chunk

def surroundings (home debugDirectory : String) (doc : Value) : Surroundings :=
  let find := fun (key : String) => (fieldsIn doc).lookup key
  { env := (fieldsIn (doc.peek "env")).map fun f => (f.1, f.2.display)
    now := (doc.peek "now").text?.getD "2025-01-15T10:30:00"
    files := (fieldsIn? (doc.peek "domain_files")).map fun fs => fs.map fun f => (f.1, f.2.text?)
    parses := (fieldsIn (doc.peek "parse")).map fun f => (f.1, node f.2)
    pins := (itemsIn (doc.peek "pin")).filterMap Value.text?
    watched := !(doc.peek "no_stream").truthy
    home := home
    debug := if (doc.peek "debug").truthy then some debugDirectory else none
    inspector := fieldsIn? (doc.peek "inspector")
    server := (fieldsIn? (doc.peek "pyodbc")).map .record
    flow := flow (doc.peek "graph")
    given := {
      tables := find "table_metadata"
      keys := find "foreign_keys"
      guidance := find "guidance"
      planGuidance := find "planner_guidance"
      strategyGuidance := find "pre_planner_guidance" } }

def traffic (doc : Value) : Traffic :=
  { replies := (itemsIn (doc.peek "llm")).map reply
    searches := itemsIn (doc.peek "vector")
    choices := itemsIn (doc.peek "choices")
    threads := (doc.peek "file").text?.elim .absent ThreadFile.ofText
    runs := runs (doc.peek "graph")
    session := fieldsIn (value (doc.peek "session"))
    lines := itemsIn (doc.peek "inputs") }

def grid (doc : Value) : Domain.Grid :=
  ⟨(itemsIn (doc.peek "columns")).map Value.display, (itemsIn (doc.peek "rows")).map itemsIn⟩

end QueryDesk.Scenario
