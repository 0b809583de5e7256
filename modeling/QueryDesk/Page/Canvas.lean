import QueryDesk.Service.Desk

/-!
A page as the list of what was put on it, in order. What a person has entered is looked up where a widget is
put; a widget that was left alone has the value it was put with. The page remembers values between two
drawings under names.
-/

namespace QueryDesk.Page

def put (name : String) (args : List Value) (options : Fields := []) : Desk Unit :=
  modify fun t => { t with page := t.page ++ [.list [.text name, .list args, .record options]] }

def write (text : String) : Desk Unit := put "write" [.text text]

def divider : Desk Unit := put "divider" []

/-- Draws inside a part of the page. The part is left whatever happens inside. -/
def within {α : Type} (part : String) (inside : Desk α) : Desk α := do
  put "with" [.text part]
  let a ← tryCatch inside fun f => do
    put "end" [.text part]
    throw f
  put "end" [.text part]
  pure a

def expander {α : Type} (label : String) (options : Fields) (inside : Desk α) : Desk α := do
  put "expander" [.text label] options
  within "expander" inside

def columns (layout : Value) : Desk Unit := put "columns" [layout]

def inColumn {α : Type} (i : Nat) (inside : Desk α) : Desk α := within s!"columns[{i}]" inside

def tabs (labels : List String) : Desk Unit := put "tabs" [Value.texts labels]

def inTab {α : Type} (i : Nat) (inside : Desk α) : Desk α := within s!"tabs[{i}]" inside

/-- What a person has entered in a widget, by its key or else by its label. -/
def entered? (label : Value) (options : Fields) : Desk (Option Value) := do
  let entries := (← read).widgets
  let under := fun (v : Option Value) => (v.bind Value.text?).bind fun k => entries.lookup k
  return (under (options.lookup "key")).or (under (some label))

/-- A widget: what was entered, or else `dflt`. -/
def widget (kind : String) (label : Value) (args : List Value) (options : Fields) (dflt : Value) :
    Desk Value := do
  put kind (label :: args) options
  return (← entered? label options).getD dflt

def button (label : String) (options : Fields) : Desk Bool := do
  return (← widget "button" (.text label) [] options (.bool false)).truthy

def valued (kind : String) (label : Value) (options : Fields) : Desk Value :=
  widget kind label [] options ((options.lookup "value").getD .null)

def choice (kind label : String) (choices : List Value) (options : Fields := []) : Desk Value :=
  let position := (((options.lookup "index").bind Value.int?).getD 0).toNat
  widget kind (.text label) [.list choices] options (choices[position]?.getD .null)

def redraw {α : Type} : Desk α := do
  put "rerun" []
  throw .redraw

def remembered? (name : String) : Desk (Option Value) := do return (← get).session.lookup name

def remembered (name : String) : Desk Value := do
  match ← remembered? name with
  | some v => pure v
  | none => throw (.noAttribute "SessionState" name)

def remember (name : String) (v : Value) : Desk Unit :=
  modify fun t => { t with session := Fields.put t.session name v }

def rememberFirst (name : String) (v : Desk Value) : Desk Unit := do
  if (← remembered? name).isNone then remember name (← v)

/-!
### Changes to a plan that a person asks for

A change is either carried out when the page is drawn next, or put behind others that will be carried out together.
-/

/-- What is needed to carry out a change: the change itself, and the run whose plan it changes. -/
def pendingChange (run plan schema change : Value) : Attempt Value := do
  return .record [("operation", change), ("executed_plan", plan), ("filtered_schema", schema),
    ("thread_id", ← run.get "thread_id"), ("user_question", ← run.getD "user_question" "")]

/-- Puts a change behind those that wait. -/
def queueChange (change : Value) : Desk Unit := do
  rememberFirst "pending_batch_patches" (pure (.list []))
  match ← remembered "pending_batch_patches" with
  | .list waiting => remember "pending_batch_patches" (.list (waiting ++ [change]))
  | v => throw (.noAttribute v.kind "append")

/-- Offers a change of a run. It needs the plan of the run and its schema. -/
def offer (what : String) (run : Value) (change : Attempt Value) (atOnce : Bool) : Desk Unit :=
  Desk.recover (do
    let plan ← run.get "executed_plan"
    let schema ← run.get "filtered_schema"
    let _ ← run.get "thread_id"
    if !plan.truthy || !schema.truthy then
      put "error" ["Cannot apply patch: missing executed plan or schema"]
    else do
      let pending ← pendingChange run plan schema (← change)
      if atOnce then
        remember "pending_patch" pending
        remember "skip_modification_controls" (.bool true)
        redraw
      else queueChange pending) fun f => put "error" [.text s!"Error applying {what} patch: {f.message}"]

def changeColumn (run table column operation atOnce : Value) : Desk Unit :=
  offer "column" run (.ok (.record [("operation", operation), ("table", table), ("column", column)]))
    atOnce.truthy

def orderBy (name direction : Value) : List Value → Attempt (List Value)
  | [] => .ok []
  | column :: rest => do
    if (← column.field "display_name") == name then
      return [.record [("table", ← column.field "table"), ("column", ← column.field "column"),
        ("direction", direction)]]
    else orderBy name direction rest

def unsorted : String := "No sorting"

def changeOrder (run name direction columns atOnce : Value) : Desk Unit :=
  offer "sort" run (do
    let order ← if name == .text unsorted then pure [] else orderBy name direction (← columns.items)
    return .record [("operation", "modify_order_by"), ("order_by", .list order)]) atOnce.truthy

def changeLimit (run limit atOnce : Value) : Desk Unit :=
  offer "limit" run (.ok (.record [("operation", "modify_limit"), ("limit", limit)])) atOnce.truthy

end QueryDesk.Page
