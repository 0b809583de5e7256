import QueryDesk.Domain.Files
import QueryDesk.Page.Progress
import QueryDesk.Service.Moment

/-!
The whole page: the queries so far on the left, the question with its wishes on the right, and below them what
was found.
-/

namespace QueryDesk.Page

/-- What the page is set up with: whether it is about the sample database, and questions to choose from. -/
structure Setup where
  onSample : Bool
  samples : Value

def sampleFile (onSample : Bool) : String :=
  if onSample then "test-db-queries.json" else Domain.directory ++ "domain-specific-sample-queries.json"

def samples (onSample : Bool) : Desk Value :=
  Desk.recover (Domain.readDocument (sampleFile onSample)) fun _ => pure (.record [])

def beginSession : Desk Unit := do
  rememberFirst "selected_thread_id" (pure .null)
  rememberFirst "thread_states" Threads.states
  rememberFirst "question_input" (pure "")
  rememberFirst "loaded_state" (pure .null)
  rememberFirst "current_dataframe" (pure .null)
  rememberFirst "current_output" (pure .null)
  rememberFirst "show_results" (pure (.bool false))
  rememberFirst "pending_patch" (pure .null)

def forget : Desk Unit := do
  remember "selected_thread_id" .null
  remember "loaded_state" .null
  remember "current_output" .null
  remember "show_results" (.bool false)
  remember "current_dataframe" .null

/-- A moment in the list of queries; an empty text if it names none. -/
def shortMoment (v : Value) : String :=
  match v.text?.bind Clock.read? with
  | none => ""
  | some m =>
    let two := Text.zeroPadded 2
    two m.month ++ "/" ++ two m.day ++ " " ++ two m.hour ++ ":" ++ two m.minute

/-- A question in the list of queries, cut after fifty characters. -/
def shortQuestion (question : Value) : Attempt String := do
  if (← question.size) ≤ 50 then return question.display
  match question.text? with
  | some s => return Text.take s 50 ++ "..."
  | none => do
    let _ ← question.firstItems 50
    throw (.mismatch s!"can only concatenate {question.kind} (not \"str\") to {question.kind}")

/-- A thread in the list of queries; pressing it shows what it found. -/
def threadButton (name : String) (thread : Value) : Desk Unit := do
  let question ← thread.getD "original_query" "Untitled"
  let queries ← thread.getD "queries" (.list [])
  let moment := shortMoment (← thread.getD "last_updated" "")
  let short ← shortQuestion question
  let selected := (← remembered "selected_thread_id") == .text name
  let mark := if selected then "🔵 " else ""
  if ← button s!"{mark}{short}\n`{moment}`" [("key", .text s!"query_{name}"),
      ("use_container_width", .bool true), ("type", if selected then "primary" else "secondary")] then
    remember "selected_thread_id" (.text name)
    remember "current_output" .null
    if queries.truthy then remember "loaded_state" (← (← queries.item 0).get "state")
    redraw

def recentQueries : Desk Unit := do
  put "subheader" ["📜 Recent Queries"]
  if ← button "➕ New Query" [("use_container_width", .bool true), ("type", "primary")] then
    forget
    remember "question_input" ""
    redraw
  let threads ← (← remembered "thread_states").getD "threads" (.record [])
  if threads.truthy then
    put "container" [] [("height", .int 200)]
    within "container" do
      let dated ← (← threads.entries).mapM fun t =>
        (do return (← t.2.getD "last_updated" "", t) : Attempt (Value × String × Value))
      for (name, thread) in ← Value.ranked true dated do threadButton name thread
  else put "info" ["No queries yet. Enter a question below to get started!"]

def ownQuestion : String := "Custom Query"

def sampleUnder (samples category : Value) : Attempt Value := do
  let category ← category.hashable
  match category.text? with
  | some name => samples.field name
  | none => throw (.missingKey category.display category.quoted)

def chosenQuestion (setup : Setup) : Desk Value := do
  columns (.list [.int 1, .int 1])
  let category ← inColumn 0 do
    let names ← setup.samples.fieldsFor "keys"
    choice "selectbox" "Select a query category" (.text ownQuestion :: names.map fun f => .text f.1)
  let chosen ← inColumn 1 do
    if category == .text ownQuestion then pure (Value.text "")
    else choice "selectbox" "Select a sample query" (← (← sampleUnder setup.samples category).items)
  let question ← remembered "question_input"
  return if question.truthy && !(question == chosen) then question else chosen

def timeWindows : List String := ["All Time", "Last 30 Days", "Last 60 Days", "Last 90 Days", "Last Year"]

def questionForm (setup : Setup) : Desk Workflow.Question := do
  let chosen ← chosenQuestion setup
  let question ← valued "text_area" "What would you like to know about the database?" [("value", chosen),
    ("height", .int 100), ("placeholder", if setup.onSample then
        "Find tracks that belong to a specific genre, like 'Rock'."
      else "e.g., What are the top 5 CVEs with the highest CVSS scores?")]
  columns (.int 3)
  let sortOrder ← inColumn 0 (choice "selectbox" "Sort Order" ["Default", "Ascending", "Descending"]
    [("help", "Choose the sort order for the results")])
  let limit ← inColumn 1 (valued "slider" "Limit Results" [("min_value", .int 1), ("max_value", .int 1000000),
    ("value", .int 500), ("step", .int 100),
    ("help", "Limit the number of returned records (default: 500, max: 1,000,000)")])
  let timeFilter ← inColumn 2 (choice "selectbox" "Time Filter" (timeWindows.map .text)
    [("help", "Filter results by time period"), ("index", .int 0)])
  return { question, sortOrder, limit, timeFilter }

def renewControls : Desk Unit := do
  remember "controls_generation" (← ((← remembered? "controls_generation").getD (.int 0)).next)

def pendingChanges : Desk Unit := do
  if ((← remembered? "apply_batch_patches").getD .null).truthy then
    remember "apply_batch_patches" (.bool false)
    let waiting := (← remembered? "pending_batch_patches").getD (.list [])
    renewControls
    if waiting.truthy then applyWaiting waiting
  else
    let change := (← remembered? "pending_patch").getD .null
    if change.truthy then
      remember "pending_patch" .null
      renewControls
      applyOne change

def downloadButton : Desk Unit := do
  match ← remembered "current_dataframe" with
  | .null => pure ()
  | .frame rows =>
    if !(columnNames rows).isEmpty then
      put "download_button" ["Download CSV", .bytes [], "query_results.csv", "text/csv"]
        [("key", "download-csv-main"), ("use_container_width", .bool true)]
  | v => throw (.noAttribute v.kind "empty")

/-- The buttons below the question, and whether it is to be run. -/
def buttons : Desk Bool := do
  columns (.list [.int 1, .int 1, .int 4])
  let pressed ← inColumn 0 (button "Generate Query" [("type", "primary"), ("use_container_width", .bool true)])
  inColumn 1 downloadButton
  pure pressed

/-- What was found before: in the run at hand, or in a thread that was chosen. -/
def earlierResults : Desk Unit := do
  let current ← remembered "current_output"
  let loaded ← remembered "loaded_state"
  if current.truthy then remember "current_dataframe" (← results current freshLabel)
  else if loaded.truthy then
    put "info" ["📂 Viewing saved query results. Click 'Generate Query' to run a new query."]
    remember "current_dataframe" (← results loaded "Loaded from history")
    remember "show_results" (.bool true)

def draw (setup : Setup) : Desk Unit := do
  beginSession
  columns (.list [.float 1.5, .float 3.5])
  inColumn 0 recentQueries
  let question ← inColumn 1 (questionForm setup)
  divider
  pendingChanges
  if ← buttons then
    if question.question.truthy then
      forget
      runQuestion question
    else put "warning" ["Please enter a question first."]
  else earlierResults

end QueryDesk.Page
