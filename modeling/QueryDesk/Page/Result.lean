import QueryDesk.Page.Controls

/-!
What a run has found, on the page: the query, the plan behind it, what was corrected on the way, the controls
to change it, and the rows.
-/

namespace QueryDesk.Page

/-- The rows of a result as a table: a text is read, and what cannot be read has no rows. -/
def rowsOf (result : Value) : Value :=
  let data := match result.text? with
    | some s => ((Json.read s).toOption).getD .null
    | none => result
  match data with
  | .list rows => .frame rows
  | _ => .frame []

/-- The names of the columns of some rows, each where it is met first. -/
def columnNames (rows : List Value) : List String :=
  (rows.flatMap fun r =>
    match r with
    | .record fields => fields.map (·.1)
    | _ => []).eraseDups

/-- The figures of a number in groups of three; what follows the whole part stays. -/
def grouped (v : Value) : String :=
  let s := match v.int? with
    | some n => toString n
    | none => v.display
  let sign := s.toList.takeWhile (· == '-')
  let rest := s.toList.drop sign.length
  let digits := rest.takeWhile Char.isDigit
  String.ofList (sign ++ (Number.groupsFrom digits.reverse).reverse ++ rest.drop digits.length)

/-- The suggestions of how a question could be made clearer, one of which may be taken. -/
def suggestions (run : Value) : Desk Unit := do
  let all ← run.getD "clarification_suggestions" (.list [])
  if all.truthy then
    put "subheader" ["💡 Clarification Options"]
    write "Click on a clarification to refine your query:"
    for (suggestion, i) in (← all.items).zipIdx 1 do
      let moment ← run.getD "timestamp" ""
      if ← button s!"{i}. {suggestion.display}" [("key", .text s!"suggestion_{i}_{moment.display}"),
          ("use_container_width", .bool true), ("type", "secondary")] then
        let question ← run.getD "user_question" (← remembered "question_input")
        remember "question_input" (.text s!"{question.display}. {suggestion.display}")
        redraw
    divider

def unclearParts (run : Value) : Desk Unit := do
  put "warning" [.text ("⚠️ Your question may benefit from clarification. " ++
    "The query was executed with best-guess assumptions - results are shown below. " ++
    "You can select a clarification to refine the query.")]
  suggestions run
  let plan ← run.get "planner_output"
  if plan.truthy then
    expander "Planner Analysis (Ambiguities Detected)" [("icon", "🔍"), ("expanded", .bool false)] do
      let intent ← plan.getD "intent_summary" "N/A"
      write s!"**Intent:** {intent.display}"
      let unclear ← plan.getD "ambiguities" (.list [])
      if unclear.truthy then
        write "**Ambiguities:**"
        for u in ← unclear.items do write s!"  - {u.display}"
      put "json" [plan]

def assumptions (plan : Value) : Desk Unit := do
  match plan with
  | .record _ => do
    let unclear ← plan.getD "ambiguities" (.list [])
    if unclear.truthy then
      expander "⚠️ Planner Ambiguities & Assumptions" [("icon", "💭"), ("expanded", .bool false)] do
        write "The query planner detected the following ambiguities or made assumptions:"
        for (u, i) in (← unclear.items).zipIdx 1 do write s!"{i}. {u.display}"
        put "info" [.text ("💡 **Tip:** If the results don't match your expectations, " ++
          "try asking a follow-up question to clarify these points.")]
  | _ => pure ()

def joinLine (i : Nat) (join : Value) : Attempt String := do
  let fromTable ← join.get "from_table"
  let fromColumn ← join.get "from_column"
  let toTable ← join.get "to_table"
  let toColumn ← join.get "to_column"
  let kind ← join.getD "join_type" "inner"
  return s!"  {i}. `{fromTable.display}.{fromColumn.display}` → `{toTable.display}.{toColumn.display}` " ++
    s!"({kind.display})"

def planFacts (plan : Value) : Desk Unit := do
  let intent ← plan.getD "intent_summary" "N/A"
  write s!"**Intent:** {intent.display}"
  let decision ← plan.getD "decision" "N/A"
  write s!"**Decision:** {decision.display}"
  let selections ← plan.getD "selections" (.list [])
  if selections.truthy then
    let tables ← (← selections.items).mapM fun s => (s.get "table" : Attempt Value)
    let names := Text.join ", " (← Value.textItems tables)
    write s!"**Tables:** {names}"
  let joins ← plan.getD "join_edges" (.list [])
  if joins.truthy then
    let count ← joins.size
    write s!"**Joins:** {count} join(s)"
    for (join, i) in (← joins.items).zipIdx 1 do write (← joinLine i join)

def planUsed (run : Value) : Desk Unit := do
  let plan ← run.get "planner_output"
  if plan.truthy then
    expander "Query Plan Used" [("icon", "🗺️")] do
      write "This is the plan that was used to generate the executed query."
      match plan with
      | .record _ => planFacts plan
      | _ => pure ()
      divider
      write "**Full Plan JSON:**"
      put "json" [plan]

structure AttemptTexts where
  heading : String
  word : String
  query : String
  strategy : String
  plan : String

def attempt (texts : AttemptTexts) (reason : Value → Desk Unit) (record : Value) : Desk Unit := do
  let iteration ← record.field "iteration"
  write s!"**{texts.word} {iteration.display}:**"
  reason record
  let reasoning ← record.field "reasoning"
  write s!"💡 **Reasoning:** {reasoning.display}"
  write texts.query
  put "code" [← record.field "query"] [("language", "sql")]
  expander texts.strategy [] (do put "markdown" [← record.field "strategy"])
  expander texts.plan [] (do put "json" [← record.field "plan"])
  divider

def attempts (texts : AttemptTexts) (reason : Value → Desk Unit) (records : Value) : Desk Unit := do
  if records.truthy then
    put "subheader" [.text texts.heading]
    let count ← records.size
    write s!"Total attempts: {count}"
    for record in ← records.items do attempt texts reason record

/-- What was corrected and refined on the way. -/
def history (run : Value) : Desk Unit := do
  let corrected ← run.get "correction_history"
  let refined ← run.get "refinement_history"
  if corrected.truthy || refined.truthy then
    expander "Query History" [("icon", "📜")] do
      columns (.int 2)
      inColumn 0 (attempts ⟨"Error Corrections", "Attempt", "**Original failing query:**",
        "View revised strategy", "View corrected plan"⟩ (fun record => do
          let error ← record.field "error"
          write s!"❌ **Error:** `{error.display}`") corrected)
      inColumn 1 (attempts ⟨"Query Refinements", "Refinement", "**Original query:**",
        "View refined strategy", "View refined plan"⟩ (fun _ =>
          write "⚠️ Previous query returned no results") refined)

def recordCount (run : Value) (count : Nat) : Desk Unit := do
  let total ← run.get "total_records_available"
  let more ← if total.truthy then liftM (total.above (.nat count)) else pure false
  let shown := grouped (.nat count)
  if more then
    let all := grouped total
    put "caption" [.text s!"📊 Showing **{shown}** of **{all}** records (limit applied)"]
  else
    let plural := if count == 1 then "" else "s"
    put "caption" [.text s!"📊 Showing **{shown}** record{plural}"]

def rows (run : Value) (label : Value) (unclear : Bool) : Desk Value := do
  let result ← run.field "result"
  let found := if result.truthy then rowsOf result else .frame []
  let records := match found with
    | .frame rs => rs
    | _ => []
  let names := columnNames records
  inTab 0 do
    if names.isEmpty then put "warning" ["Query returned no results."]
    else
      if unclear then
        put "info" ["✅ Query executed successfully (with assumptions - see clarifications above)"]
      else put "success" [label]
      recordCount run records.length
      put "dataframe" [found] [("hide_index", .bool true), ("column_config", .record (names.map fun n =>
        (n, .record [("text_column", .list [.text n]), ("help", ""), ("width", "auto")])))]
  let _ ← inTab 1 (valued "text_area" "Raw Results:"
    [("value", result), ("height", .int 200), ("disabled", .bool true)])
  pure found

/-- Why a run gave up. -/
def terminated (plan : Value) : Desk Unit := do
  put "error" ["🚫 Query Terminated"]
  put "warning" [← plan.getD "termination_reason"
    "The query cannot be answered with the available database schema."]
  put "info" ["💡 **Tip:** Try asking a question related to the data in this database."]

/-- Shows what a run has found, and gives its rows; a run that gave up has none. -/
def results (run label : Value) : Desk Value := do
  let plan ← run.getD "planner_output" (.record [])
  if (← plan.get "decision") == "terminate" then
    terminated plan
    return .null
  let unclear := (← run.get "needs_clarification").truthy
  if unclear then unclearParts run
  let query ← run.get "query"
  if !query.truthy then
    put "error" ["Query error."]
    put "error" [← run.getD "result" "Unknown error"]
    return .frame []
  expander "Executed SQL Query" [("icon", "📝"), ("expanded", .bool true)]
    (put "code" [query] [("language", "sql")])
  assumptions plan
  planUsed run
  history run
  let options ← run.get "modification_options"
  if options.truthy && (← run.get "executed_plan").truthy then controls run options
  tabs ["Table View", "Raw Data"]
  if (← run.get "result").isNull then
    put "warning" ["Query returned no results."]
    return .frame []
  rows run label unclear

end QueryDesk.Page
