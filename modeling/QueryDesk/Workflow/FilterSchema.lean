import QueryDesk.Domain.Files
import QueryDesk.Schema.Expansion
import QueryDesk.Schema.SelectionPrompt
import QueryDesk.Service.DebugFile
import QueryDesk.Service.Model
import QueryDesk.Service.Search

/-!
The step that narrows a schema to what a question needs: a search by likeness finds candidates, mapping
tables and foreign keys add to them, and a model chooses tables and columns. If the model's choice cannot
be used, all candidates stay.
-/

namespace QueryDesk.Workflow

def searchLimit : Value := .int 10

def passageText (table : Value) : Attempt String := do
  let name ← table.getD "table_name" ""
  let facts ← table.getD "metadata" (.record [])
  let about ← facts.get "description"
  let keyPart ← match ← facts.get "key_columns" with
    | .list [] => pure []
    | .list columns => do
      let joined := Text.join ", " (← Value.textItems columns)
      pure [s!"Key columns: {joined}"]
    | _ => pure []
  let keys ← table.getD "foreign_keys" (.list [])
  let links ← if keys.truthy then
      (← keys.items).filterMapM fun k => do
        let column ← k.getD "foreign_key" ""
        let target ← k.getD "primary_key_table" ""
        pure (if column.truthy && target.truthy then some s!"{column.display} -> {target.display}"
          else none)
    else pure []
  let linkPart := if links.isEmpty then [] else
    let joined := Text.join ", " links
    [s!"Related to: {joined}"]
  pure (Text.join ". " ([s!"Table: {name.display}"] ++
    (if about.truthy then [s!"Description: {about.display}"] else []) ++ keyPart ++ linkPart))

def passageOf (table : Value) : Attempt Passage := do return ⟨← passageText table, table⟩

def namesOf (tables : List Value) : Attempt (List Value) :=
  tables.mapM (·.getD "table_name" "Unknown")

def ownKeys (schema : List Value) : Attempt (List Value) :=
  schema.filterMapM fun t => do
    let keys ← t.get "foreign_keys"
    if keys.truthy then
      return some (.record [("table_name", ← t.field "table_name"), ("foreign_keys", keys)])
    else return none

/-- The foreign keys that links are followed by: those of the domain, or else those of the schema. -/
def linkKeys (schema : List Value) : Desk Value := do
  let known ← Domain.keysInUse
  if known.truthy then pure known else return .list (← ownKeys schema)

def added (walk : List Value → List Value) (names before : List Value) : Attempt Value := do
  return .list (walk (Value.without (← Value.setOf names) (← Value.setOf before)))

/-- The candidates: what the search finds, with mapping tables and linked tables. -/
def candidates (question schema : Value) : Desk (List Value) := do
  let walk ← Desk.walk
  let tables ← schema.items
  let _ ← Model.embedding true
  let passages ← tables.mapM fun t => (passageOf t : Attempt Passage)
  let embedded ← passages.mapM fun p => do
    return Value.record [("table_name", ← p.facts.get "table_name"), ("embedded_text", .text p.text)]
  let _ ← DebugFile.save "embedded_content.json"
    (.record [("user_query", question), ("embedded_documents", .list embedded)])
  let index ← Desk.buildIndex "schema_filtering" passages
  let found ← Desk.search index question searchLimit
  let foundTables := found.map (·.facts)
  let foundNames ← namesOf foundTables
  let _ ← DebugFile.quietly do
    let scored ← found.mapM fun p => do
      let about ← (← p.facts.getD "metadata" (.record [])).getD "description" ""
      return Value.record [("table_name", ← p.facts.get "table_name"), ("description", about),
        ("page_content", .text p.text)]
    DebugFile.save "vector_search_candidates.json" (.record [("user_query", question),
      ("top_k", searchLimit), ("candidate_count", .nat found.length),
      ("candidate_tables", .list foundNames), ("candidates_with_scores", .list scored)])
  let facts ← Domain.tablesInUse
  let mapped ← Schema.withMappings walk (.list foundTables) schema facts
  let mappedNames ← namesOf (← mapped.items)
  let _ ← DebugFile.save "mapping_expansion_results.json" (.record [("user_query", question),
    ("stage1_candidates", .list foundNames), ("mapping_expanded_count", .nat mappedNames.length),
    ("mapping_expanded_tables", .list mappedNames),
    ("tables_added_by_mapping", ← added walk mappedNames foundNames)])
  let keys ← linkKeys tables
  let linked ← (← Schema.withLinks walk mapped schema keys 2).items
  let linkedNames ← namesOf linked
  let _ ← DebugFile.save "fk_expansion_results.json" (.record [("user_query", question),
    ("stage1_5_mapping_expanded", .list mappedNames), ("fk_expanded_count", .nat linked.length),
    ("fk_expanded_tables", .list linkedNames),
    ("tables_added_by_fk", ← added walk linkedNames mappedNames)])
  pure linked

/-- The judgements as they are kept for people. -/
def selectionNotes (walk : List Value → List Value) (question : Value) (names : List Value)
    (assessments : List Schema.Assessment) (columns : Keyed Value) : Attempt Value := do
  let judged ← assessments.mapM fun a => do
    return Value.record [("table", a.table), ("is_relevant", a.isRelevant), ("reasoning", a.reasoning),
      ("relevant_columns", a.columns), ("column_count", .nat (← a.columns.size))]
  let met := walk (Keyed.keys columns)
  let summary : Keyed Value ← Keyed.collect (fun name => do
    let chosen := (Keyed.find? columns name).getD (.list [])
    return (name, .record [("relevant_columns", chosen), ("column_count", .nat (← chosen.size))])) met
  pure (.record [("user_query", question), ("candidate_tables", .list names),
    ("llm_assessments", .list judged), ("selected_tables", .list met),
    ("column_filtering_summary", Keyed.record id summary)])

structure ChoiceTask where
  question : Value
  candidates : List Value
  names : List Value
  known : Keyed Value
  task : String
  prompt : String

/-- Everything up to the point where the model is asked to choose from the candidates. -/
def approach (state : Value) : Desk ChoiceTask := do
  Desk.status "filter_schema" "running" "Filtering relevant tables"
  let schema ← state.field "schema"
  let question ← state.field "user_question"
  let _ ← schema.size
  Desk.log "filter_schema" "Starting 5-stage schema filtering"
  let found ← candidates question schema
  let names ← namesOf found
  let known ← Schema.byName (← schema.items)
  let summaries ← found.mapM fun t => do
    let name ← t.getD "table_name" "Unknown"
    Schema.candidateSummary name ((Keyed.find? known (← name.hashable)).getD t)
  let guidance := Schema.guidancePart (← Domain.guidanceInUse)
  let _ ← Model.chat (← Model.forStage "filtering")
  Desk.send (.structured "TableSelectionOutput" [])
  pure ⟨question, found, names, known, Schema.selectionTask guidance,
    Schema.selectionQuestion question.display summaries⟩

def ChoiceTask.choice (a : ChoiceTask) : Desk (List Schema.Chosen) := do
  let reply ← Desk.invoke (.list [.message .system (.text a.task), .message .human (.text a.prompt)])
  let _ ← DebugFile.saveExchange "filter_schema_stage3_llm"
    (.record [("system_message", .text a.task), ("user_message", .text a.prompt)]) reply
    (← Desk.envValue "AI_MODEL")
    (.record [("user_query", a.question), ("candidate_table_count", .nat a.candidates.length),
      ("stage", "stage2_table_and_column_selection")])
  let assessments ← Schema.assessments reply
  let columns ← Schema.chosenColumns assessments
  let walk ← Desk.walk
  let chosen ← Schema.choose walk a.known columns
  let _ ← DebugFile.save "llm_table_selection.json"
    (← selectionNotes walk a.question a.names assessments columns)
  pure chosen

/-- Narrows the schema of a state to what its question needs. -/
def filterSchema (state : Value) : Desk Value := do
  let asked ← approach state
  let chosen ← Desk.recover asked.choice fun _ => pure (asked.candidates.map fun t => ⟨t, t⟩)
  let _ ← namesOf (chosen.map (·.whole))
  Desk.status "filter_schema" "completed"
  pure (state.update [("last_step", "filter_schema"), ("filtered_schema", .list (chosen.map (·.whole))),
    ("truncated_schema", .list (chosen.map (·.cut)))])

end QueryDesk.Workflow
