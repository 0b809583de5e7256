import QueryDesk.Proofs.Fields
import QueryDesk.Workflow.Steps

/-!
What the stations of a run do to the state. Each station writes some fields and keeps the others; those
that count, connect or run a statement are looked at more closely.
-/

namespace QueryDesk.Workflow

open Desk Value Option

def Station.writes : Station → List String
  | initializeConnection => ["db_connection", "last_step"]
  | analyzeSchema => ["messages", "schema", "last_step"]
  | filterSchema => ["last_step", "filtered_schema", "truncated_schema"]
  | inferForeignKeys => ["last_step", "filtered_schema"]
  | formatSchemaMarkdown => ["messages", "schema_markdown", "last_step"]
  | prePlanner => ["pre_plan_strategy", "preplan_history", "preplan_feedback_type", "audit_feedback",
      "error_feedback", "refinement_feedback", "messages", "last_step"]
  | planner => ["messages", "planner_output", "planner_outputs", "needs_clarification", "last_step", "revised_strategy"]
  | planAudit => ["audit_passed", "audit_issues", "audit_corrections", "messages", "planner_output",
      "planner_outputs", "last_step"]
  | checkClarification => ["messages", "needs_clarification", "clarification_suggestions", "last_step"]
  | generateQuery => ["messages", "query", "last_step"]
  | executeQuery => ["messages", "query", "result", "queries", "total_records_available", "executed_plan",
      "executed_query", "last_step", "last_attempt_time"]
  | handleError => ["messages", "planner_output", "revised_strategy", "error_iteration",
      "correction_history", "last_step"]
  | refineQuery => ["messages", "planner_output", "revised_strategy", "refinement_iteration",
      "refinement_history", "last_step"]
  | cleanup => ["schema", "db_connection", "last_step"]
  | transformPlan => ["db_connection", "patch_requested", "messages", "planner_output", "patch_history",
      "current_patch_operation"]
  | generateModificationOptions => ["modification_options"]

attribute [local simp] Station.writes saying

section

variable {state : Value} (h : state.IsRecord)

include h

lemma initializeConnection_kept :
    Ends (initializeConnection state) (Kept Station.initializeConnection.writes state) := by
  refine .bind fun _ => .bind fun _ => .bind fun connection => .pure ?_
  exact h.kept_update (by simp)

lemma analyzeSchema_kept : Ends (analyzeSchema state) (Kept Station.analyzeSchema.writes state) := by
  refine .bind fun connection => ?_
  split
  · refine .bind fun _ => .bind fun _ => .recover ?_ fun f => .bind fun _ => .bind fun _ => .pure ?_
    · repeat refine .bind fun _ => ?_
      exact .pure (h.kept_update (by simp))
    · exact h.kept_update (by simp)
  · refine .bind fun _ => .bind fun _ => .pure ?_
    exact h.kept_update (by simp)

lemma filterSchema_kept : Ends (filterSchema state) (Kept Station.filterSchema.writes state) := by
  repeat refine .bind fun _ => ?_
  exact .pure (h.kept_update (by simp))

lemma inferForeignKeys_kept : Ends (inferForeignKeys state) (Kept Station.inferForeignKeys.writes state) := by
  refine .bind fun _ => .bind fun wanted => ?_
  split
  · exact .bind fun _ => .pure (h.kept_update (by simp))
  · refine .bind fun sch => ?_
    split
    · exact .bind fun _ => .pure (h.kept_update (by simp))
    · repeat refine .bind fun _ => ?_
      refine .recover ?_ fun f => .bind fun _ => .bind fun _ => .pure ?_
      · repeat refine .bind fun _ => ?_
        exact .pure (h.kept_update (by simp))
      · exact h.kept_update (by simp)

lemma formatMarkdown_kept : Ends (formatMarkdown state) (Kept Station.formatSchemaMarkdown.writes state) := by
  refine .bind fun _ => .recover ?_ fun f => .pure (h.kept_update (by simp))
  refine .bind fun truncated => .bind fun fil => .bind fun whole => ?_
  dsimp only
  split
  · exact .pure (h.kept_update (by simp))
  · repeat refine .bind fun _ => ?_
    exact .pure (h.kept_update (by simp))

lemma createStrategy_kept : Ends (createStrategy state) (Kept Station.prePlanner.writes state) := by
  repeat refine .bind fun _ => ?_
  refine .recover ?_ fun f => .pure (h.kept_update (by simp))
  repeat refine .bind fun _ => ?_
  exact .pure (h.kept_update (by simp))

lemma withPlan_kept :
    Ends (withPlan state reply step) (Kept Station.planner.writes state) := by
  repeat refine .bind fun _ => ?_
  split
  · exact .pure ((h.kept_update (by simp)).update (by simp))
  · exact .pure (h.kept_update (by simp))

lemma planQuery_kept : Ends (planQuery state) (Kept Station.planner.writes state) := by
  repeat refine .bind fun _ => ?_
  refine .recover ?_ fun f => .pure (h.kept_update (by simp))
  repeat refine .bind fun _ => ?_
  unfold withReply
  split
  · exact .pure (h.kept_update (by simp))
  · exact withPlan_kept h

omit h in
lemma repairedHistory_ends :
    Ends (repairedHistory state plan) fun news => news.map (·.1) ⊆ Station.planAudit.writes := by
  unfold repairedHistory
  split
  · refine .bind fun t => ?_
    split <;> exact .pure (by simp)
  · exact .pure (by simp)

lemma planAudit_kept : Ends (planAudit state) (Kept Station.planAudit.writes state) := by
  refine .bind fun _ => .bind fun plan => ?_
  dsimp only
  split
  · exact .pure (h.kept_update (by simp))
  · refine .bind fun decision => ?_
    split
    · exact .pure (h.kept_update (by simp))
    · refine .bind fun fil => .bind fun whole => .bind fun walk => .bind fun aud =>
        .bind_of repairedHistory_ends fun news hn => ?_
      have hr := h.kept_update hn
      split
      · exact .pure (hr.update (by simp))
      · split
        · exact .pure (hr.update (by simp))
        · repeat refine .bind fun _ => ?_
          exact .pure (hr.update (by simp))

lemma checkClarification_kept : Ends (checkClarification state) (Kept Station.checkClarification.writes state) := by
  refine .bind fun _ => .bind fun plan => ?_
  split
  · exact .pure (h.kept_update (by simp))
  · refine .bind fun decision => ?_
    split
    · exact .bind fun _ => .bind fun _ => .pure (h.kept_update (by simp))
    · split
      · exact .pure (h.kept_update (by simp))
      · repeat refine .bind fun _ => ?_
        exact .pure (h.kept_update (by simp))

lemma generateQuery_kept : Ends (generateQuery state) (Kept Station.generateQuery.writes state) := by
  refine .bind fun _ => .recover ?_ fun f => .pure (h.kept_update (by simp))
  refine .bind fun plan => ?_
  split
  · exact .pure (h.kept_update (by simp))
  · repeat refine .bind fun _ => ?_
    exact .pure (h.kept_update (by simp))

lemma offerChanges_kept : Ends (offerChanges state) (Kept Station.generateModificationOptions.writes state) := by
  refine .bind fun plan => .bind fun sch => ?_
  split
  · exact .pure (kept_refl h)
  · split
    · exact .pure (h.kept_update (by simp))
    · exact .pure (kept_refl h)

end

/-! ### Running a statement -/

/-- The ways in which running the statement of a state ends. -/
inductive Execution (state : Value) : Value → Prop
  /-- The statement ran, and is kept together with the plan at hand. -/
  | ran {start plan statement queries total : Value} {result now : String}
      (hstart : state.at? "query" = some start) (hthere : isMissing start = false)
      (hplan : state.get "planner_output" = .ok plan) :
      Execution state (state.update [saying "Query Successfully Executed", ("query", statement),
        ("result", .text result), ("queries", queries), ("total_records_available", total),
        ("executed_plan", plan), ("executed_query", statement), ("last_step", .text "execute_query"),
        ("last_attempt_time", .text now)])
  /-- The statement was sent or prepared, and that failed. -/
  | failed {start : Value} {problem now : String} (hstart : state.at? "query" = some start) :
      Execution state (state.update [saying s!"Error executing query: {problem}", ("query", start),
        ("last_step", .text "execute_query"), ("result", .null), ("total_records_available", .null),
        ("last_attempt_time", .text now)])
  | refused {said : List Value} {reason : String} (hsaid : state.at? "messages" = some (.list said)) :
      Execution state (state.update [("result", .null),
        ("messages", .list (said ++ [.message .assistant (.text s!"Error: {reason}")]))])

/-- A state that tells how the statement ended: there is a result, and a last message with a text. -/
def Reported (state : Value) : Prop :=
  (∃ result, state.at? "result" = some result) ∧ ∃ said role text, state.at? "messages" = some (.list said) ∧
    said.getLast? = some (.message role (.text text))

section

variable {state start connection : Value}

lemma executedState_ends (hs : state.at? "query" = some start)
    (ht : isMissing start = false) :
    Ends (executedState state start outcome connection "execute_query") (Execution state) := by
  refine .bind fun rows => .bind fun r => .bind fun _ => .bind fun _ => .bind fun _ => .bind fun queries =>
    .bind fun _ => .bind fun _ => .bind_of (.lift fun plan hp => hp) fun plan hp =>
      .bind fun s => .pure ?_
  exact .ran hs ht hp

lemma failedState_ends (hs : state.at? "query" = some start) :
    Ends (failedState state start f "execute_query") (Execution state) := by
  refine .bind fun _ => .bind fun _ => .bind fun s => .pure ?_
  exact .failed hs

lemma refusedState_ends : Ends (refusedState state reason step) (Execution state) := by
  refine .bind fun _ => .bind_of (.lift fun said hs => hs) fun said hs =>
    .bind_of (.lift fun msgs hm => hm) fun msgs hm => .pure ?_
  rw [Value.field_ok] at hs
  cases said with
  | list said =>
    cases hm
    exact .refused hs
  | _ => cases hm

lemma executeQuery_ends : Ends (executeQuery state) (Execution state) := by
  refine .bind fun _ => .bind fun connection => ?_
  split
  · exact refusedState_ends
  · refine .bind_of (.lift fun start hs => hs) fun start hs => ?_
    rw [Value.field_ok] at hs
    split
    · exact refusedState_ends
    case isFalse ht =>
      refine .bind fun _ => .bind fun _ => .bind fun _ => .bind fun _ => ?_
      refine .bind_of (Q := fun split? => ∀ failed, split? = .error failed → Execution state failed) ?_ ?_
      · refine .recover (.bind fun _ => .pure (by simp)) fun f => ?_
        refine .bind_of (failedState_ends hs) fun failed hf => .pure ?_
        simpa using hf
      · intro split? hsp
        split
        · exact .pure (hsp _ rfl)
        · exact .recover (.bind fun _ => executedState_ends hs (by simpa using ht)) fun f =>
            .bind fun _ => failedState_ends hs

lemma Execution.kept (h : state.IsRecord) (hx : Execution state after) :
    Kept Station.executeQuery.writes state after := by
  cases hx with
  | ran | failed | refused => exact h.kept_update (by simp)

lemma Execution.reported (h : state.IsRecord) (hx : Execution state after) : Reported after := by
  unfold Reported
  cases hx with
  | ran | failed =>
    simp only [at?_update h]
    exact ⟨⟨_, rfl⟩, _, _, _, rfl, rfl⟩
  | refused =>
    simp only [at?_update h]
    exact ⟨⟨_, rfl⟩, _, _, _, rfl, List.getLast?_concat⟩

end

/-! ### Counting attempts -/

/-- A step goes from one attempt to the next: the counter is one more, and the history has one more record,
which carries the number of the attempt. -/
def Counts (counter history : String) (before after : Value) : Prop :=
  ∀ (n : Int) (records : List Value), before.at? counter = some (.int n) →
    before.at? history = some (.list records) → after.at? counter = some (.int (n + 1)) ∧
      ∃ attempt, attempt.peek "iteration" = .int (n + 1) ∧
        after.at? history = some (.list (records ++ [attempt]))

section

variable {state : Value} (h : state.IsRecord)

include h

lemma handleError_ends : Ends (handleError state) fun after => Kept Station.handleError.writes state after ∧
    Counts "error_iteration" "correction_history" state after := by
  refine .bind fun _ => .bind fun _ => .bind fun error => .bind fun stmt => .bind fun plan =>
    .bind fun q => .lift_bind fun iteration hi => .bind fun most =>
    .bind fun sch => .bind fun prev => .lift_bind fun round hr =>
    .bind fun markdown => .bind fun strategy => .bind fun repaired => ?_
  refine .bind fun _ => .bind fun _ => .lift_bind fun past hp =>
    .lift_bind fun history hh => .pure ?_
  refine ⟨h.kept_update (by simp), fun n records hn hre => ?_⟩
  rw [h.getD, hn, getD_some] at hi
  rw [h.getD, hre, getD_some] at hp
  cases hi
  cases hp
  cases hr
  cases hh
  rw [at?_update h, at?_update h]
  exact ⟨rfl, _, rfl, rfl⟩

lemma refineQuery_ends : Ends (refineQuery state) fun after => Kept Station.refineQuery.writes state after ∧
    Counts "refinement_iteration" "refinement_history" state after := by
  refine .bind fun stmt => .bind fun plan => .bind fun q =>
    .lift_bind fun iteration hi => .bind fun most => .bind fun prev =>
    .lift_bind fun round hr => .bind fun sch =>
    .lift_bind fun past hp => .bind fun xs => .bind fun plans => .bind fun markdown =>
    .bind fun strategy => .bind fun _ => .bind fun _ =>
    .lift_bind fun history hh => .pure ?_
  refine ⟨h.kept_update (by simp), fun n records hn hre => ?_⟩
  rw [h.getD, hn, getD_some] at hi
  rw [h.getD, hre, getD_some] at hp
  cases hi
  cases hp
  cases hr
  cases hh
  rw [at?_update h, at?_update h]
  exact ⟨rfl, _, rfl, rfl⟩

end

end QueryDesk.Workflow
