import QueryDesk.Proofs.Generation
import QueryDesk.Proofs.Runs

/-!
The plan and the statement of a run. When a statement has run, it is recorded together with the plan at hand.
The two belong together exactly if the statement was built just before; if no statement can be built for a
new plan, the one that was stored last is run once more and recorded with a plan it was not built for.
-/

namespace QueryDesk.Workflow

open Desk Value List Bool Sql

variable {state : Value} {t t₁ : Traffic} {next : Option Station} {s : Surroundings}

/-! ### Storing a statement -/

def lastSaid (state : Value) : Option String :=
  match state.at? "messages" with
  | some (.list messages) =>
    match messages.getLast? with
    | some (.message (.assistant _) (.text said)) => some said
    | _ => none
  | _ => none

/-- A visit that stored a statement which was built for the plan. -/
def Visit.built (v : Visit) : Bool := v.station = .generateQuery &&
  lastSaid v.after = some "Generated SQL query deterministically from execution plan"

/-- A visit that ran a statement, and stored it as it was run. -/
def Visit.ran (v : Visit) : Bool := v.station = .executeQuery &&
  lastSaid v.after = some "Query Successfully Executed"

/-- The state that the last visit which stored a statement has left; the one at the start if there is none. -/
def lastStored (start : Value) (visits : List Visit) : Value :=
  ((visits.reverse.find? fun v => v.built || v.ran).map (·.after)).getD start

lemma lastStored_concat (start : Value) (visits : List Visit) (v : Visit) :
    lastStored start (visits ++ [v]) = if v.built || v.ran then v.after else lastStored start visits := by
  unfold lastStored
  rw [reverse_append, reverse_singleton, singleton_append, find?_cons]
  cases v.built || v.ran <;> rfl

lemma lastSaid_update (h : state.IsRecord)
    (hn : Fields.latest news "messages" = some (.list msgs))
    (hl : msgs.getLast? = some (.message .assistant (.text said))) :
    lastSaid (state.update news) = some said := by
  unfold lastSaid
  rw [at?_update h, hn]
  simp [hl]

section

variable {s : Surroundings} {t t₁ : Traffic} {state after : Value}

section

variable (h : state.IsRecord)

include h

lemma Generation.built_iff (hg : Generation s t state after) : Visit.built ⟨.generateQuery, state, after⟩ = true ↔
      ∃ stmt t', Gives (building state) s t stmt t' := by
  cases hg with
  | built hb =>
    rw [Visit.built, lastSaid_update h rfl rfl]
    simpa using ⟨_, _, hb⟩
  | unbuilt hn hs =>
    rw [Visit.built, lastSaid_update h rfl rfl]
    simp [hs, hn]

lemma Generation.query_built {statement : Value}
    (hg : Generation s t state after) (hb : Gives (building state) s t statement t') :
    after.at? "query" = some statement := by
  cases hg with
  | built hb' =>
    obtain ⟨rfl, -⟩ := hb.unique hb'
    rw [at?_update h]
    rfl
  | unbuilt hn => exact absurd hb (hn _ _)

lemma Generation.query_unbuilt (hg : Generation s t state after)
    (hn : ∀ stmt t', ¬ Gives (building state) s t stmt t') : after.at? "query" = state.at? "query" := by
  cases hg with
  | built hb => exact absurd hb (hn _ _)
  | unbuilt =>
    rw [at?_update h]
    rfl

/-- What a visit that ran a statement leaves: there was a statement, and what was run is recorded together with
the plan. -/
lemma Execution.recorded (hx : Execution state after) (hr : Visit.ran ⟨.executeQuery, state, after⟩ = true) :
    (∃ stmt, state.at? "query" = some stmt ∧ isMissing stmt = false) ∧
      after.at? "executed_plan" = some (state.peek "planner_output") ∧
      after.at? "executed_query" = after.at? "query" := by
  cases hx with
  | ran hs ht hp =>
    rw [get_ok] at hp
    refine ⟨⟨_, hs, ht⟩, ?_, ?_⟩
    · rw [at?_update h, hp.2]
      rfl
    · rw [at?_update h, at?_update h]
      rfl
  | failed =>
    rw [Visit.ran, lastSaid_update h rfl rfl] at hr
    exact absurd (by simpa using hr) (append_ne_of_head (by decide) _)
  | refused =>
    rw [Visit.ran, lastSaid_update h rfl getLast?_concat] at hr
    exact absurd (by simpa using hr) (append_ne_of_head (by decide) _)

lemma Execution.kept_not_ran (hx : Execution state after) (hr : Visit.ran ⟨.executeQuery, state, after⟩ = false) :
    Kept ["messages", "result", "total_records_available", "last_step", "last_attempt_time"] state after := by
  cases hx with
  | ran =>
    rw [Visit.ran, lastSaid_update h rfl rfl] at hr
    simp at hr
  | @failed start problem now hs =>
    refine ⟨h.update _, fun key hk => ?_⟩
    by_cases hq : key = "query"
    · subst hq
      rw [at?_update h, hs]
      rfl
    · rw [at?_update h, Fields.latest_eq_none (by simp_all [saying]), Option.none_or]
  | refused => exact h.kept_update (by simp)

end

end

/-! ### The statement of a run -/

section

variable {E R : Int} {start : Value} {t₀ : Traffic} {visits : List Visit}

lemma Run.query_kept (hf : Fresh start) {after : Value}
    (h : Run E R start t₀ visits (some stn) state t)
    (hr : Gives (stn.run state) s t after t₁) (hb : Visit.built ⟨stn, state, after⟩ = false)
    (hra : Visit.ran ⟨stn, state, after⟩ = false) : after.at? "query" = state.at? "query" := by
  have ht := h.tally hf
  -- Only generating and running write the statement at all.
  by_cases hw : "query" ∈ stn.writes
  · have hs : stn = .generateQuery ∨ stn = .executeQuery := by
      cases stn <;> simp_all [Station.writes]
    rcases hs with rfl | rfl
    · have hg := generateQuery_ends ht.counted hr
      refine hg.query_unbuilt ht.record fun stmt t' hgi => ?_
      rw [(hg.built_iff ht.record).2 ⟨stmt, t', hgi⟩] at hb
      cases hb
    · exact ((executeQuery_ends s t after t₁ hr).kept_not_ran ht.record hra).at? _
  · exact (stn.run_kept ht.record s t after t₁ hr).same _ hw

lemma Run.query_eq (hf : Fresh start)
    (h : Run E R start t₀ visits next state t) : state.at? "query" = (lastStored start visits).at? "query" := by
  induction h with
  | begin => rfl
  | @visit visits stn next s state after st' _ _ _ _ hr₀ hl hr hh _ hn ih =>
    rw [lastStored_concat, hh.same _ (by simp [carried])]
    split
    · rfl
    case isFalse hs =>
      rw [not_eq_true, or_eq_false_iff] at hs
      rw [hr₀.query_kept hf hr hs.1 hs.2, ih]

/-- Where a run goes to after a visit, if these visits are the later ones and it has come so far. -/
def goesTo (later : List Visit) (next : Option Station) (state : Value) : Option Station × Value :=
  match later with
  | [] => (next, state)
  | w :: _ => (some w.station, w.before)

lemma goesTo_concat (later : List Visit) (w : Visit) (next : Option Station) (state : Value) :
    goesTo (later ++ [w]) next state = goesTo later (some w.station) w.before := by
  cases later <;> rfl

lemma Run.visited (h : Run E R start t₀ (earlier ++ v :: later) next state t) :
    ∃ s t₁ t₂, Run E R start t₀ earlier (some v.station) v.before t₁ ∧
      Gives (v.station.run v.before) s t₁ v.after t₂ ∧ Handed v.after (goesTo later next state).2 ∧
      ∃ t₃ t₄, Gives (nextStation v.station (goesTo later next state).2) s t₃ (goesTo later next state).1 t₄ := by
  generalize hvi : earlier ++ v :: later = visits at h
  -- The run grows at its end, where `v` is the last visit or one of those before.
  induction h generalizing later with
  | begin => simp at hvi
  | visit hr₀ hl hr hh hwo hn ih =>
    rcases eq_nil_or_concat later with rfl | ⟨later, w, rfl⟩
    · obtain ⟨rfl, hv⟩ := append_inj' hvi rfl
      rw [singleton_inj] at hv
      subst hv
      exact ⟨_, _, _, hr₀, hr, hh, _, _, hn⟩
    · rw [concat_eq_append, ← cons_append, ← append_assoc] at hvi
      obtain ⟨hb, hw⟩ := append_inj' hvi rfl
      rw [singleton_inj] at hw
      subst hw
      rw [concat_eq_append, goesTo_concat]
      exact ih hb

lemma Run.before_execution (hf : Fresh start) (h : Run E R start t₀ visits (some .executeQuery) state t) :
    ∃ past pre after s t₁ t₂, visits = past ++ [⟨.generateQuery, pre, after⟩] ∧
      Run E R start t₀ past (some .generateQuery) pre t₁ ∧ Gives (generateQuery pre) s t₁ after t₂ ∧
      Handed after state := by
  generalize hn : some Station.executeQuery = next at h
  cases h with
  | begin hs =>
    cases hn
    rcases fromStart_ok hf.record hs with ⟨h, -⟩ | ⟨h, -⟩ <;> cases h
  | @visit visits stn _ s pre after _ t t₁ t₂ _ hr₀ hl hr hh hw hne =>
    subst hn
    have hp := (hr₀.wayOn hf hl hr hh hne).1.possible
    have hs : stn = .generateQuery := by
      cases stn <;> simp [Station.onward] at hp ⊢
    subst hs
    exact ⟨visits, pre, after, s, t, t₁, rfl, hr₀, hr, hh⟩

/-! ### The plan of a statement -/

/-- A visit `v` that ran a statement records the plan that was at hand at `g`, and the statement it started from
is the one that was built there, for this plan. -/
def Paired (s : Surroundings) (t : Traffic) (g v : Visit) : Prop :=
  v.after.at? "executed_plan" = some (g.before.peek "planner_output") ∧
    ∃ statement t', Gives (building g.before) s t statement t' ∧ v.before.at? "query" = some statement

/-- What a visit `v` that ran a statement has recorded, if a statement was to be generated at `g` just before. -/
structure Recorded (start : Value) (past : List Visit) (s : Surroundings) (t : Traffic) (g v : Visit) : Prop where
  plan : v.after.at? "executed_plan" = some (g.before.peek "planner_output")
  statement : v.after.at? "executed_query" = v.after.at? "query"
  there : ∃ statement, v.before.at? "query" = some statement ∧ isMissing statement = false
  /-- Plan and statement belong together exactly if a statement can be built for the plan. -/
  paired : Paired s t g v ↔ ∃ statement t', Gives (building g.before) s t statement t'
  told : g.built = true ↔ ∃ statement t', Gives (building g.before) s t statement t'
  /-- Otherwise the statement is the one that was stored last before. -/
  older : g.built = false → v.before.at? "query" = (lastStored start past).at? "query"

/-- Every visit of a run that runs a statement follows one that was to generate it, and records its plan. The
statement was built for this plan exactly if one can be built for it at all; if not, an older one was run. -/
theorem recorded_plan_of_run {earlier later : List Visit} {v : Visit} {next : Option Station} {state : Value}
    {t : Traffic} (hstart : Begins start) (h : Run E R start t₀ (earlier ++ v :: later) next state t)
    (hran : v.ran = true) :
    ∃ past g s t₁ t₂, earlier = past ++ [g] ∧ g.station = .generateQuery ∧
      Run E R start t₀ past (some .generateQuery) g.before t₁ ∧ Gives (generateQuery g.before) s t₁ g.after t₂ ∧
      Recorded start past s t₁ g v := by
  have hf := hstart.fresh
  obtain ⟨station, before, after⟩ := v
  have hs : station = .executeQuery := by
    rw [Visit.ran, and_eq_true] at hran
    simpa using hran.1
  subst hs
  obtain ⟨s, t₁, t₂, hru, he, -⟩ := h.visited
  obtain ⟨past, gbefore, gafter, s', t₃, t₄, rfl, hr₀, hge, hh⟩ := hru.before_execution hf
  have ht := hr₀.tally hf
  have hg := generateQuery_ends ht.counted hge
  -- Between the two visits neither the statement nor the plan changes.
  have hq : before.at? "query" = gafter.at? "query" := hh.same _ (by simp [carried])
  have hp : before.peek "planner_output" = gbefore.peek "planner_output" := by
    apply peek_congr
    rw [hh.same _ (by simp [carried])]
    exact (generateQuery_kept ht.record s' t₃ gafter t₄ hge).same _ (by simp [Station.writes])
  obtain ⟨hth, hr, hsa⟩ :=
    (executeQuery_ends s t₁ after t₂ he).recorded hh.record hran
  rw [hp] at hr
  have hb := hg.built_iff ht.record
  refine ⟨past, _, s', t₃, t₄, rfl, rfl, hr₀, hge, hr, hsa, hth, ?_, hb, ?_⟩
  · constructor
    · rintro ⟨-, stmt, t', hgi, -⟩
      exact ⟨stmt, t', hgi⟩
    · rintro ⟨stmt, t', hgi⟩
      exact ⟨hr, stmt, t', hgi, hq.trans (hg.query_built ht.record hgi)⟩
  · intro hu
    have hn : ∀ stmt t', ¬ Gives (building gbefore) s' t₃ stmt t' := by
      intro stmt t' hgi
      rw [hb.2 ⟨stmt, t', hgi⟩] at hu
      cases hu
    rw [hq, hg.query_unbuilt ht.record hn, hr₀.query_eq hf]

end

/-! A run that finds no rows and refines the plan to one whose statement the library refuses, for an alias of three
words. It runs its first statement once more. -/

/-- A question that comes with a new limit for a plan. -/
def limitQuestion : Question where
  question := "Which orders?"
  patch := .record [("operation", "modify_limit"), ("limit", .int 5)]
  plan := .record [("decision", "proceed"), ("selections", .list [.record [("table", "orders"),
    ("columns", .list [.record [("column", "id"), ("role", "projection")]])]])]
  schema := .list [.record [("table_name", "orders")]]

def spacedAlias : Value → Option String
  | .statement (.list [_, .list [.text "COUNT(*) AS number of orders"], _] :: _) =>
    some "Invalid expression / Unexpected token"
  | _ => none

/-- Surroundings with a server that finds no rows, and that allow one refinement. -/
def oneRefinement : Surroundings where
  env := [("ERROR_CORRECTION_COUNT", "1"), ("REFINE_COUNT", "1")]
  refusal := spacedAlias
  server := some (.record [("*", .record [("columns", .list ["id"]), ("rows", .list [])])])

def countPlan : Fields := [("decision", "proceed"), ("intent_summary", "How many orders there are"),
  ("selections", .list [.record [("table", "orders"), ("confidence", .int 1), ("include_only_for_join", .bool true),
    ("columns", .list []), ("filters", .list [])]]), ("global_filters", .list []), ("join_edges", .list []),
  ("group_by", .record [("group_by_columns", .list []), ("aggregates", .list [.record [("function", "COUNT"),
    ("table", "orders"), ("column", .null), ("alias", "number of orders")]]), ("having_filters", .list [])])]

/-- The plan as the object that the model replies with. -/
def countReply : Value := .entity [("decision", "proceed"), ("selections", .list [.entity [("table", "orders"),
  ("columns", .list []), ("include_only_for_join", .bool true)] .null]), ("join_edges", .list [])] (.record countPlan)

/-- What the run of the question begins with; the model will reply with a strategy and a plan. -/
def limitBeginning : Progress where
  visits := []
  next := some .transformPlan
  state := (baseState limitQuestion "id-1").update [("patch_requested", .bool true),
    ("current_patch_operation", limitQuestion.patch), ("executed_plan", limitQuestion.plan),
    ("filtered_schema", limitQuestion.schema), ("planner_output", limitQuestion.plan)]
  traffic := { replies := [.ok (.message .assistant "Count all orders."), .ok countReply] }

lemma begins_limitBeginning : Begins limitBeginning.state := ⟨limitQuestion, {}, {}, "id-1", _, rfl⟩

lemma limited_oneRefinement : Limited oneRefinement 1 1 := ⟨fun _ => rfl, fun _ => rfl⟩

lemma limitBeginning_leads (n : Nat) : limitBeginning.Leads 1 1 (limitBeginning.follow oneRefinement n) :=
  Progress.follow_leads begins_limitBeginning.fresh limited_oneRefinement rfl _ n

theorem recorded_plan_of_run_limit : ∃ past g v s t,
    (limitBeginning.follow oneRefinement 3).visits = past ++ [g, v] ∧ v.ran = true ∧ Paired s t g v := by
  have hv : ((limitBeginning.follow oneRefinement 3).visits.map fun v => (v.built, v.ran)) =
      [(false, false), (true, false), (false, true)] := by decide +kernel
  simp only [map_eq_cons_iff, map_eq_nil_iff, Prod.mk.injEq] at hv
  obtain ⟨first, _, hv, -, g, _, rfl, ⟨hb, -⟩, v, _, rfl, ⟨-, hra⟩, rfl⟩ := hv
  have hru := limitBeginning_leads 3
  rw [Progress.Leads, hv, ← singleton_append, append_cons [first] g] at hru
  obtain ⟨past, g', s, t, _, he, -, -, -, hr⟩ :=
    recorded_plan_of_run begins_limitBeginning hru hra
  obtain ⟨rfl, hg⟩ := append_inj' he rfl
  obtain rfl : g = g' := by simpa using hg
  exact ⟨[first], g, v, s, t, hv, hra, hr.paired.2 (hr.told.1 hb)⟩

/-- A statement that is built for a plan, in whatever state and surroundings. -/
def BuiltFrom (plan statement : Value) : Prop := ∃ document state context s t t',
  planDocument plan = .ok document ∧ Gives (build document state context) s t statement t'

/-- The texts of what a plan selects. -/
def shownTexts (plan : Value) : Attempt (List String) := do
  let docs ← itemsOf plan "selections"
  let group ← plan.get "group_by"
  let windows ← plan.getD "window_functions" (.list [])
  return (← selectItems plan docs group windows).map (·.text)

def selectTexts : Value → List String
  | .statement (.list [_, .list texts, _] :: _) => texts.filterMap Value.text?
  | _ => []

lemma BuiltFrom.shown {fields : Fields} (h : BuiltFrom (.record fields) stmt) :
    shownTexts (.record fields) = .ok (selectTexts stmt) := by
  obtain ⟨_, state, context, s, t, t', hd, hb⟩ := h
  cases hd
  obtain ⟨p, hp, rfl⟩ := build_ok hb
  obtain ⟨windows, hw, hi⟩ := hp.items
  rw [shownTexts, hp.selections, Attempt.ok_bind, hp.group, Attempt.ok_bind, hw, Attempt.ok_bind, hi]
  simp [Sql.statement, Parts.clauses, Clause.call, selectTexts, Value.texts, filterMap_map, Function.comp_def, Value.text?]

/-- Whether a visit records a plan together with a statement that selects something else. -/
def Visit.mispaired (v : Visit) : Bool :=
  match v.after.at? "executed_plan", v.before.at? "query" with
  | some (.record fields), some stmt => decide (shownTexts (.record fields) ≠ .ok (selectTexts stmt))
  | _, _ => false

lemma Visit.not_builtFrom {v : Visit} (h : v.mispaired = true) : ∃ plan stmt,
    v.after.at? "executed_plan" = some plan ∧ v.before.at? "query" = some stmt ∧ ¬ BuiltFrom plan stmt := by
  unfold mispaired at h
  split at h
  case h_1 fields stmt hp hs => exact ⟨_, _, hp, hs, fun hb => of_decide_eq_true h hb.shown⟩
  case h_2 => cases h

/-- The model's plan passes the checks of its form. No statement is built for it, and an older one is recorded. -/
theorem older_statement_recorded : ∃ start t₀ reply visits next state t v plan statement, Begins start ∧
    t₀.replies.getLast? = some (.ok reply) ∧ (Plan.checkDecision .full reply).isOk ∧ (Plan.checkJoins .full reply).isOk ∧
    Run 1 1 start t₀ visits next state t ∧ v ∈ visits ∧ v.ran = true ∧
      v.after.at? "executed_plan" = some plan ∧ v.before.at? "query" = some statement ∧
      ¬ BuiltFrom plan statement := by
  have hl : ((limitBeginning.follow oneRefinement 9).visits.getLast?.any fun v => v.ran && v.mispaired) = true := by
    decide +kernel
  simp only [Option.any_eq_true, and_eq_true] at hl
  obtain ⟨v, hv, hr, hm⟩ := hl
  obtain ⟨plan, statement, hp, hs, hn⟩ := v.not_builtFrom hm
  exact ⟨_, _, countReply, _, _, _, _, v, plan, statement, begins_limitBeginning, rfl, by decide +kernel,
    by decide +kernel, limitBeginning_leads 9, mem_of_getLast? hv, hr, hp, hs, hn⟩

end QueryDesk.Workflow
