import QueryDesk.Proofs.Pairing
import QueryDesk.Proofs.StartedRuns

/-!
The wishes of a question: how to sort, how many rows, and from which time. The run of a question carries them
from its first state on, and the time they ask for is a condition of every statement it stores. A change that a
person asks for on the page is run without the wishes of the question it changes.
-/

namespace QueryDesk.Workflow

open Attempt Desk Value List Sql

variable {state context : Value} {q : Question} {s : Surroundings} {t t' : Traffic}

structure Wishes.In (w : Wishes) (state : Value) : Prop where
  sortOrder : state.at? "sort_order" = some w.sortOrder
  limit : state.at? "result_limit" = some w.limit
  timeFilter : state.at? "time_filter" = some w.timeFilter

lemma Wishes.In.unique {w w' : Wishes} (h : w.In state) (h' : w'.In state) : w = w' := by
  obtain ⟨order, limit, time⟩ := w
  cases h.sortOrder.symm.trans h'.sortOrder
  cases h.limit.symm.trans h'.limit
  cases h.timeFilter.symm.trans h'.timeFilter
  rfl

/-! ### The first state of a run -/

section

variable {q : Question} {start : Value}

lemma Question.Begins.fresh (h : q.Begins start) : Fresh start := Workflow.Begins.fresh ⟨q, h⟩

lemma Question.Begins.wishes (h : q.Begins start) : q.wishes.In start := by
  obtain ⟨s, t, th, t', hg⟩ := h
  have hk := beginning_kept q s t _ t' hg
  exact ⟨hk.same _ (by simp [begunFields]), hk.same _ (by simp [begunFields]),
    hk.same _ (by simp [begunFields])⟩

end

/-! ### The time of a statement -/

/-- The parts of the statement that a visit has stored, which are those of its plan. -/
def Visit.Stored (v : Visit) (p : Sql.Parts) (context : Value) : Prop :=
  v.after.at? "query" = some (statement p.clauses) ∧ ∃ plan document s t t',
    v.before.at? "planner_output" = some plan ∧ planDocument plan = .ok document ∧ p.Of document v.before context s t t'

lemma stored_of_built {v : Visit} (hc : Counted v.before e r)
    (hr : Gives (v.station.run v.before) s t v.after t') (hb : v.built = true) :
    ∃ p context, v.Stored p context := by
  obtain ⟨stn, pre, after⟩ := v
  obtain rfl : stn = .generateQuery := by
    rw [Visit.built, Bool.and_eq_true] at hb
    simpa using hb.1
  have hg := generateQuery_ends hc hr
  obtain ⟨stmt, t₁, hgi⟩ := (hg.built_iff hc.record).1 hb
  have hq := hg.query_built hc.record hgi
  simp only [building, gives_bind, gives_lift, and_assoc, exists_and_left, exists_eq_left'] at hgi
  obtain ⟨_, t₂, -, plan, hpl, doc, hd, context, t₃, -, hbu⟩ := hgi
  obtain ⟨p, hp, rfl⟩ := build_ok hbu
  exact ⟨p, context, hq, plan, doc, s, _, _, field_ok.1 hpl, hd, hp⟩

lemma timeClause_congr (h : state.IsRecord) (h' : state'.IsRecord)
    (ht : state'.at? "time_filter" = state.at? "time_filter") :
    timeClause docs state' context = timeClause docs state context := by
  simp only [timeClause, h.getD, h'.getD, ht]

/-- A run from a state stores only statements whose parts are of a certain kind. -/
def StoresOnly (T : Sql.Parts → Value → Prop) (start : Value) : Prop :=
  ∀ E R t₀ visits next state t, Run E R start t₀ visits next state t → ∀ v ∈ visits, v.built = true →
    ∃ p context, v.Stored p context ∧ T p context

lemma storesOnly_time {w : Wishes} (hf : Fresh start) (hw : w.In start) :
    StoresOnly (fun p context => timeClause p.docs (.record [("time_filter", w.timeFilter)]) context = .ok p.time)
      start := by
  intro E R t₀ vis next state t hr v hv hb
  obtain ⟨earlier, later, rfl⟩ := append_of_mem hv
  obtain ⟨s, t₁, t₂, hso, hvi, -⟩ := hr.visited
  have ht := hso.tally hf
  have hti : v.before.at? "time_filter" = some w.timeFilter := by
    rw [hso.unwritten hf (by simp [carried]) (fun stn => by cases stn <;> simp [Station.writes]),
      hw.timeFilter]
  obtain ⟨p, context, hs⟩ := stored_of_built ht.counted hvi hb
  refine ⟨p, context, hs, ?_⟩
  obtain ⟨-, plan, doc, _, _, _, -, -, hp⟩ := hs
  rw [← hp.time, timeClause_congr ht.record ⟨_, rfl⟩ (hti ▸ rfl)]

section

variable {start : Value} (h : Page.BeginsChange start)

include h

lemma beginsChange_wishes : Wishes.In {} start := by
  obtain ⟨q, hq, hb⟩ := h
  exact hq ▸ hb.wishes

lemma beginsChange_timeless : StoresOnly (fun p _ => p.time = []) start := by
  have hw := beginsChange_wishes h
  obtain ⟨q, -, hb⟩ := h
  intro E R t₀ vis next state t hr v hv hbu
  obtain ⟨p, context, hs, ht⟩ :=
    storesOnly_time hb.fresh hw E R t₀ vis next state t hr v hv hbu
  have hn : timeClause p.docs (.record [("time_filter", "All Time")]) context = .ok [] := rfl
  exact ⟨p, context, hs, Except.ok.inj (ht.symm.trans hn)⟩

end

/-- The runs that the page starts for a question carry its wishes, and their statements ask for its time. The runs
that it starts for changes, one by one or together, carry the wishes of a question that says nothing of them: those
of the question that is changed only if it said nothing either. None of their statements asks for a time. -/
theorem changes_drop_wishes (q : Question) (how : Page.Announcing) (s s' : Surroundings) (t t' : Traffic) :
    (∀ first ∈ startedBy (Page.watch how q) s t, q.wishes.In first ∧ StoresOnly
      (fun p context => timeClause p.docs (.record [("time_filter", q.timeFilter)]) context = .ok p.time) first) ∧
    ∀ later ∈ startedBy Page.pendingChanges s' t', Wishes.In {} later ∧ (q.wishes.In later ↔ q.wishes = {}) ∧
      StoresOnly (fun p _ => p.time = []) later := by
  constructor
  · refine (Page.keeps_watch fun first hf => ?_).startedBy s t
    exact ⟨hf.wishes, storesOnly_time hf.fresh hf.wishes⟩
  · intro later hl
    have hb := Page.keeps_pendingChanges.startedBy s' t' later hl
    have hw := beginsChange_wishes hb
    exact ⟨hw, ⟨fun h => h.unique hw, fun h => h ▸ hw⟩, beginsChange_timeless hb⟩

/-! A question for the orders of the last month, and another limit that is asked for when its rows are shown. -/

def monthQuestion : Question where
  question := "Which orders?"
  sortOrder := "Descending"
  limit := .int 100
  timeFilter := "Last 30 Days"

def monthPlan : Value :=
  .record [("decision", "proceed"), ("selections", .list [.record [("table", "orders"), ("columns", .list [
    .record [("column", "id"), ("role", "projection")],
    .record [("column", "CreatedOn"), ("role", "projection")]])]])]

/-- Surroundings in which the run of a question ends with the plan. -/
def monthDesk : Surroundings where
  env := [("ERROR_CORRECTION_COUNT", "1"), ("REFINE_COUNT", "1")]
  server := some (.record [])
  flow := { chunks := [.values [("executed_plan", monthPlan),
    ("filtered_schema", .list [.record [("table_name", "orders")]])]] }

def asking : Page.Announcing := ⟨"⏳", "running"⟩

/-- Asks the question, and asks for five rows when they are shown. -/
def askedAndChanged : Desk Unit := do
  match ← Page.watch asking monthQuestion with
  | some run => Page.changeLimit run (.int 5) (.bool true)
  | none => pure ()

def changeWaiting : Traffic := (carryOut askedAndChanged monthDesk {}).2

def firstStarted (step : Desk α) (s : Surroundings) (t : Traffic) : Value := (startedBy step s t).headD .null

lemma firstStarted_mem
    (h : (startedBy step s t).isEmpty = false) : firstStarted step s t ∈ startedBy step s t := by
  unfold firstStarted
  cases hs : startedBy step s t with
  | nil => simp [hs] at h
  | cons start rest => exact mem_cons_self

def changeStart : Value := firstStarted Page.pendingChanges monthDesk changeWaiting

lemma mem_changeStart : changeStart ∈ startedBy Page.pendingChanges monthDesk changeWaiting := by
  have hs : (startedBy Page.pendingChanges monthDesk changeWaiting).isEmpty = false := by decide +kernel
  exact firstStarted_mem hs

def changeBeginning : Progress := ⟨[], some .transformPlan, changeStart, {}⟩

lemma changeBeginning_run (n : Nat) : Run 1 1 changeStart {} (changeBeginning.follow monthDesk n).visits
    (changeBeginning.follow monthDesk n).next (changeBeginning.follow monthDesk n).state
    (changeBeginning.follow monthDesk n).traffic := by
  have hl : Limited monthDesk 1 1 := ⟨fun _ => rfl, fun _ => rfl⟩
  have hs : fromStart changeStart = .ok .transformPlan := by decide +kernel
  obtain ⟨q, -, hb⟩ := Page.keeps_pendingChanges.startedBy _ _ _ mem_changeStart
  have h := Progress.follow_leads hb.fresh hl hs {} n
  dsimp only [Progress.Leads] at h
  exact h

lemma exists_started_month : ∃ first, first ∈ startedBy (Page.watch asking monthQuestion) monthDesk {} := by
  have hs : (startedBy (Page.watch asking monthQuestion) monthDesk {}).isEmpty = false := by decide +kernel
  exact ⟨_, firstStarted_mem hs⟩

theorem changes_drop_wishes_month :
    (∃ first ∈ startedBy (Page.watch asking monthQuestion) monthDesk {}, monthQuestion.wishes.In first) ∧
    ∃ later ∈ startedBy Page.pendingChanges monthDesk changeWaiting, Wishes.In {} later ∧
      ¬ monthQuestion.wishes.In later ∧ ∃ E R visits next state t, Run E R later {} visits next state t ∧
        ∃ v ∈ visits, v.built = true ∧ ∃ p context, v.Stored p context ∧ p.time = [] := by
  obtain ⟨hq, hc⟩ := changes_drop_wishes monthQuestion asking monthDesk monthDesk {} changeWaiting
  obtain ⟨first, hf⟩ := exists_started_month
  obtain ⟨hn, hsa, hs⟩ := hc _ mem_changeStart
  have hr := changeBeginning_run 2
  have hb : (changeBeginning.follow monthDesk 2).visits.any Visit.built = true := by decide +kernel
  obtain ⟨v, hv, hvb⟩ := any_eq_true.1 hb
  refine ⟨⟨first, hf, (hq first hf).1⟩, _, mem_changeStart, hn, fun h => ?_, _, _, _, _, _, _, hr,
    v, hv, hvb, hs _ _ _ _ _ _ _ hr v hv hvb⟩
  simpa [monthQuestion, Question.wishes] using hsa.1 h

/-- The statement of the question asks for the last thirty days. After the change nothing does. -/
theorem month_lost_on_change : ∃ first ∈ startedBy (Page.watch asking monthQuestion) monthDesk {},
    ∃ later ∈ startedBy Page.pendingChanges monthDesk changeWaiting,
      monthQuestion.wishes.In first ∧ ¬ monthQuestion.wishes.In later ∧
      timeClause (docsOf monthPlan "selections") first (.record [("is_sqlite", .bool false)]) =
        .ok [.filter ⟨.column ⟨"orders", "CreatedOn"⟩, .compare ">=" "DATEADD(day, -30, GETDATE())"⟩] ∧
      timeClause (docsOf monthPlan "selections") later (.record [("is_sqlite", .bool false)]) = .ok [] := by
  obtain ⟨first, hf⟩ := exists_started_month
  have hb := (Page.keeps_watch (P := monthQuestion.Begins) fun _ h => h).startedBy _ _ first hf
  have hc := Page.keeps_pendingChanges.startedBy _ _ _ mem_changeStart
  have hn := beginsChange_wishes hc
  obtain ⟨q, -, hl⟩ := hc
  refine ⟨first, hf, _, mem_changeStart, hb.wishes, fun h => ?_, ?_, ?_⟩
  · have hs := h.unique hn
    simp [monthQuestion, Question.wishes] at hs
  · rw [timeClause_congr ⟨[("time_filter", "Last 30 Days")], rfl⟩ hb.fresh.record hb.wishes.timeFilter]
    rfl
  · rw [timeClause_congr ⟨[("time_filter", "All Time")], rfl⟩ hl.fresh.record hn.timeFilter]
    rfl

end QueryDesk.Workflow
