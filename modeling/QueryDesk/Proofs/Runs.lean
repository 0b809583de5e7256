import QueryDesk.Proofs.Connection
import QueryDesk.Proofs.Routing
import QueryDesk.Workflow.Run

/-!
Runs of a question from station to station. A run takes the state from one station to the next; what the
model, the database and the clock do in between is left open. Whatever happens, a run keeps to the limits
on corrections and refinements, comes to an end, and closes the one connection it has opened.
-/

namespace QueryDesk.Workflow

open Attempt Desk Value List

variable {counter history : String} {n : Nat} {state after before : Value} {station own : Station}
  {next : Option Station} {limit : Int}

/-- The fields of a state that are handed from station to station as they are. -/
def carried : List String := ["thread_id", "user_questions", "user_question", "is_continuation", "schema",
  "filtered_schema", "truncated_schema", "schema_markdown", "pre_plan_strategy", "revised_strategy",
  "planner_outputs", "planner_output", "queries", "query", "result", "total_records_available", "router_mode",
  "router_instructions", "sort_order", "result_limit", "time_filter", "last_step", "correction_history",
  "refinement_history", "column_removal_count", "removed_columns", "last_attempt_time", "needs_clarification",
  "clarification_suggestions", "audit_passed", "audit_issues", "audit_corrections", "audit_reasoning",
  "audit_iteration", "error_iteration", "refinement_iteration", "executed_plan", "executed_query",
  "patch_history", "patch_requested", "current_patch_operation", "modification_options", "parent_query_id"]

/-- How a state is handed on: messages may be put together with those before, the last one staying the last,
and an open connection may from now on reply in another way. -/
structure Handed (left taken : Value) : Prop where
  record : taken.IsRecord
  same : ∀ key ∈ carried, taken.at? key = left.at? key
  messages : ∀ said, left.at? "messages" = some (.list said) →
    ∃ whole, taken.at? "messages" = some (.list whole) ∧ whole.getLast? = said.getLast?
  connection : taken.at? "db_connection" = left.at? "db_connection" ∨
    ∃ old new, left.at? "db_connection" = some (.connection old) ∧
      taken.at? "db_connection" = some (.connection new) ∧ (new = .null ↔ old = .null)

/-- A visit of a run at a station: the state it came with, and the one that the station left. -/
structure Visit where
  station : Station
  before : Value
  after : Value

/-- The runs from a state, as far as they have come: the visits so far, the station that is next, if any, and
the state. `E` and `R` are the limits on corrections and refinements. -/
inductive Run (E R : Int) (start : Value) (t₀ : Traffic) : List Visit → Option Station → Value → Traffic → Prop
  | begin {station : Station} (h : fromStart start = .ok station) : Run E R start t₀ [] (some station) start t₀
  | visit {visits : List Visit} {station : Station} {next : Option Station} {s : Surroundings}
      {state after state' : Value} {t t₁ t₂ t₃ : Traffic} (h : Run E R start t₀ visits (some station) state t)
      (hlimits : Limited s E R) (hrun : Gives (station.run state) s t after t₁) (hhanded : Handed after state')
      (hworld : t₂.requests = t₁.requests) (hnext : Gives (nextStation station state') s t₂ next t₃) :
      Run E R start t₀ (visits ++ [⟨station, state, after⟩]) next state' t₃

def Begins (start : Value) : Prop := ∃ q s t thread t', Gives (beginning q) s t (thread, start) t'

def visitsAt (station : Station) (visits : List Visit) : Nat := visits.countP (·.station = station)

/-- Attempts are numbered: the counter tells how many records the history has, and the records carry the
numbers from one on. -/
def Numbered (counter history : String) (n : Nat) (state : Value) : Prop :=
  state.at? counter = some (.int n) ∧ ∃ records, state.at? history = some (.list records) ∧
    records.length = n ∧ records.map (·.peek "iteration") = (range n).map fun i => .int (i + 1)

lemma Numbered.congr (h : Numbered counter history n state) (hc : state'.at? counter = state.at? counter)
    (hh : state'.at? history = state.at? history) : Numbered counter history n state' := by
  unfold Numbered
  rw [hc, hh]
  exact h

/-! ### Beginning -/

/-- A state in which nothing was tried and no connection is open. -/
structure Fresh (state : Value) : Prop where
  record : state.IsRecord
  corrections : Numbered "error_iteration" "correction_history" 0 state
  refinements : Numbered "refinement_iteration" "refinement_history" 0 state
  unconnected : state.at? "db_connection" = some .null

/-- The fields of the first state that may differ from those that every run begins with. -/
def begunFields : List String := ["schema", "filtered_schema", "schema_markdown", "messages", "user_questions",
  "planner_outputs", "planner_output", "queries", "query", "patch_requested", "current_patch_operation",
  "executed_plan"]

lemma newThreadState_kept (h : newThreadState q th = .ok state) :
    Kept begunFields (baseState q th) state := by
  unfold newThreadState at h
  split at h
  · rw [pure_ok] at h
    exact h ▸ kept_refl ⟨_, rfl⟩
  · simp only [bind_ok, pure_ok] at h
    obtain ⟨_, -, _, -, _, -, rfl⟩ := h
    exact IsRecord.kept_update ⟨_, rfl⟩ (by simp [begunFields])

lemma continuedState_kept (h : continuedState q previous = .ok state) :
    Kept begunFields (baseState q q.thread) state := by
  unfold continuedState at h
  split at h
  · rw [pure_ok] at h
    exact h ▸ kept_refl ⟨_, rfl⟩
  · simp only [bind_ok, pure_ok] at h
    obtain ⟨_, -, _, -, _, -, _, -, _, -, _, -, _, -, _, -, rfl⟩ := h
    exact IsRecord.kept_update ⟨_, rfl⟩ (by simp [begunFields])

lemma withPatch_unconcerned (hb : base.IsRecord) (h : withPatch q base = .ok state) :
    Kept ["patch_requested", "current_patch_operation", "executed_plan", "filtered_schema", "planner_output"] base
      state := by
  unfold withPatch at h
  split at h
  · rw [pure_ok] at h
    exact h ▸ kept_refl hb
  · split at h
    · simp at h
    · simp only [bind_ok, pure_ok] at h
      obtain ⟨_, -, rfl⟩ := h
      exact hb.kept_update (by simp)

lemma beginning_kept (q : Question) :
    Ends (beginning q) fun begun => Kept begunFields (baseState q begun.1) begun.2 := by
  have hp {th base : Value} (hb : Kept begunFields (baseState q th) base) :
      Ends (liftM (withPatch q base) >>= fun start => (pure (th, start) : Desk _))
        fun begun => Kept begunFields (baseState q begun.1) begun.2 :=
    .bind_of (.lift fun _ h => kept_mono (hb.trans (withPatch_unconcerned hb.record h)) (by simp [begunFields]))
      fun start hs => .pure hs
  unfold beginning
  split
  · exact .bind fun name => .bind_of (.lift fun _ h => newThreadState_kept h) fun base => hp
  · dsimp only
    split <;>
      exact .bind fun prev => .bind_of (.lift fun _ h => continuedState_kept h) fun base => hp

lemma beginning_ends (q : Question) : Ends (beginning q) fun begun => Fresh begun.2 := by
  intro s t begun t' hg
  have hk := beginning_kept q s t begun t' hg
  refine ⟨hk.record, ⟨?_, [], ?_, rfl, rfl⟩, ⟨?_, [], ?_, rfl, rfl⟩, ?_⟩
  all_goals
    rw [hk.same _ (by simp [begunFields])]
    rfl

lemma Begins.fresh (h : Begins start) : Fresh start := by
  obtain ⟨q, s, t, th, t', hg⟩ := h
  exact beginning_ends q s t (th, start) t' hg

/-! ### One visit -/

lemma Handed.telling (h : Handed left taken)
    (ht : Telling left station) : Telling taken station := by
  cases station with
  | checkClarification =>
    obtain ⟨plan, hp, hf⟩ := ht
    exact ⟨plan, (h.same _ (by simp [carried])).trans hp, hf⟩
  | executeQuery =>
    obtain ⟨⟨r, hr⟩, said, role, text, hs, hl⟩ := ht
    obtain ⟨whole, hw, hsa⟩ := h.messages said hs
    exact ⟨⟨r, (h.same _ (by simp [carried])).trans hr⟩, whole, role, text, hw, hsa.trans hl⟩
  | _ => trivial

lemma Counts.numbered
    (h : Counts counter history before after) (hn : Numbered counter history n before) :
    Numbered counter history (n + 1) after := by
  obtain ⟨hc, records, hr, hl, hnu⟩ := hn
  obtain ⟨hc', att, ha, hr'⟩ := h n records hc hr
  refine ⟨by simpa using hc', records ++ [att], hr', by simp [hl], ?_⟩
  rw [map_append, hnu, range_succ, map_append, map_singleton, map_singleton, ha]

lemma visitsAt_concat (station : Station) (vis : List Visit) (v : Visit) :
    visitsAt station (vis ++ [v]) = visitsAt station vis + if v.station = station then 1 else 0 := by
  simp [visitsAt, countP_append, countP_singleton]

section

variable {station : Station} {state after : Value}

/-- Attempts stay numbered at every visit: their own station counts one more, the others leave the fields
alone. -/
lemma numbered_visit
    (hc : counter ∈ carried ∧ history ∈ carried) (how : Ends (own.run state) (Counts counter history state))
    (ho : station ≠ own → counter ∉ station.writes ∧ history ∉ station.writes) (h : state.IsRecord)
    (hr : Gives (station.run state) s t after t₁) (hh : Handed after state')
    (hn : Numbered counter history n state) : Numbered counter history (n + if station = own then 1 else 0) state' := by
  refine Numbered.congr ?_ (hh.same _ hc.1) (hh.same _ hc.2)
  by_cases hs : station = own
  · subst hs
    rw [if_pos rfl]
    exact (how s t after t₁ hr).numbered hn
  · have hk := station.run_kept h s t after t₁ hr
    rw [if_neg hs]
    exact hn.congr (hk.same _ (ho hs).1) (hk.same _ (ho hs).2)

end

/-! ### Counting -/

/-- What is counted in a run so far. -/
structure Tally (E R : Int) (visits : List Visit) (next : Option Station) (state : Value) : Prop where
  record : state.IsRecord
  corrections : Numbered "error_iteration" "correction_history" (visitsAt .handleError visits) state
  refinements : Numbered "refinement_iteration" "refinement_history" (visitsAt .refineQuery visits) state
  mostCorrections : visitsAt .handleError visits + (if next = some .handleError then 1 else 0) ≤ E.toNat
  mostRefinements : visitsAt .refineQuery visits + (if next = some .refineQuery then 1 else 0) ≤ R.toNat

section

variable {start : Value}

lemma Tally.counted (h : Tally E R vis next state) :
    Counted state (visitsAt .handleError vis) (visitsAt .refineQuery vis) :=
  ⟨h.record, h.corrections.1, h.refinements.1⟩

lemma fromStart_ok (h : start.IsRecord) (hs : fromStart start = .ok station) :
    station = .transformPlan ∧ patchAsked start = true ∨
      station = .initializeConnection ∧ patchAsked start = false := by
  unfold fromStart at hs
  rw [h.get, ok_bind, pure_ok] at hs
  subst hs
  unfold patchAsked
  cases ((start.at? "patch_requested").getD .null).truthy <;> simp

lemma Tally.visit (h : Tally E R vis (some station) state) (hr : Gives (station.run state) s t after t₁)
    (hh : Handed after st') : Numbered "error_iteration" "correction_history"
        (visitsAt .handleError (vis ++ [⟨station, state, after⟩])) st' ∧
      Numbered "refinement_iteration" "refinement_history"
        (visitsAt .refineQuery (vis ++ [⟨station, state, after⟩])) st' ∧ Telling st' station := by
  rw [visitsAt_concat, visitsAt_concat]
  refine ⟨?_, ?_, hh.telling (station.run_telling h.record s t after t₁ hr)⟩
  · refine numbered_visit (by simp [carried]) ?_ ?_ h.record hr hh h.corrections
    · exact fun s t after t₁ hr => (handleError_ends h.record s t after t₁ hr).2
    · intro hs
      cases station <;> simp_all [Station.writes]
  · refine numbered_visit (by simp [carried]) ?_ ?_ h.record hr hh h.refinements
    · exact fun s t after t₁ hr => (refineQuery_ends h.record s t after t₁ hr).2
    · intro hs
      cases station <;> simp_all [Station.writes]

lemma Tally.wayOn (h : Tally E R vis (some station) state) (hl : Limited s E R)
    (hru : Gives (station.run state) s t after t₁) (hh : Handed after st') (t₂ : Traffic) :
    ∃ next, Gives (nextStation station st') s t₂ next t₂ ∧
      WayOn E R (visitsAt .handleError (vis ++ [⟨station, state, after⟩]))
        (visitsAt .refineQuery (vis ++ [⟨station, state, after⟩])) st' station next := by
  obtain ⟨hc, hr, ht⟩ := h.visit hru hh
  exact nextStation_gives station hl ⟨hh.record, hc.1, hr.1⟩ ht

/-- One more visit keeps to a limit if the run went there only below it, and goes there again only below it. -/
lemma visitsAt_le
    (h : visitsAt own vis + (if some v.station = some own then 1 else 0) ≤ limit.toNat)
    (hne : next = some own → visitsAt own (vis ++ [v]) < limit) :
    visitsAt own (vis ++ [v]) + (if next = some own then 1 else 0) ≤ limit.toNat := by
  have hs : visitsAt own (vis ++ [v]) ≤ limit.toNat := by
    rw [visitsAt_concat]
    simpa using h
  by_cases hn : next = some own
  · have hb := hne hn
    rw [if_pos hn]
    omega
  · rw [if_neg hn]
    exact hs

lemma Run.tally (hf : Fresh start) (h : Run E R start t₀ visits next state t) : Tally E R visits next state := by
  induction h with
  | begin hs =>
    refine ⟨hf.record, hf.corrections, hf.refinements, ?_, ?_⟩ <;>
      rcases fromStart_ok hf.record hs with ⟨rfl, -⟩ | ⟨rfl, -⟩ <;> simp [visitsAt]
  | visit _ hl hru hh _ hn ih =>
    obtain ⟨hc, hr, -⟩ := ih.visit hru hh
    obtain ⟨_, hn', hw⟩ := ih.wayOn hl hru hh _
    obtain ⟨rfl, -⟩ := hn.unique hn'
    exact ⟨hh.record, hc, hr, visitsAt_le ih.mostCorrections hw.corrections,
      visitsAt_le ih.mostRefinements hw.refinements⟩

lemma Run.wayOn (hf : Fresh start) (h : Run E R start t₀ vis (some station) state t)
    (hl : Limited s E R) (hr : Gives (station.run state) s t after t₁) (hh : Handed after st')
    (hn : Gives (nextStation station st') s t₂ next t₃) :
    WayOn E R (visitsAt .handleError (vis ++ [⟨station, state, after⟩]))
      (visitsAt .refineQuery (vis ++ [⟨station, state, after⟩])) st' station next ∧ t₃ = t₂ := by
  obtain ⟨_, hn', hw⟩ := (h.tally hf).wayOn hl hr hh t₂
  obtain ⟨rfl, rfl⟩ := hn.unique hn'
  exact ⟨hw, rfl⟩

lemma Run.unwritten (hf : Fresh start) (hc : key ∈ carried)
    (hn : ∀ station : Station, key ∉ station.writes)
    (h : Run E R start t₀ visits next state t) : state.at? key = start.at? key := by
  induction h with
  | begin => rfl
  | visit hr₀ _ hr hh _ _ ih =>
    have hk := Station.run_kept (hr₀.tally hf).record _ _ _ _ _ hr
    rw [hh.same _ hc, hk.same _ (hn _), ih]

/-! ### Carrying a run out -/

lemma Handed.refl (h : state.IsRecord) : Handed state state :=
  ⟨h, fun _ _ => rfl, fun said hs => ⟨said, hs, rfl⟩, .inl rfl⟩

/-- A run as far as it has come. -/
structure Progress where
  visits : List Visit
  next : Option Station
  state : Value
  traffic : Traffic

/-- Goes on with a run to its next station, if there is one; a run that fails there stays where it is. -/
def Progress.step (s : Surroundings) (p : Progress) : Progress :=
  match p.next with
  | none => p
  | some station =>
    match carryOut (station.run p.state) s p.traffic with
    | (.error _, _) => p
    | (.ok after, t) =>
      match carryOut (nextStation station after) s t with
      | (.error _, _) => p
      | (.ok next, t) => ⟨p.visits ++ [⟨station, p.state, after⟩], next, after, t⟩

def Progress.follow (s : Surroundings) : Nat → Progress → Progress
  | 0, p => p
  | n + 1, p => follow s n (p.step s)

/-- A run that begins as one progress says has come as far as another says. -/
def Progress.Leads (E R : Int) (p q : Progress) : Prop :=
  Run E R p.state p.traffic q.visits q.next q.state q.traffic

lemma Progress.step_leads {p₀ p : Progress} (hf : Fresh p₀.state) (hl : Limited s E R) (h : p₀.Leads E R p) :
    p₀.Leads E R (p.step s) := by
  have hre := (h.tally hf).record
  unfold Progress.step
  split
  · exact h
  case h_2 station hs =>
    split
    · exact h
    case h_2 after t hr =>
      have hk := station.run_kept hre s _ after t hr
      split
      · exact h
      case h_2 next t₂ hn =>
        rw [Leads, hs] at h
        exact h.visit hl hr (.refl hk.record) rfl hn

lemma Progress.follow_leads (hf : Fresh start) (hl : Limited s E R) (hs : fromStart start = .ok station)
    (t₀ : Traffic) (n : Nat) : let p₀ : Progress := ⟨[], some station, start, t₀⟩; p₀.Leads E R (p₀.follow s n) := by
  intro p₀
  have hn : ∀ (n : Nat) {p : Progress}, p₀.Leads E R p → p₀.Leads E R (p.follow s n) := by
    intro n
    induction n with
    | zero => exact fun h => h
    | succ n ih => exact fun h => ih (step_leads hf hl h)
  exact hn n (.begin hs)

end

end QueryDesk.Workflow
