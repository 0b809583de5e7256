import QueryDesk.Proofs.Grouping
import QueryDesk.Proofs.Pairing

/-!
What follows on the audit of a plan. The audit tells critical issues, those with which a statement cannot run,
from the others, and says so to the user. It does not touch the decision of the plan, though, and nothing else
is asked on the way on: a plan with critical issues is looked at for what is unclear, its statement is built,
and the statement is run.
-/

namespace QueryDesk

open Attempt List Value

variable {before : Value} {pins : List String}

/-! ### The repair of a plan and its decision -/

namespace Plan

open Value

variable {plan : Value}

lemma completeGrouping_kept (h : completeGrouping plan = .ok plan') :
    plan.IsRecord ∧ Kept ["group_by"] plan plan' := by
  simp only [completeGrouping, bind_ok] at h
  obtain ⟨grp, hg, h⟩ := h
  have hr := (get_ok.1 hg).1
  refine ⟨hr, ?_⟩
  split at h
  · cases h
    exact kept_refl hr
  · obtain ⟨_, -, h⟩ := bind_ok.1 h
    split at h
    · cases h
      exact kept_refl hr
    · simp only [bind_ok] at h
      obtain ⟨_, -, _, -, _, -, _, -, _, -, _, -, _, -, hs⟩ := h
      rw [(setField_ok hs).2]
      exact hr.kept_self _ _

lemma repair_decision (h : repair schema plan = .ok (plan', notes)) :
    plan.IsRecord ∧ plan'.IsRecord ∧ plan'.at? "decision" = plan.at? "decision" := by
  simp only [repair, bind_ok] at h
  obtain ⟨completed, hc, moved, hm, hr⟩ := h
  obtain ⟨hre, hk⟩ := completeGrouping_kept hc
  have ha := (hk.trans (moveHaving_kept hm)).trans (repairColumns_steps hr).kept
  exact ⟨hre, ha.record, ha.at? _⟩

lemma truthy_of_critical (hr : plan.IsRecord)
    (h : check walk plan schema = .ok (critical, others)) (hc : critical ≠ []) : plan.truthy = true := by
  obtain ⟨fs, rfl⟩ := hr
  cases fs with
  | cons f fs => rfl
  | nil =>
    cases h
    exact absurd rfl hc

end Plan

namespace Workflow

open Desk Value

/-! ### What the audit leaves -/

/-- What the audit finds about the plan of a state; nothing if there is no plan, or one that is given up. -/
def examined? (pins : List String) (state : Value) : Attempt (Option Audited) := do
  let plan ← state.get "planner_output"
  if !plan.truthy then return none
  let plan := Plan.documentOf plan
  if (← plan.get "decision") == "terminate" then return none
  let schema := (← state.get "filtered_schema").orElse (← state.getD "schema" (.list []))
  return some (← auditPlan (arranged pins) plan schema)

/-- The ways in which the audit of a state's plan ends. -/
inductive Audit (s : Surroundings) (state : Value) : Value → Prop
  | skipped (hfound : examined? s.pins state = .ok none) :
      Audit s state (state.update [("audit_passed", .bool true), ("audit_issues", .list []),
        ("last_step", .text "plan_audit")])
  /-- The plan was audited: it is there as it was repaired, with the issues that were found. -/
  | examined {audited : Audited} {history : Fields} {said : String}
      (hfound : examined? s.pins state = .ok (some audited)) (hhistory : history.map (·.1) ⊆ Station.planAudit.writes) :
      Audit s state ((state.update history).update [saying said, ("planner_output", audited.plan),
        ("audit_passed", .bool (audited.critical ++ audited.others).isEmpty),
        ("audit_issues", texts (audited.critical ++ audited.others)), ("audit_corrections", texts audited.repairs),
        ("last_step", .text "plan_audit")])

section

variable {s : Surroundings} {t : Traffic} {state after : Value}

lemma planAudit_ends (h : Gives (planAudit state) s t after t') : Audit s state after := by
  simp only [planAudit, gives_bind, gives_lift, and_assoc, exists_and_left, exists_eq_left'] at h
  obtain ⟨_, t₁, -, plan, hp, h⟩ := h
  have hf : examined? s.pins state = (do
      if !plan.truthy then return none
      if (← (Plan.documentOf plan).get "decision") == "terminate" then return none
      let sch := (← state.get "filtered_schema").orElse (← state.getD "schema" (.list []))
      return some (← auditPlan (arranged s.pins) (Plan.documentOf plan) sch)) := by
    rw [examined?, hp]
    rfl
  split at h
  case isTrue hfa =>
    obtain ⟨rfl, -⟩ := h
    exact .skipped (by rw [hf, if_pos hfa]; rfl)
  case isFalse htr =>
    rw [if_neg htr] at hf
    simp only [gives_bind, gives_lift, and_assoc, exists_and_left, exists_eq_left'] at h
    obtain ⟨decision, hd, h⟩ := h
    rw [hd, ok_bind] at hf
    split at h
    case isTrue ht =>
      obtain ⟨rfl, -⟩ := h
      exact .skipped (by rw [hf, if_pos ht]; rfl)
    case isFalse hg =>
      rw [if_neg hg] at hf
      simp only [gives_bind, gives_lift, and_assoc, exists_and_left, exists_eq_left'] at h
      obtain ⟨fil, hfi, whole, hwh, walk, t₂, hwa, audited, ha, history, t₃, hh, h⟩ := h
      have hw' : Gives Desk.walk s t₁ (arranged s.pins) t₁ := rfl
      obtain ⟨rfl, rfl⟩ := hwa.unique hw'
      simp only [hfi, hwh, ha, ok_bind] at hf
      have hw := repairedHistory_ends s _ history t₃ hh
      split at h
      · rw [gives_pure] at h
        obtain ⟨rfl, -⟩ := h
        exact .examined hf hw
      · split at h
        · rw [gives_pure] at h
          obtain ⟨rfl, -⟩ := h
          exact .examined hf hw
        · simp only [gives_bind, gives_pure] at h
          obtain ⟨_, _, -, _, _, -, rfl, -⟩ := h
          exact .examined hf hw

end

def Visit.critical (v : Visit) : Bool := v.station = .planAudit &&
  match v.after.at? "audit_issues" with
  | some (.list issues) => issues.any fun issue => (issue.text?.map Plan.isCritical).getD false
  | _ => false

lemma Visit.critical_eq {v : Visit} (is : List String) (hs : v.station = .planAudit)
    (h : v.after.at? "audit_issues" = some (texts is)) : v.critical = is.any Plan.isCritical := by
  rw [Visit.critical, hs, h, texts]
  simp [any_map, Function.comp_def, text?]

section

variable {s : Surroundings} {state after : Value} {audited : Audited}

/-- What is found critical is what would keep the statement from running, and nothing else is. -/
lemma auditPlan_critical {walk : List Value → List Value}
    (h : auditPlan walk plan schema = .ok audited) : (∀ issue ∈ audited.critical, Plan.isCritical issue = true) ∧
      ∀ issue ∈ audited.others, Plan.isCritical issue = false := by
  simp only [auditPlan, Plan.check, bind_ok, pure_ok] at h
  obtain ⟨_, -, _, -, _, ⟨is, -, rfl⟩, rfl⟩ := h
  simp

/-- A plan that has critical issues is not given up: it has the decision it came with, and it says something. -/
lemma auditPlan_decision {walk : List Value → List Value}
    (h : auditPlan walk plan schema = .ok audited) (hcr : audited.critical ≠ []) :
    plan.IsRecord ∧ audited.plan.IsRecord ∧ audited.plan.at? "decision" = plan.at? "decision" ∧
      audited.plan.truthy = true := by
  simp only [auditPlan, bind_ok, pure_ok] at h
  obtain ⟨_, -, ⟨plan', repairs⟩, hr, ⟨critical, others⟩, hc, rfl⟩ := h
  obtain ⟨hre, hr', hd⟩ := Plan.repair_decision hr
  exact ⟨hre, hr', hd, Plan.truthy_of_critical hr' hc hcr⟩

lemma examined?_ok (h : examined? pins state = .ok (some audited)) :
    ∃ plan sch, auditPlan (arranged pins) plan sch = .ok audited ∧
      ∃ decision, plan.get "decision" = .ok decision ∧ (decision == "terminate") = false := by
  simp only [examined?, bind_ok] at h
  obtain ⟨plan, -, h⟩ := h
  split at h
  · cases h
  · obtain ⟨decision, hd, h⟩ := bind_ok.1 h
    split at h
    · cases h
    case isFalse hg =>
      simp only [bind_ok, pure_ok, Option.some.injEq] at h
      obtain ⟨_, -, _, -, _, ha, rfl⟩ := h
      exact ⟨_, _, ha, decision, hd, by simpa using hg⟩

lemma Audit.critical_iff (h : state.IsRecord) (ha : Audit s state after) :
    Visit.critical ⟨.planAudit, state, after⟩ = true ↔
      ∃ audited, examined? s.pins state = .ok (some audited) ∧ audited.critical ≠ [] := by
  cases ha with
  | skipped hf =>
    rw [Visit.critical_eq [] rfl (by rw [at?_update h]; rfl), hf]
    simp
  | @examined audited history said hf hh =>
    obtain ⟨_, _, hau, -⟩ := examined?_ok hf
    obtain ⟨hc, ho⟩ := auditPlan_critical hau
    rw [Visit.critical_eq (audited.critical ++ audited.others) rfl (by rw [at?_update (h.update history)]; rfl), hf]
    have hn : audited.others.any Plan.isCritical = false := any_eq_false.2 (by simpa using ho)
    rw [any_append, hn, Bool.or_false, any_eq_true]
    constructor
    · rintro ⟨issue, hi, -⟩
      exact ⟨audited, rfl, ne_nil_of_mem hi⟩
    · rintro ⟨_, heq, hne⟩
      cases heq
      obtain ⟨issue, hi⟩ := exists_mem_of_ne_nil _ hne
      exact ⟨issue, hi, hc issue hi⟩

lemma Audit.records (h : state.IsRecord) (ha : Audit s state after)
    (hf : examined? s.pins state = .ok (some audited)) : after.at? "planner_output" = some audited.plan ∧
      after.at? "audit_passed" = some (.bool (audited.critical ++ audited.others).isEmpty) := by
  cases ha with
  | skipped hn =>
    rw [hf] at hn
    cases hn
  | @examined _ history _ hf' =>
    rw [hf] at hf'
    cases hf'
    rw [at?_update (h.update history), at?_update (h.update history)]
    exact ⟨rfl, rfl⟩

end

/-! ### The way on from the audit -/

/-- From the one station the way goes on to the other whenever this plan is at hand, and the other one leaves the
plan as it is. -/
structure Leads (plan : Value) (here there : Station) : Prop where
  next : ∀ {state s t next t'}, state.IsRecord → state.at? "planner_output" = some plan →
    Gives (nextStation here state) s t next t' → next = some there
  keeps : "planner_output" ∉ there.writes

/-- The run goes to these stations one after the other, as far as it has come, with this plan at hand. -/
def Follows (plan : Value) (next : Option Station) (state : Value) : List Station → List Visit → Prop
  | [], _ => True
  | station :: stations, later =>
    (goesTo later next state).1 = some station ∧ (goesTo later next state).2.at? "planner_output" = some plan ∧
      ∀ w rest, later = w :: rest → Follows plan next state stations rest

section

variable {E R : Int} {start plan : Value} {t₀ t : Traffic} {earlier later : List Visit} {v : Visit}
  {next : Option Station} {state : Value}

/-- A run that leaves a visit with a plan at hand follows the stations that lead from one to the next with it. -/
lemma Run.follows (hf : Fresh start)
    (h : Run E R start t₀ (earlier ++ v :: later) next state t) (hp : v.after.at? "planner_output" = some plan)
    (hl : List.IsChain (Leads plan) (v.station :: stations)) : Follows plan next state stations later := by
  -- Along the stations that are still to come; what is kept is that the plan is at hand.
  induction stations generalizing earlier v later with
  | nil => trivial
  | cons stn stations ih =>
    rw [isChain_cons_cons] at hl
    obtain ⟨hle, hl⟩ := hl
    obtain ⟨s, -, -, -, -, hh, t₁, t₂, hn⟩ := h.visited
    have hp' : (goesTo later next state).2.at? "planner_output" = some plan := by
      rw [hh.same _ (by simp [carried]), hp]
    have hs := hle.next hh.record hp' hn
    refine ⟨hs, hp', ?_⟩
    rintro w rest rfl
    rw [append_cons] at h
    obtain ⟨s, t₁, t₂, hb, hr, -⟩ := h.visited
    cases hs
    have hk := w.station.run_kept (hb.tally hf).record s t₁ w.after t₂ hr
    exact ih h ((hk.same _ hle.keeps).trans hp') hl

/-- With a plan that says something and is not given up, the way from the audit leads to the statement and on. -/
lemma leads_of_plan (hr : plan.IsRecord) (ht : plan.truthy = true)
    (hg : ∀ decision, plan.at? "decision" = some decision → (decision == "terminate") = false) :
    List.IsChain (Leads plan) [.planAudit, .checkClarification, .generateQuery, .executeQuery] := by
  refine .cons_cons ⟨?_, by simp [Station.writes]⟩ <| .cons_cons ⟨?_, by simp [Station.writes]⟩ <|
    .cons_cons ⟨?_, by simp [Station.writes]⟩ (.singleton _)
  · intro state s t next t' _ _ hn
    exact (gives_pure.1 hn).1.symm
  · -- Only here the plan is asked for: whether there is one, and whether it is given up.
    intro state s t next t' hs hp hn
    have ha : afterClarification state = .ok .generateQuery := by
      unfold afterClarification
      rw [hs.get, hp, Option.getD_some, ok_bind, hr.getD]
      cases hde : plan.at? "decision" with
      | none =>
        have hd : (text "proceed" == text "terminate") = false := rfl
        simp [ht, ok_bind, hd]
      | some decision => simp [ht, ok_bind, hg decision hde]
    simp only [nextStation, gives_bind, gives_lift, gives_pure, ha] at hn
    obtain ⟨_, _, ⟨hn, -⟩, rfl, -⟩ := hn
    cases hn
    rfl
  · intro state s t next t' _ _ hn
    exact (gives_pure.1 hn).1.symm

lemma leads_of_critical
    (hf : examined? pins before = .ok (some audited)) (hc : audited.critical ≠ []) :
    List.IsChain (Leads audited.plan) [.planAudit, .checkClarification, .generateQuery, .executeQuery] := by
  obtain ⟨plan, sch, ha, decision, hd, hg⟩ := examined?_ok hf
  obtain ⟨-, hr, hs, ht⟩ := auditPlan_decision ha hc
  refine leads_of_plan hr ht fun decision' hd' => ?_
  rw [hs] at hd'
  rw [(get_ok.1 hd).2.symm.trans (peek_eq_at? _ _), hd'] at hg
  exact hg

/-- The third visit after the audit of a plan with critical issues records this plan, if a statement ran there. -/
lemma Run.critical_recorded (hfr : Fresh start)
    (h : Run E R start t₀ (earlier ++ v :: c :: g :: w :: rest) next state t)
    (hs : v.station = .planAudit) (hfo : examined? pins before = .ok (some audited))
    (hc : audited.critical ≠ []) (hp : v.after.at? "planner_output" = some audited.plan)
    (hra : w.ran = true) : w.after.at? "executed_plan" = some audited.plan := by
  have hl := leads_of_critical hfo hc
  rw [← hs] at hl
  obtain ⟨-, -, hf⟩ := h.follows hfr hp hl
  obtain ⟨-, -, hf⟩ := hf c _ rfl
  obtain ⟨hw, hp', -⟩ := hf g _ rfl
  rw [append_cons, append_cons, append_cons] at h
  obtain ⟨s, t₁, t₂, hb, hru, -⟩ := h.visited
  obtain ⟨stn, before, after⟩ := w
  cases hw
  have hr := (executeQuery_ends s t₁ after t₂ hru).recorded (hb.tally hfr).record hra
  rw [hr.2.1, peek_eq_at?]
  exact congrArg (some <| Option.getD · .null) hp'

/-- What is found critical does not stop a run. -/
structure Unblocked (s : Surroundings) (v : Visit) (later : List Visit) (next : Option Station) (state : Value) :
    Prop where
  /-- The audit tells that something is critical exactly if it is. -/
  told : v.critical = true ↔ ∃ audited, examined? s.pins v.before = .ok (some audited) ∧ audited.critical ≠ []
  /-- A plan with critical issues is at hand afterwards, and its statement is built and run. -/
  onward : ∀ audited, examined? s.pins v.before = .ok (some audited) → audited.critical ≠ [] →
    v.after.at? "planner_output" = some audited.plan ∧
      Follows audited.plan next state [.checkClarification, .generateQuery, .executeQuery] later
  /-- If the statement ran, it is recorded with this plan. -/
  recorded : ∀ audited, examined? s.pins v.before = .ok (some audited) → audited.critical ≠ [] →
    ∀ c g w rest, later = c :: g :: w :: rest → w.ran = true → w.after.at? "executed_plan" = some audited.plan

/-- Wherever a run audits a plan and finds critical issues, it goes on, as far as it gets, to build and to run the
statement of that plan. -/
theorem critical_plan_goes_on (hstart : Begins start)
    (h : Run E R start t₀ (earlier ++ v :: later) next state t) (hstation : v.station = .planAudit) :
    ∃ s t₁ t₂, Run E R start t₀ earlier (some .planAudit) v.before t₁ ∧ Gives (planAudit v.before) s t₁ v.after t₂ ∧
      Unblocked s v later next state := by
  obtain ⟨station, before, after⟩ := v
  cases hstation
  obtain ⟨s, t₁, t₂, hru, hau, -⟩ := h.visited
  have hr := (hru.tally hstart.fresh).record
  have ha := planAudit_ends hau
  refine ⟨s, t₁, t₂, hru, hau, ha.critical_iff hr, fun audited hf hc => ?_, ?_⟩
  · obtain ⟨hp, -⟩ := ha.records hr hf
    exact ⟨hp, h.follows hstart.fresh hp (leads_of_critical hf hc)⟩
  · rintro audited hf hc c g w rest rfl hra
    exact h.critical_recorded hstart.fresh rfl hf hc (ha.records hr hf).1 hra

end

/-! A run that finds no rows, refines the plan to one for a table that there is not, and runs its statement. -/

def ghostPlan : Fields := [("decision", "proceed"), ("selections", .list [.record [("table", "ghosts"),
  ("columns", .list [.record [("table", "ghosts"), ("column", "id"), ("role", "projection")]])]])]

/-- What the run begins with; the model will reply with a strategy and the plan for the table that there is not. -/
def ghostBeginning : Progress :=
  { limitBeginning with traffic := { replies := [.ok (.message .assistant "Look at the ghosts."),
      .ok (.entity ghostPlan (.record ghostPlan))] } }

lemma begins_ghostBeginning : Begins ghostBeginning.state := begins_limitBeginning

lemma ghostBeginning_leads (n : Nat) : ghostBeginning.Leads 1 1 (ghostBeginning.follow oneRefinement n) :=
  Progress.follow_leads begins_ghostBeginning.fresh limited_oneRefinement rfl _ n

lemma ghost_visits : ∃ earlier v c g w, (ghostBeginning.follow oneRefinement 9).visits = earlier ++ v :: [c, g, w] ∧
    v.station = .planAudit ∧ v.critical = true ∧ g.built = true ∧ w.ran = true := by
  have hv : ((ghostBeginning.follow oneRefinement 9).visits.drop 5).map
      (fun v => (decide (v.station = .planAudit), v.critical, v.built, v.ran)) =
        [(true, true, false, false), (false, false, false, false), (false, false, true, false),
          (false, false, false, true)] := by decide +kernel
  simp only [map_eq_cons_iff, map_eq_nil_iff, Prod.mk.injEq, decide_eq_true_eq] at hv
  obtain ⟨v, _, hd, ⟨hs, hc, -⟩, c, _, rfl, -, g, _, rfl, ⟨-, -, hb, -⟩, w, _, rfl,
    ⟨-, -, -, hr⟩, rfl⟩ := hv
  refine ⟨(ghostBeginning.follow oneRefinement 9).visits.take 5, v, c, g, w, ?_, hs, hc, hb, hr⟩
  rw [← hd, take_append_drop]

theorem critical_plan_goes_on_ghosts : ∃ (earlier : List Visit) (v c g w : Visit) (pins : List String)
    (audited : Audited), (ghostBeginning.follow oneRefinement 9).visits = earlier ++ v :: [c, g, w] ∧
      v.station = .planAudit ∧ examined? pins v.before = .ok (some audited) ∧ audited.critical ≠ [] ∧
      g.station = .generateQuery ∧ w.after.at? "executed_plan" = some audited.plan := by
  obtain ⟨earlier, v, c, g, w, hv, hs, hc, -, hra⟩ := ghost_visits
  have hr := ghostBeginning_leads 9
  rw [Progress.Leads, hv] at hr
  obtain ⟨s, _, _, -, -, hu⟩ := critical_plan_goes_on begins_ghostBeginning hr hs
  obtain ⟨audited, hf, hi⟩ := hu.told.1 hc
  obtain ⟨-, -, hfo⟩ := (hu.onward audited hf hi).2
  have hg : some g.station = some .generateQuery := (hfo c _ rfl).1
  exact ⟨earlier, v, c, g, w, s.pins, audited, hv, hs, hf, hi, Option.some.inj hg,
    hu.recorded audited hf hi c g w [] rfl hra⟩

/-- A plan in which the audit has found critical issues, and whose statement was built, run and recorded. -/
theorem critical_plan_executed : ∃ (start : Value) (t₀ : Traffic) (earlier : List Visit) (v c g w : Visit)
    (next : Option Station) (state : Value) (t t₁ t₂ : Traffic) (s : Surroundings) (audited : Audited),
    Begins start ∧ Run 1 1 start t₀ (earlier ++ v :: [c, g, w]) next state t ∧
      Gives (planAudit v.before) s t₁ v.after t₂ ∧ examined? s.pins v.before = .ok (some audited) ∧
      audited.critical ≠ [] ∧ g.built = true ∧ w.ran = true ∧ w.after.at? "executed_plan" = some audited.plan := by
  obtain ⟨earlier, v, c, g, w, hv, hs, hc, hbu, hra⟩ := ghost_visits
  have hru := ghostBeginning_leads 9
  rw [Progress.Leads, hv] at hru
  obtain ⟨stn, before, after⟩ := v
  cases hs
  obtain ⟨s, t₁, t₂, hb, hau, -⟩ := hru.visited
  have hfr := begins_ghostBeginning.fresh
  have hr := (hb.tally hfr).record
  have ha := planAudit_ends hau
  obtain ⟨audited, hf, hi⟩ := (ha.critical_iff hr).1 hc
  exact ⟨_, _, _, _, c, g, w, _, _, _, t₁, t₂, s, audited, begins_ghostBeginning, hru, hau, hf, hi,
    hbu, hra, hru.critical_recorded hfr rfl hf hi (ha.records hr hf).1 hra⟩

end Workflow

end QueryDesk
