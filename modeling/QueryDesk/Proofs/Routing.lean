import QueryDesk.Proofs.Links
import QueryDesk.Proofs.Stations

/-!
The ways between stations. Which stations may follow a station does not depend on the state; which of them
does, and that the choice is never without an answer, is told by what the stations leave.
-/

namespace QueryDesk.Workflow

open Attempt Desk Value Value

variable {next : Station}

def Station.onward : Station → List (Option Station)
  | initializeConnection => [some analyzeSchema]
  | analyzeSchema => [some filterSchema]
  | filterSchema => [some inferForeignKeys, some formatSchemaMarkdown]
  | inferForeignKeys => [some formatSchemaMarkdown]
  | formatSchemaMarkdown => [some prePlanner]
  | prePlanner => [some planner]
  | planner => [some planAudit]
  | planAudit => [some checkClarification]
  | checkClarification => [some cleanup, some generateQuery]
  | generateQuery => [some executeQuery]
  | executeQuery => [some transformPlan, some handleError, some refineQuery, some generateModificationOptions]
  | handleError | refineQuery => [some planner, some cleanup]
  | transformPlan => [some generateQuery]
  | generateModificationOptions => [some cleanup]
  | cleanup => [none]

lemma afterClarification_ok (h : afterClarification state = .ok next) :
    next = .cleanup ∨ next = .generateQuery := by
  simp only [afterClarification, bind_ok] at h
  obtain ⟨plan, -, h⟩ := h
  split at h
  · exact .inl (pure_ok.1 h).symm
  · obtain ⟨decision, -, h⟩ := bind_ok.1 h
    split at h
    · exact .inl (pure_ok.1 h).symm
    · exact .inr (pure_ok.1 h).symm

lemma withRevision_ok (h : withRevision st = .ok next) : next = .planner ∨ next = .cleanup := by
  simp only [withRevision, bind_ok, pure_ok] at h
  obtain ⟨strategy, -, rfl⟩ := h
  split <;> simp

lemma Standing.next_cases (standing : Standing) (done : Station) :
    standing.next done = .handleError ∧ standing.correctable = true ∨
      standing.next done = .refineQuery ∧ standing.refinable = true ∨ standing.next done = done := by
  rcases standing with ⟨_ | _, _ | _, _ | _, _ | _⟩ <;> simp [Standing.next]

/-! ### The way on after a statement ran -/

/-- The surroundings allow so many corrections and so many refinements. -/
structure Limited (s : Surroundings) (corrections refinements : Int) : Prop where
  corrections : ∀ t, Gives (envCount "ERROR_CORRECTION_COUNT" 3) s t corrections t
  refinements : ∀ t, Gives (envCount "REFINE_COUNT" 2) s t refinements t

/-- A state in which the attempts so far are counted. -/
structure Counted (state : Value) (corrections refinements : Nat) : Prop where
  record : state.IsRecord
  corrections : state.at? "error_iteration" = some (.int corrections)
  refinements : state.at? "refinement_iteration" = some (.int refinements)

section

lemma Counted.getD_corrections (h : Counted state e r) : state.getD "error_iteration" (.int 0) = .ok (.int e) := by
  rw [h.record.getD, h.corrections]
  rfl

lemma Counted.getD_refinements (h : Counted state e r) :
    state.getD "refinement_iteration" (.int 0) = .ok (.int r) := by
  rw [h.record.getD, h.refinements]
  rfl

lemma below_int (matters : Bool) (n : Nat) (limit : Int) :
    below matters (.int n) limit = .ok (matters && decide (n < limit)) := by
  cases matters <;> rfl

lemma standing_gives (hl : Limited s E R) (hc : Counted st e r) (hre : Reported st) :
    ∃ fd : Standing, Gives (standing st) s t fd t ∧ (fd.correctable = true → e < E) ∧
      (fd.refinable = true → r < R) := by
  obtain ⟨⟨result, hr⟩, said, role, text, hs, hla⟩ := hre
  have hm : (list said).last = .ok (.message role (.text text)) := by
    simp [last, hla]
  rw [← field_ok] at hr hs
  let failed := Text.contains text "Error"
  let correctable := failed && decide (e < E)
  let refinable := (!correctable && (failed || isEmptyResult result)) && decide (r < R)
  refine ⟨⟨failed, isEmptyResult result, correctable, refinable⟩, ?_, by simp [correctable], by simp [refinable]⟩
  exact .bind (.lift hs) <| .bind (.lift hm) <| .bind (.lift hc.getD_corrections) <|
    .bind (.lift hc.getD_refinements) <| .bind (.lift hr) <| .bind (hl.corrections t) <|
    .bind (hl.refinements t) <| .bind (a := .text text) (.lift rfl) <| .bind (a := failed) (.lift rfl) <|
    .bind (.lift (below_int _ e E)) <| .bind (.lift (below_int _ r R)) .pure

/-- A state tells the way on after a station: after a look at what is unclear there is a plan that can be
read, or none, and after the statement ran it is told how that ended. -/
def Telling (state : Value) : Station → Prop
  | .checkClarification => ∃ plan, state.at? "planner_output" = some plan ∧ (plan.truthy = false ∨ plan.IsRecord)
  | .executeQuery => Reported state
  | _ => True

def patchAsked (state : Value) : Bool := ((state.at? "patch_requested").getD .null).truthy

/-- What is known of the way on from a station: it is a possible one, it keeps to the limits, and a plan is
patched only if that is asked for. -/
structure WayOn (E R : Int) (e r : Nat) (state : Value) (station : Station) (next : Option Station) : Prop where
  possible : next ∈ station.onward
  corrections : next = some .handleError → e < E
  refinements : next = some .refineQuery → r < R
  patch : next = some .transformPlan → patchAsked state = true

lemma afterFilterSchema_gives : ∃ next, Gives afterFilterSchema s t next t ∧
    (next = .inferForeignKeys ∨ next = .formatSchemaMarkdown) := by
  refine ⟨if Text.lower ((s.env.lookup "INFER_FOREIGN_KEYS").getD "false") == "true" then .inferForeignKeys
    else .formatSchemaMarkdown, rfl, ?_⟩
  split <;> simp

lemma afterClarification_gives (h : st.IsRecord) (hte : Telling st .checkClarification) :
    ∃ next, afterClarification st = .ok next := by
  obtain ⟨plan, hp, hf⟩ := hte
  unfold afterClarification
  rw [h.get, hp, Option.getD_some, ok_bind]
  by_cases ht : plan.truthy = true
  · have hr : plan.IsRecord := by simpa [ht] using hf
    rw [hr.getD]
    simp only [ht, Bool.not_true, Bool.false_eq_true, if_false, ok_bind]
    split <;> exact ⟨_, rfl⟩
  · exact ⟨.cleanup, by simp [ht]⟩

lemma withRevision_gives (h : st.IsRecord) : ∃ next, withRevision st = .ok next := by
  unfold withRevision
  rw [h.get]
  exact ⟨_, rfl⟩

lemma afterExecution_gives (hl : Limited s E R) (hco : Counted st e r)
    (hrd : Reported st) : ∃ next, Gives (afterExecution st) s t next t ∧
      WayOn E R e r st .executeQuery (some next) := by
  have ha := hco.record.get "patch_requested"
  by_cases hp : ((st.at? "patch_requested").getD .null).truthy = true
  · refine ⟨.transformPlan, .bind (.lift ha) ?_, by simp [Station.onward], by simp, by simp, fun _ => hp⟩
    rw [if_pos hp]
    exact .pure
  · obtain ⟨fd, hf, hce, hre⟩ := standing_gives (t := t) hl hco hrd
    refine ⟨fd.next .generateModificationOptions, .bind (.lift ha) ?_, ?_⟩
    · rw [if_neg hp]
      exact .bind hf .pure
    · rcases fd.next_cases .generateModificationOptions with ⟨h, hc⟩ | ⟨h, hr⟩ | h
      · exact ⟨by simp [h, Station.onward], fun _ => hce hc, by simp [h], by simp [h]⟩
      · exact ⟨by simp [h, Station.onward], by simp [h], fun _ => hre hr, by simp [h]⟩
      · exact ⟨by simp [h, Station.onward], by simp [h], by simp [h], by simp [h]⟩

lemma nextStation_gives (stn : Station) (hl : Limited s E R) (hc : Counted st e r)
    (ht : Telling st stn) :
    ∃ next, Gives (nextStation stn st) s t next t ∧ WayOn E R e r st stn next := by
  cases stn with
  | filterSchema =>
    obtain ⟨next, hn, h⟩ := afterFilterSchema_gives (s := s) (t := t)
    refine ⟨some next, .bind hn .pure, ?_⟩
    rcases h with rfl | rfl <;> constructor <;> simp [Station.onward]
  | checkClarification =>
    obtain ⟨next, hn⟩ := afterClarification_gives hc.record ht
    refine ⟨some next, .bind (.lift hn) .pure, ?_⟩
    rcases afterClarification_ok hn with rfl | rfl <;> constructor <;> simp [Station.onward]
  | executeQuery =>
    obtain ⟨next, hn, h⟩ := afterExecution_gives (t := t) hl hc ht
    exact ⟨some next, .bind hn .pure, h⟩
  | handleError | refineQuery =>
    obtain ⟨next, hn⟩ := withRevision_gives hc.record
    refine ⟨some next, .bind (.lift hn) .pure, ?_⟩
    rcases withRevision_ok hn with rfl | rfl <;> constructor <;> simp [Station.onward]
  | _ =>
    refine ⟨_, .pure, ?_⟩
    constructor <;> simp [Station.onward]

end

lemma checkClarification_plan : Ends (checkClarification st) fun _ => Telling st .checkClarification := by
  refine .bind fun _ => .lift_bind fun plan hp => ?_
  rw [field_ok] at hp
  split
  case isTrue hn => exact .pure ⟨plan, hp, .inl (by simpa using hn)⟩
  case isFalse =>
    refine .lift_bind fun decision hd => ?_
    have hr : plan.IsRecord := by
      cases plan with
      | record fs => exact ⟨fs, rfl⟩
      | _ => cases hd
    intro s t after t' hg
    exact ⟨plan, hp, .inr hr⟩

lemma Station.run_telling (h : st.IsRecord) (stn : Station) :
    Ends (stn.run st) (Telling · stn) := by
  intro s t after t' hg
  cases stn with
  | checkClarification =>
    obtain ⟨plan, hp, hf⟩ := checkClarification_plan s t after t' hg
    refine ⟨plan, ?_, hf⟩
    rw [(checkClarification_kept h s t after t' hg).same _ (by simp [Station.writes]), hp]
  | executeQuery => exact (executeQuery_ends s t after t' hg).reported h
  | _ => trivial

end QueryDesk.Workflow
