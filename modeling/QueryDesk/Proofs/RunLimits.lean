import QueryDesk.Proofs.Runs

/-!
How long a run is and what it does to the connection. Every way from a station leads nearer to the end, or
back to the planner with one more attempt counted; so a run within its limits comes to an end. A connection
is opened at the first station only, and is there until the last one.
-/

namespace QueryDesk.Workflow

open Desk Value List Value

variable {station : Station} {t t₁ : Traffic} {state state' : Value} {next : Option Station} {s : Surroundings}

section

variable {E R : Int} {start : Value} {t₀ : Traffic} {visits : List Visit}

/-! ### Where a run is -/

/-- Where a run is: it is at one of the stations that may come first only at its beginning, a patch is no
longer asked for, and the run is over when it has cleaned up. -/
structure Placed (visits : List Visit) (next : Option Station) (state : Value) : Prop where
  first : next = some .initializeConnection ∨ next = some .transformPlan → visits = []
  unpatched : next ≠ some .transformPlan → patchAsked state = false
  connecting : visitsAt .initializeConnection visits + visitsAt .transformPlan visits ≤ 1
  going : next ≠ none → visitsAt .cleanup visits = 0
  last : next = none → ∃ earlier v, visits = earlier ++ [v] ∧ v.station = .cleanup ∧ visitsAt .cleanup earlier = 0

lemma Placed.patch_over {after : Value}
    (h : Placed visits (some station) state) (hr : state.IsRecord)
    (hru : Gives (station.run state) s t after t₁) (hh : Handed after state') : patchAsked state' = false := by
  unfold patchAsked
  rw [hh.same _ (by simp [carried])]
  by_cases hs : station = .transformPlan
  · subst hs
    obtain ⟨sent, -, -, hp⟩ := (transformPlan_opens hr).gives hru
    rw [hp.taken]
    rfl
  · have hw : "patch_requested" ∉ station.writes := by cases station <;> simp_all [Station.writes]
    rw [(station.run_kept hr s t after t₁ hru).same _ hw]
    exact h.unpatched (by simpa using hs)

lemma Run.placed (hf : Fresh start) (h : Run E R start t₀ visits next state t) : Placed visits next state := by
  induction h with
  | begin hst =>
    rcases fromStart_ok hf.record hst with ⟨rfl, -⟩ | ⟨rfl, hno⟩
    · exact ⟨fun _ => rfl, by simp, by simp [visitsAt], by simp [visitsAt], by simp⟩
    · exact ⟨fun _ => rfl, fun _ => hno, by simp [visitsAt], by simp [visitsAt], by simp⟩
  | @visit visits station next s state after state' _ _ _ _ hr₀ hl hr hh _ hne ih =>
    obtain ⟨hw, -⟩ := hr₀.wayOn hf hl hr hh hne
    have hpa := ih.patch_over (hr₀.tally hf).record hr hh
    have hnt : next ≠ some .transformPlan := by
      intro hn
      rw [hw.patch hn] at hpa
      cases hpa
    have hpo := hw.possible
    refine ⟨?_, fun _ => hpa, ?_, ?_, ?_⟩
    · rintro (rfl | rfl)
      · cases station <;> simp [Station.onward] at hpo
      · exact absurd rfl hnt
    · by_cases hs : station = .initializeConnection ∨ station = .transformPlan
      · rw [ih.first (by simpa using hs)]
        rcases hs with rfl | rfl <;> simp [visitsAt]
      · obtain ⟨hi, hp⟩ := not_or.1 hs
        rw [visitsAt_concat, visitsAt_concat, if_neg hi, if_neg hp]
        exact ih.connecting
    · intro hg
      have hs : station ≠ .cleanup := by
        rintro rfl
        exact hg (by simpa [Station.onward] using hpo)
      rw [visitsAt_concat, if_neg hs, ih.going (by simp)]
    · rintro rfl
      refine ⟨visits, _, rfl, ?_, ih.going (by simp)⟩
      cases station <;> simp [Station.onward] at hpo ⊢

/-! ### How long a run is -/

/-- The most visits that are still to come, if there are no more corrections and refinements. -/
def distance : Option Station → Nat
  | none => 0
  | some .initializeConnection => 13
  | some .analyzeSchema => 12
  | some .filterSchema => 11
  | some .inferForeignKeys => 10
  | some .formatSchemaMarkdown => 9
  | some .prePlanner => 8
  | some .planner => 7
  | some .planAudit => 6
  | some .checkClarification => 5
  | some .transformPlan => 5
  | some .generateQuery => 4
  | some .executeQuery => 3
  | some .handleError | some .refineQuery | some .generateModificationOptions => 2
  | some .cleanup => 1

/-- The most statements that are still to be run, if there are no more corrections and refinements. -/
def statementsAhead (next : Option Station) : Nat := if 3 ≤ distance next then 1 else 0

def Station.returns (station : Station) : Nat :=
  (if station = handleError then 1 else 0) + if station = refineQuery then 1 else 0

/-- On every way but the one to a patch the end comes nearer, and a way back leads six stations back. -/
lemma distance_onward (h : next ∈ station.onward)
    (hn : next ≠ some .transformPlan) : distance next + 1 ≤ distance (some station) + 6 * station.returns := by
  cases station <;> simp only [Station.onward, mem_cons, not_mem_nil, or_false] at h
  all_goals rcases h with rfl | rfl | rfl | rfl <;> simp_all [distance, Station.returns]

lemma statementsAhead_onward (h : next ∈ station.onward) (hn : next ≠ some .transformPlan) :
    statementsAhead next + (if station = .executeQuery then 1 else 0) ≤
      statementsAhead (some station) + station.returns := by
  cases station <;> simp only [Station.onward, mem_cons, not_mem_nil, or_false] at h
  all_goals rcases h with rfl | rfl | rfl | rfl <;> simp_all [statementsAhead, distance, Station.returns]

/-- A run so far and what is ahead of it, measured by the corrections and refinements so far. -/
structure Bounded (visits : List Visit) (next : Option Station) : Prop where
  statements : visitsAt .executeQuery visits + statementsAhead next ≤
    1 + visitsAt .handleError visits + visitsAt .refineQuery visits
  length : visits.length + distance next ≤ 13 + 6 * (visitsAt .handleError visits + visitsAt .refineQuery visits)

lemma Run.bounded (hf : Fresh start) (h : Run E R start t₀ visits next state t) : Bounded visits next := by
  induction h with
  | begin hst =>
    rcases fromStart_ok hf.record hst with ⟨rfl, -⟩ | ⟨rfl, -⟩ <;>
      constructor <;> simp [visitsAt, statementsAhead, distance]
  | @visit visits station next s state after state' _ _ _ _ hr₀ hl hr hh hw hne ih =>
    obtain ⟨hwa, -⟩ := hr₀.wayOn hf hl hr hh hne
    have hno : next ≠ some .transformPlan := by
      intro hn
      have hv := ((hr₀.visit hl hr hh hw hne).placed hf).first (.inr hn)
      simp at hv
    have hs := statementsAhead_onward hwa.possible hno
    have hd := distance_onward hwa.possible hno
    obtain ⟨ihs, ihl⟩ := ih
    unfold Station.returns at hs hd
    constructor
    · simp only [visitsAt_concat]
      omega
    · simp only [visitsAt_concat, length_append, length_singleton]
      omega

/-! ### The connection of a run -/

/-- A visit after which there is a connection that was not there before. -/
def Visit.opens (v : Visit) : Bool := !(connectionOf v.before).truthy && (connectionOf v.after).truthy

def Visit.closes (v : Visit) : Bool := (connectionOf v.before).truthy && !(connectionOf v.after).truthy

/-- A state holds no connection and none was opened, or it holds the one that was opened. -/
def Held (sent : List Request) (opened : Nat) (state : Value) : Prop :=
  state.at? "db_connection" = some .null ∧ opened = 0 ∨
    ∃ replies, state.at? "db_connection" = some (.connection replies) ∧ Asked replies sent ∧ opened = 1

lemma Held.handed (h : Held sent opened left)
    (hh : Handed left taken) : Held sent opened taken := by
  rcases hh.connection with hs | ⟨old, new, ho, hne, hn⟩
  · unfold Held
    rw [hs]
    exact h
  · rcases h with ⟨hno, -⟩ | ⟨reps, hr, ha, hop⟩
    · rw [hno] at ho
      cases ho
    · rw [hr] at ho
      cases ho
      exact .inr ⟨new, hne, ha.imp_left hn.2, hop⟩

lemma Held.settled (h : Held sent opened state) : Settled state := by
  rcases h with ⟨hn, -⟩ | ⟨reps, hr, -⟩
  · exact .inl hn
  · exact .inr ⟨reps, hr⟩

/-- The connection of a run that goes on. -/
structure Linked (t₀ : Traffic) (visits : List Visit) (state : Value) (t : Traffic) : Prop where
  unclosed : visits.countP Visit.closes = 0
  held : ∃ sent, links t.requests = links t₀.requests ++ sent ∧ Opening sent ∧
    Held sent (visits.countP Visit.opens) state

lemma Run.at_start (h : Run E R start t₀ [] next state t) : state = start ∧ t = t₀ := by
  generalize hv : ([] : List Visit) = visits at h
  cases h with
  | begin => exact ⟨rfl, rfl⟩
  | visit => simp at hv

section

variable {station : Station} {s : Surroundings} {state after state' : Value} {t t₁ t₂ : Traffic}

lemma Linked.unconcerned (h : Linked t₀ visits state t) (hre : state.IsRecord)
    (hs : station.connects = false) (hr : Gives (station.run state) s t after t₁) (hh : Handed after state')
    (hwo : t₂.requests = t₁.requests) : Linked t₀ (visits ++ [⟨station, state, after⟩]) state' t₂ := by
  have hq : Quiet (station.run state) := Station.run_quiet hs
  have hw : "db_connection" ∉ station.writes := by
    cases station <;> simp_all [Station.writes, Station.connects]
  have hsa := (station.run_kept hre s t after t₁ hr).same _ hw
  obtain ⟨hu, sent, hl, hse, hhe⟩ := h
  refine ⟨?_, sent, ?_, hse, ?_⟩
  · simp [hu, Visit.closes, connectionOf, hsa]
  · rw [hwo, hq.gives hr, hl]
  · have ha : Held sent ((visits ++ [Visit.mk station state after]).countP Visit.opens) after := by
      simpa [Held, Visit.opens, connectionOf, hsa] using hhe
    exact ha.handed hh

lemma linked_of_connects (hf : Fresh start) (hl : links t₁.requests = links t₀.requests ++ sent)
    (hse : Opening sent) (hc : Connects start sent after) (hh : Handed after state')
    (hw : t₂.requests = t₁.requests) : Linked t₀ [⟨station, start, after⟩] state' t₂ := by
  have hn := hf.unconnected
  have ha : Held sent ([Visit.mk station start after].countP Visit.opens) after := by
    rcases hc with hs | ⟨-, reps, hr, had⟩
    · rw [hn] at hs
      exact .inl ⟨hs, by simp [Visit.opens, connectionOf, hs, truthy]⟩
    · exact .inr ⟨reps, hr, had, by simp [Visit.opens, connectionOf, hn, hr, truthy]⟩
  refine ⟨?_, sent, by rw [hw, hl], hse, ha.handed hh⟩
  simp [Visit.closes, connectionOf, hn, truthy]

end

lemma Run.linked (hf : Fresh start)
    (h : Run E R start t₀ visits next state t) (hg : next ≠ none) : Linked t₀ visits state t := by
  induction h with
  | begin =>
    exact ⟨rfl, [], (append_nil _).symm, .inl rfl, .inl ⟨hf.unconnected, rfl⟩⟩
  | @visit visits station next s state after state' t t₁ t₂ _ hr₀ hlm hr hh hw hn ih =>
    obtain ⟨hwa, rfl⟩ := hr₀.wayOn hf hlm hr hh hn
    have hli := ih (by simp)
    have hre := (hr₀.tally hf).record
    cases station with
    | cleanup =>
      have ho := hwa.possible
      simp only [Station.onward, mem_singleton] at ho
      exact absurd ho hg
    | initializeConnection =>
      cases (hr₀.placed hf).first (.inl rfl)
      obtain ⟨rfl, rfl⟩ := hr₀.at_start
      obtain ⟨sent, hl, hs, hc⟩ := (initializeConnection_opens hre hf.unconnected).gives hr
      exact linked_of_connects hf hl hs hc hh hw
    | transformPlan =>
      cases (hr₀.placed hf).first (.inr rfl)
      obtain ⟨rfl, rfl⟩ := hr₀.at_start
      obtain ⟨sent, hl, hs, hp⟩ := (transformPlan_opens hre).gives hr
      exact linked_of_connects hf hl hs hp.connects hh hw
    | _ => exact hli.unconcerned hre rfl hr hh hw

/-! ### A run as a whole -/

/-- A run that is over: its last visit, and no other, has cleaned up. At most one connection was asked for and
opened; it was closed at the last visit, and is not there any longer. -/
structure Finished (t₀ : Traffic) (visits : List Visit) (state : Value) (t : Traffic) : Prop where
  last : ∃ earlier v, visits = earlier ++ [v] ∧ v.station = .cleanup ∧ visitsAt .cleanup earlier = 0 ∧
    ∃ sent, Opening sent ∧ links t.requests = links t₀.requests ++ sent ++ closing (connectionOf v.before) ∧
      Held sent (visits.countP Visit.opens) v.before
  opened : visits.countP Visit.opens ≤ 1
  closed : visits.countP Visit.closes = visits.countP Visit.opens
  released : state.at? "db_connection" = some .null

lemma Run.finished (hf : Fresh start)
    (h : Run E R start t₀ visits none state t) : Finished t₀ visits state t := by
  generalize hn : (none : Option Station) = next at h
  cases h with
  | begin => cases hn
  | @visit visits station _ s pre after _ t t₁ t₂ _ hr₀ hli hr hha hw hne =>
    subst hn
    obtain ⟨hwa, rfl⟩ := hr₀.wayOn hf hli hr hha hne
    have hs : station = .cleanup := by
      have hov := hwa.possible
      cases station <;> simp [Station.onward] at hov ⊢
    subst hs
    have hre := (hr₀.tally hf).record
    obtain ⟨hu, sent, hl, hse, hh⟩ := hr₀.linked hf (by simp)
    have hno := (cleanUp_ends hre s t after t₁ hr).2
    have hop : Visit.opens ⟨.cleanup, pre, after⟩ = false := by
      simp [Visit.opens, connectionOf, hno, truthy]
    refine ⟨⟨visits, _, rfl, rfl, (hr₀.placed hf).going (by simp), sent, hse, ?_, ?_⟩, ?_, ?_, ?_⟩
    · rw [hw, cleanUp_closes hre hh.settled hr, hl]
    · simpa [hop] using hh
    · rcases hh with ⟨-, ho⟩ | ⟨_, -, -, ho⟩ <;> simp [ho, hop]
    · rcases hh with ⟨hb, ho⟩ | ⟨reps, hb, -, ho⟩ <;>
        simp [hu, ho, hop, Visit.closes, connectionOf, hb, hno, truthy]
    · rcases hha.connection with hsa | ⟨_, _, hon, -⟩
      · rw [hsa, hno]
      · rw [hno] at hon
        cases hon

structure Within (E R : Int) (visits : List Visit) : Prop where
  corrections : visitsAt .handleError visits ≤ E.toNat
  refinements : visitsAt .refineQuery visits ≤ R.toNat
  statements : visitsAt .executeQuery visits ≤ 1 + E.toNat + R.toNat
  patches : visitsAt .transformPlan visits ≤ 1
  connecting : visitsAt .initializeConnection visits + visitsAt .transformPlan visits ≤ 1
  length : visits.length ≤ 13 + 6 * (E.toNat + R.toNat)

lemma Run.within (hf : Fresh start) (h : Run E R start t₀ visits next state t) : Within E R visits := by
  have hc := (h.tally hf).mostCorrections
  have hr := (h.tally hf).mostRefinements
  have hco := (h.placed hf).connecting
  obtain ⟨hs, hl⟩ := h.bounded hf
  constructor <;> omega

/-- A run keeps to its limits, and at every point the attempts are numbered. It does not get stuck: when a
station has done its work there is a way on. When it is over, it has closed what it opened. -/
theorem run_within_limits {next : Option Station} {state : Value} {t : Traffic} (hstart : Begins start)
    (h : Run E R start t₀ visits next state t) :
    Within E R visits ∧
      Numbered "error_iteration" "correction_history" (visitsAt .handleError visits) state ∧
      Numbered "refinement_iteration" "refinement_history" (visitsAt .refineQuery visits) state ∧
      (∀ station s t after t₁ state' t₂, next = some station → Limited s E R →
        Gives (station.run state) s t after t₁ → Handed after state' →
          ∃ onward, Gives (nextStation station state') s t₂ onward t₂) ∧
      (next = none → Finished t₀ visits state t) := by
  have hf := hstart.fresh
  have ht := h.tally hf
  refine ⟨h.within hf, ht.corrections, ht.refinements, ?_, ?_⟩
  · rintro station s t after t₁ state' t₂ rfl hl hr hh
    obtain ⟨onward, ho, -⟩ := ht.wayOn hl hr hh t₂
    exact ⟨onward, ho⟩
  · rintro rfl
    exact h.finished hf

end

/-! A run that begins with a patch which cannot be applied, corrects the statement once and gives up. -/

def patchQuestion : Question where
  question := "How many?"
  patch := .record [("operation", "add")]
  plan := .record [("decision", "proceed")]
  schema := .list [.record [("table_name", "orders")]]

def oneCorrection : Surroundings where
  env := [("ERROR_CORRECTION_COUNT", "1"), ("REFINE_COUNT", "0")]
  server := some (.record [])

/-- What the run of the question begins with; the model will give an empty reply. -/
def patchBeginning : Progress where
  visits := []
  next := some .transformPlan
  state := (baseState patchQuestion "id-1").update [("patch_requested", .bool true),
    ("current_patch_operation", patchQuestion.patch), ("executed_plan", patchQuestion.plan),
    ("filtered_schema", patchQuestion.schema), ("planner_output", patchQuestion.plan)]
  traffic := { replies := [.ok (.message .assistant "")] }

lemma begins_patchBeginning : Begins patchBeginning.state := ⟨patchQuestion, {}, {}, "id-1", _, rfl⟩

theorem run_within_limits_patch :
    (patchBeginning.follow oneCorrection 5).visits.map (·.station) =
        [.transformPlan, .generateQuery, .executeQuery, .handleError, .cleanup] ∧
      Finished patchBeginning.traffic (patchBeginning.follow oneCorrection 5).visits
        (patchBeginning.follow oneCorrection 5).state (patchBeginning.follow oneCorrection 5).traffic := by
  have he : ((patchBeginning.follow oneCorrection 5).visits.map (·.station),
      (patchBeginning.follow oneCorrection 5).next) =
        ([.transformPlan, .generateQuery, .executeQuery, .handleError, .cleanup], none) := by decide +kernel
  rw [Prod.mk.injEq] at he
  have hl : Limited oneCorrection 1 0 := ⟨fun _ => rfl, fun _ => rfl⟩
  have h : patchBeginning.Leads 1 0 _ := Progress.follow_leads begins_patchBeginning.fresh hl rfl _ 5
  exact ⟨he.1, (run_within_limits begins_patchBeginning h).2.2.2.2 he.2⟩

end QueryDesk.Workflow
