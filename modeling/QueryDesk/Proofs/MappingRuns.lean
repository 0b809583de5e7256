import QueryDesk.Proofs.MappingSteps

/-!
Runs of the work on references. A run goes from station to station; what the search finds, what the person
answers and what the clock shows is left open. Wherever a run is, the next station gives a result, and there is a
way on that leads nearer to the end.
-/

namespace QueryDesk.Mapping

open Desk Value Sheet List Option Fields Workbook

variable {v : Visit} {station : Station} {after : Value}

/-- A visit of a run at a station: the state it came with, what was sent and stored before, and the state that
the station left. -/
structure Visit where
  station : Station
  before : Value
  world : Traffic
  after : Value

/-- A decision on the row at hand, if there is one, can be written. -/
def Writable (path : String) (state : Value) (s : Surroundings) (t : Traffic) : Prop :=
  ∀ r, state.at? "current_row_idx" = some (.nat r) →
    ∃ t', Gives (writeDecision (.text path) (.nat r) (decisionOf state)) s t () t'

/-- What is expected of the world at a station: whatever a search gives has the name of a table, and a decision
that is to be recorded can be written. -/
structure Serves (index : Option SearchIndex) (path : String) (station : Station) (state : Value) (s : Surroundings)
    (t : Traffic) : Prop where
  names : NamesTables index s t
  writes : station = .recordDecision → Writable path state s t

/-- The runs from a state on a sheet, as far as they have come: the visits so far, the station that is next, if
any, and the state. Between two stations anything may happen but to the workbooks. -/
inductive Run (index : Option SearchIndex) (path : String) (start : Value) (t₀ : Traffic) (sheet₀ : Sheet) :
    List Visit → Option Station → Value → Traffic → Prop
  | prepared {s : Surroundings} {state : Value} {t : Traffic} (h : Gives (prepare start) s t₀ state t)
      (hsheet : t.workbooks.lookup path = some sheet₀) :
      Run index path start t₀ sheet₀ [] (some .loadNextRow) state t
  | visit {visits : List Visit} {station : Station} {next : Option Station} {s : Surroundings} {state after : Value}
      {t t₁ t₂ : Traffic} (h : Run index path start t₀ sheet₀ visits (some station) state t)
      (hbooks : t₁.workbooks = t.workbooks) (hserves : Serves index path station state s t₁)
      (hrun : Gives (station.run index state) s t₁ after t₂) (hnext : nextStation station after = .ok next) :
      Run index path start t₀ sheet₀ (visits ++ [⟨station, state, t₁, after⟩]) next after t₂

def Visit.row? (v : Visit) : Option Nat :=
  match v.station, v.after.at? "current_row_idx" with
  | .loadNextRow, some (.int n) => some n.toNat
  | _, _ => none

/-- A visit at which the person is asked about a row and quits. -/
def Visit.QuitsAt (v : Visit) (r : Nat) : Prop := v.station = .requestDecision ∧
  v.before.at? "current_row_idx" = some (.nat r) ∧
    ∃ choice rest, v.world.choices = choice :: rest ∧ (choice == "q") = true

def rowsVisited (visits : List Visit) : List Nat := visits.filterMap Visit.row?

/-! ### The sheet of a run -/

/-- How a sheet stands to the one that the work began with: the rows that are done are decided, one row may be at
hand, and the others are as they were. -/
structure Ledger (sheet₀ sheet : Sheet) (done : List Nat) (row : Option Nat) : Prop where
  full : sheet.Full
  rest : sheet₀.openRows = done ++ sheet.openRows
  hand : row = none ∨ row = sheet.openRows.head?
  decided : ∀ r ∈ done, sheet.Decided r
  others : ∀ i, i + 1 ∉ done ++ row.toList → sheet.rows[i]? = sheet₀.rows[i]?

section

variable {sheet₀ sheet sheet' : Sheet} {done : List Nat} {row : Option Nat} {r : Nat}

lemma Ledger.mem_open (h : Ledger sheet₀ sheet done row) (hr : r ∈ row) : r ∈ sheet.openRows := by
  rcases h.hand with rfl | hh
  · cases hr
  · rw [hh] at hr
    exact mem_of_head? hr

lemma Ledger.hasRow (h : Ledger sheet₀ sheet done row) : ∀ r ∈ row, sheet.HasRow r := fun _ hr =>
  hasRow_of_open (h.mem_open hr)

lemma Ledger.turn (h : Ledger sheet₀ sheet done none) : Ledger sheet₀ sheet done sheet.openRows.head? :=
  ⟨h.full, h.rest, .inr rfl, h.decided, fun i hi => h.others i fun hin => hi (by simp_all)⟩

section

variable (h : Ledger sheet₀ sheet done row)

include h

lemma Ledger.ne_hand (hr : r ∈ done) : some r ≠ row := by
  rintro rfl
  have hs := sheet₀.openRows_sorted
  rw [h.rest, pairwise_append] at hs
  exact absurd (hs.2.2 r hr r (h.mem_open rfl)) (Nat.lt_irrefl r)

lemma Ledger.pos (hr : r ∈ done) : 1 ≤ r := by
  have ho : r ∈ sheet₀.openRows := by
    rw [h.rest]
    exact mem_append_left _ hr
  exact (hasRow_of_open ho).1

lemma Ledger.others_sameBut (hs : SameBut row sheet sheet') :
    ∀ i, i + 1 ∉ done ++ row.toList → sheet'.rows[i]? = sheet₀.rows[i]? := by
  intro i hi
  have hr : some (i + 1) ≠ row := by
    rintro rfl
    simp at hi
  rw [hs.rows i hr, h.others i hi]

lemma Ledger.noted (hn : Noted row sheet sheet') : Ledger sheet₀ sheet' done row := by
  refine ⟨hn.full h.full, ?_, ?_, fun r hr => ?_, h.others_sameBut hn.toSameBut⟩
  · rw [hn.openRows_eq]
    exact h.rest
  · rw [hn.openRows_eq]
    exact h.hand
  · exact (h.decided r hr).congr hn.toSameBut (h.pos hr) (h.ne_hand hr)

end

lemma Ledger.settle (h : Ledger sheet₀ sheet done (some r)) (hs : SameBut (some r) sheet sheet')
    (hd : sheet'.Decided r) :
    Ledger sheet₀ sheet' (done ++ [r]) none ∧ sheet.openRows.length = sheet'.openRows.length + 1 := by
  -- the row at hand is the first open one, so what is left open is the rest
  have hh : sheet.openRows.head? = some r := by simpa using h.hand.symm.imp_left Eq.symm
  obtain ⟨rest, hr⟩ : ∃ rest, sheet.openRows = r :: rest := head?_eq_some_iff.1 hh
  have ho := openRows_decided hs hr hd.table.truthy
  refine ⟨⟨hs.full h.full, ?_, .inl rfl, fun r' hr' => ?_, fun i hi => ?_⟩, ?_⟩
  · rw [h.rest, hr, ho, append_assoc, singleton_append]
  · rcases mem_append.1 hr' with hr' | hr'
    · exact (h.decided r' hr').congr hs (h.pos hr') (h.ne_hand hr')
    · rwa [mem_singleton.1 hr']
  · exact h.others_sameBut hs i (by simpa using hi)
  · rw [hr, ho, length_cons]

end

/-! ### Where a run is -/

def HasQuit (state : Value) : Prop := state.at? "user_quit" = some (.bool true)

/-- The work is over: no row is open, or the person has quit at a row. -/
def Over (sheet : Sheet) (row : Option Nat) (state : Value) : Prop :=
  row = none ∧ sheet.openRows = [] ∧ ¬ HasQuit state ∨ row ≠ none ∧ HasQuit state

/-- A row is at hand if there is an open one. -/
structure Engaged (sheet : Sheet) (row : Option Nat) (state : Value) : Prop extends Turned row state where
  first : row = sheet.openRows.head?

/-- What a station can rely on. A row is at hand from the station that turns to it to the one that records the
decision; with no open row left, the state still has the decision on the last one. -/
def Ready (sheet : Sheet) (row : Option Nat) (state : Value) : Option Station → Prop
  | some .start => False
  | some .loadNextRow => row = none ∧ state.at? "user_quit" = some (.bool false) ∧ (sheet.openRows = [] → Verdict state)
  | some .findCandidates => Engaged sheet row state ∧ (row = none → Verdict state) ∧ (row ≠ none → Undecided state)
  | some .evaluateAmbiguity => Engaged sheet row state ∧
      (∃ candidates, state.at? "candidates" = some (.list candidates) ∧ (candidates = [] ∨ Offers candidates)) ∧
      (Verdict state ∨ row ≠ none ∧ Undecided state ∧ Offered state)
  | some .autoSelect => Engaged sheet row state ∧ row ≠ none ∧ Offered state ∧ Measured state
  | some .requestDecision => Engaged sheet row state ∧ row ≠ none ∧ Offered state
  | some .recordDecision => row = sheet.openRows.head? ∧
      (Turned row state ∧ Verdict state ∨ row ≠ none ∧ Quit row state)
  | some .finalize | none => Over sheet row state

/-- The most visits that are still to come: five for each open row, and five more for the end. -/
def ahead (sheet : Sheet) : Option Station → Nat
  | some .loadNextRow => 5 * sheet.openRows.length + 5
  | some .findCandidates => 5 * sheet.openRows.length + 4
  | some .evaluateAmbiguity => 5 * sheet.openRows.length + 3
  | some .autoSelect | some .requestDecision => 5 * sheet.openRows.length + 2
  | some .recordDecision => if sheet.openRows = [] then 2 else 5 * sheet.openRows.length + 1
  | some .finalize => 1
  | some .start | none => 0

/-- Where a run is: its sheet, the rows that are done, the row at hand, and what the next station relies on. -/
structure Standing (path : String) (sheet₀ sheet : Sheet) (done : List Nat) (row : Option Nat)
    (next : Option Station) (state : Value) (t : Traffic) : Prop where
  found : t.workbooks.lookup path = some sheet
  furnished : Furnished path state
  ledger : Ledger sheet₀ sheet done row
  ready : Ready sheet row state next

/-- What a visit leads to: where the run is then. The row that the visit has turned to is added to those before;
the end comes nearer, and the person has quit only by an answer to this effect. -/
structure Leads (path : String) (sheet₀ sheet : Sheet) (done : List Nat) (row : Option Nat) (v : Visit)
    (next : Option Station) (t' : Traffic) (sheet' : Sheet) (done' : List Nat) (row' : Option Nat) : Prop where
  standing : Standing path sheet₀ sheet' done' row' next v.after t'
  rows : done' ++ row'.toList = done ++ row.toList ++ v.row?.toList
  nearer : ahead sheet' next + 1 ≤ ahead sheet (some v.station)
  quits : HasQuit v.after ↔ HasQuit v.before ∨ ∃ r, v.QuitsAt r
  quitRow : HasQuit v.after → row' = row

/-- A station gives a result, and there is a way on. -/
def Onward (index : Option SearchIndex) (path : String) (sheet₀ sheet : Sheet) (done : List Nat)
    (row : Option Nat) (station : Station) (state : Value) (s : Surroundings) (t : Traffic) : Prop :=
  ∃ after t' next sheet' done' row', Gives (station.run index state) s t after t' ∧
    nextStation station after = .ok next ∧
      Leads path sheet₀ sheet done row ⟨station, state, t, after⟩ next t' sheet' done' row'

section

variable {index : Option SearchIndex} {path : String} {sheet₀ sheet : Sheet} {done : List Nat} {row : Option Nat}
  {state : Value} {s : Surroundings} {t : Traffic}

lemma Turned.not_hasQuit (h : Turned row state) : ¬ HasQuit state := by
  rw [HasQuit, h.going]
  simp

lemma Visit.quits_of_same (hs : v.station ≠ .requestDecision)
    (hsa : v.after.at? "user_quit" = v.before.at? "user_quit") :
    HasQuit v.after ↔ HasQuit v.before ∨ ∃ r, v.QuitsAt r := by
  simp [HasQuit, hsa, Visit.QuitsAt, hs]

lemma Engaged.update (h : Engaged sheet row state) (hr : state.IsRecord)
    (hn : ∀ key ∈ ["current_row_idx", "has_next_row", "user_quit"], key ∉ news.map (·.1)) :
    Engaged sheet row (state.update news) := ⟨h.toTurned.update hr hn, h.first⟩

lemma Engaged.open_ne_nil (h : Engaged sheet row state) (hr : row ≠ none) : sheet.openRows ≠ [] := by
  intro hn
  rw [h.first, hn] at hr
  exact hr rfl

lemma rowValue_row? (row : Option Nat) (hs : v.station = .loadNextRow)
    (hr : v.after.at? "current_row_idx" = some (rowValue row)) : v.row? = row := by
  unfold Visit.row?
  rw [hs, hr]
  cases row <;> rfl

lemma onward_same (next : Option Station)
    (ht : station ≠ .loadNextRow) (ha : station ≠ .requestDecision)
    (hg : Gives (station.run index state) s t after t') (hne : nextStation station after = .ok next)
    (hs : Standing path sheet₀ sheet' done row next after t')
    (hn : ahead sheet' next + 1 ≤ ahead sheet (some station))
    (hsa : after.at? "user_quit" = state.at? "user_quit") :
    Onward index path sheet₀ sheet done row station state s t := by
  refine ⟨after, t', next, sheet', done, row, hg, hne, hs, ?_, hn, Visit.quits_of_same ha hsa,
    fun _ => rfl⟩
  simp [Visit.row?, ht]

lemma loadNextRow_onward (h : Standing path sheet₀ sheet done row (some .loadNextRow) state t) :
    Onward index path sheet₀ sheet done row .loadNextRow state s t := by
  obtain ⟨hf, hfu, hl, rfl, hg, hv⟩ := h
  obtain ⟨after, hgi, ha, ht, hs, hu⟩ := loadNextRow_gives (s := s) hfu hg hf
  refine ⟨after, t, some .findCandidates, sheet, done, sheet.openRows.head?, hgi, rfl,
    ⟨hf, ha, hl.turn, ⟨ht, rfl⟩, ?_, ?_⟩, ?_, by simp [ahead],
    Visit.quits_of_same (by simp) (ht.going.trans hg.symm), fun hq => absurd hq ht.not_hasQuit⟩
  · intro hno
    have hn := head?_eq_none_iff.1 hno
    exact hs hn (hv hn)
  · intro hso
    exact hu fun hn => hso (by rw [hn]; rfl)
  · rw [rowValue_row? sheet.openRows.head? rfl ht.place]
    simp

/-- A row that was left out has its decision; one with candidates has none yet, unless no row is at hand and the
decision is that on the last one. -/
lemma Searched.judged (h : Searched state after) (hf : Furnished path state)
    (he : Engaged sheet row state) (hv : row = none → Verdict state)
    (hu : row ≠ none → Undecided state) : Furnished path after ∧ Engaged sheet row after ∧
      (Verdict after ∨ row ≠ none ∧ Undecided after ∧ Offered after) := by
  have hr := hf.record
  cases h with
  | left notes step =>
    have hr' : (state.update [("candidates", .list []), ("score_gap", .float 0)]).IsRecord :=
      hr.update _
    exact ⟨(hf.update (by simp)).update (by simp), (he.update hr (by simp)).update hr' (by simp), .inl (skip_verdict hr' _ _)⟩
  | @found cands ho =>
    refine ⟨hf.update (by simp), he.update hr (by simp), ?_⟩
    by_cases hro : row = none
    · exact .inl ((hv hro).update hr (by simp))
    · refine .inr ⟨hro, ?_, cands, ?_, ho⟩
      · rw [Undecided, hr.at?_other (by simp)]
        exact hu hro
      · simp [at?_update hr, latest, lookup_cons]

lemma findCandidates_onward (hna : NamesTables index s t)
    (h : Standing path sheet₀ sheet done row (some .findCandidates) state t) :
    Onward index path sheet₀ sheet done row .findCandidates state s t := by
  obtain ⟨hfo, hf, hl, he, hv, hu⟩ := h
  obtain ⟨after, t', hg⟩ := (inferInstance : Completes (findCandidates index state)).ends s t
  have hs := findCandidates_searched hna hg
  have hk := keeps_findCandidates ⟨hf.record, hf.path, he.place⟩ index
  obtain ⟨sheet', hf', hn⟩ := hk.gives hg sheet hfo hl.full hl.hasRow
  have ho := hn.openRows_eq
  have he' : Engaged sheet' row state := ⟨he.toTurned, by rw [ho]; exact he.first⟩
  obtain ⟨ha, he'', hd⟩ := hs.judged hf he' hv hu
  exact onward_same _ (by simp) (by simp) hg rfl ⟨hf', ha, hl.noted hn, he'',
    hs.candidates hf.record, hd⟩ (by simp [ahead, ho])
    (he''.going.trans he.going.symm)

lemma afterEvaluation_verdict (hr : state.IsRecord) (h : Verdict state) :
    afterEvaluation state = .ok .recordDecision := by
  obtain ⟨word, hw, hk⟩ := h.kind
  rw [afterEvaluation, hr.get, hk, getD_some, Attempt.ok_bind, if_pos (truthy_of_kind hw)]
  rfl

lemma afterEvaluation_undecided (h : Furnished path state) (hu : Undecided state) (hg : Measured state) :
    afterEvaluation state = .ok .autoSelect ∨ afterEvaluation state = .ok .requestDecision := by
  obtain ⟨gap, hg, hnu⟩ := hg
  obtain ⟨limit, hl, hn'⟩ := h.threshold
  obtain ⟨enough, he⟩ := atLeast_of_numbers hnu hn'
  have hn : afterEvaluation state = .ok (if enough then .autoSelect else .requestDecision) := by
    rw [afterEvaluation, h.record.get, hu, field_ok.2 hg, field_ok.2 hl]
    simp only [getD_some, Attempt.ok_bind, he]
    rfl
  cases enough
  · exact .inr hn
  · exact .inl hn

lemma evaluateAmbiguity_onward (h : Standing path sheet₀ sheet done row (some .evaluateAmbiguity) state t) :
    Onward index path sheet₀ sheet done row .evaluateAmbiguity state s t := by
  obtain ⟨hf, hfu, hl, he, ⟨cands, hc, ho⟩, hd⟩ := h
  have hr := hfu.record
  obtain ⟨gap, hnu, hg⟩ := evaluateAmbiguity_gives (s := s) (t := t) hfu hc ho
  have ha : Furnished path (state.update [("score_gap", gap), ("last_step", "evaluate_ambiguity")]) :=
    hfu.update (by simp)
  have he' : Engaged sheet row (state.update [("score_gap", gap), ("last_step", "evaluate_ambiguity")]) :=
    he.update hr (by simp)
  have hs := he'.going.trans he.going.symm
  rcases hd with hv | ⟨hro, hu, hof⟩
  · have hv' : Verdict (state.update [("score_gap", gap), ("last_step", "evaluate_ambiguity")]) :=
      hv.update hr (by simp)
    refine onward_same (some .recordDecision) (by simp) (by simp) hg ?_
      ⟨hf, ha, hl, he.first, .inl ⟨he'.toTurned, hv'⟩⟩ ?_ hs
    · rw [nextStation, afterEvaluation_verdict ha.record hv']
      rfl
    · simp only [ahead]
      split <;> omega
  · have hu' : Undecided (state.update [("score_gap", gap), ("last_step", "evaluate_ambiguity")]) := by
      rw [Undecided, hr.at?_other (by simp)]
      exact hu
    have ho' : Offered (state.update [("score_gap", gap), ("last_step", "evaluate_ambiguity")]) := by
      rw [Offered, hr.at?_other (by simp)]
      exact hof
    have hm : Measured (state.update [("score_gap", gap), ("last_step", "evaluate_ambiguity")]) :=
      ⟨gap, by simp [at?_update hr, latest, lookup_cons], hnu⟩
    rcases afterEvaluation_undecided ha hu' hm with hn | hn
    · refine onward_same (some .autoSelect) (by simp) (by simp) hg ?_
        ⟨hf, ha, hl, he', hro, ho', hm⟩ (by simp [ahead]) hs
      rw [nextStation, hn]
      rfl
    · refine onward_same (some .requestDecision) (by simp) (by simp) hg ?_
        ⟨hf, ha, hl, he', hro, ho'⟩ (by simp [ahead]) hs
      rw [nextStation, hn]
      rfl

lemma autoSelect_onward (h : Standing path sheet₀ sheet done row (some .autoSelect) state t) :
    Onward index path sheet₀ sheet done row .autoSelect state s t := by
  obtain ⟨hfo, hf, hl, he, hro, hof, hm⟩ := h
  have hr := hf.record
  have ho := he.open_ne_nil hro
  obtain ⟨tb, score, notes, hn, hg⟩ := autoSelect_gives (s := s) (t := t) hr hof hm
  exact onward_same _ (by simp) (by simp) hg rfl ⟨hfo, hf.update (by simp), hl,
    he.first, .inl ⟨he.toTurned.update hr (by simp), verdict_update hr hn (by decide)⟩⟩
    (by simp [ahead, ho]) (hr.at?_other (by simp))

lemma Answered.recordable {choice : Value} (h : Answered state choice after)
    (hf : Furnished path state) (ht : Turned row state) (hro : row ≠ none) :
    Furnished path after ∧ (Turned row after ∧ Verdict after ∨ row ≠ none ∧ Quit row after) ∧
      (HasQuit after ↔ (choice == "q") = true) := by
  have hr := hf.record
  cases h with
  | quit hq =>
    refine ⟨hf.update (by simp), .inr ⟨hro, ?_, ?_, ?_, ?_⟩, ?_⟩
    · rw [hr.at?_other (by simp)]
      exact ht.place
    all_goals simp [HasQuit, at?_update hr, latest, lookup_cons, hq]
  | skipped hg notes step =>
    have ht' : Turned row (skip state notes step) := ht.update hr (by simp)
    exact ⟨hf.update (by simp), .inl ⟨ht', skip_verdict hr _ _⟩, by
      simp [ht'.not_hasQuit, hg]⟩
  | @chosen hg tb score notes step hn =>
    have ht' : Turned row (state.update [("chosen_table", tb), ("chosen_score", score),
        ("decision_type", "manual"), ("notes", notes), ("last_step", step)]) := ht.update hr (by simp)
    exact ⟨hf.update (by simp), .inl ⟨ht', verdict_update hr hn (by decide)⟩, by
      simp [ht'.not_hasQuit, hg]⟩

lemma requestDecision_onward (hc : t.choices ≠ [])
    (h : Standing path sheet₀ sheet done row (some .requestDecision) state t) :
    Onward index path sheet₀ sheet done row .requestDecision state s t := by
  obtain ⟨hfo, hf, hl, he, hro, hof⟩ := h
  have ho := he.open_ne_nil hro
  obtain ⟨choice, rest, hc⟩ := exists_cons_of_ne_nil hc
  obtain ⟨after, t', hg, ha⟩ := requestDecision_gives (s := s) hf hof hc
  have hb : t'.workbooks = t.workbooks := (keeps_requestDecision state).gives hg
  obtain ⟨haf, hr, hq⟩ := ha.recordable hf he.toTurned hro
  refine ⟨after, t', some .recordDecision, sheet, done, row, hg, rfl,
    ⟨by rw [hb, hfo], haf, hl, he.first, hr⟩, by simp [Visit.row?],
    by simp [ahead, ho], ?_, fun _ => rfl⟩
  obtain ⟨r, rfl⟩ := ne_none_iff_exists'.1 hro
  simp [hq, he.not_hasQuit, Visit.QuitsAt, hc, he.place, rowValue]

lemma afterRecord_turned (hr : state.IsRecord) (h : Turned row state) :
    afterRecord state = .ok (if row.isSome then .loadNextRow else .finalize) := by
  rw [afterRecord, hr.get, hr.get, h.going, h.more]
  cases row <;> rfl

/-- After a decision the next row is turned to; without a row at hand the work is over. -/
lemma recordDecision_decided (hw : Writable path state s t)
    (hfo : t.workbooks.lookup path = some sheet) (hf : Furnished path state)
    (hl : Ledger sheet₀ sheet done row) (hfi : row = sheet.openRows.head?) (ht : Turned row state)
    (hv : Verdict state) : Onward index path sheet₀ sheet done row .recordDecision state s t := by
  have hr := hf.record
  have ha : Furnished path (state.update [("last_step", "record_decision")]) := hf.update (by simp)
  have ht' : Turned row (state.update [("last_step", "record_decision")]) := ht.update hr (by simp)
  have hn := afterRecord_turned ha.record ht'
  cases row with
  | none =>
    -- the pass after the last row: there is no row to write to, and the old decision keeps the person from being asked
    have hni : sheet.openRows = [] := head?_eq_none_iff.1 hfi.symm
    have hg := recordDecision_null (s := s) hf hv ht.place hfo
    refine onward_same (some .finalize) (by simp) (by simp) hg ?_
      ⟨hfo, ha, hl, .inl ⟨rfl, hni, ht'.not_hasQuit⟩⟩ (by simp [ahead, hni])
      (ht'.going.trans ht.going.symm)
    rw [nextStation, hn]
    rfl
  | some r =>
    obtain ⟨t', hwr⟩ := hw r ht.place
    obtain ⟨hg, sheet', hf', hs, hd⟩ := recordDecision_row hf hv ht.place hfo
      hl.full (hl.hasRow r rfl) hwr
    obtain ⟨hl', hle⟩ := hl.settle hs hd
    have ho : sheet.openRows ≠ [] := ne_nil_of_length_eq_add_one hle
    refine ⟨_, t', some .loadNextRow, sheet', done ++ [r], none, hg, ?_,
      ⟨hf', ha, hl', rfl, ht'.going, fun _ => hv.update hr (by simp)⟩,
      by simp [Visit.row?], ?_, Visit.quits_of_same (by simp) (ht'.going.trans ht.going.symm),
      fun hq => absurd hq ht'.not_hasQuit⟩
    · rw [nextStation, hn]
      rfl
    · simp only [ahead, if_neg ho]
      omega

lemma recordDecision_onward (hw : Writable path state s t)
    (h : Standing path sheet₀ sheet done row (some .recordDecision) state t) :
    Onward index path sheet₀ sheet done row .recordDecision state s t := by
  obtain ⟨hfo, hf, hl, hfi, hd⟩ := h
  rcases hd with ⟨ht, hv⟩ | ⟨hr, hq⟩
  · exact recordDecision_decided hw hfo hf hl hfi ht hv
  · obtain ⟨r, rfl⟩ := ne_none_iff_exists'.1 hr
    have ho := hl.mem_open (r := r) rfl
    have ha : Furnished path (state.update [("last_step", "record_decision")]) := hf.update (by simp)
    have hq' : (state.update [("last_step", "record_decision")]).at? "user_quit" = some (.bool true) := by
      rw [hf.record.at?_other (by simp)]
      exact hq.quit
    obtain ⟨t', hwr⟩ := hw r hq.place
    obtain ⟨hg, sheet', hf', hn⟩ := recordDecision_quit hf hq hfo hl.full ho hwr
    refine onward_same (some .finalize) (by simp) (by simp) hg ?_
      ⟨hf', ha, hl.noted hn, .inr ⟨hr, hq'⟩⟩ ?_ (hq'.trans hq.quit.symm)
    · rw [nextStation, afterRecord, ha.record.get, hq']
      rfl
    · have hp := length_pos_of_mem ho
      simp only [ahead, if_neg (ne_nil_of_mem ho)]
      omega

lemma finalize_onward (h : Standing path sheet₀ sheet done row (some .finalize) state t) :
    Onward index path sheet₀ sheet done row .finalize state s t := by
  obtain ⟨hfo, hf, hl, ho⟩ := h
  have hs : (state.update [("last_step", "finalize")]).at? "user_quit" = state.at? "user_quit" :=
    hf.record.at?_other (by simp)
  have ho' : Over sheet row (state.update [("last_step", "finalize")]) := by
    rw [Over, HasQuit, hs]
    exact ho
  exact onward_same _ (by simp) (by simp) (finalize_gives hf hfo) rfl
    ⟨hfo, hf.update (by simp), hl, ho'⟩ (by simp [ahead]) hs

lemma Standing.onward (h : Standing path sheet₀ sheet done row (some station) state t)
    (hs : Serves index path station state s t) (ha : station = .requestDecision → t.choices ≠ []) :
    Onward index path sheet₀ sheet done row station state s t := by
  cases station with
  | start => exact h.ready.elim
  | loadNextRow => exact loadNextRow_onward h
  | findCandidates => exact findCandidates_onward hs.names h
  | evaluateAmbiguity => exact evaluateAmbiguity_onward h
  | autoSelect => exact autoSelect_onward h
  | requestDecision => exact requestDecision_onward (ha rfl) h
  | recordDecision => exact recordDecision_onward (hs.writes rfl) h
  | finalize => exact finalize_onward h

end

end QueryDesk.Mapping
