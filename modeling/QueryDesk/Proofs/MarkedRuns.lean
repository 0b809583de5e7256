import QueryDesk.Proofs.RecordedKeys
import QueryDesk.Proofs.RowsInOrder
import QueryDesk.Proofs.SheetMarks

/-!
The work on a workbook over all its sessions. A session may be broken off at any station and taken up again later, a
person may answer anything, and a decision may fail to be written. As long as a search finds tables of the schema,
every row of the workbook is open, known, left out, or has the name of such a table.
-/

namespace QueryDesk.Mapping

open Attempt Desk Value Sheet Schema List Option Fields Workbook

variable {station : Station}

/-! ### The work -/

def FindsTables (index : Option SearchIndex) (names : List String) (s : Surroundings) (t : Traffic) : Prop :=
  ∀ i ∈ index, ∀ query limit results t', Gives (searchScored i query limit) s t results t' →
    ∀ r ∈ results, ∃ name ∈ names, r.1.facts.peek "table_name" = .text name

/-- The work on the workbook of a database with some tables, as far as it has come: the station that is next, if any,
and the state. A session is begun without a workbook, or taken up with the one that is there; it goes from station to
station until it ends or breaks off. In between anything may happen but to the workbook. -/
inductive Work (index : Option SearchIndex) (database : String) (tables : List TableRecord) :
    Option Station → Value → Traffic → Prop
  | begun {options : Fields} {s : Surroundings} {state : Value} {t t' : Traffic}
      (hfresh : t.workbooks.lookup (workbookPath database) = none)
      (hg : Gives (prepare (initialState database options)) s t state t')
      (hschema : state.at? "schema" = some (.list (recorded tables))) :
      Work index database tables (some .loadNextRow) state t'
  | resumed {next : Option Station} {options : Fields} {s : Surroundings} {before state : Value} {t t₁ t₂ : Traffic}
      (h : Work index database tables next before t)
      (hbook : t₁.workbooks.lookup (workbookPath database) = t.workbooks.lookup (workbookPath database))
      (hg : Gives (prepare (initialState database options)) s t₁ state t₂)
      (hschema : state.at? "schema" = some (.list (recorded tables))) :
      Work index database tables (some .loadNextRow) state t₂
  | visited {station : Station} {next : Option Station} {s : Surroundings} {state after : Value} {t t₁ t₂ : Traffic}
      (h : Work index database tables (some station) state t)
      (hbook : t₁.workbooks.lookup (workbookPath database) = t.workbooks.lookup (workbookPath database))
      (hfinds : FindsTables index (tables.map TableRecord.name) s t₁)
      (hg : Gives (station.run index state) s t₁ after t₂) (hnext : nextStation station after = .ok next) :
      Work index database tables next after t₂
  | broken {station : Station} {s : Surroundings} {state : Value} {t t₁ t₂ : Traffic} {f : Fault}
      (h : Work index database tables (some station) state t)
      (hbook : t₁.workbooks.lookup (workbookPath database) = t.workbooks.lookup (workbookPath database))
      (hfails : Fails (station.run index state) s t₁ f t₂) : Work index database tables none state t₂

/-! ### The state -/

def Among (names : List String) (candidates : List Value) : Prop :=
  ∀ c ∈ candidates, ∃ name ∈ names, ∃ score, c = .tuple [.text name, score]

/-- A state at a row, or at none, whose candidates are some of the tables and whose decision is marked. -/
structure Minds (path : String) (names : List String) (row : Option Nat) (state : Value) : Prop
    extends At path row state where
  candidates : ∃ candidates, state.at? "candidates" = some (.list candidates) ∧ Among names candidates
  mark : ∃ chosen kind, state.at? "chosen_table" = some chosen ∧ state.at? "decision_type" = some kind ∧
    Mark names chosen kind

section

variable {path : String} {names : List String} {row : Option Nat} {state after : Value}

section

variable (h : Minds path names row state)

include h

/-- What is minded stays so if the candidates that are set are some of the tables and the decision that is made is
marked. -/
lemma Minds.update (hm : (∀ key ∈ ["chosen_table", "decision_type"], key ∉ news.map (·.1)) ∨
      ∃ chosen kind, latest news "chosen_table" = some chosen ∧
        latest news "decision_type" = some kind ∧ Mark names chosen kind)
    (hca : "candidates" ∉ news.map (·.1) ∨
      ∃ cands, latest news "candidates" = some (.list cands) ∧ Among names cands)
    (hp : ∀ key ∈ ["excel_path", "current_row_idx"], key ∉ news.map (·.1)) :
    Minds path names row (state.update news) := by
  refine ⟨⟨h.record.update news, ?_, ?_⟩, ?_, ?_⟩
  · rw [h.record.at?_other (hp _ (by simp))]
    exact h.path
  · rw [h.record.at?_other (hp _ (by simp))]
    exact h.row
  · obtain ho | ⟨cands, hl, ha⟩ := hca
    · rw [h.record.at?_other ho]
      exact h.candidates
    · exact ⟨cands, by rw [at?_update h.record, hl, some_or], ha⟩
  · obtain ho | ⟨chosen, kind, hc, hk, hm⟩ := hm
    · rw [h.record.at?_other (ho _ (by simp)), h.record.at?_other (ho _ (by simp))]
      exact h.mark
    · refine ⟨chosen, kind, ?_, ?_, hm⟩
      · rw [at?_update h.record, hc, some_or]
      · rw [at?_update h.record, hk, some_or]

lemma Minds.skip (notes step : String) : Minds path names row (Mapping.skip state notes step) :=
  h.update (.inr ⟨_, _, rfl, rfl, .skipped⟩) (.inl (by simp)) (by simp)

lemma Minds.skipUnknown (notes step : String) : Minds path names row (Mapping.skipUnknown state notes step) := by
  refine Minds.skip (h.update (.inl (by simp)) (.inr ⟨[], rfl, ?_⟩) (by simp)) notes step
  exact fun c hc => absurd hc not_mem_nil

end

lemma at?_initialState (db : String) (opts : Fields) :
    (initialState db opts).at? "excel_path" = some (.text (workbookPath db)) := rfl

lemma minds_initialState (db : String) (opts : Fields) :
    Minds (workbookPath db) names none (initialState db opts) :=
  ⟨⟨⟨_, rfl⟩, at?_initialState db opts, rfl⟩, ⟨[], rfl, fun _ hc => absurd hc not_mem_nil⟩,
    .null, .null, rfl, rfl, .unset (.inl rfl)⟩

variable {s : Surroundings} {t t' : Traffic} {sheet : Sheet} {index : Option SearchIndex}

/-! ### The stations -/

section

variable (h : Minds path names row state)

include h

lemma Minds.loadNextRow (hs : t.workbooks.lookup path = some sheet)
    (hg : Gives (Mapping.loadNextRow state) s t after t') : Minds path names sheet.openRows.head? after := by
  have hn : Gives (nextOpen? (.text path)) s t sheet.openRows.head? t := by
    rw [← nextOpen?_eq]
    exact (load_gives hs).bind .pure
  simp only [Mapping.loadNextRow, gives_bind, gives_lift, field_ok, h.path, some.injEq] at hg
  obtain ⟨_, _, ⟨-, rfl⟩, _, _, ⟨rfl, rfl⟩, open?, t₁, ho, hg⟩ := hg
  obtain ⟨rfl, rfl⟩ := hn.unique ho
  split at hg
  case h_1 hno =>
    obtain ⟨rfl, -⟩ := gives_pure.1 hg
    refine ⟨⟨h.record.update _, ?_, ?_⟩, ?_, ?_⟩
    · rw [h.record.at?_other (by simp), h.path]
    · rw [hno]
      simp [at?_update h.record, latest, lookup_cons, rowValue]
    · rw [h.record.at?_other (by simp)]
      exact h.candidates
    · rw [h.record.at?_other (by simp), h.record.at?_other (by simp)]
      exact h.mark
  case h_2 r hr =>
    simp only [gives_bind, gives_lift, gives_pure] at hg
    obtain ⟨data, _, -, count, _, -, next, _, -, rfl, -⟩ := hg
    refine ⟨⟨h.record.update _, ?_, ?_⟩, ⟨[], ?_, fun _ hc => absurd hc not_mem_nil⟩, .null, .null, ?_, ?_, .unset (.inl rfl)⟩
    · rw [h.record.at?_other (by simp), h.path]
    · rw [hr]
      simp [at?_update h.record, latest, lookup_cons, rowValue]
    all_goals simp [at?_update h.record, latest, lookup_cons]

lemma Minds.findCandidates (hf : FindsTables index names s t)
    (hg : Gives (Mapping.findCandidates index state) s t after t') : Minds path names row after := by
  obtain ⟨notes, step, rfl⟩ | ⟨i, hi, _, _, _, _, fd, t₁, hk, -, hke⟩ := findCandidates_cases hg
  · exact h.skipUnknown notes step
  · obtain ⟨notes, step, rfl⟩ | ⟨rfl, -⟩ := keepCandidates_cases hke
    · exact h.skipUnknown notes step
    · refine h.update (.inl (by simp)) (.inr ⟨_, rfl, fun c hc => ?_⟩) (by simp)
      obtain ⟨cand, hca, rfl⟩ := mem_map.1 hc
      obtain ⟨query, most, res, t₂, hre, hm⟩ := keyCandidates_mem hk
      obtain ⟨r, hr, ht⟩ := hm cand hca
      obtain ⟨name, hn, hfo⟩ := hf i hi query most res t₂ hre r hr
      exact ⟨name, hn, cand.score, by rw [ht, hfo]⟩

lemma Minds.evaluateAmbiguity
    (hg : Gives (Mapping.evaluateAmbiguity state) s t after t') : Minds path names row after := by
  simp only [Mapping.evaluateAmbiguity, gives_bind, gives_lift, gives_pure] at hg
  obtain ⟨_, _, -, _, _, -, gap, _, -, _, _, -, _, _, -, _, _, -, rfl, -⟩ := hg
  exact h.update (.inl (by simp)) (.inl (by simp)) (by simp)

lemma Minds.taken
    (hf : state.at? "candidates" = some found) (hca : found.item position = .ok candidate)
    (hp : candidate.pair = .ok (tb, score)) : ∃ name ∈ names, tb = .text name := by
  obtain ⟨candidates, hc, ha⟩ := h.candidates
  obtain rfl : found = .list candidates := some.inj (hf.symm.trans hc)
  obtain ⟨name, hn, score', rfl⟩ := ha candidate (mem_of_item hca)
  cases hp
  exact ⟨name, hn, rfl⟩

lemma Minds.autoSelect (hg : Gives (Mapping.autoSelect state) s t after t') : Minds path names row after := by
  simp only [Mapping.autoSelect, gives_bind, gives_lift, gives_pure, field_ok] at hg
  obtain ⟨_, _, -, fd, _, ⟨hf, rfl⟩, gap, _, -, cand, _, ⟨hc, rfl⟩, ⟨tb, score⟩, _, ⟨hp, rfl⟩,
    _, _, -, _, _, -, rfl, -⟩ := hg
  obtain ⟨name, hn, rfl⟩ := h.taken hf hc hp
  exact h.update (.inr ⟨_, _, rfl, rfl, .chosen hn (by simp)⟩) (.inl (by simp)) (by simp)

lemma Minds.answered {choice : Value}
    (ha : Mapping.answered state choice = .ok after) : Minds path names row after := by
  unfold Mapping.answered at ha
  split at ha
  · cases ha
    exact h.update (.inr ⟨_, _, rfl, rfl, .unset (.inr ⟨"skipped", by simp, rfl⟩)⟩) (.inl (by simp)) (by simp)
  · split at ha
    · cases ha
      exact h.skip _ _
    · split at ha
      · cases ha
        exact h.skip _ _
      · split at ha
        · cases ha
          exact h.skip _ _
        · cases ha
          exact h.skip _ _
        · obtain ⟨notes, step, rfl⟩ | ⟨fd, pos, cand, tb, score, notes, step, hf, hc, hp,
            rfl⟩ := choose_ok ha
          · exact h.skip notes step
          · obtain ⟨name, hn, rfl⟩ := h.taken hf hc hp
            exact h.update (.inr ⟨_, _, rfl, rfl, .chosen hn (by simp)⟩) (.inl (by simp)) (by simp)

lemma Minds.requestDecision
    (hg : Gives (Mapping.requestDecision state) s t after t') : Minds path names row after := by
  rw [Mapping.requestDecision, gives_tryCatch] at hg
  obtain hg | ⟨f, t₁, -, hg⟩ := hg
  · simp only [gives_bind, gives_lift] at hg
    obtain ⟨_, _, -, _, _, -, choice, _, -, ha, -⟩ := hg
    exact h.answered ha
  · split at hg
    · exact absurd hg gives_throw.1
    · obtain ⟨rfl, -⟩ := gives_pure.1 hg
      exact h.skip _ _

lemma Minds.recordDecision (hg : Gives (Mapping.recordDecision state) s t after t') : Minds path names row after := by
  have hn {step : Value} (hs : state.update [("last_step", step)] = after) : Minds path names row after :=
    hs ▸ h.update (.inl (by simp)) (.inl (by simp)) (by simp)
  rw [Mapping.recordDecision, gives_recover] at hg
  obtain hg | ⟨f, t₁, -, -, hg⟩ := hg
  · simp only [gives_bind, gives_lift] at hg
    obtain ⟨_, _, -, kind, _, -, hg⟩ := hg
    split at hg
    · exact hn (gives_pure.1 hg).1
    · simp only [gives_bind, gives_lift] at hg
      obtain ⟨_, _, -, _, _, -, _, _, -, _, _, -, _, _, -, hg⟩ := hg
      exact hn (gives_pure.1 hg).1
  · exact hn (gives_pure.1 hg).1

lemma Minds.finalize (hg : Gives (Mapping.finalize state) s t after t') : Minds path names row after := by
  simp only [Mapping.finalize, gives_bind, gives_pure] at hg
  obtain ⟨_, _, -, _, _, -, _, _, -, rfl, -⟩ := hg
  exact h.update (.inl (by simp)) (.inl (by simp)) (by simp)

lemma Minds.keeps_recordDecision : Keeps (Workbook.StaysProper names path row) (Mapping.recordDecision state) := by
  obtain ⟨chosen, kind, hc, hk, hm⟩ := h.mark
  refine .recover (.next fun _ => .next fun _ => ?_) fun _ => inferInstance
  split
  · infer_instance
  · refine .lift_bind fun chosen' hc' => .next fun score => .lift_bind fun kind' hk' =>
      .next fun notes => ?_
    obtain rfl : chosen = chosen' := some.inj (hc.symm.trans (field_ok.1 hc'))
    obtain rfl : kind = kind' := some.inj (hk.symm.trans (field_ok.1 hk'))
    exact .bind (.recover (h.keeps (writeDecision_proper rfl rfl hm)) fun _ => inferInstance)
      fun _ => inferInstance

end

lemma keeps_loadNextRow (state : Value) : Keeps SameBooks (Mapping.loadNextRow state) := by
  refine .next fun _ => .next fun _ => .bind (.next fun _ => inferInstance)
    fun open? => ?_
  split
  · infer_instance
  · exact .bind (.next fun _ => inferInstance) fun _ => inferInstance

lemma Minds.keeps_run (h : Minds path names row state) (index : Option SearchIndex)
    (hs : station ≠ .start) : Keeps (Workbook.StaysProper names path row) (station.run index state) := by
  have hb {step : Desk Value} (hst : Keeps SameBooks step) : Keeps (Workbook.StaysProper names path row) step :=
    hst.mono staysProper_of_sameBooks
  cases station with
  | start => exact absurd rfl hs
  | loadNextRow => exact hb (keeps_loadNextRow state)
  | findCandidates =>
    exact h.keeps_findCandidates staysProper_of_sameBooks writeCandidates_proper index
  | evaluateAmbiguity => exact hb (.next fun _ => .next fun _ => inferInstance)
  | autoSelect => exact hb (.next fun _ => .next fun _ => inferInstance)
  | requestDecision => exact hb (keeps_requestDecision state)
  | recordDecision => exact h.keeps_recordDecision
  | finalize =>
    exact hb (.next fun _ => .next fun _ => .bind (.next fun _ =>
      inferInstance) fun _ => inferInstance)

lemma Minds.run (h : Minds path names row state) (hs : t.workbooks.lookup path = some sheet)
    (hp : Proper names row sheet) (hf : FindsTables index names s t)
    (hst : station ≠ .start) (hg : Gives (station.run index state) s t after t') :
    ∃ row' sheet', Minds path names row' after ∧ t'.workbooks.lookup path = some sheet' ∧ Proper names row' sheet' := by
  obtain ⟨sheet', hs', hp'⟩ := (h.keeps_run index hst).gives hg sheet hs hp
  cases station with
  | start => exact absurd rfl hst
  | loadNextRow =>
    have hb : t'.workbooks = t.workbooks := (keeps_loadNextRow state).gives hg
    refine ⟨sheet.openRows.head?, sheet, h.loadNextRow hs hg, by rwa [hb], hp.turn fun r hr => ?_⟩
    have ho := mem_of_head? hr
    exact ⟨two_le_of_open ho, hasRow_of_open ho⟩
  | findCandidates => exact ⟨row, sheet', h.findCandidates hf hg, hs', hp'⟩
  | evaluateAmbiguity => exact ⟨row, sheet', h.evaluateAmbiguity hg, hs', hp'⟩
  | autoSelect => exact ⟨row, sheet', h.autoSelect hg, hs', hp'⟩
  | requestDecision => exact ⟨row, sheet', h.requestDecision hg, hs', hp'⟩
  | recordDecision => exact ⟨row, sheet', h.recordDecision hg, hs', hp'⟩
  | finalize => exact ⟨row, sheet', h.finalize hg, hs', hp'⟩

end

/-! ### The whole work -/

section

variable {index : Option SearchIndex} {tables : List TableRecord} {next : Option Station} {state : Value}
  {t : Traffic}

lemma afterEvaluation_ne_start (h : afterEvaluation state = .ok station) : station ≠ .start := by
  simp only [afterEvaluation, bind_ok] at h
  obtain ⟨kind, -, h⟩ := h
  split at h
  · cases h
    decide
  · simp only [bind_ok, pure_ok] at h
    obtain ⟨_, -, _, -, clear, -, rfl⟩ := h
    cases clear <;> decide

lemma afterRecord_ne_start (h : afterRecord state = .ok station) : station ≠ .start := by
  simp only [afterRecord, bind_ok] at h
  obtain ⟨quit, -, h⟩ := h
  split at h
  · cases h
    decide
  · simp only [bind_ok, pure_ok] at h
    obtain ⟨more, -, rfl⟩ := h
    split <;> decide

lemma nextStation_ne_start (h : nextStation station state = .ok next) : next ≠ some .start := by
  rintro rfl
  cases station with
  | evaluateAmbiguity =>
    simp only [nextStation, bind_ok, pure_ok, some.injEq] at h
    obtain ⟨_, h, rfl⟩ := h
    exact afterEvaluation_ne_start h rfl
  | recordDecision =>
    simp only [nextStation, bind_ok, pure_ok, some.injEq] at h
    obtain ⟨_, h, rfl⟩ := h
    exact afterRecord_ne_start h rfl
  | _ => cases h

lemma prepare_minds (names : List String)
    (hg : Gives (prepare (initialState db opts)) s t state t') :
    Minds (workbookPath db) names none state := by
  obtain ⟨⟨sch, count, rfl⟩, -⟩ := prepare_cases (at?_initialState db _) hg
  exact (minds_initialState db opts).update (.inl (by simp)) (.inl (by simp)) (by simp)

lemma Work.proper (h : Work index db tables next state t) : next ≠ some .start ∧ ∃ row sheet,
    Minds (workbookPath db) (tables.map TableRecord.name) row state ∧
      t.workbooks.lookup (workbookPath db) = some sheet ∧ Proper (tables.map TableRecord.name) row sheet := by
  induction h with
  | begun hf hg hsc =>
    obtain ⟨-, sheet, hs, hb⟩ := prepare_cases (at?_initialState db _) hg
    obtain hb | ⟨-, cols, existing, hma⟩ := hb
    · rw [hf] at hb
      cases hb
    · exact ⟨by decide, none, sheet, prepare_minds _ hg, hs, sheetOf_proper hma⟩
  | resumed h hbo hg hsc ih =>
    obtain ⟨-, row, sheet, -, hs, hp⟩ := ih
    obtain ⟨-, sh', hs', hb⟩ := prepare_cases (at?_initialState db _) hg
    rw [hbo, hs] at hb
    obtain hsa | ⟨hn, -⟩ := hb
    · obtain rfl := some.inj hsa
      exact ⟨by decide, none, sheet, prepare_minds _ hg, hs', hp.turn (by simp)⟩
    · cases hn
  | visited h hbo hfi hg hne ih =>
    obtain ⟨hst, row, sheet, hm, hs, hp⟩ := ih
    exact ⟨nextStation_ne_start hne,
      hm.run (hbo.trans hs) hp hfi (fun heq => hst (congrArg some heq)) hg⟩
  | broken h hbo hfa ih =>
    obtain ⟨hst, row, sheet, hm, hs, hp⟩ := ih
    have hk := hm.keeps_run index fun heq => hst (congrArg some heq)
    obtain ⟨sh', hs', hp'⟩ := hk.fails hfa sheet (hbo.trans hs) hp
    exact ⟨by decide, row, sh', hm, hs', hp'⟩

end

end QueryDesk.Mapping
