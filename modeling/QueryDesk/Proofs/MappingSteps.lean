import QueryDesk.Mapping.Session
import QueryDesk.Proofs.Candidates

/-!
What each station of the work on references does to a state and to the sheet. Every station gives a result: a
row is loaded, candidates are looked up, the best one is taken or a person is asked, and the decision is written
into the row. A row that is decided has the name of a table and a word on how it was chosen, whichever way the
decision was made.
-/

namespace QueryDesk

open Attempt Desk List Option Fields Workbook

variable {a b notes v x : Value} {news : Fields} {position : Nat}

namespace Value

lemma IsRecord.at?_other (h : v.IsRecord)
    (hk : key ∉ news.map (·.1)) :
    (v.update news).at? key = v.at? key := by
  rw [at?_update h, latest_eq_none hk, none_or]

lemma exists_at?_update (h : v.IsRecord)
    (hk : v.at? key = some x) : ∃ y, (v.update news).at? key = some y := by
  rw [at?_update h, hk]
  cases latest news key with
  | none => exact ⟨x, rfl⟩
  | some y => exact ⟨y, rfl⟩

/-! ### Numbers -/

lemma minus_of_numbers (ha : a.float?.isSome = true) (hb : b.float?.isSome = true) :
    ∃ c, a.minus b = .ok c ∧ c.float?.isSome = true := by
  cases a <;> simp [float?] at ha <;> cases b <;> simp [float?] at hb <;> exact ⟨_, rfl, rfl⟩

lemma atLeast_of_numbers (ha : a.float?.isSome = true) (hb : b.float?.isSome = true) :
    ∃ r, a.atLeast b = .ok r := by
  cases a <;> simp [float?] at ha <;> cases b <;> simp [float?] at hb <;> exact ⟨_, rfl⟩

lemma withPlaces_of_number (h : v.float?.isSome = true) (places : Nat) :
    ∃ text, v.withPlaces places = .ok text := by
  cases v <;> simp [float?] at h <;> exact ⟨_, rfl⟩

lemma mem_of_item {items : List Value}
    (h : (Value.list items).item position = .ok x) : x ∈ items := by
  simp only [item] at h
  split at h
  case h_1 hx =>
    cases h
    exact mem_of_getElem? hx
  case h_2 => cases h

end Value

namespace Mapping

open Value Sheet

variable {news : Fields} {table choice after kind : Value} {rest : List Value}

/-! ### States -/

/-- The fields that are shown to a person or written down, whatever they hold. -/
def shownFields : List String := ["current_table", "current_column", "current_base_name", "score_gap", "chosen_score",
  "notes"]

structure Furnished (path : String) (state : Value) : Prop where
  record : state.IsRecord
  path : state.at? "excel_path" = some (.text path)
  threshold : ∃ limit, state.at? "threshold" = some limit ∧ limit.float?.isSome = true
  count : ∃ n, state.at? "processed_count" = some (.int n)
  shown : ∀ key ∈ shownFields, ∃ v, state.at? key = some v

/-- A state in which a row is at hand, or none, and the person has not quit. -/
structure Turned (row : Option Nat) (state : Value) : Prop where
  place : state.at? "current_row_idx" = some (rowValue row)
  more : state.at? "has_next_row" = some (.bool row.isSome)
  going : state.at? "user_quit" = some (.bool false)

/-- A state with a decision: the name of a table, and a word on how it was chosen. -/
structure Verdict (state : Value) : Prop where
  table : ∃ table, state.at? "chosen_table" = some table ∧ IsName table
  kind : ∃ word ∈ kinds, state.at? "decision_type" = some (.text word)

structure Quit (row : Option Nat) (state : Value) : Prop where
  place : state.at? "current_row_idx" = some (rowValue row)
  quit : state.at? "user_quit" = some (.bool true)
  table : state.at? "chosen_table" = some .null
  kind : state.at? "decision_type" = some (.text "skipped")

def Undecided (state : Value) : Prop := state.at? "decision_type" = some .null

variable {path : String} {row : Option Nat} {state : Value}

lemma Furnished.update (h : Furnished path state)
    (hn : ∀ key ∈ ["excel_path", "threshold", "processed_count"], key ∉ news.map (·.1)) :
    Furnished path (state.update news) := by
  have hs (key : String) (hk : key ∈ ["excel_path", "threshold", "processed_count"]) :=
    h.record.at?_other (hn key hk)
  refine ⟨h.record.update news, ?_, ?_, ?_, fun key hk => ?_⟩
  · rw [hs _ (by simp)]
    exact h.path
  · rw [hs _ (by simp)]
    exact h.threshold
  · rw [hs _ (by simp)]
    exact h.count
  · obtain ⟨v, hv⟩ := h.shown key hk
    exact exists_at?_update h.record hv

lemma Turned.update (h : Turned row state) (hr : state.IsRecord)
    (hn : ∀ key ∈ ["current_row_idx", "has_next_row", "user_quit"], key ∉ news.map (·.1)) :
    Turned row (state.update news) := by
  have hs (key : String) (hk : key ∈ ["current_row_idx", "has_next_row", "user_quit"]) :=
    hr.at?_other (hn key hk)
  refine ⟨?_, ?_, ?_⟩
  · rw [hs _ (by simp)]
    exact h.place
  · rw [hs _ (by simp)]
    exact h.more
  · rw [hs _ (by simp)]
    exact h.going

lemma Verdict.update (h : Verdict state) (hr : state.IsRecord)
    (hn : ∀ key ∈ ["chosen_table", "decision_type"], key ∉ news.map (·.1)) :
    Verdict (state.update news) := by
  refine ⟨?_, ?_⟩
  · rw [hr.at?_other (hn _ (by simp))]
    exact h.table
  · rw [hr.at?_other (hn _ (by simp))]
    exact h.kind

lemma verdict_update (hr : state.IsRecord)
    (ht : IsName table) (hw : word ∈ kinds) : Verdict (state.update [("chosen_table", table),
      ("chosen_score", score), ("decision_type", .text word), ("notes", notes), ("last_step", step)]) := by
  refine ⟨⟨table, ?_, ht⟩, word, hw, ?_⟩
  · simp [at?_update hr, latest, lookup_cons]
  · simp [at?_update hr, latest, lookup_cons]

lemma skip_verdict (hr : state.IsRecord) (notes step : String) : Verdict (skip state notes step) :=
  verdict_update hr ⟨"[SKIPPED]", rfl, by decide⟩ (by decide)

variable {t t' : Traffic} {sheet : Sheet}

/-! ### Loading a row -/

lemma rowData_gives (hs : t.workbooks.lookup path = some sheet) (hr : 1 ≤ r) :
    ∃ data, Gives (rowData (.text path) (.nat r)) s t data t :=
  ⟨_, (load_gives hs).bind (.bind (.lift (rowNumber_nat hr)) .pure)⟩

/-- The first open row is loaded, without a decision; if there is none, the old decision stays. -/
lemma loadNextRow_gives (h : Furnished path state) (hg : state.at? "user_quit" = some (.bool false))
    (hs : t.workbooks.lookup path = some sheet) :
    ∃ after, Gives (loadNextRow state) s t after t ∧ Furnished path after ∧ Turned sheet.openRows.head? after ∧
      (sheet.openRows = [] → Verdict state → Verdict after) ∧ (sheet.openRows ≠ [] → Undecided after) := by
  have hne : Gives (nextOpen? (.text path)) s t sheet.openRows.head? t := by
    rw [← nextOpen?_eq]
    exact (load_gives hs).bind .pure
  cases ho : sheet.openRows with
  | nil =>
    rw [ho] at hne
    refine ⟨_, (Gives.lift (h.record.get _)).bind (.bind (.lift (field_ok.2 h.path))
      (.bind hne .pure)), h.update (by simp), ?_, fun _ hve => hve.update h.record (by simp), by simp⟩
    constructor <;> simp [at?_update h.record, latest, lookup_cons, hg, rowValue]
  | cons r rest =>
    rw [ho] at hne
    obtain ⟨n, hn⟩ := h.count
    have hr : sheet.HasRow r := hasRow_of_open (by simp [ho])
    obtain ⟨data, hd⟩ := rowData_gives (s := s) hs hr.1
    have hc : state.getD "processed_count" (.int 0) = .ok (.int n) := by
      rw [h.record.getD, hn, getD_some]
    refine ⟨_, (Gives.lift (h.record.get _)).bind (.bind (.lift (field_ok.2 h.path))
      (.bind hne (.bind hd (.bind (.lift hc) (.bind (.lift rfl) .pure))))), ?_, ?_, by simp, fun _ => ?_⟩
    · refine ⟨h.record.update _, ?_, ?_, ⟨n + 1, ?_⟩, fun key hk => ?_⟩
      · rw [h.record.at?_other (by simp), h.path]
      · rw [h.record.at?_other (by simp)]
        exact h.threshold
      · simp [at?_update h.record, latest, lookup_cons]
      · obtain ⟨v, hv⟩ := h.shown key hk
        exact exists_at?_update h.record hv
    · constructor <;> simp [at?_update h.record, latest, lookup_cons, hg, rowValue]
    · simp [Undecided, at?_update h.record, latest, lookup_cons]

/-! ### Judging the candidates -/

def Offered (state : Value) : Prop := ∃ candidates, state.at? "candidates" = some (.list candidates) ∧ Offers candidates

/-- A state with the gap between the best two candidates. -/
def Measured (state : Value) : Prop := ∃ gap, state.at? "score_gap" = some gap ∧ gap.float?.isSome = true

lemma Searched.candidates (h : Searched state after) (hr : state.IsRecord) :
    ∃ cands, after.at? "candidates" = some (.list cands) ∧ (cands = [] ∨ Offers cands) := by
  cases h with
  | left notes step =>
    rw [skipUnknown, skip, (hr.update _).at?_other (by simp)]
    simp [at?_update hr, latest, lookup_cons]
  | @found cands ho =>
    refine ⟨cands, ?_, .inr ho⟩
    simp [at?_update hr, latest, lookup_cons]

lemma scoreGap_gives (h : cands = [] ∨ Offers cands) :
    ∃ gap, scoreGap (.list cands) = .ok gap ∧ gap.float?.isSome = true := by
  match cands, h with
  | [], _ => exact ⟨.float 0, rfl, rfl⟩
  | [_], _ => exact ⟨.float 1, rfl, rfl⟩
  | first :: second :: rest, .inr ho =>
    obtain ⟨table, best, rfl, -⟩ := ho.pairs first (by simp)
    obtain ⟨tb', next, rfl, -⟩ := ho.pairs second (by simp)
    exact minus_of_numbers (ho.scores tb' next (by simp)) (ho.scores table best (by simp))

lemma evaluateAmbiguity_gives (h : Furnished path state)
    (hc : state.at? "candidates" = some (.list cands)) (ho : cands = [] ∨ Offers cands) :
    ∃ gap, gap.float?.isSome = true ∧ Gives (evaluateAmbiguity state) s t
      (state.update [("score_gap", gap), ("last_step", "evaluate_ambiguity")]) t := by
  obtain ⟨gap, hg, hn⟩ := scoreGap_gives ho
  obtain ⟨limit, hl, hl'⟩ := h.threshold
  obtain ⟨text, ht⟩ := withPlaces_of_number hn 3
  obtain ⟨enough, he⟩ := atLeast_of_numbers hn hl'
  exact ⟨gap, hn, (Gives.lift (h.record.get _)).bind (.bind (.lift (field_ok.2 hc))
    (.bind (.lift hg) (.bind (.lift (field_ok.2 hl)) (.bind (.lift ht) (.bind (.lift he) .pure)))))⟩

lemma autoSelect_gives (hr : state.IsRecord) (hof : Offered state) (hg : Measured state) :
    ∃ table score notes, IsName table ∧ Gives (autoSelect state) s t
      (state.update [("chosen_table", table), ("chosen_score", score), ("decision_type", .text "auto"),
        ("notes", notes), ("last_step", "auto_select")]) t := by
  obtain ⟨cands, hc, ho⟩ := hof
  obtain ⟨gap, hg, hn⟩ := hg
  obtain ⟨shown, hs⟩ := withPlaces_of_number hn 3
  match cands, ho with
  | [], ho => exact absurd rfl ho.present
  | first :: rest, ho =>
    obtain ⟨table, score, rfl, hna⟩ := ho.pairs first (by simp)
    obtain ⟨text, ht⟩ := withPlaces_of_number (ho.scores table score (by simp)) 3
    exact ⟨table, score, _, hna, (Gives.lift (hr.get _)).bind
      (.bind (.lift (field_ok.2 hc)) (.bind (.lift (field_ok.2 hg)) (.bind (.lift rfl)
        (.bind (.lift rfl) (.bind (.lift ht) (.bind (.lift hs) .pure))))))⟩

/-! ### Asking a person -/

lemma exists_bind {x : Attempt α} {f : α → Attempt β} (hx : ∃ a, x = .ok a)
    (hf : ∀ a, ∃ b, f a = .ok b) : ∃ b, (x >>= f) = .ok b := by
  obtain ⟨a, rfl⟩ := hx
  exact hf a

lemma decisionQuestion_gives (h : Furnished path state) (hof : Offered state) :
    ∃ question, decisionQuestion state = .ok question := by
  obtain ⟨cands, hc, ho⟩ := hof
  obtain ⟨table, ht⟩ := h.shown "current_table" (by simp [shownFields])
  obtain ⟨col, hco⟩ := h.shown "current_column" (by simp [shownFields])
  obtain ⟨base, hb⟩ := h.shown "current_base_name" (by simp [shownFields])
  obtain ⟨gap, hg⟩ := h.shown "score_gap" (by simp [shownFields])
  obtain ⟨limit, hl, -⟩ := h.threshold
  simp only [decisionQuestion, field_ok.2 ht, field_ok.2 hco, field_ok.2 hb,
    field_ok.2 hc, field_ok.2 hg, field_ok.2 hl, firstItems, ok_bind]
  refine exists_bind (exists_mapM fun x hx => ?_) fun shown => ⟨_, rfl⟩
  obtain ⟨c, i⟩ := x
  have hm := fst_mem_of_mem_zipIdx hx
  obtain ⟨table, score, rfl, -⟩ := ho.pairs c (mem_of_mem_take hm)
  obtain ⟨text, hte⟩ := withPlaces_of_number (ho.scores table score hm) 3
  refine ⟨.record [("index", .nat (i + 1)), ("table", table), ("score", .text text)], ?_⟩
  show (score.withPlaces 3 >>= fun text => _) = _
  rw [hte]
  rfl

/-- The states after a person's answer: the person has quit, the row is left out, or a table with a name was
chosen. -/
inductive Answered (state choice : Value) : Value → Prop
  | quit (h : (choice == "q") = true) :
      Answered state choice (state.update [("user_quit", .bool true), ("chosen_table", .null), ("chosen_score", .null),
        ("decision_type", "skipped"), ("notes", "User quit session"), ("last_step", "request_decision_quit")])
  | skipped (h : (choice == "q") = false) (notes step : String) : Answered state choice (skip state notes step)
  | chosen (h : (choice == "q") = false) {table : Value} (score notes step : Value) (hname : IsName table) :
      Answered state choice (state.update [("chosen_table", table), ("chosen_score", score),
        ("decision_type", "manual"), ("notes", notes), ("last_step", step)])

lemma choose_ok (h : choose state choice = .ok after) :
    (∃ notes step, after = skip state notes step) ∨ ∃ cands position cand table score notes step,
      state.at? "candidates" = some cands ∧ cands.item position = .ok cand ∧
      cand.pair = .ok (table, score) ∧ after = state.update [("chosen_table", table), ("chosen_score", score),
        ("decision_type", "manual"), ("notes", notes), ("last_step", step)] := by
  simp only [choose, bind_ok, field_ok] at h
  obtain ⟨cands, hc, number, -, count, -, h⟩ := h
  split at h
  · cases h
    exact .inl ⟨_, _, rfl⟩
  · simp only [bind_ok, pure_ok] at h
    obtain ⟨cand, hca, ⟨table, score⟩, hp, text, -, rfl⟩ := h
    exact .inr ⟨cands, _, cand, table, score, _, _, hc, hca, hp, rfl⟩

lemma choose_answered (h : Offered state) (hg : (choice == "q") = false)
    (hc : choose state choice = .ok after) : Answered state choice after := by
  obtain ⟨candidates, hca, ho⟩ := h
  obtain ⟨notes, step, rfl⟩ | ⟨fd, position, cand, table, score, notes, step, hf, hcd, hp, rfl⟩ :=
    choose_ok hc
  · exact .skipped hg notes step
  · obtain rfl : fd = .list candidates := some.inj (hf.symm.trans hca)
    obtain ⟨tb', score', rfl, hn⟩ := ho.pairs cand (mem_of_item hcd)
    cases hp
    exact .chosen hg _ _ _ hn

/-- What an answer leads to; one that cannot be understood may also end in a fault. -/
lemma answered_cases (choice : Value) (h : Offered state) :
    (∃ after, answered state choice = .ok after ∧ Answered state choice after) ∨
      ∃ f, answered state choice = .error f ∧ f.isMild = true ∧ (choice == "q") = false := by
  unfold answered
  split
  case isTrue hq => exact .inl ⟨_, rfl, .quit hq⟩
  case isFalse hg =>
    rw [Bool.not_eq_true] at hg
    split
    · exact .inl ⟨_, rfl, .skipped hg _ _⟩
    · split
      · exact .inl ⟨_, rfl, .skipped hg _ _⟩
      · have hm := (inferInstance : Attempt.Mild (choose state choice)).mild
        split
        · exact .inl ⟨_, rfl, .skipped hg _ _⟩
        · exact .inl ⟨_, rfl, .skipped hg _ _⟩
        · cases hc : choose state choice with
          | error f =>
            rw [hc] at hm
            exact .inr ⟨f, rfl, hm, hg⟩
          | ok after => exact .inl ⟨after, rfl, choose_answered h hg hc⟩

lemma ask_gives (q : Value) (h : t.choices = choice :: rest) : ∃ t', Gives (ask q) s t choice t' := by
  have hs : Gives (send (.ask q)) s t () { t with requests := t.requests ++ [.ask q] } := rfl
  refine ⟨{ t with requests := t.requests ++ [.ask q], choices := rest },
    hs.bind (.bind (show Gives get s _ _ _ from rfl) ?_)⟩
  simp only [h]
  rfl

lemma ask_fails (q : Value) (h : t.choices = []) : ∃ t', Fails (ask q) s t .interrupted t' := by
  have hs : Gives (send (.ask q)) s t () { t with requests := t.requests ++ [.ask q] } := rfl
  refine ⟨{ t with requests := t.requests ++ [.ask q] },
    fails_of_gives hs (fails_of_gives (show Gives get s _ _ _ from rfl) ?_)⟩
  simp only [h]
  rfl

lemma requestDecision_gives (h : Furnished path state)
    (ho : Offered state) (hc : t.choices = choice :: rest) :
    ∃ after t', Gives (requestDecision state) s t after t' ∧ Answered state choice after := by
  have hg := Gives.lift (s := s) (t := t) (h.record.get "last_step")
  obtain ⟨q, hq⟩ := decisionQuestion_gives h ho
  obtain ⟨t', hak⟩ := ask_gives (s := s) q hc
  rcases answered_cases choice ho with ⟨after, ha, haf⟩ | ⟨f, ha, hm, hgo⟩
  · exact ⟨after, t', gives_tryCatch.2 (.inl (hg.bind (.bind (.lift hq) (.bind hak (.lift ha))))),
      haf⟩
  · refine ⟨_, t', gives_tryCatch.2 (.inr ⟨f, t', fails_of_gives hg (fails_of_gives (.lift hq)
      (fails_of_gives hak (fails_lift.2 ⟨ha, rfl⟩))), ?_⟩),
      .skipped hgo s!"Error: {f.message}" "request_decision_exception"⟩
    split
    · cases hm
    · exact .pure

lemma requestDecision_fails (h : Furnished path state) (ho : Offered state) (hc : t.choices = []) :
    ∃ t', Fails (requestDecision state) s t .interrupted t' := by
  have hg := Gives.lift (s := s) (t := t) (h.record.get "last_step")
  obtain ⟨q, hq⟩ := decisionQuestion_gives h ho
  obtain ⟨t', ha⟩ := ask_fails (s := s) q hc
  exact ⟨t', fails_tryCatch (fails_of_gives hg (fails_of_gives (.lift hq) (fails_bind.2 (.inl ha)))) rfl⟩

lemma keeps_requestDecision (state : Value) : Keeps SameBooks (requestDecision state) := by
  refine .tryCatch inferInstance fun f => ?_
  split <;> infer_instance

/-! ### Writing the decision down -/

lemma truthy_of_kind (h : word ∈ kinds) : (Value.text word).truthy = true := by
  simp only [kinds, mem_cons, not_mem_nil, or_false] at h
  rcases h with rfl | rfl | rfl <;> rfl

def decisionOf (state : Value) : Value := .record [("chosen_table", state.peek "chosen_table"),
  ("chosen_score", state.peek "chosen_score"), ("decision_type", state.peek "decision_type"),
  ("notes", state.peek "notes")]

lemma writeDecision_ok (hs : t.workbooks.lookup path = some sheet)
    (h : Gives (writeDecision (.text path) (.nat r) decision) s t () t') :
    ∃ sheet', decide s.now (.nat r) decision sheet = .ok sheet' ∧ t'.workbooks.lookup path = some sheet' := by
  simp only [writeDecision, gives_bind, gives_lift] at h
  obtain ⟨s', t₁, hr, sh₁, t₂, hl, sheet', t₃, ⟨hd, rfl⟩, hsa⟩ := h
  obtain ⟨rfl, rfl⟩ : s = s' ∧ t = t₁ := Gives.unique (show Gives read s t s t from rfl) hr
  obtain ⟨rfl, rfl⟩ := (load_gives hs).unique hl
  obtain ⟨t₄, hsa', hs'⟩ := save_gives path sheet' s t
  obtain ⟨-, rfl⟩ := hsa'.unique hsa
  exact ⟨sheet', hd, hs'⟩

lemma recordDecision_gives (h : Furnished path state) {row : Value} (hk : kind.truthy = true)
    (hd : state.at? "decision_type" = some kind) (ht : state.at? "chosen_table" = some table)
    (hr : state.at? "current_row_idx" = some row)
    (hw : Gives (recover (writeDecision (.text path) row (decisionOf state)) fun _ => pure ()) s t () t') :
    Gives (recordDecision state) s t (state.update [("last_step", "record_decision")]) t' := by
  obtain ⟨score, hs⟩ := h.shown "chosen_score" (by simp [shownFields])
  obtain ⟨notes, hn⟩ := h.shown "notes" (by simp [shownFields])
  have hwr : decisionOf state = .record [("chosen_table", table), ("chosen_score", score),
      ("decision_type", kind), ("notes", notes)] := by
    simp [decisionOf, peek_eq_at?, hd, ht, hs, hn]
  rw [hwr] at hw
  refine gives_recover.2 (.inl ?_)
  refine (Gives.lift (h.record.get _)).bind (.bind (.lift (h.record.get _)) ?_)
  rw [if_neg (by simp [hd, hk])]
  refine .bind (.lift (field_ok.2 ht)) (.bind (.lift (field_ok.2 hs))
    (.bind (.lift (field_ok.2 hd)) (.bind (.lift (field_ok.2 hn)) (.bind (a := ()) ?_ .pure))))
  rw [field_ok.2 h.path, field_ok.2 hr]
  exact hw

lemma recordDecision_null (h : Furnished path state) (hv : Verdict state)
    (hr : state.at? "current_row_idx" = some .null) (hs : t.workbooks.lookup path = some sheet) :
    Gives (recordDecision state) s t (state.update [("last_step", "record_decision")]) t := by
  obtain ⟨table, ht, -⟩ := hv.table
  obtain ⟨word, hw, hk⟩ := hv.kind
  have hd : decide s.now .null (decisionOf state) sheet = .error (.unordered "NoneType" "int") :=
    decide_null rfl
  have hf : Fails (writeDecision (.text path) .null (decisionOf state)) s t
      (.unordered "NoneType" "int") t :=
    fails_of_gives (show Gives read s t s t from rfl) (fails_of_gives (load_gives hs)
      (fails_bind.2 (.inl (fails_lift.2 ⟨hd, rfl⟩))))
  exact recordDecision_gives h (truthy_of_kind hw) hk ht hr
    (gives_recover.2 (.inr ⟨_, t, hf, rfl, .pure⟩))

lemma writeDecision_row (ht : state.at? "chosen_table" = some table)
    (hk : state.at? "decision_type" = some kind) (hsh : t.workbooks.lookup path = some sheet)
    (hf : sheet.Full) (hh : sheet.HasRow r)
    (hw : Gives (writeDecision (.text path) (.nat r) (decisionOf state)) s t () t') :
    ∃ sh', t'.workbooks.lookup path = some sh' ∧ SameBut (some r) sheet sh' ∧
      Sheet.stored table = .ok (sh'.cell r chosenColumn) ∧ Sheet.stored kind = .ok (sh'.cell r kindColumn) := by
  obtain ⟨sh', hd, hsh'⟩ := writeDecision_ok hsh hw
  obtain ⟨hsa, table', kind', ht', hs, hk', hs'⟩ := decide_ok hf hh hd
  have ht'' : state.peek "chosen_table" = table' := Except.ok.inj ht'
  have hk'' : state.peek "decision_type" = kind' := Except.ok.inj hk'
  rw [peek_eq_at?, ht, getD_some] at ht''
  rw [peek_eq_at?, hk, getD_some] at hk''
  subst ht'' hk''
  exact ⟨sh', hsh', hsa, hs, hs'⟩

lemma recordDecision_row (h : Furnished path state) (hv : Verdict state)
    (hr : state.at? "current_row_idx" = some (.nat r)) (hs : t.workbooks.lookup path = some sheet)
    (hf : sheet.Full) (hh : sheet.HasRow r)
    (hwr : Gives (writeDecision (.text path) (.nat r) (decisionOf state)) s t () t') :
    Gives (recordDecision state) s t (state.update [("last_step", "record_decision")]) t' ∧
      ∃ sh', t'.workbooks.lookup path = some sh' ∧ SameBut (some r) sheet sh' ∧ Decided sh' r := by
  obtain ⟨table, ht, name, rfl, hna⟩ := hv.table
  obtain ⟨word, hw, hk⟩ := hv.kind
  refine ⟨recordDecision_gives h (truthy_of_kind hw) hk ht hr (gives_recover.2 (.inl hwr)), ?_⟩
  obtain ⟨sh', hs', hsa, ht', hk'⟩ := writeDecision_row ht hk hs hf hh hwr
  have hn : word ≠ "" := by
    rintro rfl
    simp [kinds] at hw
  exact ⟨sh', hs', hsa, ⟨name, stored_text hna ht', hna⟩, word, hw, stored_text hn hk'⟩

lemma recordDecision_quit (h : Furnished path state) (hq : Quit (some r) state)
    (hs : t.workbooks.lookup path = some sheet) (hf : sheet.Full) (ho : r ∈ sheet.openRows)
    (hw : Gives (writeDecision (.text path) (.nat r) (decisionOf state)) s t () t') :
    Gives (recordDecision state) s t (state.update [("last_step", "record_decision")]) t' ∧
      ∃ sheet', t'.workbooks.lookup path = some sheet' ∧ Noted (some r) sheet sheet' := by
  refine ⟨recordDecision_gives h rfl hq.kind hq.table hq.place (gives_recover.2 (.inl hw)), ?_⟩
  obtain ⟨sheet', hs', hsa, ht', -⟩ :=
    writeDecision_row hq.table hq.kind hs hf (hasRow_of_open ho) hw
  refine ⟨sheet', hs', hsa, fun r' hr' => ?_⟩
  obtain rfl := some.inj hr'
  rw [not_truthy_of_open ho, ← Except.ok.inj ht']
  rfl

/-! ### The beginning and the end -/

lemma finalize_gives (h : Furnished path state) (hs : t.workbooks.lookup path = some sheet) :
    Gives (finalize state) s t (state.update [("last_step", "finalize")]) t :=
  (Gives.lift (h.record.get _)).bind (.bind (.lift (field_ok.2 h.path))
    (.bind ((load_gives hs).bind .pure) .pure))

/-- The states that the work begins with have what the stations read, if the threshold is a number. -/
lemma furnished_initialState
    (h : ((options.lookup "--threshold").getD .null).float?.isSome = true) :
    Furnished s!"fk_mappings_{database}.xlsx" (initialState database options) := by
  refine ⟨⟨_, rfl⟩, rfl, ⟨_, rfl, h⟩, ⟨0, rfl⟩, fun key hk => ?_⟩
  simp only [shownFields, mem_cons, not_mem_nil, or_false] at hk
  rcases hk with rfl | rfl | rfl | rfl | rfl | rfl <;> exact ⟨_, rfl⟩

lemma create_gives (h : Gives (create (.text path) cols existing) s t () t') :
    ∃ sheet, sheetOf cols existing = .ok sheet ∧ t'.workbooks.lookup path = some sheet := by
  simp only [create, gives_bind, gives_lift, gives_pure] at h
  obtain ⟨sheet, _, ⟨hs, rfl⟩, _, t₁, hsa, _, _, ⟨-, rfl⟩, -, rfl⟩ := h
  obtain ⟨t₂, hs', hf⟩ := save_gives path sheet s t
  obtain ⟨-, rfl⟩ := hs'.unique hsa
  exact ⟨sheet, hs, hf⟩

lemma prepare_cases (hp : state.at? "excel_path" = some (.text path)) (hg : Gives (prepare state) s t after t') :
    (∃ sch count, after = state.update [("schema", sch), ("total_rows", count), ("last_step", "initialize")]) ∧
      ∃ sheet, t'.workbooks.lookup path = some sheet ∧ (t.workbooks.lookup path = some sheet ∨
        t.workbooks.lookup path = none ∧ ∃ cols existing, sheetOf cols existing = .ok sheet) := by
  simp only [prepare, gives_bind, gives_lift, field_ok, hp, some.injEq] at hg
  obtain ⟨_, _, ⟨-, rfl⟩, _, _, ⟨-, rfl⟩, _, t₁, hc, sch, t₂, hsc, _, t₃, hcl, _, _, ⟨-, rfl⟩, docs, _,
    ⟨-, rfl⟩, fd, _, ⟨-, rfl⟩, _, _, ⟨rfl, rfl⟩, present, t₄, hpr, hg⟩ := hg
  have hb : t₃.workbooks = t.workbooks :=
    (Database.keeps_close.gives hcl).trans (((Schema.keeps_introspect (R := SameBooks)).gives hsc).trans
      (Database.keeps_connect.gives hc))
  obtain ⟨rfl, rfl⟩ : (t₃.workbooks.lookup path).isSome = present ∧ t₃ = t₄ :=
    Gives.unique (show Gives (isPresent (.text path)) s t₃ (t₃.workbooks.lookup path).isSome t₃ from rfl)
      hpr
  rw [hb] at hg
  cases hs : t.workbooks.lookup path with
  | some sheet =>
    rw [hs] at hg
    obtain ⟨rfl, rfl⟩ := gives_pure.1 hg
    exact ⟨⟨_, _, rfl⟩, sheet, by rw [hb, hs], .inl rfl⟩
  | none =>
    rw [hs] at hg
    obtain ⟨_, _, hcr, he⟩ := gives_bind.1 hg
    obtain ⟨rfl, rfl⟩ := gives_pure.1 he
    obtain ⟨sheet, hm, hf⟩ := create_gives hcr
    exact ⟨⟨_, _, rfl⟩, sheet, hf, .inr ⟨rfl, _, _, hm⟩⟩

lemma prepare_ends (h : Furnished path state) (hg : Gives (prepare state) s t after t') :
    Furnished path after ∧ after.at? "user_quit" = state.at? "user_quit" ∧
      ∃ sheet, t'.workbooks.lookup path = some sheet ∧
        (t.workbooks.lookup path = some sheet ∨ t.workbooks.lookup path = none ∧ sheet.Full) := by
  obtain ⟨⟨sch, count, rfl⟩, sheet, hf, hc⟩ := prepare_cases h.path hg
  refine ⟨h.update (by simp), h.record.at?_other (by simp), sheet, hf, ?_⟩
  obtain hs | ⟨hn, cols, existing, hm⟩ := hc
  · exact .inl hs
  · exact .inr ⟨hn, sheetOf_full hm⟩

end Mapping

end QueryDesk
