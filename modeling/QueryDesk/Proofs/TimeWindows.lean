import QueryDesk.Page.Home
import QueryDesk.Proofs.RowFilters

/-!
The time windows that a person or a request can ask for, and what a statement makes of them. A window becomes a
condition on the first time column that the plan lists, if the table of days knows it. The table knows some of the
windows that are offered and not others: those it does not know are passed over, as if all rows were asked for.
-/

namespace QueryDesk.Sql

open Attempt Desk List

/-- The time windows that a request over the web can name. -/
def requestWindows : List String := ["All Time", "Last 24 Hours", "Last 7 Days", "Last 30 Days", "Last Year"]

/-- The time windows that are offered anywhere, other than that of all rows. -/
def offeredWindows : List String := (requestWindows ++ Page.timeWindows).filter (· != allTime)

/-- Whether a listed column has the name of a time stamp. -/
def isTime (c : Value) : Bool := timeColumns.any fun t => Value.text t == c.peek "column"

/-- The first listed column with the name of a time stamp, with the table of its selection. -/
def firstTime? (selections : List Value) : Option (Value × Value) := do
  let s ← selections.find? fun s => (docsOf s "columns").any isTime
  let c ← (docsOf s "columns").find? isTime
  pure (s.peek "table", c.peek "column")

/-- The condition that a window puts on a column, if the table of days knows it. -/
def windowText? (window : String) (table column context : Value) : Option String :=
  (windowDays.lookup window).map fun days => (Test.compare ">=" (if (context.peek "is_sqlite").truthy then
    s!"datetime('now', '-{days} days')" else s!"DATEADD(day, -{days}, GETDATE())")).on (qualified table column)

section

variable {plan state context v : Value} {s : Surroundings} {t t' : Traffic}

lemma timeColumnOf_eq (h : timeColumnOf cs = .ok r) :
    r = (cs.find? isTime).map (·.peek "column") := by
  induction cs with
  | nil =>
    cases h
    rfl
  | cons c cs ih =>
    simp only [timeColumnOf, bind_ok, Value.get_ok] at h
    obtain ⟨_, ⟨-, rfl⟩, h⟩ := h
    rw [find?_cons]
    split at h
    case isTrue ht =>
      cases h
      rw [isTime, ht]
      rfl
    case isFalse ho =>
      rw [isTime, eq_false_of_ne_true ho]
      exact ih h

/-- The search for a time column stops at the first one, also if its selection names no table. -/
lemma timeColumn?_eq (h : timeColumn? docs = .ok r) :
    r = (firstTime? docs).filter (·.1.truthy) := by
  induction docs with
  | nil =>
    cases h
    rfl
  | cons d docs ih =>
    simp only [timeColumn?, bind_ok] at h
    obtain ⟨fd, hfo, columns, hco, column?, hcl, h⟩ := h
    have hd : docsOf d "columns" = columns := docsOf_eq (by rw [itemsOf, hfo, ok_bind, hco])
    have hf := timeColumnOf_eq hcl
    rw [firstTime?, find?_cons, hd]
    cases hc : columns.find? isTime with
    | none =>
      rw [hc] at hf
      subst hf
      rw [any_eq_false.2 (find?_eq_none.1 hc)]
      exact ih h
    | some c =>
      rw [hc] at hf
      subst hf
      rw [any_eq_true.2 ⟨c, mem_of_find?_eq_some hc, find?_some hc⟩]
      simp only [Option.map_some, bind_ok, Value.get_ok] at h
      obtain ⟨_, ⟨-, rfl⟩, h⟩ := h
      rw [← pure_ok.1 h]
      show _ = Option.filter _ ((docsOf d "columns").find? isTime >>= _)
      rw [hd, hc, Option.bind_eq_bind, Option.bind_some]
      split <;> simp_all [pure, Option.filter]

lemma exists_firstTime? (h : ∃ s ∈ docs, ∃ c ∈ docsOf s "columns", isTime c = true) : ∃ r, firstTime? docs = some r := by
  obtain ⟨sel, hs, c, hc, ht⟩ := h
  obtain ⟨first, hf⟩ := Option.isSome_iff_exists.1
    (find?_isSome (p := fun s => (docsOf s "columns").any isTime).2 ⟨sel, hs, any_eq_true.2 ⟨c, hc, ht⟩⟩)
  have ha : (docsOf first "columns").any isTime = true := by simpa using find?_some hf
  obtain ⟨d, hd⟩ := Option.isSome_iff_exists.1 (find?_isSome.2 (any_eq_true.1 ha))
  exact ⟨_, by rw [firstTime?, hf, Option.bind_eq_bind, Option.bind_some, hd]; rfl⟩

lemma timeClause_eq (hw : state.at? "time_filter" = some (.text window))
    (ho : window ≠ allTime) (h : timeClause docs state context = .ok cs) :
    ∃ condition? : Option Condition, windowCondition? (.text window) docs context = .ok condition? ∧
      cs = condition?.toList.map Clause.filter ∧ condition?.map Condition.text =
        ((firstTime? docs).filter (·.1.truthy)).bind fun r => windowText? window r.1 r.2 context := by
  have hr : state.getD "time_filter" allTime = .ok (.text window) := by
    rw [(Value.isRecord_of_at? hw).getD, hw, Option.getD_some]
  have hno : (Value.text window == Value.text allTime) = false := by
    simpa [Value.beq_text, Value.text?] using ho.symm
  rw [timeClause, hr, ok_bind, hno, if_neg Bool.false_ne_true] at h
  obtain ⟨condition?, hc, h⟩ := bind_ok.1 h
  refine ⟨condition?, hc, ?_, ?_⟩
  · cases condition? <;> exact (pure_ok.1 h).symm
  · simp only [windowCondition?, bind_ok] at hc
    obtain ⟨fd, hf, hc⟩ := hc
    rw [← timeColumn?_eq hf]
    split at hc
    case h_1 =>
      cases hc
      rfl
    case h_2 table column =>
      have hd : daysOf (.text window) = .ok (windowDays.lookup window) := rfl
      rw [hd, ok_bind] at hc
      rw [Option.bind_some, windowText?]
      split at hc
      case h_1 hn =>
        cases hc
        rw [hn]
        rfl
      case h_2 days hso =>
        simp only [bind_ok, pure_ok] at hc
        obtain ⟨sample, hs, rfl⟩ := hc
        rw [hso, Value.peek_eq_at?, Value.field_ok.1 hs]
        rfl

end

/-- For a plan that lists a time column and a window that is offered, the statement has the conditions of the filters
and behind them the condition of the window on the first time column. There is one exactly if the selection of that
column names a table and the window is one of seven, thirty or ninety days. -/
theorem windows_heeded {plan state context v : Value} {s : Surroundings} {t t' : Traffic}
    (h : Gives (build plan state context) s t v t') {window : String}
    (hwindow : state.at? "time_filter" = some (.text window)) (hoffered : window ∈ offeredWindows)
    (hlisted : ∃ s ∈ docsOf plan "selections", ∃ c ∈ docsOf s "columns", isTime c = true) :
    ∃ table column, firstTime? (docsOf plan "selections") = some (table, column) ∧
      ∃ own shared nested time, Filtering plan state context v own shared nested time ∧
        (table.truthy = true → time = windowText? window table column context) ∧
        (time.isSome = true ↔ table.truthy = true ∧ window ∈ ["Last 7 Days", "Last 30 Days", "Last 90 Days"]) := by
  obtain ⟨p, hp, rfl⟩ := build_ok h
  rw [docsOf_eq hp.selections] at *
  obtain ⟨⟨table, column⟩, hfi⟩ := exists_firstTime? hlisted
  have hn : window ≠ allTime := by simpa using (mem_filter.1 hoffered).2
  obtain ⟨condition?, hc, hcs, hte⟩ := timeClause_eq hwindow hn hp.time
  rw [hfi] at hte
  have hca : p.time.map Clause.call = (condition?.map Condition.text).toList.map whereCall := by
    rw [hcs]
    cases condition? <;> rfl
  obtain ⟨own, shared, nested, hf⟩ := filtering_of_time hp (fun text hin => ⟨.text window, by
    rw [(Value.isRecord_of_at? hwindow).getD, hwindow, Option.getD_some], by
    rw [timeCondition, hc, ← Option.mem_def.1 hin]; rfl⟩) hca
  refine ⟨table, column, hfi, own, shared, nested, _, hf, fun ht => ?_, ?_⟩
  · simp [hte, Option.filter, ht]
  · rw [hte]
    have hk : ∀ w ∈ offeredWindows, (windowDays.lookup w).isSome = true ↔
        w ∈ ["Last 7 Days", "Last 30 Days", "Last 90 Days"] := by decide
    rw [← hk window hoffered]
    cases ht : table.truthy <;> simp [Option.filter, ht, windowText?]

theorem windows_heeded_paid : Gives (build paidPlan paidState keyContext) {} {} (statement paidClauses) {} ∧
    "Last 7 Days" ∈ offeredWindows ∧ ∃ table column, firstTime? (docsOf paidPlan "selections") = some (table, column) ∧
      ∃ own shared nested time, Filtering paidPlan paidState keyContext (statement paidClauses) own shared nested time ∧
        (table.truthy = true → time = windowText? "Last 7 Days" table column keyContext) ∧ (time.isSome = true ↔
          table.truthy = true ∧ "Last 7 Days" ∈ ["Last 7 Days", "Last 30 Days", "Last 90 Days"]) :=
  ⟨paidClauses_built, by decide, windows_heeded paidClauses_built rfl (by decide) ⟨_, .head _, _, .head _, rfl⟩⟩

def datedPlan : Value := .record [("selections", .list [.record [("table", "orders"), ("columns", .list [
  .record [("table", "orders"), ("column", "CreatedOn"), ("role", "projection")]])]])]

/-- The window is offered and the plan has a time stamp, but the statement has no condition. -/
theorem last_year_ignored : "Last Year" ∈ offeredWindows ∧
    firstTime? (docsOf datedPlan "selections") = some (.text "orders", .text "CreatedOn") ∧
    Gives (build datedPlan (.record [("time_filter", "Last Year")]) keyContext) {} {} (statement
      [.select [.column ⟨"orders", "CreatedOn"⟩ none], .source "orders", .render "tsql"]) {} ∧
    whereCalls (statement [.select [.column ⟨"orders", "CreatedOn"⟩ none], .source "orders", .render "tsql"]) = [] :=
  ⟨by decide, rfl, rfl, rfl⟩

end QueryDesk.Sql
