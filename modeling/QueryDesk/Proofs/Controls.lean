import Mathlib.Data.List.Induction
import QueryDesk.Page.Controls
import QueryDesk.Plan.Options
import QueryDesk.Proofs.Patching

/-!
Controls that nobody has touched. No column is changed by them, whatever the plan; but the order and the limit of a plan
stay as they are only if the controls can show them: an order by a column whose label is its name, and a limit between
ten and a million.
-/

namespace QueryDesk

open Attempt Desk List Value

lemma Attempt.mem_of_mapM {α β : Type} {f : α → Attempt β} {xs : List α} {ys : List β} {y : β}
    (h : xs.mapM f = .ok ys) : y ∈ ys ↔ ∃ x ∈ xs, f x = .ok y := by
  rw [mapM_ok] at h
  induction h with
  | nil => simp
  | cons hxy _ ih => simp [ih, hxy, eq_comm]

namespace Page

variable {s : Surroundings} {t t' : Traffic} {v order limit options facts dflt : Value} {key : String}

/-! ### The options of a plan -/

/-- What the controls need to know of a table: of every column, whether it is selected. -/
def Marked (facts : Value) : Prop := ∃ shortName columns, facts = .record [("alias", shortName), ("columns", .list columns)] ∧
  ∀ c ∈ columns, ∃ b, c.at? "selected" = some (.bool b)

lemma marked_of_tableOption {listed : Keyed (Keyed Plan.Listed)} {fd : Value × Value × List Value}
    (h : Plan.tableOption listed schema selection = .ok fd) : Marked fd.2.1 := by
  simp only [Plan.tableOption, bind_ok, pure_ok] at h
  obtain ⟨tb, -, sn, -, _, -, _, -, cols, -, rows, hr, rfl⟩ := h
  refine ⟨sn, _, rfl, forall_mem_map.2 fun row hro => ?_⟩
  obtain ⟨col, -, h⟩ := (mem_of_mapM hr).1 hro
  simp only [Plan.columnOption, bind_ok, pure_ok] at h
  obtain ⟨_, -, _, -, _, -, _, -, _, -, _, -, rfl⟩ := h
  exact ⟨_, rfl⟩

lemma options_ok (h : Plan.options plan schema = .ok options) : ∃ ts sortable,
    options = .record [("tables", .record ts), ("current_order_by", (plan.at? "order_by").getD (.list [])),
      ("current_limit", plan.peek "limit"), ("sortable_columns", .list sortable)] ∧ ∀ f ∈ ts, Marked f.2 := by
  simp only [Plan.options, bind_ok, pure_ok] at h
  obtain ⟨listed, -, _, -, ts, ht, order, ho, limit, hl, rfl⟩ := h
  obtain ⟨hr, rfl⟩ := get_ok.1 hl
  rw [hr.getD] at ho
  refine ⟨_, _, by rw [← Except.ok.inj ho]; rfl, ?_⟩
  refine foldlRecOn (motive := fun fs : Fields => ∀ f ∈ fs, Marked f.2) _ _ (by simp)
    fun fs h f hf g hg => (Fields.mem_put hg).elim (h g) (· ▸ ?_)
  obtain ⟨p, hp, rfl⟩ := mem_map.1 hf
  refine foldlRecOn (motive := fun kn : Keyed Value => ∀ p ∈ kn, Marked p.2) ts _ (by simp)
    (fun kn h t hm q hq => (Keyed.mem_put hq).elim (h q) (· ▸ ?_)) p hp
  obtain ⟨_, -, ht⟩ := (mem_of_mapM ht).1 hm
  exact marked_of_tableOption ht

/-! ### What is shown -/

lemma mem_inThrees {grp : List Value} : ∀ {xs : List Value}, grp ∈ inThrees xs → grp ⊆ xs := by
  intro xs
  fun_induction inThrees xs with
  | case1 a b c rest ih =>
    intro h
    rcases mem_cons.1 h with rfl | h
    · simp
    · exact fun x hx => by simp [ih h hx]
  | case2 => simp
  | case3 rest => exact fun h => mem_singleton.1 h ▸ Subset.refl _

lemma sliced_subset {xs ys : List Value} (h : sliced (.list xs) = .ok ys) : ys ⊆ xs := by
  simp only [sliced, bind_ok, size] at h
  obtain ⟨n, -, h⟩ := h
  split at h
  · cases h
    simp
  · cases h
    exact take_subset _ _

lemma orderAtHand_ok (h : orderAtHand order = .ok (name, direction)) :
    name = .null ∨ ∃ n : String, name = .text n ∧ '.' ∈ n.toList := by
  unfold orderAtHand at h
  split at h
  · cases h
    exact .inl rfl
  · simp only [bind_ok] at h
    obtain ⟨n, -, h⟩ := h
    split at h
    · cases h
      exact .inl rfl
    · simp only [bind_ok, pure_ok] at h
      obtain ⟨first, -, tb, -, col, -, _, -, h⟩ := h
      cases h
      exact .inr ⟨_, rfl, by simp [toString]⟩

lemma text_beq_iff (h : name ≠ statementText) : (Value.text name == v) = true ↔ v = .text name := by
  rw [beq_text, beq_iff_eq]
  cases v <;> simp [text?, Ne.symm h]

lemma shown_choice {names : List Value} {n : String} (h : n ≠ statementText) (hs : n ≠ unsorted)
    (hc : chosen = (Value.text unsorted :: names)[((.text unsorted :: names).findIdx? (· == .text n)).getD 0]?.getD .null) :
    .text n ∈ names ∧ chosen = .text n ∨ .text n ∉ names ∧ chosen = .text unsorted := by
  have hsa : ∀ {c : Value}, (c == .text n) = true ↔ c = .text n := Plan.beq_text_iff h
  have hm : Value.text n ∈ names ↔ .text n ∈ Value.text unsorted :: names := by simp [hs]
  cases hi : (Value.text unsorted :: names).findIdx? (· == .text n) with
  | none =>
    refine .inr ⟨fun hin => ?_, by rw [hc, hi]; rfl⟩
    simpa [hsa.2 rfl] using findIdx?_eq_none_iff.1 hi _ (hm.1 hin)
  | some i =>
    obtain ⟨hlt, hat, -⟩ := findIdx?_eq_some_iff_getElem.1 hi
    have hat := hsa.1 hat
    rw [hi, Option.getD_some, getElem?_eq_getElem hlt, hat, Option.getD_some] at hc
    exact .inl ⟨hm.2 (hat ▸ getElem_mem hlt), hc⟩

lemma confined_int (n : Int) : confined (.int n) = .ok (.int (min (max n 10) 1000000)) := by
  have hl (a b : Int) : (Value.int a).less (.int b) = .ok (decide (a < b)) := rfl
  by_cases hlo : n < 10
  · have hm : min (max n 10) 1000000 = 10 := by omega
    simp [confined, above, hl, hlo, ok_bind, hm]
  · simp only [confined, above, hl, hlo, ok_bind, decide_false, Bool.false_eq_true, if_false, decide_eq_true_eq]
    split <;> exact congrArg (Except.ok ∘ Value.int) (by omega)

/-! ### Widgets that are left alone -/

lemma within_gives {inside : Desk α} (h : Gives (within part inside) s t a t') : ∃ t₁ t₂, Gives inside s t₁ a t₂ := by
  simp only [within, gives_bind, gives_tryCatch, gives_throw, gives_pure, and_false, exists_false, or_false] at h
  obtain ⟨_, t₁, -, _, t₂, hi, _, _, -, rfl, -⟩ := h
  exact ⟨t₁, t₂, hi⟩

section

variable (hw : s.widgets = [])

include hw

lemma widget_gives {kind : String} {label : Value} (h : Gives (widget kind label args opts dflt) s t v t') : v = dflt := by
  simp only [widget, entered?, gives_bind, gives_pure] at h
  obtain ⟨_, _, -, _, _, ⟨s', _, hs, rfl, rfl⟩, rfl, -⟩ := h
  obtain ⟨rfl, rfl⟩ := Gives.unique (show Gives read s _ s _ from rfl) hs
  simp [hw]

lemma choice_gives {kind : String} (h : Gives (choice kind label choices (("index", .nat i) :: opts)) s t v t') :
    v = choices[i]?.getD .null := widget_gives hw h

lemma columnBox_gives (hc : col.at? "selected" = some (.bool b)) (h : Gives (columnBox key tb col) s t change t') :
    change = none := by
  simp only [columnBox, gives_bind, gives_lift, field_ok, hc, Option.some.injEq] at h
  obtain ⟨name, _, -, _, _, ⟨rfl, -⟩, role, _, -, label, _, -, h⟩ := h
  split at h
  · simp only [gives_bind, gives_pure] at h
    obtain ⟨_, _, -, rfl, -⟩ := h
    rfl
  · simp only [gives_bind, gives_lift, gives_pure] at h
    obtain ⟨type, _, -, ticked, _, ht, rfl, -⟩ := h
    obtain rfl := widget_gives hw ht
    have hs : ∀ c, (Value.bool c == .bool c) = true := by decide
    cases b with
    | false => exact if_pos (hs _)
    | true => exact if_pos (hs _)

lemma tableBoxes_gives (hf : Marked facts) (h : Gives (tableBoxes key tb facts) s t changes t') : changes = [] := by
  obtain ⟨sn, cols, rfl, hc⟩ := hf
  simp only [tableBoxes, gives_bind, gives_lift, gives_pure] at h
  obtain ⟨_, _, -, _, _, -, _, _, ⟨hl, -⟩, shown, _, ⟨hs, -⟩, fd, _, hm, _, _, -, rfl, -⟩ := h
  cases hl
  rw [filterMap_eq_nil_iff, forall_mem_flatten]
  intro row hr change hch
  obtain ⟨grp, hg, _, _, hr⟩ := gives_mapM_mem hm row hr
  obtain ⟨_, _, -, hr⟩ := gives_bind.1 hr
  obtain ⟨⟨col, i⟩, hin, _, _, hbo⟩ := gives_mapM_mem hr change hch
  obtain ⟨_, _, hbo⟩ := within_gives hbo
  obtain ⟨b, hb⟩ := hc col (sliced_subset hs (mem_inThrees hg (fst_mem_of_mem_zipIdx hin)))
  exact columnBox_gives hw hb hbo

/-- The choice that is shown is the order at hand, unless its column is called otherwise there. -/
lemma orderControls_gives (h : Gives (orderControls key (.list sortable) order) s t change t') :
    ∃ name direction, orderAtHand order = .ok (name, direction) ∧ (change = none ↔ name = .null ∨
      (∃ c ∈ sortable, c.at? "display_name" = some name) ∧ (direction = .text "ASC" ∨ direction = .text "DESC")) := by
  simp only [orderControls, gives_bind, gives_lift, gives_pure] at h
  obtain ⟨_, _, ⟨hi, -⟩, ns, _, hn, ⟨name, direction⟩, _, ⟨ho, -⟩, _, _, -, chosen, _, hc, way, _, hwa, rfl, -⟩ := h
  cases hi
  obtain ⟨_, _, hc⟩ := within_gives hc
  obtain ⟨_, _, hwa⟩ := within_gives hwa
  have hc := choice_gives hw hc
  have hwa := choice_gives hw hwa
  refine ⟨name, direction, ho, ?_⟩
  simp only [← field_ok, ← mem_of_mapM (gives_mapM_lift.1 hn).1]
  obtain rfl | ⟨n, rfl, hdo⟩ := orderAtHand_ok ho
  · exact iff_of_true (by rw [hc]; rfl) (.inl rfl)
  · have hp : n ≠ statementText := by rintro rfl; simp [statementText] at hdo
    have hs : n ≠ unsorted := by rintro rfl; simp [unsorted] at hdo
    obtain ⟨hin, rfl⟩ | ⟨hin, rfl⟩ := shown_choice hp hs hc
    · have hl : (Value.text n == .text unsorted) = false := by simp [beq_text, text?, Ne.symm hs]
      have hsa : (Value.text n == .text n) = true := (Plan.beq_text_iff hp).2 rfl
      have hlo : (Value.text n).truthy = true := by
        rw [truthy, Bool.not_eq_true', ← Bool.not_eq_true, String.isEmpty_iff]
        rintro rfl
        simp at hdo
      simp only [hin, hl, Bool.false_eq_true, if_false, hsa, hlo, Bool.not_true,
        Bool.false_or, Bool.true_and, true_and, reduceCtorEq, false_or]
      by_cases hd : direction = .text "ASC"
      · subst hd
        exact iff_of_true (by rw [hwa]; rfl) (.inl rfl)
      · have hf : (direction == .text "ASC") = false :=
          Bool.eq_false_iff.2 fun h => hd ((Plan.beq_text_iff (by decide)).1 h)
        have hse := text_beq_iff (v := direction) (show "DESC" ≠ statementText by decide)
        simp [hwa, hf, hd, ← hse]
    · exact iff_of_false (by rintro ⟨⟩) (by simp [hin])

lemma limitControl_gives (h : Gives (limitControl key limit) s t new t') :
    (∀ n, limit = .int n → (new = .null ↔ 10 ≤ n ∧ n ≤ 1000000)) ∧ (limit = .null → new = .int 500) := by
  simp only [limitControl, gives_bind, gives_lift, gives_pure] at h
  obtain ⟨start, _, ⟨hs, -⟩, _, _, hv, rfl, -⟩ := h
  obtain rfl := widget_gives hw hv
  constructor
  · rintro n rfl
    have hsa (a b : Int) : (Value.int a == .int b) = decide (a = b) := rfl
    by_cases hz : n = 0
    · subst hz
      cases hs
      exact iff_of_false (by rintro ⟨⟩) (by decide)
    · have ht : (Value.int n).truthy = true := by simp [truthy, hz]
      rw [if_pos ht, confined_int] at hs
      cases hs
      have hf : min (max n 10) 1000000 = n ↔ 10 ≤ n ∧ n ≤ 1000000 := by omega
      simp [hsa, hf]
  · rintro rfl
    cases hs
    rfl

end

/-- What controls that nobody touched ask for: nothing of the columns, but another order if the one at hand is not among
the choices, and another limit if the slider cannot stand at the one at hand. -/
theorem untouched_controls (ho : Plan.options plan schema = .ok options) (hw : s.widgets = [])
    (h : Gives (changesIn key options) s t changes t') :
    changes.columns = [] ∧
    (∃ name direction, orderAtHand ((plan.at? "order_by").getD (.list [])) = .ok (name, direction) ∧
      (changes.order = none ↔ name = .null ∨
        (∃ c ∈ Sql.docsOf options "sortable_columns", c.at? "display_name" = some name) ∧
          (direction = .text "ASC" ∨ direction = .text "DESC"))) ∧
    (∀ n, plan.peek "limit" = .int n → (changes.limit = .null ↔ 10 ≤ n ∧ n ≤ 1000000)) ∧
    (plan.peek "limit" = .null → changes.limit = .int 500) := by
  obtain ⟨ts, sortable, rfl, hm⟩ := options_ok ho
  simp only [changesIn, gives_bind, gives_pure] at h
  obtain ⟨_, _, hc, ⟨order, limit⟩, _, ht, rfl, -⟩ := h
  obtain ⟨_, _, hc⟩ := within_gives hc
  obtain ⟨_, _, ht⟩ := within_gives ht
  simp only [gives_bind, gives_lift, gives_pure, Prod.mk.injEq] at hc ht
  obtain ⟨_, _, -, _, _, ⟨hf, -⟩, es, _, ⟨he, -⟩, fd, _, hfo, rfl, -⟩ := hc
  obtain ⟨_, _, -, _, _, ⟨hs, -⟩, _, _, ⟨ho, -⟩, _, _, ⟨hl, -⟩, _, _, hch, _, _, -, _, _, -, _, _, hli, ⟨rfl, rfl⟩, -⟩ := ht
  cases hf; cases he; cases hs; cases ho; cases hl
  refine ⟨?_, orderControls_gives hw hch, limitControl_gives hw hli⟩
  refine flatten_eq_nil_iff.2 fun changes hin => ?_
  obtain ⟨f, hme, _, _, hb⟩ := gives_mapM_mem hfo changes hin
  exact tableBoxes_gives hw (hm f hme) hb

/-- Orders by one of their columns, without a limit. -/
def ordersBy (column : String) : Value := .record [
  ("selections", .list [.record [("table", "orders"), ("columns", .list [.record [("column", .text column), ("role", "projection")]])]]),
  ("order_by", .list [.record [("table", "orders"), ("column", .text column), ("direction", "DESC")]])]

def schemaWith (column : String) : Value := .list [.record [("table_name", "orders"),
  ("columns", .list [.record [("column_name", .text column), ("data_type", "int")]])]]

/-- Nobody has asked for a limit, yet the controls ask for one. -/
theorem untouched_controls_unlimited : ∃ options changes t', Plan.options (ordersBy "total") (schemaWith "total") = .ok options ∧
    Gives (changesIn "0" options) {} {} changes t' ∧ changes.columns = [] ∧ changes.order = none ∧
      changes.limit = .int 500 := by
  obtain ⟨options, changes, t', ho, h, hin⟩ : ∃ options changes t',
      Plan.options (ordersBy "total") (schemaWith "total") = .ok options ∧ Gives (changesIn "0" options) {} {} changes t' ∧
        ∃ c ∈ Sql.docsOf options "sortable_columns", c.at? "display_name" = some (.text "orders.total") :=
    ⟨_, _, _, rfl, rfl, _, .head _, rfl⟩
  obtain ⟨hc, ⟨_, _, hat, hor⟩, -, hl⟩ := untouched_controls ho rfl h
  cases hat
  exact ⟨options, changes, t', ho, h, hc, hor.2 (.inr ⟨hin, .inr rfl⟩), hl rfl⟩

/-- Nobody has touched the controls, yet they ask for another order, since the label of the column is not its name,
and for a limit. -/
theorem changes_of_nobody : ∃ options changes t',
    Plan.options (ordersBy "unit_price") (schemaWith "unit_price") = .ok options ∧
    Gives (changesIn "0" options) {} {} changes t' ∧ changes.order.isSome = true ∧ changes.limit = .int 500 :=
  ⟨_, _, _, rfl, rfl, rfl, rfl⟩

end Page

end QueryDesk
