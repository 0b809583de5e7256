import QueryDesk.Proofs.Statement

/-!
Columns that are taken for expressions. A name of word characters counts as an expression exactly if one of four words
stands in it, whatever their case; such a column is written without its table in conditions, in aggregates and in the
order. Every other plain name is written with its table unless it is the alias of an aggregate.
-/

namespace QueryDesk.Sql

open Attempt Desk List Value

variable {name : String} {table aliases : Value} {names : List Value} {b : Bool}

/-- One of the words of expressions stands in a name, whatever its case. -/
def HoldsWord (name : String) : Prop := ∃ word ∈ expressionWords, ∃ part, part <:+: name.toList ∧
  Forall₂ (fun w c => Text.matchesLetter w c = true) word.toList part

lemma wordAt_iff : wordAt word cs = true ↔ ∃ part, part <+: cs ∧ Forall₂ (fun w c => Text.matchesLetter w c = true) word part := by
  induction word generalizing cs with
  | nil => simp [wordAt]
  | cons w word ih =>
    cases cs with
    | nil => simp [wordAt]
    | cons c cs =>
      simp only [wordAt, Bool.and_eq_true, ih, forall₂_cons_left_iff]
      constructor
      · rintro ⟨hc, part, hp, hw⟩
        exact ⟨c :: part, (prefix_cons_inj c).2 hp, c, part, hc, hw, rfl⟩
      · rintro ⟨_, hp, c', part, hc, hw, rfl⟩
        obtain ⟨rfl, hp'⟩ := cons_prefix_cons.1 hp
        exact ⟨hc, part, hp', hw⟩

lemma hasWord_iff : hasWord word cs = true ↔ ∃ part, part <:+: cs ∧ Forall₂ (fun w c => Text.matchesLetter w c = true) word part := by
  induction cs with
  | nil => simp [hasWord]
  | cons c cs ih => simp only [hasWord, Bool.or_eq_true, wordAt_iff, ih, infix_cons_iff, or_and_right, exists_or]

/-- A name of word characters is taken for an expression for the words in it alone. -/
lemma isExpression_plain (hna : ∀ c ∈ name.toList, Text.isWord c = true) :
    ∃ b, isExpression (.text name) = .ok b ∧ (b = true ↔ HoldsWord name) := by
  have hp : name.toList.any operatorChars.contains = false := by
    rw [any_eq_false]
    intro c hc hop
    have hn : (!Text.isWord c) = true :=
      all_eq_true.1 (rfl : operatorChars.all (!Text.isWord ·) = true) c (contains_iff_mem.1 hop)
    rw [hna c hc] at hn
    cases hn
  have hw : looksLikeExpression name = true ↔ HoldsWord name := by
    simp [looksLikeExpression, hp, HoldsWord, hasWord_iff]
  unfold isExpression
  split
  · exact ⟨_, rfl, hw⟩
  case isFalse he =>
    obtain rfl : name = "" := by simpa [truthy] using he
    exact ⟨false, rfl, hw⟩

/-- How a plain column is written: with its table, or alone if it holds a word of expressions or is an alias. -/
def Stands (names : List Value) (table : Value) (name : String) (subject : Subject) : Prop :=
  subject = .column ⟨table, .text name⟩ ∧ ¬ HoldsWord name ∧ isReached names (.text name) = false ∨
    subject = .bare (.text name) ∧ (HoldsWord name ∨ isReached names (.text name) = true)

lemma stands_ite (hb : b = true ↔ HoldsWord name) : Stands names table name
    (if b || isReached names (.text name) then .bare (.text name) else .column ⟨table, .text name⟩) := by
  unfold Stands
  split <;> simp_all

lemma subjectOf_plain (hb : isExpression (.text name) = .ok b) (ha : aliases = .set names ∨ aliases = .null ∧ names = []) :
    subjectOf table (.text name) aliases =
      .ok (if b || isReached names (.text name) then .bare (.text name) else .column ⟨table, .text name⟩) := by
  have hal : (if aliases.truthy then (Value.text name).isIn aliases else pure false) = .ok (isReached names (.text name)) := by
    obtain rfl | ⟨rfl, rfl⟩ := ha
    · cases names <;> rfl
    · rfl
  rw [subjectOf, hb, ok_bind, hal]
  cases b with
  | true => rfl
  | false => cases isReached names (.text name) <;> rfl

/-- A plain column is written with its table in conditions, aggregates and the order unless a word of expressions stands
in it or it is an alias. -/
theorem plain_columns_written (hname : ∀ c ∈ name.toList, Text.isWord c = true) :
    (∃ b, isExpression (.text name) = .ok b ∧ (b = true ↔ HoldsWord name)) ∧
    (∀ names aliases, (aliases = .set names ∨ aliases = .null ∧ names = []) → ∀ table op value context c,
      conditionOf table (.text name) op value aliases context = .ok c → Stands names table name c.subject) ∧
    (∀ agg item, agg.peek "column" = .text name → aggregateItem agg = .ok item → ∃ arg shortName,
      (item = .countDistinct arg shortName ∨ ∃ function, item = .aggregate function arg shortName) ∧
        Stands [] (agg.peek "table") name arg) ∧
    ∀ doc, doc.peek "column" = .text name → ∀ names tables context s t c t', Gives (orderClause names tables context doc) s t c t' →
      (∃ subject descending, c = .orderBy (.subject subject descending) ∧ Stands names (doc.peek "table") name subject) ∨
        HoldsWord name ∧ ∃ node, c = .orderBy (.node node) := by
  obtain ⟨b, hb, hw⟩ := isExpression_plain hname
  refine ⟨⟨b, hb, hw⟩, ?_, ?_, ?_⟩
  · intro names aliases hal table op value context c hc
    rw [conditionOf, subjectOf_plain hb hal, ok_bind] at hc
    obtain ⟨test, -, hc⟩ := bind_ok.1 hc
    cases hc
    exact stands_ite hw
  · intro agg item hco hi
    simp only [aggregateItem, bind_ok, get_ok] at hi
    obtain ⟨function, -, table, ⟨-, rfl⟩, column, ⟨-, rfl⟩, shortName, -, hi⟩ := hi
    rw [hco, if_neg (by simp [isNull]), hb, ok_bind] at hi
    refine ⟨if b then .bare (.text name) else .column ⟨agg.peek "table", .text name⟩, shortName.display, ?_,
      by simpa [isReached] using (stands_ite hw : Stands [] _ _ _)⟩
    split at hi
    · exact .inl (pure_ok.1 hi).symm
    · exact .inr ⟨_, (pure_ok.1 hi).symm⟩
  · intro doc hco names tables context s t c t' hc
    simp only [orderClause, gives_bind, gives_lift, get_ok, and_assoc, exists_and_left, exists_eq_left'] at hc
    obtain ⟨-, -, column, hh, direction, -, hc⟩ := hc
    obtain rfl : .text name = column := by rw [← hco, hashable_ok hh]
    split at hc
    case isTrue ha => exact .inl ⟨_, _, (gives_pure.1 hc).1.symm, .inr ⟨rfl, .inr ha⟩⟩
    case isFalse ha =>
      simp only [gives_bind, gives_lift, and_assoc, exists_and_left, exists_eq_left'] at hc
      obtain ⟨expr, he, hc⟩ := hc
      cases hb.symm.trans he
      cases b with
      | true =>
        obtain ⟨node, _, -, hc⟩ := gives_bind.1 hc
        exact .inr ⟨hw.1 rfl, _, (gives_pure.1 hc).1.symm⟩
      | false => exact .inl ⟨_, _, (gives_pure.1 hc).1.symm, .inl ⟨rfl, by simpa using hw, by simpa using ha⟩⟩

theorem plain_columns_written_status : (∀ c ∈ "status".toList, Text.isWord c = true) ∧
    ∃ b, isExpression "status" = .ok b ∧ (b = true ↔ HoldsWord "status") :=
  ⟨all_eq_true.1 rfl, (plain_columns_written (all_eq_true.1 rfl)).1⟩

/-- The name of a column with cases in it is taken for an expression, and so written without its table. -/
theorem case_column_unqualified : (∀ c ∈ "case_id".toList, Text.isWord c = true) ∧ isExpression "case_id" = .ok true ∧
    conditionText "tb_Cases" "case_id" "=" (.int 7) .null .null = .ok "case_id = 7" :=
  ⟨all_eq_true.1 rfl, rfl, rfl⟩

end QueryDesk.Sql
