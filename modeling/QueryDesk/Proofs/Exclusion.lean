import QueryDesk.Proofs.Membership

/-!
Which rows a filter with the operator `not_in` lets through, as text and as a node. With a list it lets no row through
that equals one of the list's values. With a single value it does the opposite: the operator is not met by its list, the
condition falls back to equality, and exactly the rows that equal the value come through.
-/

namespace QueryDesk.Sql

open List Value Literal Predicate

/-! ### What nodes say -/

def nodeLiteral? : Value → Option Literal
  | .term "Literal.string" (.text s) => some (.quoted s)
  | .term "Literal.number" v => some (.bare v.display)
  | .node "Cast" [("this", .term "Literal.string" (.text s)), ("to", .term "DataType.build" (.text type))] _ =>
    some (.cast s type)
  | .node "Null" [] _ => some (.bare "NULL")
  | _ => none

/-- What a node says of a row in which `row` gives the value of each column node. A test for NULL may be marked; what the
mark makes of the test is left open. -/
def nodeTruth {α : Type} (holds : String → α → Literal → Bool) (row : Value → Option α) (marked : Option α → Truth) :
    Value → Option Truth
  | .node "EQ" [("this", column), ("expression", item)] _ => (nodeLiteral? item).map (compared holds (row column) "=")
  | .node "In" [("this", column), ("expressions", .list items)] _ =>
    (items.mapM nodeLiteral?).map (anyOf holds (row column))
  | .node "Is" [("this", column), ("expression", .node "Null" [] _), ("inverse", .bool true)] _ => some (marked (row column))
  | .node "Not" [("this", v)] _ => (nodeTruth holds row marked v).map .not
  | .node "And" [("this", v), ("expression", w)] _ =>
    (nodeTruth holds row marked v).bind fun s => (nodeTruth holds row marked w).map s.and
  | _ => none

section

variable {α : Type} {holds : String → α → Literal → Bool} {row : Value → Option α} {marked : Option α → Truth}
variable {column v : Value}

lemma nodeTruth_both : nodeTruth holds row marked (Node.both v w) =
    (nodeTruth holds row marked v).bind fun s => (nodeTruth holds row marked w).map s.and := by
  rw [Node.both, Node.make, nodeTruth]

lemma nodeTruth_notNode : nodeTruth holds row marked (notNode v) = (nodeTruth holds row marked v).map .not := by
  rw [notNode, Node.make, nodeTruth]

lemma nodeTruth_inNode {xs : List Value} (h : xs.mapM nodeLiteral? = some ls) :
    nodeTruth holds row marked (inNode column xs) = some (anyOf holds (row column) ls) := by
  rw [inNode, Node.make, nodeTruth, h, Option.map_some]

lemma nodeTruth_isNotNullNode : nodeTruth holds row marked (isNotNullNode column) = some (marked (row column)) := by
  rw [isNotNullNode, Node.make, Node.make, nodeTruth]

end

/-! ### Filters as nodes -/

def IsScalar : Value → Prop
  | .null | .bool _ | .int _ | .float _ | .text _ => True
  | _ => False

lemma isScalar_of_isPlain (h : IsPlain v) : IsScalar v := by
  cases v with
  | null | bool | int | float | text => trivial
  | _ => exact h

namespace Site

open Desk

variable {α : Type} (site : Site)

/-- A column's value equals the literal node that is made for a value. -/
def NodeEquals (holds : String → α → Literal → Bool) (a : α) (v : Value) : Prop :=
  ∃ item l, literal v site.context = .ok item ∧ nodeLiteral? item = some l ∧ holds "=" a l = true

/-- A document that asks for an operator and a value here. -/
structure IsFilter (op : String) (value doc : Value) : Prop where
  record : doc.IsRecord
  table : doc.peek "table" = site.table
  column : doc.peek "column" = .text site.column
  op : doc.peek "op" = .text op
  value : doc.peek "value" = value

/-- Every filter that asks for an operator and a value here becomes the node, if `column` is the node of its column. -/
def Builds (op : String) (value column node : Value) : Prop :=
  ∀ doc tables s t t', site.IsFilter op value doc →
    Gives (columnNode site.table (.text site.column) tables site.context) s t column t' →
    Gives (conditionNode doc tables site.context) s t node t'

variable {site} {value column node v : Value} {vs : List Value}

lemma builds_of_conditionNodeOn (h : ∀ ts, conditionNodeOn column (.text op) value ts site.context = .ok node) :
    site.Builds op value column node := by
  intro doc ts s t t' hf hc
  have hr : Filter.read doc = .ok ⟨site.table, .text site.column, .text op, value⟩ := by
    simp only [Filter.read, Attempt.bind_ok, Attempt.pure_ok, get_ok]
    exact ⟨_, ⟨hf.record, hf.table⟩, _, ⟨hf.record, hf.column⟩, _, ⟨hf.record, hf.op⟩, _,
      ⟨hf.record, hf.value⟩, rfl⟩
  exact (Gives.lift hr).bind (hc.bind (Gives.lift (h ts)))

lemma gives_columnNode {table column : String} {context : Value}
    (h : looksLikeExpression column = false) :
    Gives (columnNode (.text table) (.text column) (.record fields) context) s t
      (Node.column (.text column) ((fields.lookup table).getD (.text table))) t := by
  have hn : (record fields).lookupD (.text table) (.text table) = .ok ((fields.lookup table).getD (.text table)) := rfl
  have hp : isExpression (.text column) = .ok false := by
    unfold isExpression
    split
    · exact congrArg Except.ok h
    · rfl
  exact (Gives.lift hn).bind ((Gives.lift hp).bind Gives.pure)

lemma exists_literal (site : Site) (hv : IsScalar v) :
    ∃ item l, literal v site.context = .ok item ∧ nodeLiteral? item = some l := by
  obtain ⟨sample, hs, -⟩ := site.isSample_eq
  cases v with
  | null => exact ⟨_, _, rfl, rfl⟩
  | bool b => exact ⟨_, _, rfl, rfl⟩
  | int n => exact ⟨_, _, rfl, rfl⟩
  | float x => exact ⟨_, _, rfl, rfl⟩
  | text s =>
    unfold literal
    rw [Shape.of]
    cases Shape.ofText s with
    | date | datetime =>
      simp only [hs, Attempt.ok_bind]
      split <;> exact ⟨_, _, rfl, rfl⟩
    | _ => exact ⟨_, _, rfl, rfl⟩
  | _ => exact absurd hv id

lemma exists_literals (hvs : ∀ v ∈ vs, IsScalar v) :
    ∃ xs ls, vs.mapM (literal · site.context) = .ok xs ∧ xs.mapM nodeLiteral? = some ls ∧
      ∀ v ∈ vs, ∀ item l, literal v site.context = .ok item → nodeLiteral? item = some l → l ∈ ls := by
  induction vs with
  | nil => exact ⟨[], [], rfl, rfl, by simp⟩
  | cons v vs ih =>
    obtain ⟨item, l, hi, hl⟩ := exists_literal site (hvs v (by simp))
    obtain ⟨xs, ls, hit, hls, hm⟩ := ih fun w hw => hvs w (by simp [hw])
    refine ⟨item :: xs, l :: ls, by simp [mapM_cons, hi, hit], by simp [hl, hls], ?_⟩
    intro w hw item' l' hi' hl'
    rcases mem_cons.1 hw with rfl | hw
    · rw [hi] at hi'
      cases hi'
      rw [hl] at hl'
      cases hl'
      simp
    · exact mem_cons_of_mem _ (hm w hw item' l' hi' hl')

/-- The node of absence from a list does not hold of a row that equals one of the list's values. -/
lemma nonMemberNode_ne_yes (column : Value) (hvs : ∀ v ∈ vs, IsScalar v) :
    ∃ node, nonMemberNode column site.context vs = .ok node ∧
      ∀ {α : Type} (holds : String → α → Literal → Bool) (row : Value → Option α) (marked : Option α → Truth) (a : α),
        row column = some a → (∃ v ∈ vs, isNullWord v = false ∧ site.NodeEquals holds a v) →
        ∃ truth, nodeTruth holds row marked node = some truth ∧ truth ≠ .yes := by
  obtain ⟨xs, ls, hi, hls, hm⟩ :
      ∃ xs ls, (vs.filter (!isNullWord ·)).mapM (literal · site.context) = .ok xs ∧ xs.mapM nodeLiteral? = some ls ∧
        ∀ v ∈ vs.filter (!isNullWord ·), ∀ item l, literal v site.context = .ok item → nodeLiteral? item = some l → l ∈ ls :=
    exists_literals fun v hv => hvs v (mem_of_mem_filter hv)
  have ha : ∀ {α : Type} (holds : String → α → Literal → Bool) (a : α),
      (∃ v ∈ vs, isNullWord v = false ∧ site.NodeEquals holds a v) → (anyOf holds (some a) ls).not ≠ .yes := by
    rintro α holds a ⟨v, hv, hn, item, l, hit, hl, hh⟩
    rw [Ne, Truth.not_eq_yes]
    exact anyOf_ne_no (hm v (mem_filter.2 ⟨hv, by simp [hn]⟩) item l hit hl) hh
  unfold nonMemberNode
  dsimp only
  split
  case isTrue =>
    split
    case isTrue hem =>
      refine ⟨_, rfl, ?_⟩
      rintro α holds row marked a - ⟨v, hv, hn, -⟩
      -- nothing but NULL is in the list
      have hf : v ∈ vs.filter (!isNullWord ·) := mem_filter.2 ⟨hv, by simp [hn]⟩
      rw [isEmpty_iff.1 hem] at hf
      cases hf
    case isFalse =>
      rw [hi]
      refine ⟨_, rfl, fun holds row marked a hr he => ?_⟩
      refine ⟨(anyOf holds (some a) ls).not.and (marked (some a)), ?_, fun hy => ?_⟩
      · rw [nodeTruth_both, nodeTruth_notNode, nodeTruth_inNode hls, nodeTruth_isNotNullNode, hr]
        rfl
      · exact ha holds a he (Truth.and_eq_yes.1 hy).1
  case isFalse hn =>
    rw [filter_of_no_null hn] at hi
    rw [hi]
    refine ⟨_, rfl, fun holds row marked a hr he => ?_⟩
    refine ⟨(anyOf holds (some a) ls).not, ?_, ha holds a he⟩
    rw [nodeTruth_notNode, nodeTruth_inNode hls, hr]
    rfl

/-! ### A single value -/

lemma asks_equals (hv : IsPlain v) : site.Asks "not_in" v (.compare "=" (.of site.asTexts v)) := by
  have ht : testOf (.text "not_in") v site.context = (do pure (Test.compare "=" (← valueText site.context v))) := by
    cases v with
    | null | bool | int | float | text => rfl
    | _ => exact absurd hv id
  rw [Asks, unquoteValue_eq hv, ht]
  exact equals_asks hv

lemma equals_truth_iff (hv : IsPlain v) :
    (compare "=" (.of site.asTexts v)).truth holds x = .yes ↔
      ∃ a, x = some a ∧ isNullWord v = false ∧ site.Equals holds a v := by
  rw [truth]
  cases x with
  | none => simp
  | some a =>
    rw [compared_eq_yes, ← equals_iff hv]
    constructor
    · rintro ⟨hn, he⟩
      refine ⟨a, rfl, ?_, he⟩
      by_contra hw
      exact hn (of_eq_null (by simpa using hw) _)
    · rintro ⟨_, ⟨⟩, hw, he⟩
      exact ⟨of_ne_null hv hw, he⟩

end Site

/-- The operator `not_in`, as text and as a node. With a list the condition does not hold of a row that equals one of the
list's values. With a single value it is an equality: the text holds of exactly the rows that equal the value, and the
node compares the column with the value's text. -/
theorem not_in_conditions (site : Site) (column : Value) :
    (∀ vs : List Value,
      ((∀ v ∈ vs, IsPlain v) → ∃ p, site.ReadsAs "not_in" (.list vs) p ∧
        ∀ {α : Type} (holds : String → α → Literal → Bool) (a : α),
          (∃ v ∈ vs, isNullWord v = false ∧ site.Equals holds a v) → p.truth holds (some a) ≠ .yes) ∧
      ((∀ v ∈ vs, IsScalar v) → ∃ node, site.Builds "not_in" (.list vs) column node ∧
        ∀ {α : Type} (holds : String → α → Literal → Bool) (row : Value → Option α) (marked : Option α → Truth) (a : α),
          row column = some a → (∃ v ∈ vs, isNullWord v = false ∧ site.NodeEquals holds a v) →
          ∃ truth, nodeTruth holds row marked node = some truth ∧ truth ≠ .yes)) ∧
    (∀ v : Value,
      (IsPlain v → ∃ p, site.ReadsAs "not_in" v p ∧
        ∀ {α : Type} (holds : String → α → Literal → Bool) (x : Option α),
          p.truth holds x = .yes ↔ ∃ a, x = some a ∧ isNullWord v = false ∧ site.Equals holds a v) ∧
      (IsScalar v → ∃ node, site.Builds "not_in" v column node ∧
        ∀ {α : Type} (holds : String → α → Literal → Bool) (row : Value → Option α) (marked : Option α → Truth),
          nodeTruth holds row marked node = some (compared holds (row column) "=" (.quoted v.display)))) := by
  refine ⟨fun vs => ⟨fun hvs => ?_, fun hvs => ?_⟩, fun v => ⟨fun hv => ?_, fun hv => ?_⟩⟩
  · refine ⟨_, (Site.asks_outside hvs).readsAs (outside_readable (literals_readable hvs)), ?_⟩
    rintro α holds a ⟨v, hv, hn, he⟩ hy
    exact (Site.anyOf_literals_eq_no hvs).1 (outside_eq_yes.1 hy).1 v hv hn he
  · obtain ⟨node, hno, ht⟩ := Site.nonMemberNode_ne_yes column hvs
    exact ⟨node, Site.builds_of_conditionNodeOn fun ts => hno, ht⟩
  · exact ⟨_, (Site.asks_equals hv).readsAs ⟨by decide, of_readable hv⟩, fun holds x => Site.equals_truth_iff hv⟩
  · refine ⟨binary "EQ" column (Node.textLiteral v.display), Site.builds_of_conditionNodeOn fun ts => ?_, ?_⟩
    · cases v with
      | null | bool | int | float | text => rfl
      | _ => exact absurd hv id
    · exact fun holds row marked => rfl

/-- The totals of orders, in a database that keeps days and moments as values of their own. -/
def orderTotals : Site := .ofColumn "orders" "total" [("is_sqlite", .bool false)]

/-- Numbers equal the literals that are written like them. -/
def equalsTotal (_ : String) (n : Int) (l : Literal) : Bool := l == .bare (toString n)

def totalsNotIn (value : Value) : Value :=
  .record [("table", "orders"), ("column", "total"), ("op", "not_in"), ("value", value)]

lemma totalsNotIn_isFilter (value : Value) : orderTotals.IsFilter "not_in" value (totalsNotIn value) where
  record := ⟨_, rfl⟩
  table := rfl
  column := rfl
  op := rfl
  value := rfl

theorem not_in_conditions_totals :
    (∃ p, orderTotals.ReadsAs "not_in" (.list [.int 5, .text "null"]) p ∧ p.truth equalsTotal (some 5) ≠ .yes) ∧
      ∀ s t, ∃ node, Desk.Gives (conditionNode (totalsNotIn (.list [.int 5, .text "null"])) (.record []) orderTotals.context)
          s t node t ∧
        ∃ truth, nodeTruth equalsTotal (fun _ => some 5) (fun _ => .unknown) node = some truth ∧ truth ≠ .yes := by
  have hpl : ∀ v ∈ [int 5, .text "null"], IsPlain v := by
    simp only [mem_cons, not_mem_nil, or_false]
    rintro v (rfl | rfl)
    · trivial
    · exact (rfl : isCall (unquoteCall "null") = false)
  have ht := (not_in_conditions orderTotals (Node.column "total" "orders")).1 [.int 5, .text "null"]
  obtain ⟨p, hp, hs⟩ := ht.1 hpl
  obtain ⟨node, hn, hs'⟩ := ht.2 fun v hv => isScalar_of_isPlain (hpl v hv)
  refine ⟨⟨p, hp, hs equalsTotal 5 ⟨.int 5, by simp, rfl, ?_⟩⟩, fun s t => ⟨node, ?_, ?_⟩⟩
  · exact (Site.equals_iff (hpl _ (by simp))).2 rfl
  · exact hn _ _ s t t (totalsNotIn_isFilter _) (Site.gives_columnNode rfl)
  · exact hs' equalsTotal _ _ 5 rfl ⟨.int 5, by simp, rfl, _, _, rfl, rfl, rfl⟩

/-- A single value turns the operator round: the rows that equal it come through. A list does not keep them out either if
a text with the shape of a call closes its parenthesis. -/
theorem not_in_single_value_inverted :
    orderTotals.writes "not_in" (.int 5) = .ok "orders.total = 5" ∧
      readCondition "orders.total" "orders.total = 5" = some (.compare "=" (.bare "5")) ∧
      (compare "=" (.bare "5")).truth equalsTotal (some 5) = .yes ∧
      orderTotals.writes "not_in" (.list [.int 5, .text "ABS(1)) OR 1 IN (ABS(1)"]) =
        .ok "orders.total NOT IN (5, ABS(1)) OR 1 IN (ABS(1))" := by
  refine ⟨by rfl, rfl, rfl, by rfl⟩

end QueryDesk.Sql
