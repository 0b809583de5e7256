import QueryDesk.Proofs.JoinConditions

/-!
Outer joins and their sides. A left join keeps the rows that were joined before it, a right join the rows of the table
that it brings in. An edge is written from one table to another, but whichever of the two is missing is the one that
is brought in, and the kind of the edge is passed on as it stands. So the side of an edge means what it says only if
the table that the edge starts from was there already; otherwise the other side is kept.
-/

namespace QueryDesk.Sql

open Desk Plan List Value

variable {xs before added : List Clause} {e : Edge}

/-! ### The rows of joins -/

/-- A row of a table: the values of its columns, where there are any. -/
abbrev Row (α : Type) := Value → Option α

abbrev Database (α : Type) := Value → List (Row α)

/-- A row of joined tables: for every table one of its rows, or none where the row is kept without one. -/
abbrev Joint (α : Type) := Value → Option (Row α)

section

variable {α : Type}

def Joint.extend (m : Joint α) (table : Value) (row : Row α) : Joint α :=
  fun t => if t == table then some row else m t

def Joint.alone (table : Value) (row : Row α) : Joint α := Joint.extend (fun _ => none) table row

def Joint.cell (m : Joint α) (r : Reference) : Option α := (m r.table).bind (· r.column)

variable [DecidableEq α]

/-- Whether the columns of a condition have the same value; a missing value equals nothing. -/
def Joint.fits (m : Joint α) (left right : Reference) : Bool :=
  (m.cell left).isSome && decide (m.cell left = m.cell right)

def keepsOld (side : Option String) : Bool := side == some "left" || side == some "full"

/-- Whether a join keeps the rows of the table that it brings in. -/
def keepsNew (side : Option String) : Bool := side == some "right" || side == some "full"

/-- The rows behind a join: those that fit together, and those without a fitting one on the sides that are kept. -/
def joinRows (db : Database α) (rows : List (Joint α)) (table : Value) (left right : Reference)
    (side : Option String) : List (Joint α) :=
  (rows.flatMap fun m => ((db table).filter fun row => (m.extend table row).fits left right).map (m.extend table)) ++
    (if keepsOld side then rows.filter fun m => !(db table).any fun row => (m.extend table row).fits left right
      else []) ++
    if keepsNew side then
      ((db table).filter fun row => !rows.any fun m => (m.extend table row).fits left right).map (Joint.alone table)
    else []

/-- The rows behind a clause, of which only joins matter here. -/
def Clause.rows (db : Database α) (rows : List (Joint α)) : Clause → List (Joint α)
  | .join table left right side => joinRows db rows table left right side
  | _ => rows

def rowsOf (db : Database α) (base : Value) (joins : List Clause) : List (Joint α) :=
  joins.foldl (Clause.rows db) ((db base).map (Joint.alone base))

end

/-- No row of a table is lost at a join, whatever the database holds: neither one that is joined before it nor one of
the table that it brings in. -/
def Preserves (base : Value) (before : List Clause) (c : Clause) (table : Value) : Prop :=
  ∀ (α : Type) [DecidableEq α] (db : Database α) (row : Row α),
    (∃ m ∈ rowsOf db base before, m table = some row) ∨ (c.table? = some table ∧ row ∈ db table) →
      ∃ m ∈ c.rows db (rowsOf db base before), m table = some row

/-! ### What a join keeps -/

section

variable {α : Type} {m : Joint α} {table t : Value} {row : Row α}

lemma Joint.extend_other (ht : IsText t) (hta : IsText table) (h : t ≠ table) : m.extend table row t = m t := by
  rw [Joint.extend, if_neg]
  rwa [ht.beq_iff hta]

lemma Joint.extend_self (ht : IsText table) : m.extend table row table = some row := by
  rw [Joint.extend, if_pos ((ht.beq_iff ht).2 rfl)]

variable [DecidableEq α] {db : Database α} {rows : List (Joint α)} {left right : Reference} {side : Option String}

lemma mem_joinRows : m ∈ joinRows db rows table left right side ↔
    (∃ a ∈ rows, ∃ row ∈ db table, (a.extend table row).fits left right = true ∧ a.extend table row = m) ∨
    (keepsOld side = true ∧ m ∈ rows ∧ ∀ row ∈ db table, (m.extend table row).fits left right = false) ∨
    (keepsNew side = true ∧ ∃ row ∈ db table, (∀ a ∈ rows, (a.extend table row).fits left right = false) ∧
      Joint.alone table row = m) := by
  rw [joinRows, mem_append, mem_append, or_assoc]
  refine or_congr ?_ (or_congr ?_ ?_)
  · simp only [mem_flatMap, mem_map, mem_filter, and_assoc]
  · split <;> simp_all
  · split <;> simp_all [and_assoc]

lemma mem_joinRows_of_keepsOld (hs : keepsOld side = true) (ht : IsText t) (hta : IsText table)
    (hne : t ≠ table) (hm : m ∈ rows) (hr : m t = some row) :
    ∃ m' ∈ joinRows db rows table left right side, m' t = some row := by
  by_cases hfi : ∃ new ∈ db table, (m.extend table new).fits left right = true
  · obtain ⟨new, hn, hf⟩ := hfi
    refine ⟨m.extend table new, mem_joinRows.2 (.inl ⟨m, hm, new, hn, hf, rfl⟩), ?_⟩
    rw [Joint.extend_other ht hta hne, hr]
  · refine ⟨m, mem_joinRows.2 (.inr (.inl ⟨hs, hm, fun new hn => ?_⟩)), hr⟩
    rw [Bool.eq_false_iff]
    exact fun hf => hfi ⟨new, hn, hf⟩

lemma mem_joinRows_of_keepsNew (hs : keepsNew side = true) (ht : IsText table) (hr : row ∈ db table) :
    ∃ m ∈ joinRows db rows table left right side, m table = some row := by
  by_cases hfi : ∃ a ∈ rows, (a.extend table row).fits left right = true
  · obtain ⟨a, ha, hf⟩ := hfi
    exact ⟨a.extend table row, mem_joinRows.2 (.inl ⟨a, ha, row, hr, hf, rfl⟩), Joint.extend_self ht⟩
  · refine ⟨Joint.alone table row, mem_joinRows.2 (.inr (.inr ⟨hs, row, hr, fun a ha => ?_, rfl⟩)),
      Joint.extend_self ht⟩
    rw [Bool.eq_false_iff]
    exact fun hf => hfi ⟨a, ha, hf⟩

lemma foldl_rows_none (ht : IsText t) (h : ∀ m ∈ rows, m t = none)
    (hxs : ∀ x ∈ introduced xs, IsText x ∧ t ≠ x) : ∀ m ∈ xs.foldl (Clause.rows db) rows, m t = none := by
  induction xs generalizing rows with
  | nil => exact h
  | cons c xs ih =>
    refine ih (fun m hm => ?_) fun x hx => hxs x (introduced_subset_cons c xs hx)
    cases c with
    | join table left right side =>
      obtain ⟨hta, hne⟩ := hxs table (by simp)
      rcases mem_joinRows.1 hm with ⟨a, ha, new, -, -, rfl⟩ | ⟨-, hm, -⟩ | ⟨-, new, -, -, rfl⟩
      · rw [Joint.extend_other ht hta hne, h a ha]
      · exact h m hm
      · exact Joint.extend_other ht hta hne
    | _ => exact h m hm

lemma foldl_rows_of_empty (h : ∀ x ∈ introduced xs, db x = []) : xs.foldl (Clause.rows db) [] = [] := by
  induction xs with
  | nil => rfl
  | cons c xs ih =>
    have hc : c.rows db [] = [] := by
      cases c with
      | join table left right side =>
        have ht : db table = [] := h table (by simp)
        show joinRows db [] table left right side = []
        simp [joinRows, ht]
      | _ => rfl
    rw [foldl_cons, hc]
    exact ih fun x hx => h x (introduced_subset_cons c xs hx)

/-- If every table has the one row `row`, which has the same value in all columns, then the joins of a chain have a row
in which it stands for all of their tables. -/
lemma exists_joint_of_attached (hr : ∀ col, row col = some x) :
    ∀ {xs : List Clause} {r : List Value} {rows : List (Joint α)}, Attached r xs →
      (∀ t ∈ introduced xs, IsText t ∧ db t = [row]) → (∃ m ∈ rows, ∀ t ∈ r, m t = some row) →
      ∃ m ∈ xs.foldl (Clause.rows db) rows, ∀ t ∈ r ++ introduced xs, m t = some row
  | [], r, rows, _, _, h => by simpa using h
  | .join table left right side :: xs, r, rows, ⟨_, hl, hri, hre⟩, hdb, ⟨m, hm, ha⟩ => by
    obtain ⟨hta, hro⟩ := hdb table (by simp)
    have hn : ∀ t ∈ r ++ [table], m.extend table row t = some row := by
      intro t ht
      rcases mem_append.1 ht with ht | ht
      · unfold Joint.extend
        split
        · rfl
        · exact ha t ht
      · rw [mem_singleton.1 ht]
        exact Joint.extend_self hta
    have hc : ∀ r' : Reference, r'.table ∈ r ++ [table] → (m.extend table row).cell r' = some x := by
      intro r' hr'
      rw [Joint.cell, hn _ hr']
      exact hr _
    have hf : (m.extend table row).fits left right = true := by
      rw [Joint.fits, hc left (by simp [hl]), hc right (by simp [hri])]
      simp
    have hme : m.extend table row ∈ joinRows db rows table left right side :=
      mem_joinRows.2 (.inl ⟨m, hm, row, by simp [hro], hf, rfl⟩)
    obtain ⟨m', hm', ha'⟩ := exists_joint_of_attached hr hre (fun t ht => hdb t (by simp [ht]))
      ⟨_, hme, hn⟩
    refine ⟨m', hm', fun t ht => ha' t ?_⟩
    simpa using ht

end

section

variable {base table t : Value} {before : List Clause} {left right : Reference} {side : Option String}

section

variable (hte : ∀ x ∈ base :: introduced before, IsText x)

include hte

lemma preserves_old_iff (hta : IsText table)
    (ha : Attached [base] before) (hn : table ∉ base :: introduced before)
    (ht : t ∈ base :: introduced before) :
    Preserves base before (.join table left right side) t ↔ keepsOld side = true := by
  have hne : t ≠ table := fun heq => hn (heq ▸ ht)
  constructor
  · intro h
    by_contra hs
    rw [Bool.not_eq_true] at hs
    -- the new table is empty, and each of the others has one row that fits everywhere
    let row : Row Unit := fun _ => some ()
    let db : Database Unit := fun x => if x == table then [] else [row]
    have he : db table = [] := if_pos ((hta.beq_iff hta).2 rfl)
    have ho : ∀ x ∈ base :: introduced before, IsText x ∧ db x = [row] := by
      intro x hx
      refine ⟨hte x hx, if_neg ?_⟩
      rw [(hte x hx).beq_iff hta]
      exact fun heq => hn (heq ▸ hx)
    have hst : ∃ m ∈ (db base).map (Joint.alone base), ∀ t ∈ [base], m t = some row := by
      obtain ⟨hb, hr⟩ := ho base (by simp)
      refine ⟨Joint.alone base row, by simp [hr], fun t ht => ?_⟩
      rw [mem_singleton.1 ht]
      exact Joint.extend_self hb
    obtain ⟨m, hm, hal⟩ := exists_joint_of_attached (fun _ => rfl) ha
      (fun x hx => ho x (by simp [hx])) hst
    obtain ⟨m', hm', -⟩ := h Unit db row (.inl ⟨m, hm, hal t ht⟩)
    have hno : (Clause.join table left right side).rows db (rowsOf db base before) = [] :=
      by simp [Clause.rows, joinRows, hs, he]
    rw [hno] at hm'
    simp at hm'
  · rintro hs α _ db row (⟨m, hm, hro⟩ | ⟨heq, -⟩)
    · exact mem_joinRows_of_keepsOld hs (hte t ht) hta hne hm hro
    · exact absurd (Option.some.inj heq).symm hne

lemma preserves_new_iff (ht : IsText table) (hne : table ∉ base :: introduced before) :
    Preserves base before (.join table left right side) table ↔ keepsNew side = true := by
  constructor
  · intro h
    by_contra hs
    rw [Bool.not_eq_true] at hs
    -- the new table is the only one that has a row
    let row : Row Unit := fun _ => some ()
    let db : Database Unit := fun x => if x == table then [row] else []
    have hr : row ∈ db table := by
      have hro : db table = [row] := if_pos ((ht.beq_iff ht).2 rfl)
      simp [hro]
    have ho : ∀ x ∈ base :: introduced before, db x = [] := by
      intro x hx
      refine if_neg ?_
      rw [(hte x hx).beq_iff ht]
      exact fun heq => hne (heq ▸ hx)
    have hb : rowsOf db base before = [] := by
      rw [rowsOf, ho base (by simp)]
      exact foldl_rows_of_empty fun x hx => ho x (by simp [hx])
    obtain ⟨m, hm, -⟩ := h Unit db row (.inr ⟨rfl, hr⟩)
    have hn : (Clause.join table left right side).rows db (rowsOf db base before) = [] := by
      simp [hb, Clause.rows, joinRows, hs]
    rw [hn] at hm
    simp at hm
  · rintro hs α _ db row (⟨m, hm, hr⟩ | ⟨-, hr⟩)
    · have hn : m table = none := by
        refine foldl_rows_none ht ?_ (fun x hx => ?_) m hm
        · intro m hm
          obtain ⟨new, -, rfl⟩ := mem_map.1 hm
          exact Joint.extend_other ht (hte base (by simp)) fun heq => hne (by simp [heq])
        · exact ⟨hte x (by simp [hx]), fun heq => hne (by simp [heq, hx])⟩
      rw [hn] at hr
      cases hr
    · exact mem_joinRows_of_keepsNew hs ht hr

end

end

/-! ### The sides of edges -/

/-- What the join `c` of an edge preserves. A left join preserves the table that was there, a right join the one that
was not; so an edge keeps its side exactly if the table that it starts from was there. -/
structure KeepsSides (base : Value) (before : List Clause) (c : Clause) (e : Edge) : Prop where
  left : joinSide e.kind = .ok (some "left") →
    (Preserves base before c e.fromTable ↔ e.fromTable ∈ base :: introduced before) ∧
      (Preserves base before c e.toTable ↔ e.toTable ∈ base :: introduced before)
  right : joinSide e.kind = .ok (some "right") →
    (Preserves base before c e.toTable ↔ e.fromTable ∈ base :: introduced before) ∧
      (Preserves base before c e.fromTable ↔ e.toTable ∈ base :: introduced before)
  full : joinSide e.kind = .ok (some "full") →
    Preserves base before c e.fromTable ∧ Preserves base before c e.toTable

lemma Edge.Attaches.keepsSides
    (h : e.Attaches (base :: introduced before) added) (hte : ∀ x ∈ base :: introduced before, IsText x)
    (he : IsText e.fromTable ∧ IsText e.toTable) (ha : Attached [base] before) :
    ∀ c ∈ added, KeepsSides base before c e := by
  intro c hc
  cases h with
  | nothing => simp at hc
  | @forth side hf hto hsi =>
    rw [mem_singleton.1 hc]
    have ho : Preserves base before (.join e.toTable e.fromColumn e.toColumn side) e.fromTable ↔
        keepsOld side = true :=
      preserves_old_iff hte he.2 ha hto hf
    have hn : Preserves base before (.join e.toTable e.fromColumn e.toColumn side) e.toTable ↔ keepsNew side = true :=
      preserves_new_iff hte he.2 hto
    refine ⟨fun hs => ?_, fun hs => ?_, fun hs => ?_⟩ <;> rw [hsi] at hs <;> cases hs <;>
      simp [ho, hn, keepsOld, keepsNew, hf, hto]
  | @back side hf hto hsi =>
    rw [mem_singleton.1 hc]
    have ho : Preserves base before (.join e.fromTable e.toColumn e.fromColumn side) e.toTable ↔
        keepsOld side = true :=
      preserves_old_iff hte he.1 ha hf hto
    have hn : Preserves base before (.join e.fromTable e.toColumn e.fromColumn side) e.fromTable ↔
        keepsNew side = true :=
      preserves_new_iff hte he.1 hf
    refine ⟨fun hs => ?_, fun hs => ?_, fun hs => ?_⟩ <;> rw [hsi] at hs <;> cases hs <;>
      simp [ho, hn, keepsOld, keepsNew, hf, hto]

/-- In a connected plan an edge attaches a table to those that are joined when its turn comes. -/
lemma Whole.attaches
    (hw : Whole plan) (hp : Joinable plan)
    (hj : joinClauses [baseOf plan] (orderEdges (baseOf plan) (edgesOf plan)) = .ok joins)
    (hpl : orderEdges (baseOf plan) (edgesOf plan) = a ++ e :: b)
    (htu : Turn (baseOf plan) joins a e before added behind) :
    e.Attaches (baseOf plan :: introduced before) added ∧ (∀ x ∈ baseOf plan :: introduced before, IsText x) ∧
      (IsText e.fromTable ∧ IsText e.toTable) ∧ Attached [baseOf plan] before := by
  obtain ⟨taken, stuck, -, ho, hr, -⟩ := orderEdges_spec (baseOf plan) (edgesOf plan)
  have hen : TextEnds (a ++ e :: b) := by
    intro f hf
    exact hp.ends f (hr.within (ho ▸ hpl ▸ hf))
  obtain ⟨hc, -⟩ := hw.complete hp hj
  rw [hpl, chained_append] at hc
  have hb : ∀ x ∈ [baseOf plan], IsText x := by simpa using hp.base
  have ha : TextEnds a := fun f hf => hen f (mem_append_left _ hf)
  obtain ⟨hat, hg⟩ := joinClauses_chained hb ha hc.1 htu.joined
  have ht := hc.2.1
  rw [hg] at ht
  have hte := texts_of_joined hb ha htu.joined
  have he := hen e (by simp)
  exact ⟨htu.adds.attaches ht hte he, hte, he, hat⟩

/-- The joins of a connected plan keep the sides of their edges as far as the tables that these start from were
there. -/
theorem outer_sides_of_joins {plan state context : Value} {s : Surroundings} {t t' : Traffic} {clauses : List Clause}
    (hplan : Joinable plan) (hwhole : Whole plan) (hbuilt : Gives (buildClauses plan state context) s t clauses t')
    {a b : List Edge} {e : Edge} (hplace : orderEdges (baseOf plan) (edgesOf plan) = a ++ e :: b) :
    ∃ before added behind, Turn (baseOf plan) (joinsIn clauses) a e before added behind ∧
      ∀ c ∈ added, KeepsSides (baseOf plan) before c e := by
  obtain ⟨p, hp, rfl⟩ := buildClauses_parts hbuilt
  have hj := hp.joins
  rw [hp.base_eq, hp.edges_eq, ← hp.joinsIn_clauses] at hj
  have ho := hj
  rw [hplace] at ho
  obtain ⟨before, added, behind, ht⟩ := joinClauses_turn ho
  obtain ⟨ha, hte, he, hat⟩ := hwhole.attaches hplan hj hplace ht
  exact ⟨before, added, behind, ht, ha.keepsSides hte he hat⟩

/-- Orders come from all depots, also from those without any, and all customers are wanted. -/
def sideEdges : List Value :=
  [edgeDoc "orders" "depot" "depots" "id" "right", edgeDoc "customers" "id" "orders" "buyer" "left"]

def sidePlan : Value := orderPlan ["depots", "customers"] sideEdges

def depotJoin : Clause := .join "depots" ⟨"orders", "depot"⟩ ⟨"depots", "id"⟩ (some "right")

def customerJoin : Clause := .join "customers" ⟨"orders", "buyer"⟩ ⟨"customers", "id"⟩ (some "left")

def sideClauses : List Clause :=
  [.select [.column ⟨"orders", "id"⟩ none], .source "orders", depotJoin, customerJoin, .render "tsql"]

lemma sideClauses_built : Gives (buildClauses sidePlan (.record []) keyContext) {} {} sideClauses {} := rfl

lemma sidePlan_documented : Documented sidePlan sideEdges := ⟨⟨"orders", rfl⟩, rfl, by simp [sideEdges, edgeDoc]⟩

lemma sidePlan_whole : Whole sidePlan := by
  intro e he
  obtain ⟨doc, hd, rfl⟩ := mem_map.1 he
  rw [sidePlan_documented.edges] at hd
  simp only [sideEdges, mem_cons, not_mem_nil, or_false] at hd
  rcases hd with rfl | rfl
  · exact .base
  · exact .back he .base

def depotEdge : Edge := ⟨edgeDoc "orders" "depot" "depots" "id" "right", "orders", "depots"⟩

def customerEdge : Edge := ⟨edgeDoc "customers" "id" "orders" "buyer" "left", "customers", "orders"⟩

theorem outer_sides_of_joins_depots : Joinable sidePlan ∧ Whole sidePlan ∧
    joinSide depotEdge.kind = .ok (some "right") ∧ Preserves "orders" [] depotJoin "depots" := by
  have hp := sidePlan_documented.joinable
  have hpl : orderEdges (baseOf sidePlan) (edgesOf sidePlan) = [] ++ depotEdge :: [customerEdge] := rfl
  have hk : joinSide depotEdge.kind = .ok (some "right") := rfl
  obtain ⟨before, added, behind, ht, hs⟩ := outer_sides_of_joins hp sidePlan_whole sideClauses_built hpl
  obtain rfl : [] = before := Except.ok.inj ht.joined
  have ha : depotJoin ∈ added := by
    cases ht.adds with
    | forth _ _ hsi =>
      cases hsi
      exact .head _
    | nothing _ hto => cases hto
    | back hf | lone hf => cases hf
  exact ⟨hp, sidePlan_whole, hk, ((hs depotJoin ha).right hk).1.2 (.head _)⟩

/-- The plan is connected and asks for all customers, but those without an order are lost where they are joined. -/
theorem customers_without_orders_lost : Joinable sidePlan ∧ Whole sidePlan ∧
    Gives (buildClauses sidePlan (.record []) keyContext) {} {} sideClauses {} ∧
    orderEdges (baseOf sidePlan) (edgesOf sidePlan) = [depotEdge, customerEdge] ∧
    Turn (baseOf sidePlan) (joinsIn sideClauses) [depotEdge] customerEdge [depotJoin] [customerJoin] [] ∧
    joinSide customerEdge.kind = .ok (some "left") ∧
    ¬ Preserves (baseOf sidePlan) [depotJoin] customerJoin customerEdge.fromTable := by
  refine ⟨sidePlan_documented.joinable, sidePlan_whole, sideClauses_built, rfl, ⟨rfl, .back rfl rfl rfl, rfl⟩, rfl, ?_⟩
  have hte : ∀ x ∈ [text "orders", "depots"], IsText x := by simp [IsText]
  have hn : text "customers" ∉ [text "orders", "depots"] := by simp
  have hp : Preserves "orders" [depotJoin] customerJoin "customers" ↔ keepsNew (some "left") = true :=
    preserves_new_iff hte ⟨"customers", rfl⟩ hn
  show ¬ Preserves "orders" [depotJoin] customerJoin "customers"
  rw [hp]
  decide

end QueryDesk.Sql
