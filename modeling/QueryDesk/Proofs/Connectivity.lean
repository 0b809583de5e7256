import Mathlib.Logic.Relation
import QueryDesk.Proofs.Names

/-!
What the check for connected tables decides. A property of tables that no edge cuts, that is, which both
ends of every edge have or lack together, passes from a table to all that can be reached from it. In the
other direction the tables visited are closed: a search leaves no neighbour out of a table that it is the
first to visit, and it never gets deeper than there are tables. So the start reaches the tables of its
component, wherever it lies, and what the check reports is the rest.
-/

namespace QueryDesk.Plan

open Attempt Sql List Value

variable {P : Value → Prop} {tables xs : List Value} {e v a b start : Value}

/-- No edge leads from a table with the property to one without it, or back. -/
def Uncut (edges : List (Value × Value)) (P : Value → Prop) : Prop := ∀ e ∈ edges, P e.1 ↔ P e.2

def PairsOf (P : Value → Prop) (edges : List (Value × Value)) : Prop := ∀ e ∈ edges, P e.1 ∧ P e.2

section

variable [Telling K]

variable {edges : List (Value × Value)} {tables : List Value}

/-- Two tables are neighbours if they are the ends of an edge. -/
def Neighbours (edges : List (Value × Value)) (a b : Value) : Prop := (a, b) ∈ edges ∨ (b, a) ∈ edges

lemma uncut_chain (a : Value) : Uncut edges (Relation.ReflTransGen (Neighbours edges) a) := fun _ he =>
  ⟨fun h => h.tail (.inl he), fun h => h.tail (.inr he)⟩

lemma Uncut.along (hc : Uncut edges P) (h : Relation.ReflTransGen (Neighbours edges) a b) (ha : P a) : P b := by
  induction h with
  | refl => exact ha
  | tail _ hs ih =>
    rcases hs with he | he
    · exact (hc _ he).1 ih
    · exact (hc _ he).2 ih

/-- Tables hang together if every property that no edge cuts holds for all of them or for none. -/
def Connected (edges : List (Value × Value)) (tables : List Value) : Prop :=
  ∀ P : Value → Prop, Uncut edges P → ∀ a ∈ tables, ∀ b ∈ tables, P a → P b

lemma connected_iff : Connected edges tables ↔
    ∀ a ∈ tables, ∀ b ∈ tables, Relation.ReflTransGen (Neighbours edges) a b :=
  ⟨fun h a ha b hb => h _ (uncut_chain a) a ha b hb .refl, fun h _ hc a ha b hb => hc.along (h a ha b hb)⟩

/-! ### The search -/

lemma mem_neighbours (he : PairsOf K edges) (ht : K t) : v ∈ neighbours edges t ↔ Neighbours edges t v := by
  have hk : ∀ x ∈ edges.flatMap fun e => (if e.1 == t then [e.2] else []) ++ if e.2 == t then [e.1] else [], K x := by
    intro x hx
    obtain ⟨e, hem, hx⟩ := mem_flatMap.1 hx
    rcases mem_append.1 hx with hx | hx
    · exact mem_singleton.1 (mem_ite_nil_right.1 hx).2 ▸ (he e hem).2
    · exact mem_singleton.1 (mem_ite_nil_right.1 hx).2 ▸ (he e hem).1
  rw [neighbours, mem_distinct hk, mem_flatMap, Neighbours]
  constructor
  · rintro ⟨⟨a, b⟩, hem, hv⟩
    rcases mem_append.1 hv with hv | hv
    · obtain ⟨hs, hw⟩ := mem_ite_nil_right.1 hv
      rw [← (Telling.beq_iff (he _ hem).1 ht).1 hs, mem_singleton.1 hw]
      exact .inl hem
    · obtain ⟨hs, hw⟩ := mem_ite_nil_right.1 hv
      rw [← (Telling.beq_iff (he _ hem).2 ht).1 hs, mem_singleton.1 hw]
      exact .inr hem
  · have hs : (t == t) = true := (Telling.beq_iff ht ht).2 rfl
    rintro (hem | hem)
    · exact ⟨_, hem, mem_append_left _ (by simp [hs])⟩
    · exact ⟨_, hem, mem_append_right _ (by simp [hs])⟩

lemma find?_adjacency (ht : ∀ x ∈ tables, K x) (h : t ∈ tables) :
    (adjacency tables edges).find? (·.1 == t) = some (t, neighbours edges t) := by
  rw [adjacency, find?_map]
  cases hf : tables.find? ((·.1 == t) ∘ fun t => (t, neighbours edges t)) with
  | none => exact absurd ((Telling.beq_iff (ht t h) (ht t h)).2 rfl) (find?_eq_none.1 hf t h)
  | some x =>
    have hs : (x == t) = true := by simpa using find?_some hf
    rw [Option.map_some, (Telling.beq_iff (ht x (mem_of_find?_eq_some hf)) (ht t h)).1 hs]

/-- The tables `out` that a search has visited, from tables `wanted` and after it had visited `visited`. It has visited
all that it was to visit, and of each table that it has added the neighbours too; and nothing that cannot be reached. -/
structure Explores (tables : List Value) (edges : List (Value × Value)) (visited wanted out : List Value) : Prop where
  before : visited <+: out
  nodup : out.Nodup
  within : out ⊆ tables
  found : wanted ⊆ out
  closed : ∀ v ∈ out, v ∈ visited ∨ ∀ w, Neighbours edges v w → w ∈ out
  uncut : ∀ P, Uncut edges P → (∀ v ∈ wanted, P v) → ∀ v ∈ out, v ∈ visited ∨ P v

lemma explores_nothing (hn : visited.Nodup) (hs : visited ⊆ tables) (hw : wanted ⊆ visited) :
    Explores tables edges visited wanted visited :=
  ⟨prefix_refl _, hn, hs, hw, fun _ => .inl, fun _ _ _ _ => .inl⟩

lemma Explores.cons (h : Explores tables edges visited [t] between) (h' : Explores tables edges between rest out) :
    Explores tables edges visited (t :: rest) out where
  before := h.before.trans h'.before
  nodup := h'.nodup
  within := h'.within
  found := cons_subset.2 ⟨h'.before.subset (h.found mem_cons_self), h'.found⟩
  closed v hv := by
    rcases h'.closed v hv with hb | hc
    · exact (h.closed v hb).imp_right fun hc w hw => h'.before.subset (hc w hw)
    · exact .inr hc
  uncut P hP hw v hv := by
    rw [forall_mem_cons] at hw
    rcases h'.uncut P hP hw.2 v hv with hb | hp
    · exact h.uncut P hP (forall_mem_singleton.2 hw.1) v hb
    · exact .inr hp

/-- The neighbours of a table that is visited for the first time are visited after it. -/
lemma Explores.deeper (h : Explores tables edges (visited ++ [t]) wanted out)
    (hn : ∀ v, v ∈ wanted ↔ Neighbours edges t v) : Explores tables edges visited [t] out where
  before := (prefix_append _ _).trans h.before
  nodup := h.nodup
  within := h.within
  found := by simpa using h.before.subset (mem_append_right visited mem_cons_self)
  closed v hv := by
    rcases h.closed v hv with hb | hc
    · rcases mem_append.1 hb with hb | ht
      · exact .inl hb
      · cases mem_singleton.1 ht
        exact .inr fun w hw => h.found ((hn w).2 hw)
    · exact .inr hc
  uncut P hP ht v hv := by
    rw [forall_mem_singleton] at ht
    have hw : ∀ w ∈ wanted, P w := fun w hw => ((hn w).1 hw).elim (fun he => (hP _ he).1 ht) fun he => (hP _ he).2 ht
    rcases h.uncut P hP hw v hv with hb | hp
    · rcases mem_append.1 hb with hb | hv
      · exact .inl hb
      · exact .inr (mem_singleton.1 hv ▸ ht)
    · exact .inr hp

/-- A search that explores from any table, if no more than `depth` tables are still to be visited. -/
def Searches (tables : List Value) (edges : List (Value × Value)) (depth : Nat)
    (search : List Value → Value → Attempt (List Value)) : Prop :=
  ∀ visited t, visited.Nodup → visited ⊆ tables → t ∈ tables → tables.length ≤ visited.length + depth →
    ∃ out, search visited t = .ok out ∧ Explores tables edges visited [t] out

/-- Tables are searched one after the other, each after all that the ones before it lead to. -/
lemma Searches.foldlM (h : Searches tables edges depth search) : ∀ (wanted : List Value) {visited : List Value},
    visited.Nodup → visited ⊆ tables → wanted ⊆ tables → tables.length ≤ visited.length + depth →
      ∃ out, wanted.foldlM search visited = .ok out ∧ Explores tables edges visited wanted out
  | [], visited, hn, hs, _, _ => ⟨visited, rfl, explores_nothing hn hs (nil_subset _)⟩
  | t :: wanted, visited, hn, hs, hw, hl => by
    rw [cons_subset] at hw
    obtain ⟨between, hb, hx⟩ := h visited t hn hs hw.1 hl
    have hle := hx.before.length_le
    obtain ⟨out, ho, hx'⟩ := h.foldlM wanted hx.nodup hx.within hw.2 (by omega)
    exact ⟨out, by rw [foldlM_cons, hb]; exact ho, hx.cons hx'⟩

section

variable (ht : ∀ x ∈ tables, K x) (he : ∀ e ∈ edges, e.1 ∈ tables ∧ e.2 ∈ tables)

include ht he

lemma dfs_searches (depth : Nat) : Searches tables edges depth (dfs (adjacency tables edges) depth) := by
  induction depth with
  | zero =>
    intro visited t hn hs hin hl
    -- every table has been visited
    have hv : t ∈ visited := by
      by_contra hv
      have hle := (nodup_cons.2 ⟨hv, hn⟩).length_le_of_subset (cons_subset.2 ⟨hin, hs⟩)
      rw [length_cons] at hle
      omega
    exact ⟨visited, rfl, explores_nothing hn hs (by simpa using hv)⟩
  | succ depth ih =>
    intro visited t hn hs hin hl
    have hk : ∀ x ∈ visited, K x := fun x hx => ht x (hs hx)
    by_cases hv : t ∈ visited
    · refine ⟨visited, ?_, explores_nothing hn hs (by simpa using hv)⟩
      rw [dfs, if_pos ((isReached_iff hk (ht t hin)).2 hv)]
    · have hp : PairsOf K edges := fun e hem => ⟨ht _ (he e hem).1, ht _ (he e hem).2⟩
      have hm := fun v => mem_neighbours (v := v) hp (ht t hin)
      have hno : (visited ++ [t]).Nodup := by
        rw [← (reach_eq hk (ht t hin)).2 hv]
        exact nodup_reach hk (ht t hin) hn
      obtain ⟨out, ho, hx⟩ := ih.foldlM (neighbours edges t) hno (append_subset.2 ⟨hs, by simpa using hin⟩)
        (fun w hw => ((hm w).1 hw).elim (fun h => (he _ h).2) fun h => (he _ h).1)
        (by simp only [length_append, length_singleton]; omega)
      refine ⟨out, ?_, hx.deeper hm⟩
      rw [dfs, if_neg (by rwa [isReached_iff hk (ht t hin)]), find?_adjacency ht hin]
      exact ho

/-- The first of the tables leaves out those that no path of edges connects it to, and no lookup fails on the way. -/
lemma unreached_spec (hs : tables.head? = some start) : ∃ lost, unreached tables edges = .ok lost ∧
    lost.Sublist tables ∧ ∀ v, v ∈ lost ↔ v ∈ tables ∧ ¬ Relation.ReflTransGen (Neighbours edges) start v := by
  cases tables with
  | nil => cases hs
  | cons first rest =>
    cases hs
    obtain ⟨out, ho, hx⟩ := dfs_searches ht he _ [] start nodup_nil (nil_subset _) mem_cons_self (Nat.le_add_left _ _)
    have hc : Uncut edges (· ∈ out) := fun e hem =>
      ⟨fun h => ((hx.closed _ h).resolve_left not_mem_nil) _ (.inl hem),
        fun h => ((hx.closed _ h).resolve_left not_mem_nil) _ (.inr hem)⟩
    refine ⟨without _ out, by rw [unreached, ho]; rfl, filter_sublist, fun v => ?_⟩
    rw [mem_without ht fun x h => ht x (hx.within h)]
    refine and_congr_right fun _ => not_congr ⟨fun h => ?_, fun h => hc.along h (hx.found mem_cons_self)⟩
    exact (hx.uncut _ (uncut_chain start) (by simpa using .refl) v h).resolve_left not_mem_nil

end

end

/-! ### Texts in order -/

lemma sorted_eq_nil_iff : sorted xs = .ok [] ↔ xs = [] := by
  cases xs with
  | nil => simp [sorted]
  | cons x rest =>
    simp only [sorted, bind_ok, pure_ok, reduceCtorEq, iff_false]
    rintro ⟨_, _, h⟩
    simpa using congrArg length h

lemma exists_texts (h : ∀ x ∈ xs, IsText x) : ∃ ns : List String, xs = ns.map text := by
  induction xs with
  | nil => exact ⟨[], rfl⟩
  | cons x xs ih =>
    obtain ⟨name, rfl⟩ := h x mem_cons_self
    obtain ⟨ns, rfl⟩ := ih fun y hy => h y (mem_cons_of_mem _ hy)
    exact ⟨name :: ns, rfl⟩

lemma sorted_texts (ns : List String) :
    sorted (ns.map .text) = .ok ((ns.mergeSort fun a b => !decide (b < a)).map .text) := by
  cases ns with
  | nil => simp [sorted]
  | cons first rest =>
    have hl : ((rest.map text).forM fun x => do let _ ← x.less (.text first)) = .ok () := by
      induction rest with
      | nil => rfl
      | cons name rest ih => exact ih
    have hm : ((first :: rest).mergeSort fun a b => !decide (b < a)).map text =
        ((first :: rest).map text).mergeSort inOrder := map_mergeSort fun _ _ _ _ => rfl
    rw [hm]
    show (_ >>= fun _ => _) = _
    rw [hl]
    rfl

lemma exists_textItems (h : ∀ v ∈ vs, IsText v) : ∃ names, textItems vs = .ok names := by
  refine exists_mapM fun x hx => ?_
  obtain ⟨v, i⟩ := x
  obtain ⟨s, rfl⟩ := h v (fst_mem_of_mem_zipIdx hx)
  exact ⟨s, rfl⟩

lemma mergeSort_increasing {ns : List String} (hn : ns.Nodup) :
    (ns.mergeSort fun a b => !decide (b < a)).Pairwise (· < ·) := by
  have hle : ∀ a b : String, (!decide (b < a)) = true ↔ a ≤ b := by
    simp only [Bool.not_eq_true', decide_eq_false_iff_not, String.not_lt, implies_true]
  have hs : (ns.mergeSort fun a b => !decide (b < a)).Pairwise fun a b => (!decide (b < a)) = true := by
    refine pairwise_mergeSort (fun a b c => ?_) (fun a b => ?_) ns
    · simpa only [hle] using String.le_trans
    · simpa only [Bool.or_eq_true, hle] using String.le_total a b
  refine (hs.and ((mergeSort_perm ns _).nodup_iff.2 hn)).imp fun {a b} h => ?_
  by_contra hlt
  exact h.2 (String.le_antisymm ((hle a b).1 h.1) (String.not_lt.1 hlt))

/-! ### The check of a plan -/

def ends (e : Edge) : Value × Value := (e.fromTable, e.toTable)

def tablesOf (docs : List Value) : List Value := docs.map (·.peek "table")

/-- What a plan says about its tables and their joins: the tables selected and the ends of the edges are texts. -/
structure JoinGraph (plan : Value) (selections edges : List Value) : Prop where
  selected : itemsOf plan "selections" = .ok selections
  joined : ∃ v, plan.getD "join_edges" (.list []) = .ok v ∧ v.items = .ok edges ∧ (v.truthy = true ↔ edges ≠ [])
  tables : ∀ t ∈ tablesOf selections, IsText t
  ends : ∀ e ∈ edges, IsText (e.peek "from_table") ∧ IsText (e.peek "to_table")

/-- Both tables are selected, and an edge joins them in one direction or the other. -/
def JoinedTo (tables edges : List Value) (a b : Value) : Prop := a ∈ tables ∧ b ∈ tables ∧ ∃ e ∈ edges,
  e.peek "from_table" = a ∧ e.peek "to_table" = b ∨ e.peek "from_table" = b ∧ e.peek "to_table" = a

instance (tables edges : List Value) : Std.Symm (JoinedTo tables edges) :=
  ⟨fun _ _ ⟨ha, hb, e, he, h⟩ => ⟨hb, ha, e, he, h.symm⟩⟩

/-- The ends of an edge, if both are among the tables. -/
def innerEnds (tables : List Value) (e : Value) : Option (Value × Value) :=
  if isReached tables (e.peek "from_table") && isReached tables (e.peek "to_table") then
    some (e.peek "from_table", e.peek "to_table")
  else none

lemma selectedEdge_eq (h : IsText (e.peek "from_table") ∧ IsText (e.peek "to_table")) :
    selectedEdge tables e = .ok (innerEnds tables e) := by
  obtain ⟨hf, hto⟩ := h
  simp only [selectedEdge, hf.get, hto.get, hf.hashable, hto.hashable, ok_bind, innerEnds]
  cases isReached tables (e.peek "from_table") with
  | false => rfl
  | true => cases isReached tables (e.peek "to_table") <;> rfl

section

variable {plan : Value} {selections edges : List Value} {walk : List Value → List Value}

section

variable (h : JoinGraph plan selections edges)

include h

lemma JoinGraph.innerEnds_eq_some
    (hta : ∀ t, t ∈ tables ↔ t ∈ tablesOf selections) (he : e ∈ edges) : innerEnds tables e = some (a, b) ↔
      (a ∈ tablesOf selections ∧ b ∈ tablesOf selections) ∧ e.peek "from_table" = a ∧ e.peek "to_table" = b := by
  have hte : ∀ t ∈ tables, IsText t := fun t ht => h.tables t ((hta t).1 ht)
  obtain ⟨hf, hto⟩ := h.ends e he
  unfold innerEnds
  rw [← hta, ← hta]
  by_cases hin : e.peek "from_table" ∈ tables ∧ e.peek "to_table" ∈ tables
  · rw [if_pos (by simp [isReached_iff hte hf, isReached_iff hte hto, hin]), Option.some.injEq, Prod.mk.injEq]
    exact ⟨fun heq => ⟨⟨heq.1 ▸ hin.1, heq.2 ▸ hin.2⟩, heq⟩, And.right⟩
  · rw [if_neg (by simpa [isReached_iff hte hf, isReached_iff hte hto] using hin)]
    refine iff_of_false (by simp) ?_
    rintro ⟨hab, rfl, rfl⟩
    exact hin hab

lemma JoinGraph.neighbours_iff (hta : ∀ t, t ∈ tables ↔ t ∈ tablesOf selections) :
    Neighbours (edges.filterMap (innerEnds tables)) = JoinedTo (tablesOf selections) edges := by
  funext a b
  have hm : ∀ a b, (a, b) ∈ edges.filterMap (innerEnds tables) ↔ ∃ e ∈ edges,
      (a ∈ tablesOf selections ∧ b ∈ tablesOf selections) ∧ e.peek "from_table" = a ∧ e.peek "to_table" = b := by
    intro a b
    rw [mem_filterMap]
    exact exists_congr fun e => and_congr_right fun he => h.innerEnds_eq_some hta he
  rw [Neighbours, hm, hm, JoinedTo]
  apply propext
  constructor
  · rintro (⟨e, he, ⟨ha, hb⟩, heq⟩ | ⟨e, he, ⟨hb, ha⟩, heq⟩)
    · exact ⟨ha, hb, e, he, .inl heq⟩
    · exact ⟨ha, hb, e, he, .inr heq⟩
  · rintro ⟨ha, hb, e, he, heq | heq⟩
    · exact .inl ⟨e, he, ⟨ha, hb⟩, heq⟩
    · exact .inr ⟨e, he, ⟨hb, ha⟩, heq⟩

lemma JoinGraph.selectedTables_eq : selectedTables plan = .ok (distinct (tablesOf selections)) := by
  have hd : selections.mapM (fun s => do (← s.get "table").hashable) = .ok (tablesOf selections) := by
    refine mapM_eq_map fun s hs => ?_
    have hte : IsText (s.peek "table") := h.tables _ (mem_map_of_mem hs)
    simp only [bind_ok]
    exact ⟨_, hte.get, hte.hashable⟩
  simp only [selectedTables, h.selected, bind_ok, pure_ok]
  exact ⟨selections, rfl, _, hd, rfl⟩

end

/-- The selected tables, each once, in the order in which they are met. -/
def met (walk : List Value → List Value) (selections : List Value) : List Value :=
  walk (distinct (tablesOf selections))

/-- What the search from the table that is met first leaves out. -/
def leftOut (walk : List Value → List Value) (selections edges : List Value) : Attempt (List Value) :=
  unreached (met walk selections) (edges.filterMap (innerEnds (distinct (tablesOf selections))))

/-- A selected table to which no joins lead from the one that is met first. -/
def Stray (walk : List Value → List Value) (selections edges : List Value) (v : Value) : Prop :=
  v ∈ tablesOf selections ∧ ∀ start, (met walk selections).head? = some start →
    ¬ Relation.ReflTransGen (JoinedTo (tablesOf selections) edges) start v

section

variable (h : JoinGraph plan selections edges) (hwalk : ∀ xs, (walk xs).Perm xs)

include h hwalk

lemma JoinGraph.mem_met (t : Value) : t ∈ met walk selections ↔ t ∈ tablesOf selections := by
  rw [met, (hwalk _).mem_iff, mem_distinct h.tables]

lemma JoinGraph.nodup_met : (met walk selections).Nodup := (hwalk _).nodup_iff.2 (nodup_distinct h.tables)

/-- The search ends, and what it leaves out are the tables to which no joins lead from the one that is met first. -/
lemma JoinGraph.leftOut_ok : ∃ lost, leftOut walk selections edges = .ok lost ∧
    lost.Sublist (met walk selections) ∧ ∀ v, v ∈ lost ↔ Stray walk selections edges v := by
  have hte : ∀ t ∈ met walk selections, IsText t := fun t ht => h.tables t ((h.mem_met hwalk t).1 ht)
  have hse : ∀ t, t ∈ distinct (tablesOf selections) ↔ t ∈ tablesOf selections :=
    fun t => mem_distinct h.tables
  have hi : ∀ e ∈ edges.filterMap (innerEnds (distinct (tablesOf selections))),
      e.1 ∈ met walk selections ∧ e.2 ∈ met walk selections := by
    rintro ⟨a, b⟩ he
    obtain ⟨e, he, hab⟩ := mem_filterMap.1 he
    rw [h.mem_met hwalk, h.mem_met hwalk]
    exact ((h.innerEnds_eq_some hse he).1 hab).1
  cases hs : (met walk selections).head? with
  | none =>
    rw [head?_eq_none_iff] at hs
    rw [leftOut, hs]
    refine ⟨[], rfl, .slnil, fun v => ?_⟩
    rw [Stray, ← h.mem_met hwalk, hs]
    simp
  | some start =>
    obtain ⟨lost, hl, hsu, hm⟩ := unreached_spec hte hi hs
    refine ⟨lost, hl, hsu, fun v => ?_⟩
    rw [hm, Stray, h.neighbours_iff hse, h.mem_met hwalk, hs]
    simp

lemma JoinGraph.mem_of_leftOut (hlo : leftOut walk selections edges = .ok out) :
    v ∈ out ↔ Stray walk selections edges v := by
  obtain ⟨lost, hl, -, hm⟩ := h.leftOut_ok hwalk
  cases hl.symm.trans hlo
  exact hm v

/-- No table is left out exactly when joins lead from every table to every other. -/
lemma JoinGraph.no_stray_iff : (∀ v, ¬ Stray walk selections edges v) ↔
    ∀ a ∈ tablesOf selections, ∀ b ∈ tablesOf selections,
      Relation.ReflTransGen (JoinedTo (tablesOf selections) edges) a b := by
  cases hs : (met walk selections).head? with
  | none =>
    rw [head?_eq_none_iff] at hs
    simp [Stray, ← h.mem_met hwalk, hs]
  | some start =>
    have hin : start ∈ tablesOf selections := (h.mem_met hwalk start).1 (mem_of_mem_head? hs)
    have hr : ∀ v ∈ tablesOf selections, (¬ Stray walk selections edges v ↔
        Relation.ReflTransGen (JoinedTo (tablesOf selections) edges) start v) := fun v hv => by simp [Stray, hv, hs]
    refine ⟨fun hal a ha b hb => ?_, fun hal v hv => hv.2 start hs (hal start hin v hv.1)⟩
    exact (Relation.ReflTransGen.stdSymm.symm _ _ ((hr a ha).1 (hal a))).trans ((hr b hb).1 (hal b))

/-- The check finds nothing where there is one table at most, finds fault with several tables that nothing joins, and
otherwise names the tables that are lost in increasing order. -/
lemma JoinGraph.connectivityIssues_cases : (met walk selections).length ≤ 1 ∧ connectivityIssues walk plan = .ok [] ∨
    1 < (met walk selections).length ∧ edges = [] ∧ (∃ ns, connectivityIssues walk plan = .ok [noJoinsIssue ns]) ∨
    edges ≠ [] ∧ ∃ (lost : List String) (out : List Value), connectivityIssues walk plan =
      .ok (lost.map disconnectedIssue) ∧ lost.Pairwise (· < ·) ∧ leftOut walk selections edges = .ok out ∧
      (lost.map text).Perm out := by
  obtain ⟨v, hv, hi, htr⟩ := h.joined
  have hle : (met walk selections).length = (distinct (tablesOf selections)).length := (hwalk _).length_eq
  simp only [connectivityIssues, h.selectedTables_eq, hv, ok_bind]
  rw [hle]
  by_cases ho : (distinct (tablesOf selections)).length ≤ 1
  · exact .inl ⟨ho, if_pos ho⟩
  rw [if_neg ho]
  refine .inr ?_
  by_cases hed : edges = []
  · have hf : v.truthy = false := by simpa [hed] using htr
    obtain ⟨ns, hna⟩ := exists_texts fun t ht => h.tables t (mem_of_mem_distinct ht)
    refine .inl ⟨Nat.lt_of_not_le ho, hed, ?_⟩
    rw [if_pos (by simp [hf]), hna, sorted_texts, ok_bind]
    obtain ⟨shown, hs⟩ := exists_textItems fun v hv => (mem_map.1 hv).imp fun _ hnm => hnm.2.symm
    exact ⟨_, by rw [hs]; rfl⟩
  · have hl : edges.mapM (selectedEdge (distinct (tablesOf selections))) = .ok (edges.map (innerEnds _)) :=
      mapM_eq_map fun e he => selectedEdge_eq (h.ends e he)
    obtain ⟨out, hlo, hsu, -⟩ := h.leftOut_ok hwalk
    obtain ⟨ns, rfl⟩ := exists_texts fun t ht => h.tables t ((h.mem_met hwalk t).1 (hsu.subset ht))
    have hno : ns.Nodup := List.Pairwise.of_map _ (fun _ _ hne heq => hne (congrArg text heq))
      ((h.nodup_met hwalk).sublist hsu)
    refine .inr ⟨hed, ns.mergeSort fun a b => !decide (b < a), _, ?_, mergeSort_increasing hno, hlo,
      (mergeSort_perm _ _).map _⟩
    rw [if_neg (by simpa using htr.2 hed), hi, ok_bind, hl, ok_bind, filterMap_map, Function.id_comp]
    show (leftOut walk selections edges >>= _) = _
    rw [hlo, ok_bind, sorted_texts, ok_bind, map_map]
    rfl

/-- The check finds nothing exactly when joins lead from every selected table to every other, wherever it starts. -/
lemma JoinGraph.connectivityIssues_eq_nil_iff : connectivityIssues walk plan = .ok [] ↔
    ∀ a ∈ tablesOf selections, ∀ b ∈ tablesOf selections,
      Relation.ReflTransGen (JoinedTo (tablesOf selections) edges) a b := by
  rcases h.connectivityIssues_cases hwalk with ⟨ho, hn⟩ | ⟨hmo, rfl, ns, his⟩ | ⟨-, lost, out, hi, -, hlo, hl⟩
  · -- a single table hangs together with itself
    refine iff_of_true hn fun a ha b hb => ?_
    rw [← h.mem_met hwalk] at ha hb
    rcases hm : met walk selections with _ | ⟨x, _ | ⟨y, rest⟩⟩
    · simp [hm] at ha
    · rw [hm, mem_singleton] at ha hb
      rw [ha, hb]
    · simp [hm] at ho
  · -- without edges a table leads nowhere
    rw [his]
    refine iff_of_false (by simp) fun hal => ?_
    rcases hm : met walk selections with _ | ⟨x, _ | ⟨y, rest⟩⟩
    · simp [hm] at hmo
    · simp [hm] at hmo
    have hne : x ≠ y := by
      rintro rfl
      simpa [hm] using h.nodup_met hwalk
    have hin : ∀ t, t = x ∨ t = y → t ∈ tablesOf selections := fun t ht => by
      rw [← h.mem_met hwalk, hm]
      rcases ht with rfl | rfl <;> simp
    refine hne ((Relation.ReflTransGen.cases_head (hal x (hin x (.inl rfl)) y (hin y (.inr rfl)))).resolve_right ?_)
    rintro ⟨_, ⟨-, -, e, he, -⟩, -⟩
    cases he
  · rw [← h.no_stray_iff hwalk, hi, Except.ok.injEq, map_eq_nil_iff, ← map_eq_nil_iff (f := text),
      eq_nil_iff_forall_not_mem]
    simp only [hl.mem_iff, h.mem_of_leftOut hwalk hlo]

end

end

/-- The check always comes to an end. It finds nothing exactly when joins between selected tables lead from each of them
to every other; and where there are edges, it names the tables outside the component of the table that it starts from,
each once and in increasing order, wherever it starts. -/
theorem stray_tables_reported {plan : Value} {selections edges : List Value} {walk : List Value → List Value}
    (h : JoinGraph plan selections edges) (hwalk : ∀ xs, (walk xs).Perm xs) :
    ∃ issues, connectivityIssues walk plan = .ok issues ∧
      (issues = [] ↔ ∀ a ∈ tablesOf selections, ∀ b ∈ tablesOf selections,
        Relation.ReflTransGen (JoinedTo (tablesOf selections) edges) a b) ∧
      (edges ≠ [] → ∃ strays : List String, issues = strays.map disconnectedIssue ∧ strays.Pairwise (· < ·) ∧
        ∀ name, name ∈ strays ↔ .text name ∈ tablesOf selections ∧
          ∀ start, (met walk selections).head? = some start →
            ¬ Relation.ReflTransGen (JoinedTo (tablesOf selections) edges) start (.text name)) := by
  have hv := h.connectivityIssues_eq_nil_iff hwalk
  rcases h.connectivityIssues_cases hwalk with ⟨ho, hn⟩ | ⟨-, hno, ns, his⟩ | ⟨-, lost, out, hi, hs, hlo, hl⟩
  · refine ⟨[], hn, iff_of_true rfl (hv.1 hn), fun _ => ⟨[], rfl, .nil, fun name => ?_⟩⟩
    exact iff_of_false not_mem_nil ((h.no_stray_iff hwalk).2 (hv.1 hn) _)
  · refine ⟨_, his, ?_, fun hso => absurd hno hso⟩
    rw [← hv, his, Except.ok.injEq]
  · refine ⟨_, hi, by rw [← hv, hi, Except.ok.injEq], fun _ => ⟨lost, rfl, hs, fun name => ?_⟩⟩
    rw [← mem_map_of_injective fun _ _ => text.inj, hl.mem_iff]
    exact h.mem_of_leftOut hwalk hlo

/-- Four tables: two that an edge joins, one joined to itself, and one joined to a table that is not selected. -/
def depotSelections : List Value := ["orders", "parts", "customers", "depots"].map fun t => .record [("table", .text t)]

def depotEdges : List Value := [("orders", "customers"), ("parts", "parts"), ("depots", "regions")].map fun e =>
  .record [("from_table", .text e.1), ("to_table", .text e.2)]

def depotPlan : Value := .record [("selections", .list depotSelections), ("join_edges", .list depotEdges)]

lemma joinGraph_depotPlan : JoinGraph depotPlan depotSelections depotEdges where
  selected := rfl
  joined := ⟨.list depotEdges, rfl, rfl, by simp [depotEdges, truthy]⟩
  tables := by
    show ∀ t ∈ [text "orders", "parts", "customers", "depots"], IsText t
    simp [IsText]
  ends e he := by
    obtain ⟨p, -, rfl⟩ := mem_map.1 he
    exact ⟨⟨p.1, rfl⟩, ⟨p.2, rfl⟩⟩

/-- From the depots, which are met first, the check reaches no other table. -/
theorem stray_tables_reported_depots : JoinGraph depotPlan depotSelections depotEdges ∧
    (met reverse depotSelections).head? = some "depots" ∧
    connectivityIssues reverse depotPlan = .ok (["customers", "orders", "parts"].map disconnectedIssue) ∧
    ∃ strays : List String,
      ["customers", "orders", "parts"].map disconnectedIssue = strays.map disconnectedIssue ∧
      strays.Pairwise (· < ·) ∧ ∀ name, name ∈ strays ↔ .text name ∈ tablesOf depotSelections ∧
        ∀ start, (met reverse depotSelections).head? = some start →
          ¬ Relation.ReflTransGen (JoinedTo (tablesOf depotSelections) depotEdges) start (.text name) := by
  have hf : connectivityIssues reverse depotPlan = .ok (["customers", "orders", "parts"].map disconnectedIssue) := by
    rcases joinGraph_depotPlan.connectivityIssues_cases reverse_perm with
      ⟨ho, -⟩ | ⟨-, hno, -⟩ | ⟨-, lost, out, hi, hs, hlo, hl⟩
    · exact absurd ho (by decide)
    · simp [depotEdges] at hno
    · have hp : lost.Perm ["customers", "orders", "parts"] := by
        cases hlo
        have hn := (hl.trans (.cons _ (.swap _ _ _))).map display
        rw [map_map] at hn
        exact (map_id lost).symm ▸ hn
      rw [hi, hp.eq_of_pairwise (fun a b _ _ hab hba => absurd hba (String.lt_asymm hab)) hs (by decide)]
  obtain ⟨is, hi, -, hst⟩ := stray_tables_reported joinGraph_depotPlan reverse_perm
  rw [hf] at hi
  cases hi
  exact ⟨joinGraph_depotPlan, rfl, hf, hst (by simp [depotEdges])⟩

/-! ### Plans whose edges stay among the tables -/

/-- What a plan says about its tables and their joins: the tables selected are names, and the edges stay
among them. -/
structure Joins (plan : Value) (docs : List Value) (edges : List Edge) : Prop where
  selected : itemsOf plan "selections" = .ok docs
  joined : ∃ v, plan.getD "join_edges" (.list []) = .ok v ∧ readEdges v = .ok edges
  names : ∀ t ∈ tablesOf docs, IsName t
  within : ∀ e ∈ edges, e.fromTable ∈ tablesOf docs ∧ e.toTable ∈ tablesOf docs

lemma Edge.read_ok {e : Edge} (h : Edge.read doc = .ok e) :
    e.doc = doc ∧ doc.get "from_table" = .ok e.fromTable ∧ doc.get "to_table" = .ok e.toTable := by
  simp only [Edge.read, bind_ok, pure_ok] at h
  obtain ⟨a, ha, b, hb, a', ha', b', hb', rfl⟩ := h
  rw [← hashable_ok ha', ← hashable_ok hb']
  exact ⟨rfl, ha, hb⟩

lemma readEdges_ok (h : readEdges v = .ok edges) :
    v.items = .ok (edges.map (·.doc)) ∧ (v.truthy = true ↔ edges ≠ []) ∧
      ∀ e ∈ edges, e.doc.get "from_table" = .ok e.fromTable ∧ e.doc.get "to_table" = .ok e.toTable := by
  unfold readEdges at h
  split at h
  case h_1 docs =>
    rw [mapM_ok] at h
    have hdo : docs = edges.map (·.doc) := by
      rw [← forall₂_eq_eq_eq, forall₂_map_right_iff]
      exact h.imp fun d e hd => (Edge.read_ok hd).1.symm
    refine ⟨by rw [items, hdo], ?_, ?_⟩
    · rw [truthy, hdo]
      simp
    · subst hdo
      rw [forall₂_map_left_iff, forall₂_same] at h
      exact fun e he => (Edge.read_ok (h e he)).2
  all_goals cases h
  all_goals simp [items, truthy]

section

variable {plan : Value} {edges : List Edge} (h : Joins plan docs edges)

include h

lemma Joins.graph : JoinGraph plan docs (edges.map (·.doc)) ∧
    JoinedTo (tablesOf docs) (edges.map (·.doc)) = Neighbours (edges.map ends) := by
  obtain ⟨v, hv, hed⟩ := h.joined
  obtain ⟨hi, htr, hr⟩ := readEdges_ok hed
  have hen : ∀ e ∈ edges, e.doc.peek "from_table" = e.fromTable ∧ e.doc.peek "to_table" = e.toTable := fun e he =>
    ⟨(get_ok.1 (hr e he).1).2, (get_ok.1 (hr e he).2).2⟩
  have hte : ∀ t ∈ tablesOf docs, IsText t := fun t ht => (h.names t ht).isText
  refine ⟨⟨h.selected, ⟨v, hv, hi, by simpa using htr⟩, hte, ?_⟩, ?_⟩
  · simp only [mem_map, forall_exists_index, and_imp, forall_apply_eq_imp_iff₂]
    intro e he
    rw [(hen e he).1, (hen e he).2]
    exact ⟨hte _ (h.within e he).1, hte _ (h.within e he).2⟩
  · funext a b
    apply propext
    constructor
    · rintro ⟨-, -, _, hd, heq⟩
      obtain ⟨e, he, rfl⟩ := mem_map.1 hd
      rw [(hen e he).1, (hen e he).2] at heq
      rcases heq with ⟨rfl, rfl⟩ | ⟨rfl, rfl⟩
      · exact .inl (mem_map_of_mem he)
      · exact .inr (mem_map_of_mem he)
    · rintro (hin | hin)
      all_goals
        obtain ⟨e, he, hab⟩ := mem_map.1 hin
        cases hab
      · exact ⟨(h.within e he).1, (h.within e he).2, e.doc, mem_map_of_mem he, .inl (hen e he)⟩
      · exact ⟨(h.within e he).2, (h.within e he).1, e.doc, mem_map_of_mem he, .inr (hen e he)⟩

lemma Joins.selectedTables_eq : selectedTables plan = .ok (distinct (tablesOf docs)) :=
  h.graph.1.selectedTables_eq

/-- The check finds nothing exactly when the tables selected hang together, wherever it starts. -/
lemma connectivityIssues_eq_nil_iff (hwalk : ∀ xs, (walk xs).Perm xs) :
    connectivityIssues walk plan = .ok [] ↔ Connected (edges.map ends) (tablesOf docs) := by
  rw [h.graph.1.connectivityIssues_eq_nil_iff hwalk, connected_iff, h.graph.2]

end

end QueryDesk.Plan
