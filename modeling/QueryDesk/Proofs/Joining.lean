import QueryDesk.Proofs.JoinOrder

/-!
What the ordered edges join. Each edge adds the table that is missing, or nothing if both are there, so joins
can be taken apart edge by edge. Joining a chain adds one table after the other, each on a condition between it
and a table that is there; the edges behind the chain touch none of its tables.
-/

namespace QueryDesk.Sql

open Attempt List Value

/-! ### Joining edges -/

def Clause.table? : Clause → Option Value
  | .source table => some table
  | .join table _ _ _ => some table
  | _ => none

/-- The tables that some clauses bring into a statement, in order. -/
def introduced (clauses : List Clause) : List Value := clauses.filterMap Clause.table?

@[simp] lemma introduced_append (a b : List Clause) : introduced (a ++ b) = introduced a ++ introduced b := by
  simp [introduced]

@[simp] lemma introduced_nil : introduced [] = [] := rfl

@[simp] lemma introduced_join (table : Value) (left right : Reference) (side : Option String)
    (rest : List Clause) : introduced (.join table left right side :: rest) = table :: introduced rest := rfl

lemma introduced_subset_cons (c : Clause) (xs : List Clause) : introduced xs ⊆ introduced (c :: xs) :=
  (sublist_cons_self c xs).filterMap Clause.table? |>.subset

def Edge.fromColumn (e : Edge) : Reference := ⟨e.fromTable, e.doc.peek "from_column"⟩

def Edge.toColumn (e : Edge) : Reference := ⟨e.toTable, e.doc.peek "to_column"⟩

def Edge.kind (e : Edge) : Value := (e.doc.at? "join_type").getD "inner"

/-- What an edge adds to a statement that has the tables `r`. -/
inductive Edge.Adds (r : List Value) (e : Edge) : List Clause → Prop
  | nothing (hfrom : isReached r e.fromTable = true) (hto : isReached r e.toTable = true) : Adds r e []
  | forth {side : Option String} (hfrom : isReached r e.fromTable = true) (hto : isReached r e.toTable = false)
      (hside : joinSide e.kind = .ok side) : Adds r e [.join e.toTable e.fromColumn e.toColumn side]
  | back {side : Option String} (hfrom : isReached r e.fromTable = false) (hto : isReached r e.toTable = true)
      (hside : joinSide e.kind = .ok side) : Adds r e [.join e.fromTable e.toColumn e.fromColumn side]
  /-- The table that it starts from, if none is there: then its condition speaks of a table that is not. -/
  | lone {side : Option String} (hfrom : isReached r e.fromTable = false) (hto : isReached r e.toTable = false)
      (hside : joinSide e.kind = .ok side) : Adds r e [.join e.fromTable e.fromColumn e.toColumn side]

section

variable {r : List Value} {e : Edge} {es a b : List Edge} {cs xs : List Clause}

lemma reach_of_fresh (h : isReached r v = false) : reach r v = r ++ [v] := by
  rw [reach, if_neg (by simp [h])]

/-- Joins are added edge by edge; each sees the tables that were brought in before it. -/
lemma joinClauses_cons : joinClauses r (e :: es) = .ok cs ↔
    e.doc.IsRecord ∧ ∃ xs ys, e.Adds r xs ∧ joinClauses (r ++ introduced xs) es = .ok ys ∧ cs = xs ++ ys := by
  have hk : e.doc.IsRecord → e.doc.getD "join_type" "inner" = .ok e.kind := fun h => h.getD _ _
  constructor
  · intro h
    simp only [joinClauses, bind_ok, exists_get] at h
    obtain ⟨hr, -, kind, hj, h⟩ := h
    rw [hk hr] at hj
    cases hj
    refine ⟨hr, ?_⟩
    rcases hf : isReached r e.fromTable with _ | _ <;> rcases hto : isReached r e.toTable with _ | _ <;>
      simp only [Edge.joined?, hf, hto, bind_ok, pure_ok, reach_of_fresh] at h
    · obtain ⟨side, hs, ys, hys, rfl⟩ := h
      exact ⟨_, ys, .lone hf hto hs, hys, rfl⟩
    · obtain ⟨side, hs, ys, hys, rfl⟩ := h
      exact ⟨_, ys, .back hf hto hs, hys, rfl⟩
    · obtain ⟨side, hs, ys, hys, rfl⟩ := h
      exact ⟨_, ys, .forth hf hto hs, hys, rfl⟩
    · exact ⟨[], cs, .nothing hf hto, by simpa using h, rfl⟩
  · rintro ⟨hr, xs, ys, ha, hys, rfl⟩
    simp only [joinClauses, get_ok.2 ⟨hr, rfl⟩, hk hr, ok_bind]
    cases ha with
    | nothing hf hto => simpa [Edge.joined?, hf, hto] using hys
    | forth hf hto hs | back hf hto hs | lone hf hto hs =>
      simp only [introduced_join, introduced_nil] at hys
      simp only [Edge.joined?, hf, hto, hs, ok_bind, reach_of_fresh, hys]
      rfl

lemma joinClauses_append : joinClauses r (a ++ b) = .ok cs ↔
    ∃ xs ys, joinClauses r a = .ok xs ∧ joinClauses (r ++ introduced xs) b = .ok ys ∧ cs = xs ++ ys := by
  induction a generalizing r cs with
  | nil => simp [joinClauses]
  | cons e a ih =>
    simp only [cons_append, joinClauses_cons, ih]
    constructor
    · rintro ⟨hr, xs, _, ha, ⟨ys, zs, hys, hzs, rfl⟩, rfl⟩
      refine ⟨xs ++ ys, zs, ⟨hr, xs, ys, ha, hys, rfl⟩, ?_, by rw [append_assoc]⟩
      rwa [introduced_append, ← append_assoc]
    · rintro ⟨_, zs, ⟨hr, xs, ys, ha, hys, rfl⟩, hzs, rfl⟩
      rw [introduced_append, ← append_assoc] at hzs
      exact ⟨hr, xs, ys ++ zs, ha, ⟨ys, zs, hys, hzs, rfl⟩, by rw [append_assoc]⟩

lemma joinSide_of_isText (h : IsText v) : ∃ side, joinSide v = .ok side := by
  obtain ⟨word, rfl⟩ := h
  exact ⟨_, rfl⟩

lemma joinClauses_gives (h : ∀ e ∈ es, e.doc.IsRecord ∧ IsText e.kind) : ∃ cs, joinClauses r es = .ok cs := by
  induction es generalizing r with
  | nil => exact ⟨[], rfl⟩
  | cons e es ih =>
    obtain ⟨hr, hk⟩ := h e (by simp)
    obtain ⟨side, hs⟩ := joinSide_of_isText hk
    have ha : ∃ xs, e.Adds r xs := by
      rcases hfr : isReached r e.fromTable with _ | _ <;> rcases hto : isReached r e.toTable with _ | _
      · exact ⟨_, .lone hfr hto hs⟩
      · exact ⟨_, .back hfr hto hs⟩
      · exact ⟨_, .forth hfr hto hs⟩
      · exact ⟨_, .nothing hfr hto⟩
    obtain ⟨xs, hxs⟩ := ha
    obtain ⟨ys, hys⟩ := ih (r := r ++ introduced xs) fun f hf => h f (by simp [hf])
    exact ⟨xs ++ ys, joinClauses_cons.2 ⟨hr, xs, ys, hxs, hys, rfl⟩⟩

lemma joinClauses_mem (h : joinClauses r es = .ok cs) : ∀ c ∈ cs, ∃ e ∈ es, ∃ r', e.Adds r' [c] := by
  induction es generalizing r cs with
  | nil =>
    cases h
    simp
  | cons e es ih =>
    obtain ⟨-, xs, ys, ha, hys, rfl⟩ := joinClauses_cons.1 h
    intro c hc
    rcases mem_append.1 hc with hc | hc
    · refine ⟨e, by simp, r, ?_⟩
      cases ha with
      | nothing => simp at hc
      | forth hfr hto hs | back hfr hto hs | lone hfr hto hs =>
        rw [mem_singleton] at hc
        subst hc
        constructor <;> assumption
    · obtain ⟨f, hf, had⟩ := ih hys c hc
      exact ⟨f, by simp [hf], had⟩

lemma joinClauses_are_joins (h : joinClauses r es = .ok cs) :
    ∀ c ∈ cs, ∃ tb left right side, c = .join tb left right side := by
  intro c hc
  obtain ⟨e, -, r', ha⟩ := joinClauses_mem h c hc
  cases ha <;> exact ⟨_, _, _, _, rfl⟩

/-- Joins that each bring in one new table, on a condition between a table that is there and it. -/
def Attached : List Value → List Clause → Prop
  | _, [] => True
  | r, .join table left right _ :: rest =>
    table ∉ r ∧ left.table ∈ r ∧ right.table = table ∧ Attached (r ++ [table]) rest
  | _, _ :: _ => False

/-- What an edge adds that touches a table in `r`: its other table, on a condition between the two. -/
inductive Edge.Attaches (r : List Value) (e : Edge) : List Clause → Prop
  | nothing (hfrom : e.fromTable ∈ r) (hto : e.toTable ∈ r) : Attaches r e []
  | forth {side : Option String} (hfrom : e.fromTable ∈ r) (hto : e.toTable ∉ r)
      (hside : joinSide e.kind = .ok side) : Attaches r e [.join e.toTable e.fromColumn e.toColumn side]
  | back {side : Option String} (hfrom : e.fromTable ∉ r) (hto : e.toTable ∈ r)
      (hside : joinSide e.kind = .ok side) : Attaches r e [.join e.fromTable e.toColumn e.fromColumn side]

lemma Edge.Adds.attaches (h : e.Adds r cs) (ht : e.touches r = true) (hr : ∀ x ∈ r, IsText x)
    (he : IsText e.fromTable ∧ IsText e.toTable) : e.Attaches r cs := by
  have hin : ∀ {v}, IsText v → isReached r v = true → v ∈ r := fun hv => (isReached_iff hr hv).1
  have ho : ∀ {v}, IsText v → isReached r v = false → v ∉ r := fun hv => (isReached_eq_false_iff hr hv).1
  cases h with
  | nothing hf hto => exact .nothing (hin he.1 hf) (hin he.2 hto)
  | forth hf hto hs => exact .forth (hin he.1 hf) (ho he.2 hto) hs
  | back hf hto hs => exact .back (ho he.1 hf) (hin he.2 hto) hs
  | lone hf hto => simp [Edge.touches, hf, hto] at ht

lemma Edge.Attaches.reach_eq (h : e.Attaches r cs) (hr : ∀ x ∈ r, IsText x)
    (he : IsText e.fromTable ∧ IsText e.toTable) : reach r (e.newEnd r) = r ++ introduced cs := by
  cases h with
  | nothing hf hto =>
    rw [Edge.newEnd, if_pos ((isReached_iff hr he.1).2 hf), (Sql.reach_eq hr he.2).1 hto, introduced_nil, append_nil]
  | forth hf hto =>
    rw [Edge.newEnd, if_pos ((isReached_iff hr he.1).2 hf), (Sql.reach_eq hr he.2).2 hto]
    rfl
  | back hf hto =>
    have hn : ¬ isReached r e.fromTable = true := by rwa [isReached_iff hr he.1]
    rw [Edge.newEnd, if_neg hn, (Sql.reach_eq hr he.1).2 hf]
    rfl

lemma Edge.Attaches.attached (h : e.Attaches r cs) (hxs : Attached (r ++ introduced cs) xs) :
    Attached r (cs ++ xs) := by
  cases h with
  | nothing => simpa using hxs
  | forth hf hto => exact ⟨hto, hf, rfl, hxs⟩
  | back hf hto => exact ⟨hf, hto, rfl, hxs⟩

/-- A chain of edges attaches one table after the other, and brings in the tables that the ordering reaches. -/
lemma joinClauses_chained (hr : ∀ x ∈ r, IsText x) (hes : TextEnds es) (hc : Chained r es)
    (h : joinClauses r es = .ok cs) : Attached r cs ∧ grown r es = r ++ introduced cs := by
  induction es generalizing r cs with
  | nil =>
    cases h
    exact ⟨trivial, by simp [grown]⟩
  | cons e es ih =>
    obtain ⟨-, xs, ys, had, hys, rfl⟩ := joinClauses_cons.1 h
    obtain ⟨ht, hre⟩ := hc
    have he := hes e (by simp)
    have hat := had.attaches ht hr he
    have hm := hat.reach_eq hr he
    have hte : ∀ x ∈ r ++ introduced xs, IsText x := hm ▸ names_reach hr (e.text_ends he r).1
    rw [hm] at hre
    obtain ⟨ha, hgr⟩ := ih hte (fun f hf => hes f (by simp [hf])) hre hys
    refine ⟨hat.attached ha, ?_⟩
    calc grown r (e :: es) = grown (reach r (e.newEnd r)) es := rfl
      _ = r ++ introduced xs ++ introduced ys := by rw [hm, hgr]
      _ = r ++ introduced (xs ++ ys) := by rw [introduced_append, append_assoc]

end

/-! ### Chains -/

/-- A join graph whose tables are texts: the table that joins start from, and edges with the ends that their
documents name. -/
structure TextGraph (base : Value) (edges : List Edge) : Prop where
  base : IsText base
  ends : TextEnds edges
  told : ∀ e ∈ edges, e.Told

/-- How joins come from edges: the edges that could be taken join one table after the other, those that were left
over follow. -/
structure Chain (base : Value) (edges : List Edge) (joins : List Clause) (taken stuck : List Edge)
    (xs ys : List Clause) : Prop where
  last : Sorting.pass^[edges.length] (.start base edges) = ⟨grown [base] taken, taken, stuck⟩
  ordered : orderEdges base edges = taken ++ stuck
  rearranged : Rearranged (taken ++ stuck) edges
  chained : Chained [base] taken
  untouched : ∀ e ∈ stuck, e.touches (grown [base] taken) = false
  joins : joins = xs ++ ys
  first : joinClauses [base] taken = .ok xs
  attached : Attached [base] xs
  reached : grown [base] taken = base :: introduced xs
  rest : joinClauses (grown [base] taken) stuck = .ok ys

section

variable {base : Value} {edges taken stuck : List Edge} {joins xs ys : List Clause}

lemma TextGraph.ends_eq (hg : TextGraph base edges) : ∀ a ∈ edges, ∀ b ∈ edges, a.Alike b →
    (a.fromTable, a.toTable) = (b.fromTable, b.toTable) := fun a ha b hb hal =>
  Prod.ext_iff.2 (hal.ends_eq (hg.told a ha) (hg.told b hb) (hg.ends a ha) (hg.ends b hb))

lemma TextGraph.chain (hg : TextGraph base edges) (h : joinClauses [base] (orderEdges base edges) = .ok joins) :
    ∃ taken stuck xs ys, Chain base edges joins taken stuck xs ys := by
  obtain ⟨taken, stuck, hl, ho, hr, hch, hu⟩ := orderEdges_spec base edges
  have ht : TextEnds taken := fun e he => hg.ends e (hr.within (mem_append_left _ he))
  rw [ho] at h
  obtain ⟨xs, ys, hxs, hys, hj⟩ := joinClauses_append.1 h
  obtain ⟨ha, hre⟩ := joinClauses_chained (by simpa using hg.base) ht hch hxs
  exact ⟨taken, stuck, xs, ys, hl, ho, hr, hch, hu, hj, hxs, ha, hre,
    hre ▸ hys⟩

section

variable (hc : Chain base edges joins taken stuck xs ys) (hg : TextGraph base edges)

include hc hg

lemma Chain.texts : TextEnds (taken ++ stuck) := fun e he => hg.ends e (hc.rearranged.within he)

lemma Chain.spread : Reaches [base] taken (grown [base] taken) :=
  reaches_grown (by simpa using hg.base) (by simp) (fun e he => hc.texts hg e (mem_append_left _ he)) hc.chained

lemma Chain.not_mem_of_stuck
    (he : e ∈ stuck) : e.fromTable ∉ grown [base] taken ∧ e.toTable ∉ grown [base] taken := by
  have hr := (hc.spread hg).texts
  obtain ⟨hf, hto⟩ := hc.texts hg e (mem_append_right _ he)
  have ht := hc.untouched e he
  rw [Edge.touches, Bool.or_eq_false_iff, isReached_eq_false_iff hr hf, isReached_eq_false_iff hr hto] at ht
  exact ht

lemma Chain.closed
    (he : e ∈ edges) : e.fromTable ∈ grown [base] taken ↔ e.toTable ∈ grown [base] taken := by
  -- the ordering may hold an equal edge in its place, with the same ends
  have hm := (hc.rearranged.perm (fun e => (e.fromTable, e.toTable)) hg.ends_eq).mem_iff.2 (mem_map_of_mem he)
  obtain ⟨f, hf, hen⟩ := mem_map.1 hm
  rw [Prod.mk.injEq] at hen
  obtain ⟨hfr, hto⟩ := hen
  rw [← hfr, ← hto]
  rcases mem_append.1 hf with hf | hf
  · exact iff_of_true ((hc.spread hg).both f hf).1 ((hc.spread hg).both f hf).2
  · obtain ⟨hn, hnt⟩ := hc.not_mem_of_stuck hg hf
    exact iff_of_false hn hnt

end

end

end QueryDesk.Sql
