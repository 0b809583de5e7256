import Mathlib.Data.List.Nodup
import Mathlib.Data.List.Perm.Subperm
import QueryDesk.Proofs.LinkedTables

/-!
The mapping tables that a selection leads to. The facts about a table name its mapping tables, and these have facts of
their own: the selection grows, pass after pass, until a pass finds nothing new. Every pass but the last finds a table of
the schema, so there are at most as many of them as tables; what is found is the least set of names that holds the
selected ones and the mapping tables, as far as the schema has them, of its members.
-/

namespace QueryDesk.Schema

open Attempt Value List Sql

variable {e : Value} {facts : Value} {selected tables names found : List Value} {known : Keyed Value}
  {walk : List Value → List Value} {k : Nat}

/-- Facts about tables, by name: in each the mapping tables, if they are given, are a list of texts. -/
structure TableFacts (facts : Value) : Prop where
  record : facts.IsRecord
  records : ∀ name fact, facts.at? name = some fact → fact.IsRecord
  lists : ∀ name fact ms, facts.at? name = some fact → fact.at? "mapping_tables" = some ms →
    ∃ vs, ms = .list vs ∧ ∀ v ∈ vs, IsText v

/-- The facts about one table list the other among its mapping tables. -/
def Maps (facts a b : Value) : Prop :=
  ∃ name fact vs, a = .text name ∧ facts.at? name = some fact ∧ fact.at? "mapping_tables" = some (.list vs) ∧ b ∈ vs

/-- The least set of names with the selected ones and, as far as the schema has them, the mapping tables of its
members. -/
inductive Mapped (selected tables : List Value) (facts : Value) : Value → Prop
  | selected {n : Value} (h : n ∈ tableNames selected) : Mapped selected tables facts n
  | mapping {a b : Value} (member : Mapped selected tables facts a) (maps : Maps facts a b)
      (known : b ∈ tableNames tables) : Mapped selected tables facts b

/-- Passes until one finds nothing new: so many of them, and the names that are known at the end. -/
inductive Rounds (walk : List Value → List Value) (facts : Value) (known : Keyed Value) :
    List Value → Nat → List Value → Prop
  | last {names : List Value} {g : Growth} (pass : mappingPass walk facts known names = .ok g) (none : g.fresh = []) :
      Rounds walk facts known names 1 g.names
  | next {names found : List Value} {g : Growth} {k : Nat} (pass : mappingPass walk facts known names = .ok g)
      (some : g.fresh ≠ []) (rest : Rounds walk facts known g.names k found) :
      Rounds walk facts known names (k + 1) found

lemma Rounds.passes (h : Rounds walk facts known names k found) :
    ∀ {fuel : Nat}, k ≤ fuel → mappingPasses walk facts known fuel names = .ok found := by
  induction h with
  | last pass none =>
    intro fuel hf
    obtain ⟨fuel, rfl⟩ := Nat.exists_eq_add_one_of_ne_zero (Nat.ne_of_gt hf)
    rw [mappingPasses, pass, ok_bind, none]
    rfl
  | next pass some _ ih =>
    intro fuel hf
    obtain ⟨fuel, rfl⟩ := Nat.exists_eq_add_one_of_ne_zero (Nat.ne_of_gt (Nat.zero_lt_of_lt hf))
    rw [mappingPasses, pass, ok_bind, if_neg (by simpa using some), ih (Nat.le_of_succ_le_succ hf)]

/-! ### One pass -/

lemma TableFacts.mappingsOf_eq (h : TableFacts facts) (ha : IsText a) :
    ∃ vs, mappingsOf facts a = .ok vs ∧ (∀ v ∈ vs, IsText v) ∧ ∀ b, b ∈ vs ↔ Maps facts a b := by
  obtain ⟨name, rfl⟩ := ha
  have hlo : facts.lookupD (.text name) (.record []) = .ok ((facts.at? name).getD (.record [])) := by
    obtain ⟨fs, rfl⟩ := h.record
    rfl
  rw [mappingsOf, hlo, ok_bind]
  cases hf : facts.at? name with
  | none => exact ⟨[], rfl, by simp, by simp [Maps, hf]⟩
  | some fact =>
    rw [Option.getD_some, (h.records name fact hf).getD, ok_bind]
    cases hl : fact.at? "mapping_tables" with
    | none => exact ⟨[], rfl, by simp, by simp [Maps, hf, hl]⟩
    | some ms =>
      obtain ⟨vs, rfl, ht⟩ := h.lists name fact ms hf hl
      exact ⟨vs, rfl, ht, by simp [Maps, hf, hl]⟩

lemma mappingPass_grown (hw : ∀ xs, (walk xs).Perm xs) (hta : AllTexts tables)
    (hk : Collected tables id known) (hf : TableFacts facts) (hn : ∀ n ∈ names, IsText n) :
    ∃ g, mappingPass walk facts known names = .ok g ∧
      Grown tables ⟨names, []⟩ (fun n => ∃ t ∈ names, Maps facts t n) g := by
  refine pass_grown hta hw hk hn fun t ht => ?_
  obtain ⟨vs, hvs, hte, hm⟩ := hf.mappingsOf_eq (hn t ht)
  exact ⟨vs, hvs, hte, fun m _ => hm m⟩

/-! ### All passes -/

/-- Names met on the way: each once, all of them in the least set, the selected ones among them. -/
structure Underway (selected tables : List Value) (facts : Value) (names : List Value) : Prop where
  nodup : names.Nodup
  start : tableNames selected ⊆ names
  mapped : ∀ n ∈ names, Mapped selected tables facts n

section

variable (h : Underway selected tables facts names)
  (hgr : Grown tables ⟨names, []⟩ (fun n => ∃ t ∈ names, Maps facts t n) g)

include h hgr

lemma Underway.next : Underway selected tables facts g.names := by
  refine ⟨hgr.nodup h.nodup, fun n hn => (hgr.names n).2 (.inl (h.start hn)), fun n hn => ?_⟩
  rcases (hgr.names n).1 hn with hn | ⟨⟨t, ht, hm⟩, hk⟩
  · exact h.mapped n hn
  · exact .mapping (h.mapped t ht) hm hk

lemma Underway.whole (hno : g.fresh = []) (hn : Mapped selected tables facts n) : n ∈ names := by
  induction hn with
  | selected hn => exact h.start hn
  | @mapping a b _ hm hk ih =>
    by_contra ho
    have hf := (hgr.fresh b).2 (.inr ⟨ho, ⟨a, ih, hm⟩, hk⟩)
    rw [hno] at hf
    cases hf

lemma Underway.longer (hs : g.fresh ≠ []) : names.length < g.names.length := by
  obtain ⟨x, hx⟩ := exists_mem_of_ne_nil _ hs
  obtain ⟨hne, hm⟩ := ((hgr.fresh x).1 hx).resolve_left not_mem_nil
  have hsu : x :: names ⊆ g.names := cons_subset.2 ⟨(hgr.names x).2 (.inr hm),
    fun n hn => (hgr.names n).2 (.inl hn)⟩
  exact (subperm_of_subset (nodup_cons.2 ⟨hne, h.nodup⟩) hsu).length_le

end

lemma isText_of_mapped (hs : AllTexts selected) (ht : AllTexts tables)
    (h : Mapped selected tables facts n) : IsText n := by
  cases h with
  | selected h => exact isText_of_mem hs h
  | mapping _ _ known => exact isText_of_mem ht known

/-- The rounds end: each but the last meets more names, and there are only so many names to meet. -/
lemma rounds_end (hw : ∀ xs, (walk xs).Perm xs) (hse : AllTexts selected) (ht : AllTexts tables)
    (hkn : Collected tables id known) (hf : TableFacts facts) (bound : List Value)
    (hb : tableNames tables ⊆ bound) (left : Nat) : ∀ {names : List Value}, Underway selected tables facts names →
      names ⊆ bound → bound.length ≤ names.length + left →
      ∃ k ≤ left + 1, ∃ found, Rounds walk facts known names k found ∧ found.Nodup ∧
        ∀ n, n ∈ found ↔ Mapped selected tables facts n := by
  induction left using Nat.strongRecOn with
  | ind left ih =>
    intro names h hin hle
    obtain ⟨g, hp, hgr⟩ := mappingPass_grown hw ht hkn hf fun n hn =>
      isText_of_mapped hse ht (h.mapped n hn)
    have hne := h.next hgr
    rcases eq_or_ne g.fresh [] with hno | hs
    · refine ⟨1, by omega, g.names, .last hp hno, hne.nodup, fun n => ⟨hne.mapped n, fun hn => ?_⟩⟩
      exact (hgr.names n).2 (.inl (h.whole hgr hno hn))
    · have hg : g.names ⊆ bound := by
        intro n hn
        rcases (hgr.names n).1 hn with hn | ⟨-, hn⟩
        · exact hin hn
        · exact hb hn
      have hl := h.longer hgr hs
      have hsh := (subperm_of_subset hne.nodup hg).length_le
      obtain ⟨k, hk, found, hr, hfo⟩ := ih (left - 1) (by omega) hne hg (by omega)
      exact ⟨k + 1, by omega, found, .next hp hs hr, hfo⟩

/-! ### The tables found -/

lemma setOf_of_texts (h : ∀ n ∈ names, IsText n) : Value.setOf names = .ok (distinct names) := by
  rw [Value.setOf, mapM_eq_map (g := fun n => n) fun n hn => (h n hn).hashable, map_id']
  rfl

lemma lastEntry_of_mem (h : AllTexts tables) (hd : (tableNames tables).Nodup) (he : e ∈ tables) :
    lastEntry tables (e.peek "table_name") = some e := by
  obtain ⟨e', he'⟩ := exists_lastEntry h (mem_map_of_mem he)
  obtain ⟨hin, hn⟩ := lastEntry_eq_some h (h e he) he'
  rw [he', inj_on_of_nodup_map hd hin he hn]

/-- The entries that are found under some names have names among them, in the same order. -/
lemma tableNames_filterMap_sublist
    (h : ∀ n ∈ names, ∀ e, find n = some e → e.peek "table_name" = n) :
    (tableNames (names.filterMap find)).Sublist names := by
  induction names with
  | nil => exact .slnil
  | cons n names ih =>
    have ih := ih fun m hm => h m (by simp [hm])
    cases hn : find n with
    | none => simpa [hn] using ih.cons n
    | some e =>
      rw [filterMap_cons_some hn, tableNames, map_cons, h n (by simp) e hn]
      exact ih.cons_cons n

/-- The passes end by themselves, and the tables found are those of the least set, each once. -/
theorem withMappings_finds_mapped (walk : List Value → List Value) (hwalk : ∀ xs, (walk xs).Perm xs)
    (selected tables : List Value) (hselected : AllTexts selected) (htables : AllTexts tables)
    (hdistinct : (tableNames tables).Nodup) (facts : Value) (hfacts : TableFacts facts) (hsome : facts.truthy = true) :
    ∃ known k names found, byName tables = .ok known ∧ k ≤ tables.length + 1 ∧
      Rounds walk facts known (distinct (tableNames selected)) k names ∧
      withMappings walk (.list selected) (.list tables) facts = .ok (.list found) ∧ (tableNames found).Nodup ∧
      ∀ e, e ∈ found ↔ e ∈ tables ∧ Mapped selected tables facts (e.peek "table_name") := by
  obtain ⟨known, hkn, hc⟩ := byName_eq htables
  have hs : ∀ n, n ∈ distinct (tableNames selected) ↔ n ∈ tableNames selected := fun n =>
    mem_distinct fun x hx => isText_of_mem hselected hx
  have hsi : known.length = tables.length := by
    have hke : (Keyed.keys known).length = (tableNames tables).length := by
      refine Perm.length_eq ((perm_ext_iff_of_nodup ?_ hdistinct).2 fun n => hc.mem_keys htables)
      rw [hc.keys]
      exact nodup_distinct fun x hx => isText_of_mem htables hx
    simpa [Keyed.keys, tableNames] using hke
  obtain ⟨k, hk, names, hr, hno, hna⟩ := rounds_end hwalk hselected htables hc hfacts
    (distinct (tableNames selected) ++ tableNames tables) (subset_append_right _ _) tables.length
    ⟨nodup_distinct fun x hx => isText_of_mem hselected hx, fun n hn => (hs n).2 hn,
      fun n hn => .selected ((hs n).1 hn)⟩ (subset_append_left _ _) (by simp [tableNames])
  have hf : ∀ n ∈ walk names, Keyed.find? known n = lastEntry tables n := by
    intro n hn
    have hm := (hna n).1 ((hwalk names).mem_iff.1 hn)
    rw [hc.find n (isText_of_mapped hselected htables hm), Option.map_id, id]
  have hl : ∀ n ∈ walk names, ∀ e, lastEntry tables n = some e → e ∈ tables ∧ e.peek "table_name" = n := by
    intro n hn e he
    exact lastEntry_eq_some htables (isText_of_mapped hselected htables
      ((hna n).1 ((hwalk names).mem_iff.1 hn))) he
  refine ⟨known, k, names, (walk names).filterMap (Keyed.find? known), hkn, hk, hr, ?_, ?_, fun e => ?_⟩
  · rw [withMappings, if_pos hsome]
    show (byName tables >>= _) = _
    rw [hkn, ok_bind]
    show (selected.mapM (·.get "table_name") >>= _) = _
    rw [mapM_eq_map (g := (·.peek "table_name")) fun e he => (hselected e he).get, ok_bind]
    show (Value.setOf (tableNames selected) >>= _) = _
    rw [setOf_of_texts fun n hn => isText_of_mem hselected hn, ok_bind, hr.passes (by omega)]
    rfl
  · rw [filterMap_congr hf]
    exact (tableNames_filterMap_sublist fun n hn e he => (hl n hn e he).2).nodup ((hwalk names).nodup_iff.2 hno)
  · rw [filterMap_congr hf, mem_filterMap]
    constructor
    · rintro ⟨n, hn, he⟩
      obtain ⟨hin, rfl⟩ := hl n hn e he
      exact ⟨hin, (hna _).1 ((hwalk names).mem_iff.1 hn)⟩
    · rintro ⟨hin, hm⟩
      exact ⟨_, (hwalk names).mem_iff.2 ((hna _).2 hm), lastEntry_of_mem htables hdistinct hin⟩

def mappingFacts (xs : List (String × List String)) : Value :=
  .record (xs.map fun x => (x.1, .record [("mapping_tables", .list (x.2.map .text))]))

lemma tableFacts_map (xs : List (String × List String)) : TableFacts (mappingFacts xs) := by
  have hf : ∀ name fact, (mappingFacts xs).at? name = some fact →
      ∃ ts : List String, fact = .record [("mapping_tables", .list (ts.map .text))] := by
    intro name fact h
    obtain ⟨pre, after, heq, -⟩ := lookup_eq_some_iff.1 h
    obtain ⟨x, -, hx⟩ := mem_map.1 (heq ▸ mem_append_right pre mem_cons_self)
    exact ⟨x.2, (Prod.ext_iff.1 hx).2.symm⟩
  refine ⟨⟨_, rfl⟩, fun name fact h => ?_, fun name fact ms h hms => ?_⟩
  · obtain ⟨ts, rfl⟩ := hf name fact h
    exact ⟨_, rfl⟩
  · obtain ⟨ts, rfl⟩ := hf name fact h
    cases hms
    exact ⟨_, rfl, by simp [IsText]⟩

/-- A view that the schema does not have leads to the labels, these to the tags and to a table that is gone, and the tags
back to the labels; the notes stay out. -/
theorem withMappings_finds_mapped_tags :
    let selected := [("overview", "id")].map fun t => tableEntry t.1 t.2
    let tables := [("labels", "id"), ("tags", "id"), ("notes", "id")].map fun t => tableEntry t.1 t.2
    let facts := mappingFacts [("overview", ["labels"]), ("labels", ["tags", "archive"]), ("tags", ["labels"])]
    facts.truthy = true ∧ ∃ known k names found, byName tables = .ok known ∧ k ≤ tables.length + 1 ∧
      Rounds reverse facts known (distinct (tableNames selected)) k names ∧
      withMappings reverse (.list selected) (.list tables) facts = .ok (.list found) ∧ (tableNames found).Nodup ∧
      ∀ e, e ∈ found ↔ e ∈ tables ∧ Mapped selected tables facts (e.peek "table_name") :=
  ⟨rfl, withMappings_finds_mapped reverse reverse_perm _ _ (by decide +kernel) (by decide +kernel)
    (by simp [tableNames, tableEntry, peek]) _ (tableFacts_map _) rfl⟩

end QueryDesk.Schema
