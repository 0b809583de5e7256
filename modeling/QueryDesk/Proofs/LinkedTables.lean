import QueryDesk.Proofs.KeyedValues
import QueryDesk.Schema.Expansion

/-!
The tables that foreign keys link to a selection. The program searches level by level from the selected names; what it
finds is said here without the search: the names within so many links of a selected one (`Reaches`). A link leads from a
table to one that its foreign keys name, or back, and every table after the first is one of the schema's.
-/

namespace QueryDesk.Schema

open Attempt Value List Sql

variable {n e : Value} {depth k : Nat} {value : Value → Value} {known : Keyed Value}
  {selected tables keys names : List Value} {xs : List α} {walk : List Value → List Value}

def tableNames (entries : List Value) : List Value := entries.map (·.peek "table_name")

def lastEntry (entries : List Value) (name : Value) : Option Value :=
  entries.reverse.find? (·.peek "table_name" == name)

def AllTexts (entries : List Value) : Prop := ∀ e ∈ entries, IsText (e.peek "table_name")

def AllNamed (entries : List Value) : Prop := ∀ e ∈ entries, IsName (e.peek "table_name")

instance (entries : List Value) : Decidable (AllTexts entries) := List.decidableBAll _ _

instance (entries : List Value) : Decidable (AllNamed entries) := List.decidableBAll _ _

def keysIn : Value → List Value
  | .list ks => ks
  | _ => []

/-- The table that a foreign key points to; empty if it names none. -/
def target (k : Value) : Value := (k.at? "primary_key_table").getD ""

/-- A list of foreign keys: objects, each of which names a table by a text if it names one at all. -/
structure KeyList (v : Value) : Prop where
  items : v = .list (keysIn v)
  records : ∀ k ∈ keysIn v, k.IsRecord
  targets : ∀ k ∈ keysIn v, (target k).truthy = true → IsText (target k)

/-- The last entry of one table lists a foreign key to the other. -/
def PointsTo (keys : List Value) (a b : Value) : Prop :=
  ∃ e, lastEntry keys a = some e ∧ ∃ k ∈ keysIn (e.peek "foreign_keys"), target k = b

/-- A foreign key links two tables, in whichever direction. -/
def Linked (keys : List Value) (a b : Value) : Prop := PointsTo keys a b ∨ PointsTo keys b a

/-- A path of so many links from a table to another; every table after the first is in the schema. -/
inductive LinkPath (tables keys : List Value) (start : Value) : Nat → Value → Prop
  | here : LinkPath tables keys start 0 start
  | link {k : Nat} {a b : Value} (path : LinkPath tables keys start k a) (linked : Linked keys a b)
      (known : b ∈ tableNames tables) : LinkPath tables keys start (k + 1) b

/-- A path of at most `depth` links leads from a selected table to the name. -/
def Reaches (selected tables keys : List Value) (depth : Nat) (name : Value) : Prop :=
  ∃ start ∈ tableNames selected, ∃ k ≤ depth, LinkPath tables keys start k name

section

variable {selected tables keys : List Value}

lemma reaches_zero : Reaches selected tables keys 0 n ↔ n ∈ tableNames selected := by
  constructor
  · rintro ⟨start, hs, k, hk, hp⟩
    obtain rfl := Nat.le_zero.1 hk
    cases hp
    exact hs
  · exact fun h => ⟨n, h, 0, Nat.le_refl 0, .here⟩

lemma reaches_succ : Reaches selected tables keys (depth + 1) n ↔ Reaches selected tables keys depth n ∨
      (∃ m, Reaches selected tables keys depth m ∧ Linked keys m n) ∧ n ∈ tableNames tables := by
  constructor
  · rintro ⟨start, hs, k, hk, hp⟩
    cases hp with
    | here => exact .inl ⟨_, hs, 0, Nat.zero_le _, .here⟩
    | link path linked known =>
      exact .inr ⟨⟨_, ⟨start, hs, _, Nat.le_of_succ_le_succ hk, path⟩, linked⟩, known⟩
  · rintro (⟨start, hs, k, hk, hp⟩ | ⟨⟨m, ⟨start, hs, k, hk, hp⟩, hl⟩, hkn⟩)
    · exact ⟨start, hs, k, Nat.le_succ_of_le hk, hp⟩
    · exact ⟨start, hs, k + 1, Nat.succ_le_succ hk, hp.link hl hkn⟩

end

/-! ### Entries under their names -/

section

variable {entries : List Value} {name : Value}

lemma isName_of_mem (h : AllNamed entries) (hn : n ∈ tableNames entries) : IsName n := by
  obtain ⟨e, he, rfl⟩ := mem_map.1 hn
  exact h e he

lemma AllNamed.texts (h : AllNamed entries) : AllTexts entries := fun e he => (h e he).isText

lemma isText_of_mem (h : AllTexts entries) (hn : n ∈ tableNames entries) : IsText n := by
  obtain ⟨e, he, rfl⟩ := mem_map.1 hn
  exact h e he

lemma lastEntry_eq_some (h : AllTexts entries) (hn : IsText name) (he : lastEntry entries name = some e) :
    e ∈ entries ∧ e.peek "table_name" = name := by
  have hm := mem_reverse.1 (mem_of_find?_eq_some he)
  have hs : (e.peek "table_name" == name) = true := by simpa using find?_some he
  exact ⟨hm, (Telling.beq_iff (h e hm) hn).1 hs⟩

lemma exists_lastEntry (h : AllTexts entries) (hn : name ∈ tableNames entries) : ∃ e, lastEntry entries name = some e := by
  obtain ⟨e, he, rfl⟩ := mem_map.1 hn
  refine Option.isSome_iff_exists.1 (find?_isSome.2 ⟨e, mem_reverse.2 he, ?_⟩)
  exact (Telling.beq_iff (h e he) (h e he)).2 rfl

/-- Entries collected under their names: each name once, with the last of its entries. -/
structure Collected (entries : List Value) (value : Value → Value) (known : Keyed Value) : Prop where
  keys : Keyed.keys known = distinct (tableNames entries)
  find : ∀ n, IsText n → Keyed.find? known n = (lastEntry entries n).map value

lemma collect_eq (h : AllTexts entries)
    (hen : ∀ e ∈ entries, entry e = .ok (e.peek "table_name", value e)) :
    ∃ known, Keyed.collect entry entries = .ok known ∧ Collected entries value known := by
  refine ⟨_, foldlM_eq_foldl (g := fun known e => Keyed.put known (e.peek "table_name") (value e)) ?_ [], ?_, ?_⟩
  · intro e he known
    rw [hen e he, ok_bind]
    show ((e.peek "table_name").hashable >>= fun key => pure (Keyed.put known key (value e))) = _
    rw [(h e he).hashable]
    rfl
  · rw [Keyed.keys_foldl_put, distinct_eq_foldl]
    rfl
  · intro n hn
    rw [Keyed.find?_foldl_put (by simp [Keyed.Texts]) h hn]
    exact Option.or_none

lemma byName_eq (h : AllTexts entries) : ∃ known, byName entries = .ok known ∧ Collected entries id known := by
  refine collect_eq h fun e he => ?_
  rw [(h e he).get]
  rfl

lemma Collected.mem_keys (hc : Collected entries value known)
    (h : AllTexts entries) : n ∈ Keyed.keys known ↔ n ∈ tableNames entries := by
  rw [hc.keys, mem_distinct fun x hx => isText_of_mem h hx]

lemma Collected.has_iff (hc : Collected entries value known)
    (h : AllTexts entries) (hn : IsText name) : Keyed.has known name = true ↔ name ∈ tableNames entries := by
  rw [Keyed.has_eq_isReached, ← hc.mem_keys h]
  exact isReached_iff (fun x hx => isText_of_mem h ((hc.mem_keys h).1 hx)) hn

lemma isName_of_reaches (hse : AllNamed selected) (htables : AllNamed tables)
    (h : Reaches selected tables keys depth n) : IsName n := by
  obtain ⟨start, hs, k, -, hp⟩ := h
  cases hp with
  | here => exact isName_of_mem hse hs
  | link _ _ known => exact isName_of_mem htables known

lemma mem_tableNames_of_reaches (hse : AllNamed selected)
    (h : Reaches selected tables keys depth n) (hl : lastEntry selected n = none) : n ∈ tableNames tables := by
  obtain ⟨start, hs, k, -, hp⟩ := h
  cases hp with
  | here =>
    obtain ⟨e, he⟩ := exists_lastEntry hse.texts hs
    rw [hl] at he
    cases he
  | link _ _ known => exact known

lemma entries_of_names {P : Value → Value → Prop}
    (h : ∀ n ∈ names, ∃ e, find n = some e ∧ e.peek "table_name" = n ∧ P n e) :
    tableNames (names.filterMap find) = names ∧ ∀ e ∈ names.filterMap find, P (e.peek "table_name") e := by
  induction names with
  | nil => simp [tableNames]
  | cons n names ih =>
    obtain ⟨e, he, hn, hp⟩ := h n (by simp)
    obtain ⟨hna, ha⟩ := ih fun m hm => h m (by simp [hm])
    rw [filterMap_cons_some he]
    refine ⟨?_, forall_mem_cons.2 ⟨by rwa [hn], ha⟩⟩
    rw [tableNames, map_cons, ← tableNames, hna, hn]

end

/-! ### The links of a table -/

section

variable {keys : List Value} {links : Keyed Value}

lemma linksByTable_eq (h : AllNamed keys) (hl : ∀ e ∈ keys, KeyList (e.peek "foreign_keys")) :
    ∃ links, linksByTable keys = .ok links ∧ Collected keys (·.peek "foreign_keys") links := by
  refine collect_eq h.texts fun e he => ?_
  have hli : e.at? "foreign_keys" = some (e.peek "foreign_keys") := by
    cases hat : e.at? "foreign_keys" with
    | some x => rw [peek_eq_at?, hat, Option.getD_some]
    | none =>
      have hi := (hl e he).items
      rw [peek_eq_at?, hat] at hi
      cases hi
  rw [((h e he).isText).field, ok_bind, field_of_at? hli]
  rfl

/-- The tables that the keys of one table point to, each with that table. -/
def pairsFrom (l : Value × Value) : List (Value × Value) :=
  (keysIn l.2).filterMap fun k => if (target k).truthy then some (target k, l.1) else none

lemma mem_gathered (ha : IsText a) {ps : List (Value × Value)} (hps : ∀ p ∈ ps, IsText p.1) :
    ∀ {known : Keyed (List Value)}, Keyed.Texts known → (b ∈ (Keyed.find? (ps.foldl (fun known p =>
        Keyed.put known p.1 ((Keyed.find? known p.1).getD [] ++ [p.2])) known) a).getD [] ↔
        b ∈ (Keyed.find? known a).getD [] ∨ (a, b) ∈ ps) := by
  induction ps with
  | nil => simp
  | cons p ps ih =>
    intro known hk
    obtain ⟨hp, hr⟩ := forall_mem_cons.1 hps
    rw [foldl_cons, ih hr (Keyed.texts_put hk hp), Keyed.find?_put hk hp ha, mem_cons, ← or_assoc]
    obtain ⟨c, d⟩ := p
    by_cases hs : c = a
    · subst hs
      simp [(hp.beq_iff hp).2 rfl]
    · simp [mt (hp.beq_iff ha).1 hs, Ne.symm hs]

lemma mem_pairsFrom (ha : IsName a) :
    (a, b) ∈ pairsFrom l ↔ b = l.1 ∧ ∃ k ∈ keysIn l.2, target k = a := by
  rw [pairsFrom, mem_filterMap]
  constructor
  · rintro ⟨k, hk, heq⟩
    split at heq
    · cases heq
      exact ⟨rfl, k, hk, rfl⟩
    · cases heq
  · rintro ⟨rfl, k, hk, rfl⟩
    exact ⟨k, hk, if_pos ha.truthy⟩

lemma referrers_eq (hls : ∀ l ∈ links, KeyList l.2) : ∃ back, referrers links = .ok back ∧
    ∀ a b, IsName a → (b ∈ (Keyed.find? back a).getD [] ↔ ∃ v, (b, v) ∈ links ∧ ∃ k ∈ keysIn v, target k = a) := by
  have hpa : ∀ l ∈ links, (do
      (← l.2.items).filterMapM fun k => do
        let target ← k.getD "primary_key_table" ""
        if target.truthy then return some (← target.hashable, l.1) else return none) =
      (.ok (pairsFrom l) : Attempt (List (Value × Value))) := by
    intro l hl
    have hli := hls l hl
    have hi : l.2.items = .ok (keysIn l.2) := by rw [hli.items]; rfl
    rw [hi, ok_bind]
    refine filterMapM_eq_filterMap fun k hk => ?_
    rw [(hli.records k hk).getD, ok_bind, ← target]
    split
    · next ht =>
      rw [(hli.targets k hk ht).hashable]
      rfl
    · rfl
  have hte : ∀ p ∈ (links.map pairsFrom).flatten, IsText p.1 := by
    intro p hp
    obtain ⟨_, hin, hp⟩ := mem_flatten.1 hp
    obtain ⟨l, hl, rfl⟩ := mem_map.1 hin
    obtain ⟨k, hk, heq⟩ := mem_filterMap.1 hp
    split at heq
    · next ht =>
      cases heq
      exact (hls l hl).targets k hk ht
    · cases heq
  rw [referrers, mapM_eq_map hpa]
  refine ⟨_, rfl, fun a b ha => ?_⟩
  rw [mem_gathered ha.isText hte (by simp [Keyed.Texts])]
  simp only [Keyed.find?, find?_nil, Option.map_none, Option.getD_none, not_mem_nil, false_or, mem_flatten, mem_map]
  constructor
  · rintro ⟨_, ⟨l, hl, rfl⟩, hin⟩
    obtain ⟨rfl, hke⟩ := (mem_pairsFrom ha).1 hin
    exact ⟨l.2, hl, hke⟩
  · rintro ⟨v, hl, hke⟩
    exact ⟨_, ⟨(b, v), hl, rfl⟩, (mem_pairsFrom ha).2 ⟨rfl, hke⟩⟩

/-- Foreign keys whose entries are named. -/
structure KeyEntries (keys : List Value) : Prop where
  named : AllNamed keys
  lists : ∀ e ∈ keys, KeyList (e.peek "foreign_keys")

/-- The index of the foreign keys, followed ahead and back, gives the links of each table. -/
def Follows (keys : List Value) (links : Keyed Value) (back : Keyed (List Value)) : Prop :=
  ∀ n, IsName n → ∃ vs, linkedTo links back n = .ok vs ∧ ∀ m, m ∈ vs ↔ IsName m ∧ Linked keys n m

lemma KeyEntries.isName_of_pointsTo (h : KeyEntries keys) (ha : IsName a) (hp : PointsTo keys a b)
    (hb : b.truthy = true) : IsName b := by
  obtain ⟨e, he, k, hk, rfl⟩ := hp
  obtain ⟨s, hs⟩ := (h.lists e (lastEntry_eq_some h.named.texts ha.isText he).1).targets k hk hb
  rw [hs] at hb ⊢
  exact ⟨s, rfl, by simpa [truthy] using hb⟩

lemma links_follow (h : KeyEntries keys) : ∃ links back, linksByTable keys = .ok links ∧
    referrers links = .ok back ∧ Follows keys links back := by
  obtain ⟨links, hls, hc⟩ := linksByTable_eq h.named h.lists
  have hna : ∀ l ∈ links, IsName l.1 := fun l hl =>
    isName_of_mem h.named ((hc.mem_keys h.named.texts).1 (mem_map_of_mem hl))
  have hte : Keyed.Texts links := fun l hl => (hna l hl).isText
  have hno : (Keyed.keys links).Nodup := by
    rw [hc.keys]
    exact nodup_distinct fun x hx => isName_of_mem h.named hx
  have hme : ∀ n v, IsName n → ((n, v) ∈ links ↔ ∃ e, lastEntry keys n = some e ∧ e.peek "foreign_keys" = v) := by
    intro n v hn
    rw [Keyed.mem_iff_find? hte hno hn.isText, hc.find n hn.isText, Option.map_eq_some_iff]
  have hlt : ∀ l ∈ links, KeyList l.2 := by
    intro l hl
    obtain ⟨e, he, heq⟩ := (hme l.1 l.2 (hna l hl)).1 hl
    rw [← heq]
    exact h.lists e (lastEntry_eq_some h.named.texts ((hna l hl).isText) he).1
  obtain ⟨back, hb, hr⟩ := referrers_eq hlt
  refine ⟨links, back, hls, hb, fun n hn => ?_⟩
  have ha : ∃ ahead, linkedTo links back n = .ok ((ahead ++ (Keyed.find? back n).getD []).filter truthy) ∧
      ∀ m, m ∈ ahead ↔ PointsTo keys n m := by
    have hf := hc.find n hn.isText
    cases hla : lastEntry keys n with
    | none =>
      rw [hla, Option.map_none] at hf
      refine ⟨[], ?_, by simp [PointsTo, hla]⟩
      rw [linkedTo, hf]
      rfl
    | some e =>
      rw [hla, Option.map_some] at hf
      have hli := h.lists e (lastEntry_eq_some h.named.texts hn.isText hla).1
      have hi : (e.peek "foreign_keys").items = .ok (keysIn (e.peek "foreign_keys")) := by rw [hli.items]; rfl
      refine ⟨(keysIn (e.peek "foreign_keys")).map target, ?_, by simp [PointsTo, hla]⟩
      rw [linkedTo, hf]
      simp only [hi, ok_bind, mapM_eq_map fun k hk => (hli.records k hk).getD "primary_key_table" ""]
      rfl
  obtain ⟨ahead, heq, ha⟩ := ha
  refine ⟨_, heq, fun m => ?_⟩
  rw [mem_filter, mem_append, ha, hr n m hn]
  constructor
  · rintro ⟨hp | ⟨v, hv, k, hk, hke⟩, ht⟩
    · exact ⟨h.isName_of_pointsTo hn hp ht, .inl hp⟩
    · obtain ⟨e, he, rfl⟩ := (hme m v (hna _ hv)).1 hv
      exact ⟨hna _ hv, .inr ⟨e, he, k, hk, hke⟩⟩
  · rintro ⟨hm, hp | ⟨e, he, k, hk, hke⟩⟩
    · exact ⟨.inl hp, hm.truthy⟩
    · exact ⟨.inr ⟨_, (hme m _ hm).2 ⟨e, he, rfl⟩, k, hk, hke⟩, hm.truthy⟩

end

/-! ### Levels of links -/

section

variable {selected tables keys : List Value} {known links : Keyed Value}

/-- Growth by the names that have a property and a table in the schema. -/
structure Grown (tables : List Value) (g : Growth) (P : Value → Prop) (g' : Growth) : Prop where
  names : ∀ n, n ∈ g'.names ↔ n ∈ g.names ∨ P n ∧ n ∈ tableNames tables
  fresh : ∀ n, n ∈ g'.fresh ↔ n ∈ g.fresh ∨ n ∉ g.names ∧ P n ∧ n ∈ tableNames tables
  nodup : g.names.Nodup → g'.names.Nodup

/-- What has been met so far are texts. -/
structure MetTexts (g : Growth) : Prop where
  names : ∀ n ∈ g.names, IsText n
  fresh : ∀ n ∈ g.fresh, IsText n

section

variable (htables : AllTexts tables)

include htables

lemma Grown.metTexts (h : Grown tables g P g') (hg : MetTexts g) : MetTexts g' := by
  constructor
  · intro n hn
    rcases (h.names n).1 hn with hn | ⟨-, hn⟩
    · exact hg.names n hn
    · exact isText_of_mem htables hn
  · intro n hn
    rcases (h.fresh n).1 hn with hn | ⟨-, -, hn⟩
    · exact hg.fresh n hn
    · exact isText_of_mem htables hn

lemma meet_grown (hk : Collected tables id known) (hg : MetTexts g) (hx : IsText x) :
    ∃ g', Growth.meet known g x = .ok g' ∧ Grown tables g (· = x) g' := by
  have hne : (g.names.any (· == x)) = true ↔ x ∈ g.names := isReached_iff hg.names hx
  have hh := hk.has_iff htables hx
  rw [Growth.meet, hx.hashable, ok_bind]
  by_cases hm : x ∈ g.names ∨ x ∉ tableNames tables
  · refine ⟨g, ?_, fun n => ?_, fun n => ?_, id⟩
    · rw [if_neg]
      · rfl
      · rw [Bool.and_eq_true, Bool.not_eq_true', ← Bool.not_eq_true, hne, hh]
        tauto
    all_goals
      constructor
      · exact .inl
      · rintro (hn | hn)
        · exact hn
        · grind
  · rw [not_or, not_not] at hm
    refine ⟨⟨g.names ++ [x], addName g.fresh x⟩, ?_, fun n => ?_, fun n => ?_, fun hn => ?_⟩
    · rw [if_pos]
      · rfl
      · rw [Bool.and_eq_true, Bool.not_eq_true', ← Bool.not_eq_true, hne, hh]
        exact hm
    · show n ∈ g.names ++ [x] ↔ _
      grind
    · show n ∈ reach g.fresh x ↔ _
      rw [mem_reach hg.fresh hx]
      grind
    · exact nodup_append.2 ⟨hn, by simp, by simpa using fun a ha (he : a = x) => hm.1 (he ▸ ha)⟩

lemma foldlM_grown {step : Growth → α → Attempt Growth} {P : α → Value → Prop}
    (hs : ∀ x ∈ xs, ∀ g, MetTexts g → ∃ g', step g x = .ok g' ∧ Grown tables g (P x) g') :
    ∀ g, MetTexts g → ∃ g', xs.foldlM step g = .ok g' ∧ Grown tables g (fun n => ∃ x ∈ xs, P x n) g' := by
  induction xs with
  | nil => exact fun g _ => ⟨g, rfl, by simp, by simp, id⟩
  | cons x xs ih =>
    intro g hg
    obtain ⟨g₁, h₁, hg₁⟩ := hs x (by simp) g hg
    obtain ⟨g₂, h₂, hg₂⟩ := ih (fun y hy => hs y (by simp [hy])) g₁ (hg₁.metTexts htables hg)
    refine ⟨g₂, by rw [foldlM_cons, h₁, ok_bind, h₂], fun n => ?_, fun n => ?_, fun hn => ?_⟩
    · rw [hg₂.names, hg₁.names, exists_mem_cons_iff]
      tauto
    · rw [hg₂.fresh, hg₁.fresh, hg₁.names, exists_mem_cons_iff]
      tauto
    · exact hg₂.nodup (hg₁.nodup hn)

/-- A pass over some tables adds the tables of the schema that one of them leads to. -/
lemma pass_grown (hw : ∀ xs, (walk xs).Perm xs) (hk : Collected tables id known)
    {next : Value → Attempt (List Value)} {Next : Value → Value → Prop} (hn : ∀ n ∈ names, IsText n)
    (hne : ∀ t ∈ level, ∃ vs, next t = .ok vs ∧ (∀ m ∈ vs, IsText m) ∧ ∀ m ∈ tableNames tables, m ∈ vs ↔ Next t m) :
    ∃ g, (walk level).foldlM (fun g t => do (← next t).foldlM (Growth.meet known) g) ⟨names, []⟩ = .ok g ∧
      Grown tables ⟨names, []⟩ (fun n => ∃ t ∈ level, Next t n) g := by
  have hs : ∀ t ∈ walk level, ∀ g, MetTexts g → ∃ g',
      (next t >>= fun vs => vs.foldlM (Growth.meet known) g) = .ok g' ∧ Grown tables g (Next t) g' := by
    intro t ht g hg
    obtain ⟨vs, hvs, hte, hm⟩ := hne t ((hw level).mem_iff.1 ht)
    obtain ⟨g', heq, hgr⟩ := foldlM_grown htables (P := fun x n => n = x)
      (fun x hx g hg => meet_grown htables hk hg (hte x hx)) g hg
    refine ⟨g', by rw [hvs, ok_bind, heq], fun n => ?_, fun n => ?_, hgr.nodup⟩
    · rw [hgr.names]
      grind
    · rw [hgr.fresh]
      grind
  obtain ⟨g, heq, hgr⟩ := foldlM_grown htables hs ⟨names, []⟩ ⟨hn, by simp⟩
  refine ⟨g, heq, ?_⟩
  simpa only [(hw level).mem_iff] using hgr

end

variable (htables : AllNamed tables)

include htables

lemma linkLevel_grown (hw : ∀ xs, (walk xs).Perm xs)
    (hk : Collected tables id known) (hf : Follows keys links back)
    (hna : ∀ n ∈ names, IsName n) (hl : ∀ n ∈ level, IsName n) :
    ∃ g, linkLevel walk links back known names level = .ok g ∧
      Grown tables ⟨names, []⟩ (fun n => ∃ t ∈ level, Linked keys t n) g := by
  refine pass_grown htables.texts hw hk (fun n hn => (hna n hn).isText) fun t ht => ?_
  obtain ⟨vs, hvs, hme⟩ := hf t (hl t ht)
  refine ⟨vs, hvs, fun m hm => ((hme m).1 hm).1.isText, fun m hm => ?_⟩
  rw [hme, and_iff_right (isName_of_mem htables hm)]

/-- After `k` levels the names are those within `k` links; what is linked to a name that is not of the last level is
among them already. -/
structure Levelled (selected tables keys : List Value) (k : Nat) (names level : List Value) : Prop where
  nodup : names.Nodup
  reached : ∀ n, n ∈ names ↔ Reaches selected tables keys k n
  among : ∀ n ∈ level, n ∈ names
  closed : ∀ n ∈ names, n ∉ level → ∀ m ∈ tableNames tables, Linked keys n m → m ∈ names

omit htables in
lemma Levelled.next (h : Levelled selected tables keys k names level)
    (hg : Grown tables ⟨names, []⟩ (fun n => ∃ t ∈ level, Linked keys t n) g) :
    Levelled selected tables keys (k + 1) g.names g.fresh := by
  have hna : ∀ n, n ∈ g.names ↔ n ∈ names ∨ (∃ t ∈ level, Linked keys t n) ∧ n ∈ tableNames tables := hg.names
  have hf : ∀ n, n ∈ g.fresh ↔ n ∉ names ∧ (∃ t ∈ level, Linked keys t n) ∧ n ∈ tableNames tables := by
    simpa using hg.fresh
  refine ⟨hg.nodup h.nodup, fun n => ?_, fun n hn => ?_, fun n hn hol m hm hl => ?_⟩
  · rw [hna, reaches_succ, ← h.reached]
    constructor
    · rintro (hn | ⟨⟨t, ht, hl⟩, hn⟩)
      · exact .inl hn
      · exact .inr ⟨⟨t, (h.reached t).1 (h.among t ht), hl⟩, hn⟩
    · rintro (hn | ⟨⟨t, ht, hl⟩, hn⟩)
      · exact .inl hn
      · by_cases hle : t ∈ level
        · exact .inr ⟨⟨t, hle, hl⟩, hn⟩
        · exact .inl (h.closed t ((h.reached t).2 ht) hle n hn hl)
  · exact (hna n).2 (.inr ((hf n).1 hn).2)
  · rw [hna]
    have hin : n ∈ names := by
      by_contra ho
      exact hol ((hf n).2 ⟨ho, ((hna n).1 hn).resolve_left ho⟩)
    by_cases hle : n ∈ level
    · exact .inr ⟨⟨n, hle, hl⟩, hm⟩
    · exact .inl (h.closed n hin hle m hm hl)

omit htables in
lemma linkLevels_nil (hw : ∀ xs, (walk xs).Perm xs) (depth : Nat) (names : List Value) :
    linkLevels walk links back known depth names [] = .ok names := by
  cases depth with
  | zero => rfl
  | succ depth =>
    rw [linkLevels, linkLevel, (hw []).eq_nil]
    rfl

omit htables in
/-- A level that finds nothing ends the search, as any further level would find nothing either. -/
lemma linkLevels_succ (hw : ∀ xs, (walk xs).Perm xs) (depth : Nat)
    (names level : List Value) : linkLevels walk links back known (depth + 1) names level =
      linkLevel walk links back known names level >>= fun g => linkLevels walk links back known depth g.names g.fresh := by
  rw [linkLevels]
  refine bind_congr fun g => ?_
  split
  · next he =>
    rw [isEmpty_iff.1 he, linkLevels_nil hw]
    rfl
  · rfl

lemma linkLevels_reach (hw : ∀ xs, (walk xs).Perm xs)
    (hs : AllNamed selected) (hk : Collected tables id known) (hf : Follows keys links back) (depth : Nat) :
    ∀ {k : Nat} {names level : List Value}, Levelled selected tables keys k names level →
      ∃ fd, linkLevels walk links back known depth names level = .ok fd ∧ fd.Nodup ∧
        ∀ n, n ∈ fd ↔ Reaches selected tables keys (k + depth) n := by
  induction depth with
  | zero => exact fun h => ⟨_, rfl, h.nodup, h.reached⟩
  | succ depth ih =>
    intro k names level h
    have hna : ∀ n ∈ names, IsName n := fun n hn => isName_of_reaches hs htables ((h.reached n).1 hn)
    obtain ⟨g, hg, hgr⟩ := linkLevel_grown htables hw hk hf hna fun n hn => hna n (h.among n hn)
    rw [linkLevels_succ hw, hg, ok_bind, Nat.add_comm depth, ← Nat.add_assoc]
    exact ih (h.next hgr)

end

/-- The selected tables come with exactly the tables that a path of at most `depth` foreign keys leads to, each once; a
selected name with its selected entry, any other with the schema's. -/
theorem withLinks_finds_linked (walk : List Value → List Value) (hwalk : ∀ xs, (walk xs).Perm xs)
    (selected tables keys : List Value) (hselected : AllNamed selected) (htables : AllNamed tables)
    (hkeys : KeyEntries keys) (depth : Nat) :
    ∃ found, withLinks walk (.list selected) (.list tables) (.list keys) depth = .ok (.list found) ∧
      (tableNames found).Nodup ∧ (∀ n, n ∈ tableNames found ↔ Reaches selected tables keys depth n) ∧
      ∀ e ∈ found, (lastEntry selected (e.peek "table_name")).or (lastEntry tables (e.peek "table_name")) = some e := by
  obtain ⟨known, hk, ht⟩ := byName_eq htables.texts
  obtain ⟨chosen, hch, hc⟩ := byName_eq hselected.texts
  obtain ⟨links, back, hli, hb, hf⟩ := links_follow hkeys
  have hs : Levelled selected tables keys 0 (Keyed.keys chosen) (Keyed.keys chosen) := by
    refine ⟨?_, fun n => ?_, fun n hn => hn, fun n hn ho => absurd hn ho⟩
    · rw [hc.keys]
      exact nodup_distinct fun x hx => isName_of_mem hselected hx
    · rw [hc.mem_keys hselected.texts, reaches_zero]
  obtain ⟨names, hle, hno, hr⟩ := linkLevels_reach htables hwalk hselected ht hf depth hs
  rw [Nat.zero_add] at hr
  -- every name that was found has an entry, and the entry has that name
  have hen : ∀ n ∈ walk names, ∃ e, (Keyed.find? chosen n).or (Keyed.find? known n) = some e ∧
      e.peek "table_name" = n ∧ (lastEntry selected n).or (lastEntry tables n) = some e := by
    intro n hn
    have hn := (hr n).1 ((hwalk names).mem_iff.1 hn)
    have hna := isName_of_reaches hselected htables hn
    rw [hc.find n hna.isText, ht.find n hna.isText, Option.map_id, id, id]
    cases hl : lastEntry selected n with
    | some e => exact ⟨e, rfl, (lastEntry_eq_some hselected.texts hna.isText hl).2, rfl⟩
    | none =>
      obtain ⟨e, he⟩ := exists_lastEntry htables.texts (mem_tableNames_of_reaches hselected hn hl)
      exact ⟨e, he, (lastEntry_eq_some htables.texts hna.isText he).2, he⟩
  obtain ⟨hns, hl⟩ := entries_of_names hen
  refine ⟨_, ?_, ?_, fun n => ?_, hl⟩
  · show (byName tables >>= _) = _
    rw [hk, ok_bind]
    show (byName selected >>= _) = _
    rw [hch, ok_bind]
    show (linksByTable keys >>= _) = _
    rw [hli, ok_bind, hb, ok_bind, hle]
    rfl
  · rw [hns]
    exact (hwalk names).nodup_iff.2 hno
  · rw [hns, (hwalk names).mem_iff, hr]

def tableEntry (name column : String) : Value :=
  .record [("table_name", .text name), ("columns", .list [.record [("column_name", .text column)]])]

def keyEntry (name : String) (targets : List String) : Value :=
  .record [("table_name", .text name),
    ("foreign_keys", .list (targets.map fun t => .record [("primary_key_table", .text t)]))]

lemma keyEntries_map {xs : List (String × List String)} (h : AllNamed (xs.map fun x => keyEntry x.1 x.2)) :
    KeyEntries (xs.map fun x => keyEntry x.1 x.2) := by
  refine ⟨h, fun e he => ?_⟩
  obtain ⟨x, hx, rfl⟩ := mem_map.1 he
  have hke : ∀ k ∈ x.2.map fun t => Value.record [("primary_key_table", .text t)],
      k.IsRecord ∧ ((target k).truthy = true → IsText (target k)) := by
    intro k hk
    obtain ⟨t, -, rfl⟩ := mem_map.1 hk
    exact ⟨⟨_, rfl⟩, fun _ => ⟨t, rfl⟩⟩
  exact ⟨rfl, fun k hk => (hke k hk).1, fun k hk => (hke k hk).2⟩

/-- Orders refer to customers and to a table that is gone, customers and regions refer to each other, and notes to
themselves: from the orders the regions are two links away, met through a cycle, and the notes stay out. -/
theorem withLinks_finds_linked_orders :
    let selected := [("orders", "total")].map fun t => tableEntry t.1 t.2
    let tables := [("orders", "id"), ("customers", "id"), ("regions", "id"), ("notes", "id")].map fun t => tableEntry t.1 t.2
    let keys := [("orders", ["customers", "archive"]), ("customers", ["regions"]), ("regions", ["customers"]),
      ("notes", ["notes"])].map fun k => keyEntry k.1 k.2
    ∃ fd, withLinks reverse (.list selected) (.list tables) (.list keys) 2 = .ok (.list fd) ∧
      (tableNames fd).Nodup ∧ (∀ n, n ∈ tableNames fd ↔ Reaches selected tables keys 2 n) ∧
      ∀ e ∈ fd, (lastEntry selected (e.peek "table_name")).or (lastEntry tables (e.peek "table_name")) = some e :=
  withLinks_finds_linked reverse reverse_perm _ _ _ (by decide +kernel) (by decide +kernel)
    (keyEntries_map (by decide +kernel)) 2

end QueryDesk.Schema
