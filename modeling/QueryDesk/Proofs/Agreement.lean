import Mathlib.Data.Finset.Card
import QueryDesk.Mapping.Evaluation
import QueryDesk.Proofs.Names

/-!
How guessed keys are counted against known ones. A key is a column and the table it refers to, under the table
that has it. Main statement: what is right, wrong and missed is the keys that both sides have, those that only the
guesses have and those that only the known ones have, each counted once, in whatever order the tables are met.
-/

namespace QueryDesk.Mapping

open List Value Attempt

def pairOf (key : Value) : String × String :=
  ((key.peek "foreign_key").display, (key.peek "primary_key_table").display)

def IsKey (key : Value) : Prop := IsText (key.peek "foreign_key") ∧ IsText (key.peek "primary_key_table")

def keysIn : Value → List Value
  | .list keys => keys
  | _ => []

/-- Tables with lists of keys, no key twice under a table. -/
def KeyMap (keys : Fields) : Prop :=
  ∀ f ∈ keys, f.2 = .list (keysIn f.2) ∧ (∀ k ∈ keysIn f.2, IsKey k) ∧ ((keysIn f.2).map pairOf).Nodup

def keysOf (keys : Fields) (table : String) : List Value := keysIn (keysUnder keys table)

def triples (keys : Fields) : Finset (String × String × String) :=
  ((keys.map (·.1)).flatMap fun t => (keysOf keys t).map fun k => (t, pairOf k)).toFinset

def among (keys : List Value) (key : Value) : Bool := keys.any fun k => pairOf k = pairOf key

variable {guesses known : Fields} {a b : Value} {t : String}

lemma sameKey_eq (ha : IsKey a) (hb : IsKey b) : sameKey a b = .ok (decide (pairOf a = pairOf b)) := by
  obtain ⟨⟨c, hc⟩, d, hd⟩ := ha
  obtain ⟨⟨e, he⟩, f, hf⟩ := hb
  rw [sameKey, IsText.get ⟨c, hc⟩, IsText.get ⟨d, hd⟩, IsText.get ⟨e, he⟩, IsText.get ⟨f, hf⟩]
  simp only [ok_bind, pairOf, hc, hd, he, hf, beq_text, text?, display]
  by_cases h : e = c
  · simp [h, pure, Except.pure, Bool.beq_eq_decide_eq, eq_comm]
  · simp [h, Ne.symm h]

lemma judge_eq (same : Value → Value → Attempt Bool) {ks others : List Value}
    (h : ∀ k ∈ ks, ∀ o ∈ others, same k o = .ok (decide (pairOf o = pairOf k))) :
    judge same ks others = .ok (ks.map fun k => (k, among others k)) :=
  mapM_eq_map fun k hk => by rw [anyM_eq_any (h k hk)]; rfl

lemma judgedAs_map (verdict : Bool) (test : Value → Bool) (ks : List Value) :
    judgedAs verdict (ks.map fun k => (k, test k)) = ks.filter (test · == verdict) := by
  simp [judgedAs, filter_map, Function.comp_def]

lemma KeyMap.under (h : KeyMap known) (t : String) : keysUnder known t = .list (keysOf known t) ∧
    (∀ k ∈ keysOf known t, IsKey k) ∧ ((keysOf known t).map pairOf).Nodup := by
  unfold keysOf keysUnder
  cases hl : known.lookup t with
  | none => simp [keysIn]
  | some ks =>
    obtain ⟨_, _, rfl, -⟩ := lookup_eq_some_iff.1 hl
    exact h (t, ks) (by simp)

/-- The keys under a table that are judged in a certain way. -/
def sorted (verdict : Bool) (keys others : Fields) (t : String) : List Value :=
  (keysOf keys t).filter (among (keysOf others t) · == verdict)

def resultOf (guesses known : Fields) (t : String) : TableResult :=
  ⟨t, (keysOf guesses t).length, (keysOf known t).length, sorted true guesses known t, sorted false guesses known t,
    sorted false known guesses t⟩

lemma tableResult_eq (hg : KeyMap guesses) (hk : KeyMap known) (t : String) :
    tableResult guesses known t = .ok (resultOf guesses known t) := by
  obtain ⟨hgs, hgk, -⟩ := hg.under t
  obtain ⟨hks, hkk, -⟩ := hk.under t
  have hj := judge_eq sameKey fun g hg k hk => by rw [sameKey_eq (hgk g hg) (hkk k hk)]; simp [eq_comm]
  have hm := judge_eq (fun w g => sameKey g w) fun k hk g hg => sameKey_eq (hgk g hg) (hkk k hk)
  simp only [tableResult, hgs, hks, size, items, ok_bind, hj, hm, judgedAs_map]
  rfl

lemma mem_keys_of_mem (h : k ∈ keysOf known t) : t ∈ known.map (·.1) := by
  cases hl : known.lookup t with
  | none => simp [keysOf, keysUnder, keysIn, hl] at h
  | some ks =>
    obtain ⟨_, _, rfl, -⟩ := lookup_eq_some_iff.1 hl
    simp

lemma mem_triples {p : String × String} : (t, p) ∈ triples known ↔ ∃ k ∈ keysOf known t, pairOf k = p := by
  simp only [triples, mem_toFinset, mem_flatMap, mem_map (l := keysOf known _), Prod.mk.injEq]
  constructor
  · rintro ⟨_, -, k, hk, rfl, rfl⟩
    exact ⟨k, hk, rfl⟩
  · rintro ⟨k, hk, rfl⟩
    exact ⟨t, mem_keys_of_mem hk, k, hk, rfl, rfl⟩

lemma among_eq (k : Value) : among (keysOf known t) k = decide ((t, pairOf k) ∈ triples known) := by
  rw [Bool.eq_iff_iff]
  simp [among, mem_triples]

/-- Keys that are put together table by table are as many as the triples they stand for. -/
lemma length_sorted (hg : KeyMap guesses) (known : Fields) {ns : List String} (hn : ns.Nodup)
    (hin : guesses.map (·.1) ⊆ ns) (verdict : Bool) : (ns.flatMap (sorted verdict guesses known)).length =
      {x ∈ triples guesses | decide (x ∈ triples known) = verdict}.card := by
  have hnd : (ns.flatMap fun t => (sorted verdict guesses known t).map fun k => (t, pairOf k)).Nodup := by
    refine nodup_flatMap.2 ⟨fun t _ => ?_, hn.imp fun hne x hx hy => ?_⟩
    · have h : ((sorted verdict guesses known t).map pairOf).Nodup := (filter_sublist.map _).nodup (hg.under t).2.2
      simpa [map_map, Function.comp_def] using h.map (f := Prod.mk t) (Prod.mk_right_injective t)
    · obtain ⟨_, -, rfl⟩ := mem_map.1 hx
      obtain ⟨_, -, he⟩ := mem_map.1 hy
      exact hne (congrArg Prod.fst he).symm
  have hs : (ns.flatMap fun t => (sorted verdict guesses known t).map fun k => (t, pairOf k)).toFinset =
      {x ∈ triples guesses | decide (x ∈ triples known) = verdict} := by
    ext ⟨t, p⟩
    simp only [mem_toFinset, mem_flatMap, mem_map, sorted, mem_filter, among_eq, beq_iff_eq, Prod.mk.injEq,
      Finset.mem_filter, mem_triples]
    constructor
    · rintro ⟨_, -, k, ⟨hk, hv⟩, rfl, rfl⟩
      exact ⟨⟨k, hk, rfl⟩, hv⟩
    · rintro ⟨⟨k, hk, rfl⟩, hv⟩
      exact ⟨t, hin (mem_keys_of_mem hk), k, ⟨hk, hv⟩, rfl, rfl⟩
  rw [← hs, toFinset_card_of_nodup hnd]
  simp [length_flatMap]

lemma length_pairsOf (ks : TableResult → List Value) (res : List TableResult) :
    (keysIn (pairsOf ks res)).length = (res.flatMap ks).length := by
  simp [pairsOf, keysIn, length_flatMap]

def percent (part whole : Nat) : Value :=
  if whole = 0 then .int 0 else .float (Number.ratio part whole * Float.ofInt 100)

lemma percentage_eq (part whole : Nat) : percentage part whole = .ok (percent part whole) := by
  unfold percentage percent
  by_cases h : whole = 0
  · simp [h]
  · simp [h, dividedBy, Value.nat, int?, times, float?]

/-- Where both are above zero there is something to divide by. -/
lemma harmonic_gives (a b c d : Nat) : ∃ mean, harmonic (percent a b) (percent c d) = .ok mean := by
  unfold percent
  by_cases hb : b = 0 <;> by_cases hd : d = 0 <;> simp [harmonic, hb, hd, plus, int?, float?, above, less, text?]
  all_goals
    split
    next h => exact ⟨_, by simp [times, dividedBy, int?, float?, h]; rfl⟩
    next => exact ⟨_, rfl⟩

lemma tables_met {ts : List Value} (ks : Fields) (h : ts.Perm (distinct (ks.map fun f => .text f.1))) :
    (ts.map display).Nodup ∧ ks.map (·.1) ⊆ ts.map display := by
  have ht : ∀ v ∈ ks.map fun f => text f.1, IsText v := by simp +contextual [IsText, eq_comm]
  constructor
  · refine (h.nodup_iff.2 (nodup_distinct ht)).map_on fun v hv w hw he => ?_
    obtain ⟨a, rfl⟩ := ht v (mem_of_mem_distinct (h.subset hv))
    obtain ⟨b, rfl⟩ := ht w (mem_of_mem_distinct (h.subset hw))
    exact congrArg text he
  · rintro _ hn
    obtain ⟨f, hf, rfl⟩ := mem_map.1 hn
    exact mem_map.2 ⟨.text f.1, h.mem_iff.2 ((mem_distinct ht).2 (mem_map_of_mem hf)), rfl⟩

/-- Guessed keys are compared with known ones as sets of triples: the right ones are in both, the wrong ones only
guessed and the missed ones only known, and the rates are those of these numbers. -/
theorem evaluate_counts (walk : List Value → List Value) (hwalk : ∀ l, (walk l).Perm l) (guesses known : Fields)
    (hg : KeyMap guesses) (hk : KeyMap known) : ∃ results mean,
      evaluate walk (.record guesses) (.record known) = .ok (.record [
        ("correct_inferences", pairsOf (·.right) results), ("false_positives", pairsOf (·.wrong) results),
        ("false_negatives", pairsOf (·.missed) results),
        ("table_results", .record (results.map fun r => (r.table, r.document))),
        ("metrics", .record [("total_correct", .nat (triples guesses ∩ triples known).card),
          ("total_inferred", .nat (triples guesses).card), ("total_ground_truth", .nat (triples known).card),
          ("precision", percent (triples guesses ∩ triples known).card (triples guesses).card),
          ("recall", percent (triples guesses ∩ triples known).card (triples known).card), ("f1_score", mean)])]) ∧
      (keysIn (pairsOf (·.right) results)).length = (triples guesses ∩ triples known).card ∧
      (keysIn (pairsOf (·.wrong) results)).length = (triples guesses \ triples known).card ∧
      (keysIn (pairsOf (·.missed) results)).length = (triples known \ triples guesses).card := by
  obtain ⟨ts, ht⟩ : ∃ ts, walk (distinct ((guesses ++ known).map fun f => .text f.1)) = ts := ⟨_, rfl⟩
  obtain ⟨hn, hin⟩ := tables_met _ (ht ▸ hwalk _)
  have hr : ts.mapM (fun t => tableResult guesses known t.display) =
      .ok ((ts.map display).map (resultOf guesses known)) := by
    rw [map_map]
    exact mapM_eq_map fun t _ => tableResult_eq hg hk t.display
  generalize ts.map display = names at hn hin hr
  rw [map_append, append_subset] at hin
  have hri := length_sorted hg known hn hin.1 true
  have hw := length_sorted hg known hn hin.1 false
  have hm := length_sorted hk guesses hn hin.2 false
  simp only [decide_eq_true_eq, decide_eq_false_iff_not, Finset.filter_mem_eq_inter, ← Finset.sdiff_eq_filter]
    at hri hw hm
  have hgu := Finset.card_inter_add_card_sdiff (triples guesses) (triples known)
  have hkn := Finset.card_inter_add_card_sdiff (triples known) (triples guesses)
  rw [Finset.inter_comm] at hkn
  obtain ⟨mean, hme⟩ := harmonic_gives (triples guesses ∩ triples known).card (triples guesses).card
    (triples guesses ∩ triples known).card (triples known).card
  simp only [length_pairsOf]
  refine ⟨names.map (resultOf guesses known), mean, ?_, ?_⟩
  · simp only [evaluate, fieldsFor, ok_bind, ht, hr, measures, flatMap_map, resultOf, hri, hw, hm,
      hgu, hkn, percentage_eq, hme]
    rfl
  · simp only [flatMap_map, resultOf, hri, hw, hm, and_self]

def keyTo (column table : String) : Value := .record [("foreign_key", .text column), ("primary_key_table", .text table)]

def orderGuesses : Fields := [("Orders", .list [keyTo "UserID" "Users", keyTo "ShopID" "Shops"])]

def orderKeys : Fields := [("Shops", .list []), ("Orders", .list [keyTo "UserID" "Users"])]

theorem evaluate_counts_orders : ∃ results doc, evaluate List.reverse (.record orderGuesses) (.record orderKeys) = .ok doc ∧
    (keysIn (pairsOf (·.right) results)).length = 1 ∧ (keysIn (pairsOf (·.wrong) results)).length = 1 ∧
      (keysIn (pairsOf (·.missed) results)).length = 0 := by
  have hk (a b : String) : IsKey (keyTo a b) := ⟨⟨a, rfl⟩, b, rfl⟩
  obtain ⟨results, _, h, hr, hw, hm⟩ := evaluate_counts List.reverse (fun l => l.reverse_perm) orderGuesses
    orderKeys (by simp [KeyMap, orderGuesses, keysIn, hk]; decide) (by simp [KeyMap, orderKeys, keysIn, hk])
  exact ⟨results, _, h, hr.trans (by decide +kernel), hw.trans (by decide +kernel),
    hm.trans (by decide +kernel)⟩

end QueryDesk.Mapping
