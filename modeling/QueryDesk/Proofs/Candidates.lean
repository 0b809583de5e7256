import QueryDesk.Mapping.Route
import QueryDesk.Proofs.Faults
import QueryDesk.Proofs.Keeping

/-!
Looking up candidates for a row. Whatever goes wrong on the way, the row is left out or there are candidates with
a name each, the best five of them with scores that are numbers. In the sheet nothing but notes on that row has
changed.
-/

namespace QueryDesk

open Attempt Desk List Value Option Workbook

variable {s : Surroundings} {v : Value}

/-! ### Steps that can be recovered from -/

instance : Tame (load path) := by
  refine .next fun path => .next fun t => ?_
  split
  · infer_instance
  · exact .throw rfl

instance : Tame (Workbook.save path sh) := by unfold Workbook.save; infer_instance

instance : Tame (writeCandidates path row (.list cands)) := by
  refine .next fun sh => .bind (@Tame.lift _ _ ⟨rfl⟩) fun first => .bind ?_ inferInstance
  rw [foldlM_lift]
  have (placed : List (Value × Nat)) : Mild (placed.foldlM (putCandidate row) sh) := by
    induction placed generalizing sh with
    | nil => exact ⟨rfl⟩
    | cons c rest ih =>
      rw [foldlM_cons]
      infer_instance
  infer_instance

instance : Tame (searchScored index query limit) := by
  refine .bind Completes.modify.tame fun _ => .bind (.next fun t => ?_) fun _ => inferInstance
  split
  · exact .throw rfl
  · refine .next fun _ => ?_
    split <;> infer_instance

instance : Tame (Schema.keyCandidates base schema index source limit) := by
  unfold Schema.keyCandidates
  infer_instance

namespace Mapping

variable {source limit base schema : Value}

instance : Tame (keepCandidates state found) := by
  unfold keepCandidates
  split <;> infer_instance

instance : Completes (findCandidates index state) := by
  refine @Completes.recover _ _ _ ?_ _
  refine .next fun _ => .next fun tb => .next fun _ =>
    .next fun base => .next fun isKey => .next fun skipsKeys =>
    .next fun _ => ?_
  split
  · infer_instance
  · split
    · infer_instance
    · refine .next fun searched => ?_
      split <;> infer_instance

/-! ### What is left in the sheet -/

section

variable {path : String} {row : Option Nat} {state : Value} {R : Traffic → Traffic → Prop}

/-- A state that points to a sheet and to a row in it, or to none. -/
structure At (path : String) (row : Option Nat) (state : Value) : Prop where
  record : state.IsRecord
  path : state.at? "excel_path" = some (.text path)
  row : state.at? "current_row_idx" = some (rowValue row)

lemma At.keeps [Std.Refl R] (h : At path row state) {step : Value → Value → Desk α}
    (hs : Keeps R (step (.text path) (rowValue row))) : Keeps R (do
      let path ← (liftM (state.field "excel_path") : Desk Value)
      let row ← (liftM (state.field "current_row_idx") : Desk Value)
      step path row) := by
  refine .lift_bind fun p hp => .lift_bind fun r hr => ?_
  rw [field_ok, h.path, some.injEq] at hp
  rw [field_ok, h.row, some.injEq] at hr
  subst hp hr
  exact hs

variable [Std.Refl R] [IsTrans Traffic R]

lemma At.keeps_keepCandidates (h : At path row state)
    (hw : ∀ cs, Keeps R (writeCandidates (.text path) (rowValue row) (.list cs)))
    (found : List Schema.Candidate) : Keeps R (keepCandidates state found) := by
  unfold keepCandidates
  split
  · infer_instance
  · exact .bind (.recover (h.keeps (hw _)) fun _ => inferInstance) fun _ =>
      inferInstance

lemma keeps_keyCandidates (hb : ∀ t t', SameBooks t t' → R t t') (base schema : Value) (index : SearchIndex)
    (source limit : Value) : Keeps R (Schema.keyCandidates base schema index source limit) := by
  refine .next fun _ => .next fun _ => .next fun _ =>
    .bind (.mono keeps_searchScored hb) fun _ => .next fun _ =>
    inferInstance

lemma At.keeps_findCandidates (h : At path row state) (hb : ∀ t t', SameBooks t t' → R t t')
    (hw : ∀ cs, Keeps R (writeCandidates (.text path) (rowValue row) (.list cs)))
    (index : Option SearchIndex) : Keeps R (findCandidates index state) := by
  refine .recover ?_ fun _ => inferInstance
  refine .next fun _ => .next fun tb => .next fun _ =>
    .next fun base => .next fun isKey => .next fun skipsKeys =>
    .next fun _ => ?_
  split
  · infer_instance
  · split
    · infer_instance
    · refine .bind (.recover ?_ fun _ => inferInstance) fun searched => ?_
      · exact .next fun _ => .next fun _ =>
          .bind (keeps_keyCandidates hb _ _ _ _ _) fun _ => inferInstance
      · split
        · infer_instance
        · exact h.keeps (.bind (hw []) fun _ => inferInstance)
        · exact h.keeps_keepCandidates hw _

lemma keeps_findCandidates (h : At path row state) (index : Option SearchIndex) :
    Keeps (NotedAt path row) (findCandidates index state) :=
  h.keeps_findCandidates (fun _ _ => SameBooks.notedAt) keeps_writeCandidates index

end

/-! ### What is found -/

def NamesTables (index : Option SearchIndex) (s : Surroundings) (t : Traffic) : Prop :=
  ∀ i ∈ index, ∀ query limit results t', Gives (searchScored i query limit) s t results t' →
    ∀ r ∈ results, IsName (r.1.facts.peek "table_name")

/-- Candidates with names; the scores of the best five are numbers. -/
structure Offers (candidates : List Value) : Prop where
  present : candidates ≠ []
  pairs : ∀ c ∈ candidates, ∃ table score, c = .tuple [table, score] ∧ IsName table
  scores : ∀ table score, tuple [table, score] ∈ candidates.take 5 → score.float?.isSome = true

/-- The states that looking for candidates can end with: the row is left out, or candidates were found. -/
inductive Searched (state : Value) : Value → Prop
  | left (notes step : String) : Searched state (skipUnknown state notes step)
  | found {candidates : List Value} (h : Offers candidates) :
      Searched state (state.update [("candidates", .list candidates), ("last_step", "find_candidates")])

lemma takeOthers_mem : ∀ {res : List (Passage × Value)} {taken : Nat}
    {found : List Schema.Candidate}, Schema.takeOthers source limit taken res = .ok found →
      ∀ c ∈ found, ∃ r ∈ res, c.table = r.1.facts
  | [], taken, found, h => by
    cases h
    simp
  | (p, score) :: rest, taken, found, h => by
    unfold Schema.takeOthers at h
    rw [bind_ok] at h
    obtain ⟨name, -, h⟩ := h
    intro c hc
    split at h
    · obtain ⟨r, hr, heq⟩ := takeOthers_mem h c hc
      exact ⟨r, by simp [hr], heq⟩
    · rw [bind_ok] at h
      obtain ⟨enough, -, h⟩ := h
      split at h
      · cases h
        obtain rfl := mem_singleton.1 hc
        exact ⟨(p, score), by simp, rfl⟩
      · simp only [bind_ok, pure_ok] at h
        obtain ⟨others, ho, rfl⟩ := h
        rcases mem_cons.1 hc with rfl | hc
        · exact ⟨(p, score), by simp, rfl⟩
        · obtain ⟨r, hr, heq⟩ := takeOthers_mem ho c hc
          exact ⟨r, by simp [hr], heq⟩

lemma isSome_of_withPlaces {text : String} (h : v.withPlaces places = .ok text) :
    v.float?.isSome = true := by
  unfold withPlaces at h
  split at h
  case h_1 x hx => rw [hx, isSome_some]
  all_goals cases h

lemma showCandidate_ok (h : showCandidate candidate = .ok ()) :
    candidate.score.float?.isSome = true := by
  simp only [showCandidate, bind_ok] at h
  obtain ⟨low, -, h⟩ := h
  split at h
  · simp only [bind_ok] at h
    obtain ⟨_, -, _, -, _, hp, -⟩ := h
    exact isSome_of_withPlaces hp
  · simp only [bind_ok] at h
    obtain ⟨_, -, _, hp, -⟩ := h
    exact isSome_of_withPlaces hp

lemma gives_forIn_lift {f : α → Attempt β} : ∀ {xs : List α} {t t' : Traffic}
    {u : PUnit}, Gives (forIn xs PUnit.unit fun x _ => do
      let _ ← (liftM (f x) : Desk β)
      pure (ForInStep.yield PUnit.unit)) s t u t' → ∀ x ∈ xs, ∃ b, f x = .ok b
  | [], t, t', u, _, x, hx => by simp at hx
  | x :: xs, t, t', u, h, y, hy => by
    simp only [forIn_cons, gives_bind, gives_lift, gives_pure] at h
    obtain ⟨_, _, ⟨b, _, ⟨hb, rfl⟩, rfl, rfl⟩, hr⟩ := h
    rcases mem_cons.1 hy with rfl | hy
    · exact ⟨b, hb⟩
    · exact gives_forIn_lift hr y hy

section

variable {index : SearchIndex} {s : Surroundings} {t t' : Traffic} {state after : Value}
  {found : List Schema.Candidate}

lemma keyCandidates_mem (h : Gives (Schema.keyCandidates base schema index source limit) s t found t') :
    ∃ query most res t₁, Gives (searchScored index query most) s t res t₁ ∧
      ∀ c ∈ found, ∃ r ∈ res, c.table = r.1.facts := by
  simp only [Schema.keyCandidates, gives_bind, gives_lift, gives_pure] at h
  obtain ⟨_, _, ⟨-, rfl⟩, _, _, ⟨-, rfl⟩, _, _, ⟨-, rfl⟩, res, _, hr, _, _, ⟨ht, rfl⟩, _, _, -, rfl, rfl⟩ := h
  exact ⟨_, _, res, _, hr, takeOthers_mem ht⟩

lemma keyCandidates_named (hn : NamesTables (some index) s t)
    (h : Gives (Schema.keyCandidates base schema index source limit) s t found t') :
    ∀ c ∈ found, IsName (c.table.peek "table_name") := by
  obtain ⟨query, most, res, t₁, hre, hm⟩ := keyCandidates_mem h
  intro c hc
  obtain ⟨r, hr, ht⟩ := hm c hc
  rw [ht]
  exact hn index rfl query most res t₁ hre r hr

/-- Candidates that are kept are stored by their names, and ten of them were shown. -/
lemma keepCandidates_cases (h : Gives (keepCandidates state found) s t after t') :
    (∃ notes step, after = skipUnknown state notes step) ∨
      after = state.update [("candidates", .list (found.map fun c => .tuple [c.table.peek "table_name", c.score])),
        ("last_step", "find_candidates")] ∧ ∀ c ∈ found.take 10, ∃ u, showCandidate c = .ok u := by
  unfold keepCandidates at h
  split at h
  · exact .inl ⟨_, _, (gives_pure.1 h).1.symm⟩
  · simp only [gives_bind, gives_pure] at h
    obtain ⟨_, _, -, _, _, hs, rfl, -⟩ := h
    exact .inr ⟨rfl, gives_forIn_lift hs⟩

lemma keepCandidates_searched (hf : found ≠ []) (hn : ∀ c ∈ found, IsName (c.table.peek "table_name"))
    (h : Gives (keepCandidates state found) s t after t') : Searched state after := by
  obtain ⟨notes, step, rfl⟩ | ⟨rfl, hs⟩ := keepCandidates_cases h
  · exact .left notes step
  · refine .found ⟨by simpa using hf, fun c hc => ?_, fun tb score hc => ?_⟩
    · obtain ⟨cand, hca, rfl⟩ := mem_map.1 hc
      exact ⟨_, _, rfl, hn cand hca⟩
    · rw [← map_take] at hc
      obtain ⟨cand, hca, heq⟩ := mem_map.1 hc
      have ht : cand ∈ found.take 10 := (take_sublist_take_left (by decide)).mem hca
      obtain ⟨u, hu⟩ := hs cand ht
      simp only [tuple.injEq, cons.injEq, and_true] at heq
      rw [← heq.2]
      exact showCandidate_ok hu

end

section

variable {index : Option SearchIndex} {s : Surroundings} {t t' : Traffic} {state after : Value}

/-- Looking for candidates leaves the row out, or keeps the candidates that a search has given. -/
lemma findCandidates_cases (h : Gives (findCandidates index state) s t after t') :
    (∃ notes step, after = skipUnknown state notes step) ∨ ∃ i ∈ index, ∃ base schema source limit found t₁,
      Gives (Schema.keyCandidates base schema i source limit) s t found t₁ ∧ found ≠ [] ∧
      Gives (keepCandidates state found) s t₁ after t' := by
  have hl {t₁ : Traffic} {notes step : String} (h : Gives (pure (skipUnknown state notes step)) s t₁ after t') :
      ∃ notes step, after = skipUnknown state notes step := ⟨notes, step, (gives_pure.1 h).1.symm⟩
  rw [findCandidates, gives_recover] at h
  rcases h with h | ⟨f, t₁, -, -, h⟩
  · simp only [gives_bind, gives_lift] at h
    obtain ⟨_, _, ⟨-, rfl⟩, tb, _, ⟨-, rfl⟩, _, _, ⟨-, rfl⟩, base, _, ⟨-, rfl⟩, isKey, _, ⟨-, rfl⟩, skipsKeys, _,
      ⟨-, rfl⟩, _, _, ⟨-, rfl⟩, h⟩ := h
    split at h
    · exact .inl (hl h)
    · split at h
      · exact .inl (hl h)
      · simp only [gives_bind] at h
        obtain ⟨searched, t₂, hs, h⟩ := h
        split at h
        · exact .inl (hl h)
        · simp only [gives_bind] at h
          obtain ⟨_, _, -, _, _, -, _, _, -, h⟩ := h
          exact .inl (hl h)
        · rename_i index _ found hf
          -- the search itself has given the candidates, for a fault on its way would have been noted
          rw [gives_recover] at hs
          rcases hs with hs | ⟨f, t₃, -, -, hs⟩
          · simp only [gives_bind, gives_lift, gives_pure] at hs
            obtain ⟨_, _, ⟨-, rfl⟩, _, _, ⟨-, rfl⟩, _, _, hk, heq, rfl⟩ := hs
            cases heq
            exact .inr ⟨index, rfl, _, _, _, _, found, _, hk, hf, h⟩
          · rw [gives_pure] at hs
            cases hs.1
  · exact .inl (hl h)

lemma findCandidates_searched (hn : NamesTables index s t) (h : Gives (findCandidates index state) s t after t') :
    Searched state after := by
  obtain ⟨notes, step, rfl⟩ | ⟨i, hi, _, _, _, _, found, t₁, hk, hf, hke⟩ := findCandidates_cases h
  · exact .left notes step
  · obtain rfl : index = some i := hi
    exact keepCandidates_searched hf (keyCandidates_named hn hk) hke

end

end Mapping

end QueryDesk
