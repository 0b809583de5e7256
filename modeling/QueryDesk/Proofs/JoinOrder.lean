import Mathlib.Logic.Function.Iterate
import QueryDesk.Proofs.Names

/-!
What the ordering of joins achieves. The edges it takes form a chain: each touches a table that the ones
before it have reached. The edges it leaves touch none of the tables reached, so nothing that can be
joined is left over, and the bound on the passes is never what ends them.
-/

namespace QueryDesk

open List

variable {a v w : Value}

namespace Value

lemma same_of_sameFields (h : sameFields fs gs = true)
    (ha : fs.lookup key = some a) : ∃ b, gs.lookup key = some b ∧ (a == b) = true := by
  induction fs with
  | nil => cases ha
  | cons f fs ih =>
    obtain ⟨k, v⟩ := f
    rw [sameFields, Bool.and_eq_true, sameField] at h
    rw [Fields.lookup_cons] at ha
    split at ha
    case isTrue hk =>
      cases ha
      subst hk
      cases hb : gs.lookup key with
      | none => simp [hb] at h
      | some b =>
        have hs : same a b = true := by simpa [hb] using h.1
        exact ⟨b, rfl, hs⟩
    case isFalse => exact ih h.2 ha

lemma peek_eq_of_beq (h : (v == w) = true) (hv : IsText (v.peek key))
    (hw : IsText (w.peek key)) : v.peek key = w.peek key := by
  cases v with
  | record fs =>
    cases w with
    | record gs =>
      obtain ⟨a, ha⟩ := hv
      have hlo : fs.lookup key = some (.text a) := by
        cases hl : fs.lookup key with
        | none => simp [peek, hl] at ha
        | some x => simpa [peek, hl] using ha
      have hf : sameFields fs gs = true := by
        have hs : (fs.length == gs.length && sameFields fs gs) = true := h
        exact (Bool.and_eq_true _ _ ▸ hs).2
      obtain ⟨b, hb, hab⟩ := same_of_sameFields hf hlo
      have hp : (Value.record gs).peek key = b := by simp [peek, hb]
      rw [hp] at hw ⊢
      rw [ha]
      exact (IsText.beq_iff ⟨a, rfl⟩ hw).1 hab
    | _ => simp [peek, IsText] at hw
  | _ => simp [peek, IsText] at hv

end Value

namespace Sql

variable {s : Sorting}

/-- The tables reached after some edges, each of which adds its new end. -/
def grown (reached : List Value) (es : List Edge) : List Value :=
  es.foldl (fun r e => reach r (e.newEnd r)) reached

/-- Each edge touches a table that is reached when its turn comes. -/
def Chained : List Value → List Edge → Prop
  | _, [] => True
  | r, e :: rest => e.touches r = true ∧ Chained (reach r (e.newEnd r)) rest

lemma chained_append : ∀ {a b : List Edge} {r : List Value},
    Chained r (a ++ b) ↔ Chained r a ∧ Chained (grown r a) b
  | [], b, r => by simp [Chained, grown]
  | e :: a, b, r => by
    simp only [cons_append, Chained, chained_append (a := a), grown, foldl_cons, and_assoc]

/-! ### Equal edges -/

/-- Two edges that are equal: their documents are the same. -/
def Edge.Alike (a b : Edge) : Prop := (a.doc == b.doc) = true

/-- The ends of an edge are those that its document names. -/
def Edge.Told (e : Edge) : Prop := e.doc.peek "from_table" = e.fromTable ∧ e.doc.peek "to_table" = e.toTable

lemma Edge.Alike.ends_eq {a b : Edge} (h : a.Alike b) (ha : a.Told) (hb : b.Told)
    (hta : IsText a.fromTable ∧ IsText a.toTable) (htb : IsText b.fromTable ∧ IsText b.toTable) :
    a.fromTable = b.fromTable ∧ a.toTable = b.toTable := by
  rw [← ha.1, ← ha.2] at hta ⊢
  rw [← hb.1, ← hb.2] at htb ⊢
  exact ⟨Value.peek_eq_of_beq h hta.1 htb.1, Value.peek_eq_of_beq h hta.2 htb.2⟩

/-- Some edges in another order, an edge standing for any equal one: whatever equal edges have in common is there
as often as before. -/
structure Rearranged (xs ys : List Edge) : Prop where
  within : xs ⊆ ys
  perm : ∀ {α : Type} (key : Edge → α), (∀ a ∈ ys, ∀ b ∈ ys, a.Alike b → key a = key b) →
    (xs.map key).Perm (ys.map key)

lemma rearranged_refl (xs : List Edge) : Rearranged xs xs := ⟨List.Subset.refl _, fun _ _ => .refl _⟩

lemma Rearranged.trans (h : Rearranged xs ys) (h' : Rearranged ys zs) : Rearranged xs zs := by
  refine ⟨fun x hx => h'.within (h.within hx), fun key hk => ?_⟩
  have hys : ∀ a ∈ ys, ∀ b ∈ ys, a.Alike b → key a = key b :=
    fun a ha b hb => hk a (h'.within ha) b (h'.within hb)
  exact (h.perm key hys).trans (h'.perm key hk)

lemma Rearranged.length_eq (h : Rearranged xs ys) : xs.length = ys.length := by
  simpa using (h.perm (fun _ => ()) fun _ _ _ _ _ => rfl).length_eq

section

variable {e : Edge}

lemma mem_leftAfter (h : x ∈ leftAfter left e) : x ∈ left ∨ x = e := by
  unfold leftAfter at h
  split at h
  · rcases mem_append.1 h with h | h
    · exact .inl (mem_of_mem_eraseP h)
    · exact .inr (mem_singleton.1 h)
  · exact .inl h

lemma leftAfter_cases (left : List Edge) (e : Edge) : leftAfter left e = left ∨
    ∃ pre x behind, left = pre ++ x :: behind ∧ x.Alike e ∧ leftAfter left e = pre ++ behind ++ [e] := by
  unfold leftAfter
  split
  case isTrue h =>
    obtain ⟨y, hy, ha⟩ := any_eq_true.1 h
    obtain ⟨x, pre, behind, -, hx, hp, he⟩ := exists_of_eraseP (p := fun x => x.doc == e.doc) hy ha
    exact .inr ⟨pre, x, behind, hp, hx, by rw [he]⟩
  case isFalse => exact .inl rfl

lemma length_leftAfter : (leftAfter left e).length = left.length := by
  rcases leftAfter_cases left e with h | ⟨pre, x, behind, rfl, -, h⟩
  · rw [h]
  · simp only [h, length_append, length_cons, length_nil]
    omega

lemma leftAfter_perm {key : Edge → α} (h : ∀ x ∈ left, x.Alike e → key x = key e) :
    ((e :: leftAfter left e).map key).Perm ((left ++ [e]).map key) := by
  rcases leftAfter_cases left e with hl | ⟨pre, x, behind, rfl, ha, hl⟩
  · rw [hl, map_append, map_cons]
    exact (perm_append_singleton _ _).symm
  · have hx : key x = key e := h x (by simp) ha
    rw [hl]
    simp only [map_cons, map_append, map_nil, ← hx]
    exact (perm_middle.symm).append_right _

end

/-! ### The passes -/

/-- The edges taken form a chain from the base, and lead to the tables reached. -/
structure Sorting.Sound (base : Value) (s : Sorting) : Prop where
  chained : Chained [base] s.taken
  reached : s.reached = grown [base] s.taken

lemma Sorting.offer_sound (h : s.Sound base) (e : Edge) : (s.offer e).Sound base := by
  unfold Sorting.offer
  split
  case isTrue ht =>
    refine ⟨chained_append.2 ⟨h.chained, ?_⟩, ?_⟩
    · rw [← h.reached]
      exact ⟨ht, trivial⟩
    · simp [grown, foldl_append, h.reached]
  case isFalse => exact ⟨h.chained, h.reached⟩

lemma Sorting.foldl_offer_sound : ∀ (es : List Edge) {s : Sorting}, s.Sound base →
    (es.foldl Sorting.offer s).Sound base
  | [], _, h => h
  | e :: es, _, h => foldl_offer_sound es (offer_sound h e)

/-- Every edge offered is taken or left, an edge that is taken twice standing for an equal one that is not. -/
lemma Sorting.offer_rearranged (s : Sorting) (e : Edge) (es : List Edge) :
    Rearranged ((s.offer e).taken ++ (s.offer e).left ++ es) (s.taken ++ s.left ++ e :: es) := by
  unfold Sorting.offer
  split
  case isTrue =>
    refine ⟨fun x hx => ?_, fun key hk => ?_⟩
    · simp only [mem_append, mem_cons, not_mem_nil, or_false] at hx ⊢
      rcases hx with ((hx | hx) | hx) | hx
      · exact .inl (.inl hx)
      · exact .inr (.inl hx)
      · rcases mem_leftAfter hx with hx | hx
        · exact .inl (.inr hx)
        · exact .inr (.inl hx)
      · exact .inr (.inr hx)
    · have hl : ((e :: leftAfter s.left e).map key).Perm ((s.left ++ [e]).map key) :=
        leftAfter_perm fun x hx => hk x (by simp [hx]) e (by simp)
      have hm := (hl.append_left (s.taken.map key)).append_right (es.map key)
      simpa using hm
  case isFalse => simpa using rearranged_refl _

lemma Sorting.foldl_offer_rearranged : ∀ (es : List Edge) (s : Sorting),
    Rearranged ((es.foldl Sorting.offer s).taken ++ (es.foldl Sorting.offer s).left) (s.taken ++ s.left ++ es)
  | [], s => by simpa using rearranged_refl _
  | e :: es, s => (foldl_offer_rearranged es (s.offer e)).trans (s.offer_rearranged e es)

/-- A walk over edges that leaves all of them has met none that touches a table reached. -/
lemma Sorting.foldl_offer_left : ∀ (es : List Edge) (s : Sorting),
    (es.foldl Sorting.offer s).left.length ≤ s.left.length + es.length ∧
      ((es.foldl Sorting.offer s).left.length = s.left.length + es.length → ∀ e ∈ es, e.touches s.reached = false)
  | [], s => by simp
  | e :: es, s => by
    obtain ⟨hle, ha⟩ := foldl_offer_left es (s.offer e)
    rw [foldl_cons, length_cons]
    by_cases ht : e.touches s.reached = true
    · have hl : (s.offer e).left.length = s.left.length := by rw [Sorting.offer, if_pos ht, length_leftAfter]
      rw [hl] at hle
      exact ⟨by omega, fun h => absurd h (by omega)⟩
    · have hl : (s.offer e).left = s.left ++ [e] := by rw [Sorting.offer, if_neg ht]
      have hr : (s.offer e).reached = s.reached := by rw [Sorting.offer, if_neg ht]
      rw [hl, length_append, length_singleton] at hle ha
      rw [hr] at ha
      refine ⟨by omega, fun h => ?_⟩
      intro f hf
      rcases mem_cons.1 hf with rfl | hf
      · simpa using ht
      · exact ha (by omega) f hf

lemma Sorting.pass_sound (h : s.Sound base) : s.pass.Sound base :=
  foldl_offer_sound s.left ⟨h.chained, h.reached⟩

lemma Sorting.pass_rearranged (s : Sorting) : Rearranged (s.pass.taken ++ s.pass.left) (s.taken ++ s.left) := by
  simpa [Sorting.pass] using foldl_offer_rearranged s.left { s with left := [] }

lemma Sorting.foldl_offer_untouched : ∀ (es : List Edge) (s : Sorting), (∀ e ∈ es, e.touches s.reached = false) →
    es.foldl Sorting.offer s = { s with left := s.left ++ es }
  | [], s, _ => by simp
  | e :: es, s, h => by
    have hl : s.offer e = { s with left := s.left ++ [e] } := by
      rw [Sorting.offer, if_neg (by simp [h e (by simp)])]
    have hr := foldl_offer_untouched es (s.offer e) (by rw [hl]; exact fun f hf => h f (by simp [hf]))
    rw [foldl_cons, hr, hl]
    simp

/-- A pass takes an edge, or it changes nothing and no edge left touches a table reached. -/
lemma Sorting.pass_cases (s : Sorting) : s.pass.left.length < s.left.length ∨
    s.pass = s ∧ ∀ e ∈ s.left, e.touches s.reached = false := by
  obtain ⟨hle, ha⟩ := foldl_offer_left s.left { s with left := [] }
  simp only [length_nil, Nat.zero_add] at hle ha
  rcases Nat.lt_or_eq_of_le hle with hlt | heq
  · exact .inl hlt
  · refine .inr ⟨?_, ha heq⟩
    have hp := foldl_offer_untouched s.left { s with left := [] } (ha heq)
    rw [Sorting.pass, hp]
    simp

lemma Sorting.pass_iterate : ∀ (n : Nat) {s : Sorting}, s.left.length ≤ n →
    (Sorting.pass^[n] s).pass = Sorting.pass^[n] s
  | 0, s, hn => by
    rcases s.pass_cases with hlt | ⟨hf, -⟩
    · omega
    · exact hf
  | n + 1, s, hn => by
    rw [Function.iterate_succ_apply]
    rcases s.pass_cases with hlt | ⟨hf, -⟩
    · exact pass_iterate n (by omega)
    · rw [hf, Function.iterate_fixed hf n, hf]

lemma Sorting.iterate_pass_eq (hn : s.left.length ≤ n) (hm : n ≤ m) :
    Sorting.pass^[m] s = Sorting.pass^[n] s := by
  obtain ⟨k, rfl⟩ := Nat.exists_eq_add_of_le' hm
  rw [Function.iterate_add_apply, Function.iterate_fixed (pass_iterate n hn)]

lemma Sorting.iterate_pass_sound : ∀ (n : Nat) {s : Sorting}, s.Sound base → (Sorting.pass^[n] s).Sound base
  | 0, _, h => h
  | n + 1, _, h => iterate_pass_sound n (pass_sound h)

lemma Sorting.iterate_pass_rearranged : ∀ (n : Nat) (s : Sorting),
    Rearranged ((Sorting.pass^[n] s).taken ++ (Sorting.pass^[n] s).left) (s.taken ++ s.left)
  | 0, _ => rearranged_refl _
  | n + 1, s => (iterate_pass_rearranged n s.pass).trans s.pass_rearranged

/-- Passes that are as many as the edges left end with what was taken, and behind it what could not be. -/
lemma sortPasses_eq : ∀ (n : Nat) {s : Sorting}, s.left.length ≤ n →
    sortPasses n s = (Sorting.pass^[n] s).taken ++ (Sorting.pass^[n] s).left
  | 0, s, hn => by
    have hl : s.left = [] := length_eq_zero_iff.1 (by omega)
    simp [sortPasses, hl]
  | n + 1, s, hn => by
    rw [sortPasses]
    rcases s.pass_cases with hlt | ⟨hf, -⟩
    · have hl : s.left ≠ [] := by
        rintro h
        simp [h] at hlt
      rw [if_neg (by simpa using hl), if_neg (by simp; omega), sortPasses_eq n (by omega),
        Function.iterate_succ_apply]
    · rw [Function.iterate_fixed hf]
      by_cases hl : s.left = []
      · simp [hl]
      · rw [if_neg (by simpa using hl), if_pos (by simp [hf])]

def Sorting.start (base : Value) (edges : List Edge) : Sorting := ⟨[base], [], edges⟩

lemma Sorting.start_sound (base : Value) (eds : List Edge) : (start base eds).Sound base := ⟨trivial, rfl⟩

/-- Any bound on the passes that is not below the number of edges gives the same order. -/
lemma sortPasses_start (hn : eds.length ≤ n) :
    sortPasses n (.start base eds) = (Sorting.pass^[eds.length] (.start base eds)).taken ++
      (Sorting.pass^[eds.length] (.start base eds)).left := by
  rw [sortPasses_eq n hn, Sorting.iterate_pass_eq (n := eds.length) (Nat.le_refl _) hn]

/-- The ordering keeps every edge: first those that can be joined one after the other, then those that
touch nothing reached. -/
lemma orderEdges_spec (base : Value) (eds : List Edge) :
    ∃ taken stuck, Sorting.pass^[eds.length] (.start base eds) = ⟨grown [base] taken, taken, stuck⟩ ∧
      orderEdges base eds = taken ++ stuck ∧ Rearranged (taken ++ stuck) eds ∧
      Chained [base] taken ∧ ∀ e ∈ stuck, e.touches (grown [base] taken) = false := by
  have hs := Sorting.iterate_pass_sound eds.length (Sorting.start_sound base eds)
  refine ⟨_, _, congrArg (Sorting.mk · _ _) hs.reached, sortPasses_start (by omega),
    Sorting.iterate_pass_rearranged eds.length (.start base eds), hs.chained, ?_⟩
  rw [← hs.reached]
  rcases (Sorting.pass^[eds.length] (.start base eds)).pass_cases with hlt | ⟨-, hu⟩
  · rw [Sorting.pass_iterate eds.length (Nat.le_refl _)] at hlt
    omega
  · exact hu

/-! ### States on the way -/

/-- The state of the ordering in pass `n + 1`, behind the edges `walked` of that pass. -/
def Sorting.during (base : Value) (edges : List Edge) (n : Nat) (walked : List Edge) : Sorting :=
  walked.foldl Sorting.offer { Sorting.pass^[n] (.start base edges) with left := [] }

lemma Sorting.during_sound (base : Value) (eds : List Edge) (n : Nat) (walked : List Edge) :
    (during base eds n walked).Sound base := by
  have hs := iterate_pass_sound n (start_sound base eds)
  exact foldl_offer_sound walked ⟨hs.chained, hs.reached⟩

lemma Sorting.foldl_offer_taken : ∀ (es : List Edge) (s : Sorting), s.taken <+: (es.foldl Sorting.offer s).taken
  | [], s => prefix_rfl
  | e :: es, s => by
    have hs : s.taken <+: (s.offer e).taken := by
      unfold Sorting.offer
      split
      · exact prefix_append _ _
      · exact prefix_rfl
    exact hs.trans (foldl_offer_taken es (s.offer e))

lemma Sorting.iterate_pass_taken : ∀ (n : Nat) (s : Sorting), s.taken <+: (Sorting.pass^[n] s).taken
  | 0, _ => prefix_rfl
  | n + 1, s => (foldl_offer_taken s.left { s with left := [] }).trans (iterate_pass_taken n s.pass)

lemma Sorting.during_taken
    (h : (Sorting.pass^[n] (.start base eds)).left = walked ++ ahead) :
    (during base eds n walked).taken <+: (Sorting.pass^[eds.length] (.start base eds)).taken := by
  have hp : Sorting.pass^[n + 1] (.start base eds) = ahead.foldl Sorting.offer (during base eds n walked) := by
    rw [Function.iterate_succ_apply', Sorting.pass, h, foldl_append]
    rfl
  have hl : Sorting.pass^[eds.length + (n + 1)] (.start base eds) =
      Sorting.pass^[eds.length] (.start base eds) :=
    iterate_pass_eq (Nat.le_refl _) (Nat.le_add_right _ _)
  rw [← hl, Function.iterate_add_apply, hp]
  exact (foldl_offer_taken ahead _).trans (iterate_pass_taken eds.length _)

/-! ### Tables reached -/

def TextEnds (es : List Edge) : Prop := ∀ e ∈ es, IsText e.fromTable ∧ IsText e.toTable

/-- The end of an edge that is there already, if it touches a table reached. -/
def Edge.oldEnd (reached : List Value) (e : Edge) : Value :=
  if isReached reached e.fromTable then e.fromTable else e.toTable

section

variable {r : List Value} {e : Edge}

lemma Edge.text_ends (h : IsText e.fromTable ∧ IsText e.toTable) (r : List Value) :
    IsText (e.newEnd r) ∧ IsText (e.oldEnd r) := by
  unfold Edge.newEnd Edge.oldEnd
  split
  · exact ⟨h.2, h.1⟩
  · exact h

lemma Edge.oldEnd_newEnd (e : Edge) (r : List Value) : (e.oldEnd r = e.fromTable ∧ e.newEnd r = e.toTable) ∨
      (e.oldEnd r = e.toTable ∧ e.newEnd r = e.fromTable) := by
  unfold Edge.newEnd Edge.oldEnd
  split
  · exact .inl ⟨rfl, rfl⟩
  · exact .inr ⟨rfl, rfl⟩

lemma Edge.isReached_oldEnd (h : e.touches r = true) : isReached r (e.oldEnd r) = true := by
  rw [Edge.touches, Bool.or_eq_true] at h
  unfold Edge.oldEnd
  split
  case isTrue hf => exact hf
  case isFalse hf => exact h.resolve_left hf

end

/-- The tables `out` that edges reach from `r`: those in `r` and both ends of the edges, each once. A
property that both ends of every edge share passes from the start to all of them. -/
structure Reaches (r : List Value) (es : List Edge) (out : List Value) : Prop where
  start : r ⊆ out
  texts : ∀ x ∈ out, IsText x
  nodup : out.Nodup
  both : ∀ e ∈ es, e.fromTable ∈ out ∧ e.toTable ∈ out
  spreads : ∀ P : Value → Prop, (∀ e ∈ es, P e.fromTable ↔ P e.toTable) → (∀ v ∈ r, P v) → ∀ v ∈ out, P v

lemma reaches_grown : ∀ {es : List Edge} {r : List Value}, (∀ x ∈ r, IsText x) → r.Nodup → TextEnds es →
    Chained r es → Reaches r es (grown r es)
  | [], r, hr, hn, _, _ => ⟨List.Subset.refl _, hr, hn, by simp, fun _ _ h => h⟩
  | e :: es, r, hr, hn, he, ⟨ht, hc⟩ => by
    obtain ⟨hne, hol⟩ := e.text_ends (he e (by simp)) r
    have ih := reaches_grown (names_reach hr hne) (nodup_reach hr hne hn) (fun f hf => he f (by simp [hf])) hc
    have hg : grown r (e :: es) = grown (reach r (e.newEnd r)) es := rfl
    have hin : e.oldEnd r ∈ r := (isReached_iff hr hol).1 (e.isReached_oldEnd ht)
    have hm : ∀ v, v ∈ r ∨ v = e.newEnd r → v ∈ grown r (e :: es) :=
      fun v hv => ih.start ((mem_reach hr hne).2 hv)
    rw [hg] at hm ⊢
    refine ⟨fun v hv => hm v (.inl hv), ih.texts, ih.nodup, fun f hf => ?_, fun P hcu hs => ?_⟩
    · rcases mem_cons.1 hf with rfl | hf
      · rcases f.oldEnd_newEnd r with ⟨ho, hn'⟩ | ⟨ho, hn'⟩
        · exact ⟨hm _ (.inl (ho ▸ hin)), hm _ (.inr hn'.symm)⟩
        · exact ⟨hm _ (.inr hn'.symm), hm _ (.inl (ho ▸ hin))⟩
      · exact ih.both f hf
    · have hPnew : P (e.newEnd r) := by
        have hPold := hs _ hin
        have hed := hcu e (by simp)
        rcases e.oldEnd_newEnd r with ⟨ho, hn'⟩ | ⟨ho, hn'⟩
        · rw [hn']
          exact hed.1 (ho ▸ hPold)
        · rw [hn']
          exact hed.2 (ho ▸ hPold)
      refine ih.spreads P (fun f hf => hcu f (by simp [hf])) fun v hv => ?_
      rcases (mem_reach hr hne).1 hv with hv | rfl
      · exact hs v hv
      · exact hPnew

end Sql

end QueryDesk
