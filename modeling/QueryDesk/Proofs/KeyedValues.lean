import QueryDesk.Proofs.Names

/-!
Values under keys that are texts: what is put under a key is found under it, of several values the last, and the keys
stand in the order in which they were first met, each once.
-/

namespace QueryDesk

open List Value Sql

variable {α β : Type}

namespace Keyed

section

variable {α : Type} {pairs : Keyed α} {name : Value}

def Texts (pairs : Keyed α) : Prop := ∀ p ∈ pairs, IsText p.1

lemma find?_cons (k : Value) (b : α) (pairs : Keyed α) (name : Value) :
    find? ((k, b) :: pairs) name = if k == name then some b else find? pairs name := by
  rw [find?, List.find?_cons]
  cases k == name <;> simp [find?]

lemma texts_put (hpa : Texts pairs) (hk : IsText key) : Texts (put pairs key a) := by
  induction pairs with
  | nil => simpa [put, Texts] using hk
  | cons p pairs ih =>
    obtain ⟨hp, hr⟩ := forall_mem_cons.1 hpa
    unfold put
    split
    · exact forall_mem_cons.2 ⟨hp, hr⟩
    · exact forall_mem_cons.2 ⟨hp, ih hr⟩

lemma find?_put (hp : Texts pairs) (hke : IsText key) (hn : IsText name) :
    find? (put pairs key a) name = if key == name then some a else find? pairs name := by
  induction pairs with
  | nil => rw [put, find?_cons]
  | cons p pairs ih =>
    obtain ⟨hk, hr⟩ := forall_mem_cons.1 hp
    unfold put
    split
    case isTrue heq =>
      obtain rfl := (hk.beq_iff hke).1 heq
      rw [find?_cons, find?_cons]
      split <;> rfl
    case isFalse hne =>
      rw [find?_cons, find?_cons, ih hr]
      by_cases hs : (key == name) = true
      · obtain rfl := (hke.beq_iff hn).1 hs
        simp [hne, hs]
      · simp [hs]

lemma put_new (hpa : Texts pairs) (hk : IsText key) (h : key ∉ pairs.map (·.1)) :
    put pairs key a = pairs ++ [(key, a)] := by
  induction pairs with
  | nil => rfl
  | cons p pairs ih =>
    obtain ⟨hp, hr⟩ := forall_mem_cons.1 hpa
    rw [map_cons, mem_cons, not_or] at h
    rw [put, if_neg (by rw [hp.beq_iff hk]; exact Ne.symm h.1), ih hr h.2, cons_append]

lemma keys_put (pairs : Keyed α) (key : Value) (a : α) : keys (put pairs key a) = reach (keys pairs) key := by
  induction pairs with
  | nil => rfl
  | cons p pairs ih =>
    obtain ⟨k, b⟩ := p
    show keys (if k == key then (k, a) :: pairs else (k, b) :: put pairs key a) = reach (k :: keys pairs) key
    rw [reach, isReached, any_cons]
    cases k == key with
    | true => rfl
    | false =>
      show k :: keys (put pairs key a) = _
      rw [ih, reach, Bool.false_or, ← isReached]
      split <;> rfl

lemma has_eq_isReached (pairs : Keyed α) (name : Value) : has pairs name = isReached (keys pairs) name := by
  rw [has, isReached, keys, any_map]
  rfl

lemma mem_iff_find? (hp : Texts pairs) (hn : (keys pairs).Nodup) (hke : IsText key) :
    (key, a) ∈ pairs ↔ find? pairs key = some a := by
  induction pairs with
  | nil => simp [find?]
  | cons p pairs ih =>
    obtain ⟨k, b⟩ := p
    obtain ⟨hk, hr⟩ := forall_mem_cons.1 hp
    obtain ⟨hne, hn⟩ := nodup_cons.1 hn
    rw [find?_cons, mem_cons, ih hr hn]
    by_cases hs : k = key
    · subst hs
      have hno : find? pairs k ≠ some a := by
        intro hin
        exact hne (mem_map.2 ⟨(k, a), (ih hr hn).2 hin, rfl⟩)
      simp [(hk.beq_iff hk).2 rfl, hno, eq_comm]
    · simp [mt (hk.beq_iff hke).1 hs, Ne.symm hs]

end

section

variable {α : Type} {entry : ε → Value} {value : ε → α} {xs : List ε}

lemma foldl_put_eq (hp : Texts pairs) (hxs : ∀ x ∈ xs, IsText (entry x))
    (hn : (pairs.map (·.1) ++ xs.map entry).Nodup) :
    xs.foldl (fun kn x => put kn (entry x) (value x)) pairs = pairs ++ xs.map fun x => (entry x, value x) := by
  induction xs generalizing pairs with
  | nil => simp
  | cons x xs ih =>
    obtain ⟨hx, hr⟩ := forall_mem_cons.1 hxs
    have hne : entry x ∉ pairs.map (·.1) := by
      intro hin
      exact (nodup_append.1 hn).2.2 (entry x) hin (entry x) (by simp) rfl
    have ht : Texts (pairs ++ [(entry x, value x)]) := forall_mem_append.2 ⟨hp, by simpa using hx⟩
    rw [foldl_cons, put_new hp hx hne, ih ht hr (by simpa using hn), append_assoc,
      map_cons, singleton_append]

lemma find?_map (hxs : ∀ x ∈ xs, IsText (entry x)) (hn : (xs.map entry).Nodup) (hx : x ∈ xs) :
    find? (xs.map fun x => (entry x, value x)) (entry x) = some (value x) := by
  induction xs with
  | nil => cases hx
  | cons y xs ih =>
    obtain ⟨hy, hr⟩ := forall_mem_cons.1 hxs
    rw [map_cons, nodup_cons] at hn
    have hs := hy.beq_iff (hxs x hx)
    rw [map_cons, find?_cons]
    rcases mem_cons.1 hx with rfl | hx
    · rw [if_pos (hs.2 rfl)]
    · rw [if_neg fun he => hn.1 (hs.1 he ▸ mem_map_of_mem hx), ih hr hn.2 hx]

lemma find?_foldl_put (hp : Texts pairs) (hxs : ∀ x ∈ xs, IsText (entry x))
    (hn : IsText name) : find? (xs.foldl (fun kn x => put kn (entry x) (value x)) pairs) name =
      ((xs.reverse.find? (entry · == name)).map value).or (find? pairs name) := by
  induction xs generalizing pairs with
  | nil => rfl
  | cons x xs ih =>
    obtain ⟨hx, hr⟩ := forall_mem_cons.1 hxs
    rw [foldl_cons, ih (texts_put hp hx) hr, find?_put hp hx hn, reverse_cons, find?_append]
    cases xs.reverse.find? (entry · == name) with
    | some y => rfl
    | none => cases hs : entry x == name <;> simp [hs]

lemma keys_foldl_put (pairs : Keyed α) (xs : List ε) :
    keys (xs.foldl (fun known x => put known (entry x) (value x)) pairs) = (xs.map entry).foldl reach (keys pairs) := by
  induction xs generalizing pairs with
  | nil => rfl
  | cons x xs ih => rw [foldl_cons, ih, keys_put, map_cons, foldl_cons]

end

end Keyed

lemma Attempt.filterMapM_eq_filterMap {f : α → Attempt (Option β)} {xs : List α}
    (h : ∀ x ∈ xs, f x = .ok (g x)) : xs.filterMapM f = .ok (xs.filterMap g) := by
  induction xs with
  | nil => rfl
  | cons x xs ih =>
    rw [filterMapM_cons, h x (by simp), Attempt.ok_bind, ih fun y hy => h y (by simp [hy])]
    cases hx : g x <;> simp [hx]

lemma Attempt.foldlM_eq_foldl {step : β → α → Attempt β} {xs : List α}
    (h : ∀ x ∈ xs, ∀ b, step b x = .ok (g b x)) (b : β) : xs.foldlM step b = .ok (xs.foldl g b) := by
  induction xs generalizing b with
  | nil => rfl
  | cons x xs ih =>
    rw [foldlM_cons, h x (by simp), Attempt.ok_bind, foldl_cons, ih fun y hy => h y (by simp [hy])]

end QueryDesk
