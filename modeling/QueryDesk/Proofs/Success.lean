import Mathlib.Data.List.Forall2
import Mathlib.Order.Defs.Unbundled
import QueryDesk.Service.Desk

/-!
What a success says about the parts of a step. An attempt that is put together from others succeeds
exactly when each of them does; a step of the desk also hands on what was sent so far. Proofs about a
step take it apart with these equivalences and never look inside the monad.
-/

section

open List

variable {α β : Type} {R : α → β → Prop} {xs : List α}

/-- In a pairing of two lists every item on the right belongs to one on the left. -/
lemma List.Forall₂.exists_left (h : Forall₂ R xs ys) (hy : y ∈ ys) : ∃ x ∈ xs, R x y := by
  induction h with
  | nil => simp at hy
  | cons hxy _ ih =>
    rcases mem_cons.1 hy with rfl | hy
    · exact ⟨_, by simp, hxy⟩
    · obtain ⟨x, hx, hR⟩ := ih hy
      exact ⟨x, by simp [hx], hR⟩

/-- In a pairing of two lists every item on the left belongs to one on the right. -/
lemma List.Forall₂.exists_right (h : Forall₂ R xs ys) (hx : x ∈ xs) : ∃ y ∈ ys, R x y :=
  h.flip.exists_left hx

end

namespace QueryDesk

open List

variable {α β : Type}

/-- Whether a fault says what is wrong, and neither ends the program nor interrupts a run. -/
def Fault.isMild : Fault → Bool
  | cancelled | exit _ | redraw | interrupted => false
  | _ => true

namespace Attempt

@[simp] lemma pure_ok : (pure a : Attempt α) = .ok b ↔ a = b := by
  simp [pure, Except.pure]

@[simp] lemma throw_ok : ((throw f : Attempt α) = .ok a) ↔ False := by
  simp [throw, throwThe, MonadExceptOf.throw]

@[simp] lemma ok_bind : ((.ok a : Attempt α) >>= f) = f a := rfl

@[simp] lemma bind_ok {x : Attempt α} {f : α → Attempt β} {b : β} :
    (x >>= f) = .ok b ↔ ∃ a, x = .ok a ∧ f a = .ok b := by
  cases x <;> simp [bind, Except.bind]

@[simp] lemma map_ok {x : Attempt α} {f : α → β} {b : β} : (f <$> x) = .ok b ↔ ∃ a, x = .ok a ∧ f a = b := by
  cases x <;> simp [Functor.map, Except.map]

/-- A walk over a list succeeds when every item does, and gives the items' results in order. -/
lemma mapM_ok {f : α → Attempt β} : ∀ {xs : List α} {ys : List β},
    xs.mapM f = .ok ys ↔ Forall₂ (fun x y => f x = .ok y) xs ys
  | [], ys => by
    rw [mapM_nil, pure_ok, forall₂_nil_left_iff]
    exact eq_comm
  | x :: xs, ys => by
    simp only [mapM_cons, bind_ok, pure_ok, mapM_ok]
    constructor
    · rintro ⟨y, hy, ys', hys, rfl⟩
      exact .cons hy hys
    · rintro (_ | ⟨hy, hys⟩)
      exact ⟨_, hy, _, hys, rfl⟩

lemma mapM_eq_map {f : α → Attempt β} {g : α → β} {xs : List α} (h : ∀ x ∈ xs, f x = .ok (g x)) :
    xs.mapM f = .ok (xs.map g) := by
  rw [mapM_ok, forall₂_map_right_iff, forall₂_same]
  exact h

lemma mapM_map_eq_map {γ : Type} {f : α → β} {step : β → Attempt γ} {g : α → γ} {xs : List α}
    (h : ∀ x, step (f x) = .ok (g x)) : (xs.map f).mapM step = .ok (xs.map g) := by
  rw [mapM_ok, forall₂_map_left_iff, forall₂_map_right_iff, forall₂_same]
  exact fun x _ => h x

lemma exists_mapM {f : α → Attempt β} : ∀ {xs : List α}, (∀ x ∈ xs, ∃ y, f x = .ok y) → ∃ ys, xs.mapM f = .ok ys
  | [], _ => ⟨[], rfl⟩
  | x :: xs, h => by
    obtain ⟨y, hy⟩ := h x (by simp)
    obtain ⟨ys, hys⟩ := exists_mapM fun x hx => h x (mem_cons_of_mem _ hx)
    exact ⟨y :: ys, by simp [mapM_cons, hy, hys]⟩

lemma anyM_eq_any {test : α → Attempt Bool} {p : α → Bool} {xs : List α} (h : ∀ x ∈ xs, test x = .ok (p x)) :
    xs.anyM test = .ok (xs.any p) := by
  induction xs with
  | nil => rfl
  | cons x xs ih =>
    rw [anyM_cons, h x (by simp), ok_bind, any_cons]
    cases p x with
    | true => rfl
    | false => simpa using ih fun y hy => h y (by simp [hy])

lemma eq_map_of_mapM {f : α → Attempt β} {g : α → β} {xs : List α} {ys : List β} (h : xs.mapM f = .ok ys)
    (hg : ∀ x ∈ xs, ∀ y, f x = .ok y → y = g x) : ys = xs.map g := by
  rw [mapM_ok] at h
  induction h with
  | nil => rfl
  | cons hxy _ ih =>
    rw [map_cons, hg _ (by simp) _ hxy, ih fun x hx => hg x (by simp [hx])]

lemma foldlM_keeps {step : β → α → Attempt β} {P : β → Prop} {xs : List α}
    (h : ∀ x ∈ xs, ∀ b b', P b → step b x = .ok b' → P b') : ∀ {b b' : β}, P b → xs.foldlM step b = .ok b' → P b' := by
  induction xs with
  | nil =>
    intro b b' hb h
    exact pure_ok.1 h ▸ hb
  | cons x xs ih =>
    intro b b' hb hf
    obtain ⟨c, hc, hf⟩ := bind_ok.1 hf
    exact ih (fun y hy => h y (by simp [hy])) (h x (by simp) b c hb hc) hf

lemma filter_of_filterM {test : α → Attempt Bool} {p : α → Bool} {xs ys : List α}
    (h : xs.filterM test = .ok ys) (hp : ∀ x ∈ xs, ∀ b, test x = .ok b → b = p x) : ys = xs.filter p := by
  have ha : ∀ {acc zs}, xs.filterAuxM test acc = .ok zs → zs = (xs.filter p).reverse ++ acc := by
    clear h
    induction xs with
    | nil =>
      intro acc zs h
      exact (pure_ok.1 h).symm
    | cons x xs ih =>
      intro acc zs h
      obtain ⟨b, hb, h⟩ := bind_ok.1 (show (test x >>= fun b => xs.filterAuxM test (cond b (x :: acc) acc)) = _ from h)
      rw [ih (fun y hy => hp y (by simp [hy])) h, filter_cons, hp x (by simp) b hb]
      cases p x <;> simp
  obtain ⟨zs, hzs, h⟩ := bind_ok.1 (show (xs.filterAuxM test [] >>= fun zs => pure zs.reverse) = _ from h)
  rw [← pure_ok.1 h, ha hzs, append_nil, reverse_reverse]

def isMild : Attempt α → Bool
  | .ok _ => true
  | .error f => f.isMild

/-- An attempt that, where it fails, says what is wrong. -/
class Mild (x : Attempt α) : Prop where
  mild : x.isMild = true

instance : Mild (pure a : Attempt α) := ⟨rfl⟩

instance : Mild (.ok a : Attempt α) := ⟨rfl⟩

lemma Mild.bind {x : Attempt α} (hx : Mild x) (hf : ∀ a, Mild (f a)) : Mild (x >>= f) := by
  cases x with
  | error fault => exact ⟨hx.mild⟩
  | ok a => exact hf a

lemma Mild.next {x : Attempt α} [hx : Mild x] (hf : ∀ a, Mild (f a)) : Mild (x >>= f) := hx.bind hf

instance [hx : Mild x] [hf : ∀ a, Mild (f a)] : Mild (x >>= f) := hx.bind hf

instance [Decidable c] [hx : Mild x] [hy : Mild y] : Mild (if c then x else y) := by
  split
  · exact hx
  · exact hy

end Attempt

namespace Value

def IsRecord (v : Value) : Prop := ∃ fields, v = .record fields

instance (v : Value) : Decidable v.IsRecord := by
  cases v <;> first | exact .isTrue ⟨_, rfl⟩ | exact .isFalse nofun

lemma getD_ok {v x dflt : Value} {key : String} :
    v.getD key dflt = .ok x ↔ ∃ fs, v = .record fs ∧ (fs.lookup key).getD dflt = x := by
  cases v <;> simp [getD, fieldsFor]

lemma get_ok {v x : Value} {key : String} : v.get key = .ok x ↔ v.IsRecord ∧ v.peek key = x := by
  rw [get, getD_ok]
  constructor
  · rintro ⟨fs, rfl, h⟩
    exact ⟨⟨fs, rfl⟩, h⟩
  · rintro ⟨⟨fs, rfl⟩, h⟩
    exact ⟨fs, rfl, h⟩

lemma exists_get {v : Value} {key : String} {p : Value → Prop} :
    (∃ x, v.get key = .ok x ∧ p x) ↔ v.IsRecord ∧ p (v.peek key) := by
  simp [get_ok, and_assoc]

lemma hashable_ok {v w : Value} (h : v.hashable = .ok w) : v = w := by
  unfold hashable at h
  split at h
  · simp at h
  · simpa using h

end Value

namespace Desk

variable {a : α} {b : β} {f : α → Desk β} {m : Desk α} {x : Attempt α} {t t' : Traffic} {rescue : Fault → Desk α}
  {s : Surroundings}

variable {s : Surroundings} {t t' : Traffic}

/-- A step gives a result, and leaves the traffic as `t'`. -/
def Gives (step : Desk α) (s : Surroundings) (t : Traffic) (a : α) (t' : Traffic) : Prop :=
  carryOut step s t = (.ok a, t')

/-- A step ends in a fault, and leaves the traffic as `t'`. -/
def Fails (step : Desk α) (s : Surroundings) (t : Traffic) (f : Fault) (t' : Traffic) : Prop :=
  carryOut step s t = (.error f, t')

lemma gives_or_fails (step : Desk α) (s : Surroundings) (t : Traffic) :
    (∃ a t', Gives step s t a t') ∨ ∃ f t', Fails step s t f t' := by
  rcases h : carryOut step s t with ⟨_ | a, t'⟩
  · exact .inr ⟨_, t', h⟩
  · exact .inl ⟨a, t', h⟩

lemma carryOut_bind (m : Desk α) (f : α → Desk β) (s : Surroundings) (t : Traffic) :
    carryOut (m >>= f) s t = match carryOut m s t with
      | (.ok a, t₁) => carryOut (f a) s t₁
      | (.error fault, t₁) => (.error fault, t₁) := by
  simp only [carryOut, bind, ReaderT.bind, ReaderT.run, ExceptT.bind, ExceptT.run, ExceptT.mk, StateT.run, StateT.bind]
  rcases m s t with ⟨_ | a, t₁⟩ <;> rfl

lemma carryOut_tryCatch (m : Desk α) (rescue : Fault → Desk α) (s : Surroundings) (t : Traffic) :
    carryOut (tryCatch m rescue) s t = match carryOut m s t with
      | (.ok a, t₁) => (.ok a, t₁)
      | (.error fault, t₁) => carryOut (rescue fault) s t₁ := by
  simp only [carryOut, tryCatch, tryCatchThe, MonadExceptOf.tryCatch, ReaderT.run, ExceptT.run,
    ExceptT.tryCatch, ExceptT.mk, StateT.run, bind, StateT.bind]
  rcases m s t with ⟨_ | a, t₁⟩ <;> rfl

@[simp] lemma gives_pure {b : α} : Gives (pure a) s t b t' ↔ a = b ∧ t = t' := by
  show ((.ok a : Attempt α), t) = (.ok b, t') ↔ _
  simp

@[simp] lemma gives_throw {f : Fault} : Gives (throw f) s t a t' ↔ False := by
  show ((.error f : Attempt α), t) = (.ok a, t') ↔ _
  simp

@[simp] lemma gives_bind : Gives (m >>= f) s t b t' ↔ ∃ a t₁, Gives m s t a t₁ ∧ Gives (f a) s t₁ b t' := by
  simp only [Gives, carryOut_bind]
  rcases carryOut m s t with ⟨_ | a, t₁⟩ <;> simp

@[simp] lemma gives_lift : Gives (liftM x : Desk α) s t a t' ↔ x = .ok a ∧ t = t' := by
  cases x with
  | ok b => exact (gives_pure (a := b)).trans (by simp)
  | error f => exact (gives_throw (f := f)).trans (by simp)

lemma Gives.bind (hm : Gives m s t a t₁)
    (hf : Gives (f a) s t₁ b t') : Gives (m >>= f) s t b t' := gives_bind.2 ⟨a, t₁, hm, hf⟩

lemma Gives.lift (h : x = .ok a) : Gives (liftM x : Desk α) s t a t :=
  gives_lift.2 ⟨h, rfl⟩

lemma Gives.pure : Gives (pure a) s t a t := rfl

lemma Gives.unique {b : α} {t₂ : Traffic} (ha : Gives step s t a t₁)
    (hb : Gives step s t b t₂) : a = b ∧ t₁ = t₂ := by
  simpa using Prod.ext_iff.1 (Eq.trans (Eq.symm ha) hb)

@[simp] lemma gives_mapM_lift {f : α → Attempt β} {xs : List α} {ys : List β} :
    Gives (xs.mapM fun x => (liftM (f x) : Desk β)) s t ys t' ↔ xs.mapM f = .ok ys ∧ t = t' := by
  induction xs generalizing ys t' with
  | nil => simp
  | cons x xs ih =>
    simp only [mapM_cons, gives_bind, gives_lift, ih, gives_pure, Attempt.bind_ok,
      Attempt.pure_ok, and_assoc, exists_and_left, exists_eq_left']
    constructor
    · rintro ⟨y, hy, zs, hz, rfl, rfl⟩
      exact ⟨⟨y, hy, zs, hz, rfl⟩, rfl⟩
    · rintro ⟨⟨y, hy, zs, hz, rfl⟩, rfl⟩
      exact ⟨y, hy, zs, hz, rfl, rfl⟩

lemma gives_mapM_mem : ∀ {xs : List α} {ys : List β} {t t' : Traffic},
    Gives (xs.mapM f) s t ys t' → ∀ y ∈ ys, ∃ x ∈ xs, ∃ t₁ t₂, Gives (f x) s t₁ y t₂
  | [], ys, t, t', h => by
    rw [mapM_nil, gives_pure] at h
    simp [← h.1]
  | x :: xs, ys, t, t', h => by
    simp only [mapM_cons, gives_bind, gives_pure] at h
    obtain ⟨y, t₁, hy, rest, t₂, hr, rfl, rfl⟩ := h
    intro z hz
    rcases mem_cons.1 hz with rfl | hz
    · exact ⟨x, by simp, t, t₁, hy⟩
    · obtain ⟨w, hw, hs⟩ := gives_mapM_mem hr z hz
      exact ⟨w, by simp [hw], hs⟩

lemma gives_tryCatch : Gives (tryCatch m rescue) s t a t' ↔
      Gives m s t a t' ∨ ∃ f t₁, Fails m s t f t₁ ∧ Gives (rescue f) s t₁ a t' := by
  simp only [Gives, Fails, carryOut_tryCatch]
  rcases carryOut m s t with ⟨_ | b, t₁⟩ <;> simp

lemma gives_recover : Gives (recover m rescue) s t a t' ↔ Gives m s t a t' ∨
        ∃ f t₁, Fails m s t f t₁ ∧ f.recoverable = true ∧ Gives (rescue f) s t₁ a t' := by
  rw [recover, gives_tryCatch]
  refine or_congr_right (exists_congr fun f => exists_congr fun t₁ => and_congr_right fun _ => ?_)
  by_cases hf : f.recoverable = true <;> simp [hf]

@[simp] lemma fails_pure {f : Fault} : Fails (pure a) s t f t' ↔ False := by
  show ((.ok a : Attempt α), t) = (.error f, t') ↔ _
  simp

@[simp] lemma fails_bind {x : Fault} :
    Fails (m >>= f) s t x t' ↔ Fails m s t x t' ∨ ∃ a t₁, Gives m s t a t₁ ∧ Fails (f a) s t₁ x t' := by
  simp only [Gives, Fails, carryOut_bind]
  rcases carryOut m s t with ⟨_ | a, t₁⟩ <;> simp

lemma fails_of_gives {x : Fault} (hm : Gives m s t a t₁)
    (hf : Fails (f a) s t₁ x t') : Fails (m >>= f) s t x t' := fails_bind.2 (.inr ⟨a, t₁, hm, hf⟩)

lemma fails_tryCatch {f g : Fault} (hm : Fails m s t g t₁)
    (hr : Fails (rescue g) s t₁ f t') : Fails (tryCatch m rescue) s t f t' := by
  rw [Fails, carryOut_tryCatch, hm]
  exact hr

@[simp] lemma fails_lift {f : Fault} : Fails (liftM x : Desk α) s t f t' ↔ x = .error f ∧ t = t' := by
  cases x with
  | ok b => exact (fails_pure (a := b)).trans (by simp)
  | error g =>
    show ((.error g : Attempt α), t) = (.error f, t') ↔ _
    simp

/-- A step that fails only with faults that can be recovered from. -/
class Tame (step : Desk α) : Prop where
  recovers : ∀ s t f t', Fails step s t f t' → f.recoverable = true

class Completes (step : Desk α) : Prop where
  ends : ∀ s t, ∃ a t', Gives step s t a t'

namespace Completes

instance pure : Completes (pure a) := ⟨fun _ t => ⟨a, t, rfl⟩⟩

instance read : Completes (read : Desk Surroundings) := ⟨fun s t => ⟨s, t, rfl⟩⟩

instance get : Completes (get : Desk Traffic) := ⟨fun _ t => ⟨t, t, rfl⟩⟩

instance modify {f : Traffic → Traffic} : Completes (modify f : Desk Unit) := ⟨fun _ t => ⟨(), f t, rfl⟩⟩

lemma bind (hm : Completes m) (hf : ∀ a, Completes (f a)) : Completes (m >>= f) where
  ends s t := by
    obtain ⟨a, t₁, ha⟩ := hm.ends s t
    obtain ⟨b, t₂, hb⟩ := (hf a).ends s t₁
    exact ⟨b, t₂, ha.bind hb⟩

instance [hm : Completes m] [hf : ∀ a, Completes (f a)] : Completes (m >>= f) := hm.bind hf

instance [Decidable c] [hm : Completes m] [hn : Completes n] : Completes (if c then m else n) := by
  split
  · exact hm
  · exact hn

instance tame [h : Completes m] : Tame m where
  recovers s t f t' hf := by
    obtain ⟨a, t₁, ha⟩ := h.ends s t
    cases (Eq.symm ha).trans hf

instance recover [hm : Tame m] [hr : ∀ f, Completes (rescue f)] : Completes (recover m rescue) where
  ends s t := by
    rcases gives_or_fails m s t with ⟨a, t₁, ha⟩ | ⟨f, t₁, hf⟩
    · exact ⟨a, t₁, gives_recover.2 (.inl ha)⟩
    · obtain ⟨a, t₂, ha⟩ := (hr f).ends s t₁
      exact ⟨a, t₂, gives_recover.2 (.inr ⟨f, t₁, hf, hm.recovers s t f t₁ hf, ha⟩)⟩

end Completes

namespace Tame

lemma throw {f : Fault} (h : f.recoverable = true) : Tame (throw f : Desk α) where
  recovers s t x t' hx := by
    cases hx
    exact h

instance lift [h : x.Mild] : Tame (liftM x : Desk α) where
  recovers s t f t' hf := by
    obtain ⟨rfl, -⟩ := fails_lift.1 hf
    have hm := h.mild
    cases f with
    | cancelled | exit | redraw | interrupted => cases hm
    | _ => rfl

lemma bind (hm : Tame m) (hf : ∀ a, Tame (f a)) : Tame (m >>= f) where
  recovers s t x t' hx := by
    rw [fails_bind] at hx
    rcases hx with hx | ⟨a, t₁, -, hx⟩
    · exact hm.recovers s t x t' hx
    · exact (hf a).recovers s t₁ x t' hx

lemma next [hm : Tame m] (hf : ∀ a, Tame (f a)) : Tame (m >>= f) := hm.bind hf

instance [hm : Tame m] [hf : ∀ a, Tame (f a)] : Tame (m >>= f) := hm.bind hf

instance forIn {f : α → β → Desk (ForInStep β)} [hf : ∀ x b, Tame (f x b)] :
    ∀ {xs : List α} {b : β}, Tame (forIn xs b f)
  | [], b => by
    rw [forIn_nil]
    infer_instance
  | x :: xs, b => by
    rw [forIn_cons]
    refine .bind (hf x b) fun r => ?_
    split
    · infer_instance
    · exact forIn

end Tame

def Ends (step : Desk α) (P : α → Prop) : Prop := ∀ s t a t', Gives step s t a t' → P a

namespace Ends

variable {P : β → Prop}

lemma pure (h : P b) : Ends (pure b) P := by
  intro s t a t' hg
  rw [gives_pure] at hg
  exact hg.1 ▸ h

lemma throw {f : Fault} : Ends (throw f) P := by
  intro s t a t' hg
  simp at hg

lemma lift {x : Attempt β} (h : ∀ b, x = .ok b → P b) : Ends (liftM x) P := by
  intro s t a t' hg
  rw [gives_lift] at hg
  exact h a hg.1

lemma bind (h : ∀ a, Ends (f a) P) : Ends (m >>= f) P := by
  intro s t b t' hg
  rw [gives_bind] at hg
  obtain ⟨a, t₁, -, hf⟩ := hg
  exact h a s t₁ b t' hf

lemma bind_of (hm : Ends m Q)
    (h : ∀ a, Q a → Ends (f a) P) : Ends (m >>= f) P := by
  intro s t b t' hg
  rw [gives_bind] at hg
  obtain ⟨a, t₁, ha, hf⟩ := hg
  exact h a (hm s t a t₁ ha) s t₁ b t' hf

lemma lift_bind (h : ∀ a, x = .ok a → Ends (f a) P) : Ends (liftM x >>= f) P :=
  bind_of (lift fun _ ha => ha) h

lemma recover {m : Desk β} {rescue : Fault → Desk β} (hm : Ends m P) (hr : ∀ f, Ends (rescue f) P) :
    Ends (recover m rescue) P := by
  intro s t b t' hg
  rw [gives_recover] at hg
  rcases hg with hg | ⟨f, t₁, -, -, hg⟩
  · exact hm s t b t' hg
  · exact hr f s t₁ b t' hg

end Ends

/-! ### What a step leaves unchanged -/

section

variable {R : Traffic → Traffic → Prop}

/-- A step that, whatever its outcome, leaves the traffic related to what it was. -/
class Keeps (R : Traffic → Traffic → Prop) (step : Desk α) : Prop where
  related : ∀ s t, R t (carryOut step s t).2

lemma Keeps.gives (h : Keeps R step) (hg : Gives step s t a t') : R t t' := by
  have hr := h.related s t
  rwa [hg] at hr

lemma Keeps.fails (h : Keeps R step) {f : Fault} (hf : Fails step s t f t') : R t t' := by
  have hr := h.related s t
  rwa [hf] at hr

lemma Keeps.mono (h : Keeps R step)
    (hR : ∀ t t', R t t' → R' t t') : Keeps R' step := ⟨fun s t => hR _ _ (h.related s t)⟩

lemma keeps_modify {f : Traffic → Traffic} (h : ∀ t, R t (f t)) : Keeps R (modify f : Desk Unit) := ⟨fun _ t => h t⟩

instance keeps_ite [Decidable c] [hm : Keeps R m] [hn : Keeps R n] :
    Keeps R (if c then m else n) := by
  split
  · exact hm
  · exact hn

section

variable [Std.Refl R]

instance keeps_pure : Keeps R (pure a : Desk α) := ⟨fun _ t => refl t⟩

instance keeps_throw {f : Fault} : Keeps R (throw f : Desk α) := ⟨fun _ t => refl t⟩

instance keeps_read : Keeps R (read : Desk Surroundings) := ⟨fun _ t => refl t⟩

instance keeps_get : Keeps R (get : Desk Traffic) := ⟨fun _ t => refl t⟩

instance keeps_lift : Keeps R (liftM x : Desk α) where
  related s t := by cases x <;> exact refl t

lemma Keeps.lift_bind (h : ∀ a, x = .ok a → Keeps R (f a)) : Keeps R (liftM x >>= f) where
  related s t := by
    cases x with
    | ok a => exact (h a rfl).related s t
    | error fault => exact refl t

end

section

variable [IsTrans Traffic R]

lemma Keeps.bind_of (hm : Keeps R m) (hq : Ends m Q)
    (hf : ∀ a, Q a → Keeps R (f a)) : Keeps R (m >>= f) where
  related s t := by
    have h := hm.related s t
    rw [carryOut_bind]
    rcases hc : carryOut m s t with ⟨fault | a, t₁⟩
    all_goals rw [hc] at h
    · exact h
    · exact IsTrans.trans t t₁ _ h ((hf a (hq s t a t₁ hc)).related s t₁)

lemma Keeps.bind (hm : Keeps R m) (hf : ∀ a, Keeps R (f a)) : Keeps R (m >>= f) :=
  hm.bind_of (Q := fun _ => True) (fun _ _ _ _ _ => trivial) fun a _ => hf a

lemma Keeps.next [hm : Keeps R m] (hf : ∀ a, Keeps R (f a)) : Keeps R (m >>= f) := hm.bind hf

instance keeps_bind [hm : Keeps R m] [hf : ∀ a, Keeps R (f a)] : Keeps R (m >>= f) :=
  hm.bind hf

lemma Keeps.tryCatch (hm : Keeps R m) (hr : ∀ f, Keeps R (rescue f)) : Keeps R (tryCatch m rescue) where
  related s t := by
    have h := hm.related s t
    rw [carryOut_tryCatch]
    rcases hc : carryOut m s t with ⟨fault | a, t₁⟩
    all_goals rw [hc] at h
    · exact IsTrans.trans t t₁ _ h ((hr fault).related s t₁)
    · exact h

variable [Std.Refl R]

lemma Keeps.recover (hm : Keeps R m) (hr : ∀ f, Keeps R (rescue f)) : Keeps R (recover m rescue) := by
  refine .tryCatch hm fun fault => ?_
  infer_instance

instance keeps_recover [hm : Keeps R m] [hr : ∀ f, Keeps R (rescue f)] :
    Keeps R (recover m rescue) := hm.recover hr

instance keeps_mapM [hf : ∀ x, Keeps R (f x)] : ∀ {xs : List α}, Keeps R (xs.mapM f)
  | [] => by
    rw [mapM_nil]
    infer_instance
  | x :: xs => by
    have : Keeps R (xs.mapM f) := keeps_mapM
    rw [mapM_cons]
    infer_instance

instance keeps_forIn {f : α → β → Desk (ForInStep β)} [hf : ∀ x b, Keeps R (f x b)] :
    ∀ {xs : List α} {b : β}, Keeps R (forIn xs b f)
  | [], b => by
    rw [forIn_nil]
    infer_instance
  | x :: xs, b => by
    rw [forIn_cons]
    refine .bind (hf x b) fun r => ?_
    split
    · infer_instance
    · exact keeps_forIn

end

end

end Desk

end QueryDesk
