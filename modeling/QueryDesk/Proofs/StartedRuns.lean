import QueryDesk.Page.Home
import QueryDesk.Proofs.Keeping
import QueryDesk.Proofs.Runs

/-!
The runs that the page starts. A run is started by a request that carries its first state; whatever else a step
of the page does, the runs it starts are those of the questions it asks, and a change to a plan is asked as a
question that says nothing of sorting, limit or time.
-/

namespace QueryDesk

open List

def Request.start? : Request → Option Value
  | .runFlow state | .watchFlow state _ _ => some state
  | _ => none

namespace Desk

def startedBy (step : Desk α) (s : Surroundings) (t : Traffic) : List Value :=
  ((carryOut step s t).2.requests.drop t.requests.length).filterMap Request.start?

/-- Requests were only added, and the runs that they start begin in a certain way. -/
def Starts (P : Value → Prop) (t t' : Traffic) : Prop :=
  ∃ more, t'.requests = t.requests ++ more ∧ ∀ start ∈ more.filterMap Request.start?, P start

lemma Starts.unsent (h : t'.requests = t.requests) : Starts P t t' := ⟨[], by simp [h], by simp⟩

instance : Std.Refl (Starts P) := ⟨fun _ => .unsent rfl⟩

instance : IsTrans Traffic (Starts P) where
  trans t t' t'' h h' := by
    obtain ⟨more, hm, hs⟩ := h
    obtain ⟨more', hm', hs'⟩ := h'
    refine ⟨more ++ more', by rw [hm', hm, append_assoc], fun start hin => ?_⟩
    rw [filterMap_append, mem_append] at hin
    exact hin.elim (hs start) (hs' start)

lemma Keeps.startedBy (h : Keeps (Starts P) step) (s : Surroundings) (t : Traffic) :
    ∀ start ∈ startedBy step s t, P start := by
  obtain ⟨more, hm, hs⟩ := h.related s t
  rw [Desk.startedBy, hm, drop_left]
  exact hs

lemma keeps_unsent (h : ∀ t, (f t).requests = t.requests) :
    Keeps (Starts P) (modify f : Desk Unit) := keeps_modify fun t => .unsent (h t)

lemma keeps_sent (h : ∀ start, r.start? = some start → P start) : Keeps (Starts P) (send r) :=
  keeps_modify fun t => ⟨[r], rfl, fun start hs => h start (by simpa using hs)⟩

instance keeps_freshName : Keeps (Starts P) freshName := .bind (keeps_unsent fun _ => rfl) fun _ => inferInstance

end Desk

open Desk

/-! ### Keeping runs -/

namespace Threads

instance keeps_states : Keeps (Starts P) states := by
  unfold states
  infer_instance

instance keeps_write : Keeps (Starts P) (write doc) := keeps_unsent fun _ => rfl

instance keeps_create : Keeps (Starts P) (create q) := by
  unfold create
  infer_instance

instance keeps_save : Keeps (Starts P) (save th q st) := by
  repeat refine .next fun _ => ?_
  split <;> infer_instance

instance keeps_latest : Keeps (Starts P) (latest th) := by
  have hr : Keeps (Starts P) (runs? th) := by
    unfold runs?
    infer_instance
  refine .bind hr fun fd => ?_
  split <;> infer_instance

end Threads

instance Database.keeps_closed : Keeps (Starts P) (Database.close conn) := by
  refine .next fun reps => ?_
  split
  · infer_instance
  · refine .bind (keeps_sent fun _ h => nomatch h) fun _ => ?_
    unfold failWith
    split <;> infer_instance

/-! ### Running a question -/

namespace Workflow

/-- The wishes that come with a question, or with one that says nothing of them. -/
structure Wishes where
  sortOrder : Value := "Default"
  limit : Value := .int 0
  timeFilter : Value := "All Time"

def Question.wishes (q : Question) : Wishes := ⟨q.sortOrder, q.limit, q.timeFilter⟩

def Question.Begins (q : Question) (start : Value) : Prop :=
  ∃ s t thread t', Gives (beginning q) s t (thread, start) t'

instance keeps_beginning : Keeps (Starts P) (beginning q) := by
  unfold beginning
  infer_instance

instance keeps_opening : Keeps (Starts P) (opening q) := by
  have hc : Keeps (Starts P) (DebugFile.clear .null) := by
    refine .next fun s => ?_
    split
    · exact .bind (keeps_unsent fun _ => rfl) fun _ => .next fun _ => .next fun _ =>
        .bind (keeps_unsent fun _ => rfl) fun _ => inferInstance
    · infer_instance
  have hw : Keeps (Starts P) Runner.wire := by
    refine .next fun s => ?_
    split <;> infer_instance
  unfold opening
  infer_instance

lemma opening_ends (q : Question) : Ends (opening q) fun begun => q.Begins begun.2 :=
  .bind fun _ => .bind fun _ s t begun t' hg => ⟨s, t, begun.1, t', hg⟩

instance keeps_closeLeftOver : Keeps (Starts P) (closeLeftOver r) := by
  refine .recover ?_ fun _ => inferInstance
  split
  · dsimp only
    split <;> infer_instance
  · infer_instance

lemma keeps_followedUp (hs : Keeps (Starts P) step)
    (hl : Keeps (Starts P) last) : Keeps (Starts P) (followedUp step last) :=
  .bind (.tryCatch hs fun _ => inferInstance) fun _ => inferInstance

lemma keeps_passOn
    (hw : ∀ sight, Keeps (Starts P) (watch sight)) (chunks : List Chunk) :
    Keeps (Starts P) (Runner.passOn st watch chunks) := by
  induction chunks with
  | nil =>
    unfold Runner.passOn
    infer_instance
  | cons chunk rest ih =>
    unfold Runner.passOn
    split <;> infer_instance

lemma keeps_watched (hs : P st)
    (hw : ∀ sight, Keeps (Starts P) (watch sight)) : Keeps (Starts P) (Runner.watched st config mode watch) := by
  have hc : Keeps (Starts P) Runner.nextChunks := by
    refine .next fun t => ?_
    split
    · infer_instance
    · exact .bind (keeps_unsent fun _ => rfl) fun _ => inferInstance
  refine .bind (keeps_sent fun start h => ?_) fun _ => .bind hc (keeps_passOn hw)
  cases h
  exact hs

lemma keeps_askWatched {tell : Value → Desk Unit} (hq : ∀ start, q.Begins start → P start)
    (ht : ∀ v, Keeps (Starts P) (tell v)) : Keeps (Starts P) (askWatched q tell) := by
  refine .bind_of inferInstance (opening_ends q) fun begun hb => .bind (keeps_unsent fun _ => rfl) fun _ => ?_
  have hk : ∀ r, Keeps (Starts P) (kept q begun.1 r) := by
    unfold kept
    infer_instance
  refine keeps_followedUp (.bind (keeps_watched (hq _ hb) fun sight => ?_) fun _ => ?_) inferInstance
  · split
    · infer_instance
    all_goals exact .bind (keeps_unsent fun _ => rfl) fun _ => inferInstance
  · infer_instance

end Workflow

/-! ### The page -/

namespace Page

variable {change : Value}

instance keeps_put : Keeps (Starts P) (put name args opts) :=
  keeps_unsent fun _ => rfl

instance keeps_remember : Keeps (Starts P) (remember name v) := keeps_unsent fun _ => rfl

instance keeps_remembered? : Keeps (Starts P) (remembered? name) := by
  unfold remembered?
  infer_instance

instance keeps_updateStatus {label st : String} :
    Keeps (Starts P) (updateStatus label st done) := by
  unfold updateStatus
  infer_instance

instance keeps_showFailure {what : String} : Keeps (Starts P) (showFailure what f) := by
  unfold showFailure
  infer_instance

instance keeps_keepOutput : Keeps (Starts P) (keepOutput st) := by
  unfold keepOutput reloadThreads
  infer_instance

instance keeps_changesStatus {st : Value} : Keeps (Starts P) (changesStatus st success) := by
  unfold changesStatus
  infer_instance

instance keeps_renewControls : Keeps (Starts P) renewControls := by
  unfold renewControls
  infer_instance

/-- The page starts a question's runs from the states that the question begins with. -/
lemma keeps_watch (hq : ∀ start, q.Begins start → P start) : Keeps (Starts P) (watch how q) := by
  have hf : ∀ event, Keeps (Starts P) (follow how event) := by
    intro event
    refine .next fun named => ?_
    split
    · repeat refine .next fun _ => ?_
      infer_instance
    · infer_instance
  refine .next fun t => .bind (keeps_unsent fun _ => rfl) fun _ =>
    .bind (Workflow.keeps_askWatched hq fun event => .bind (hf event) fun fd => ?_) fun _ =>
    .next fun t' => .bind (keeps_unsent fun _ => rfl) fun _ => inferInstance
  split
  · exact keeps_unsent fun _ => rfl
  · infer_instance

lemma changedQuestion_wishes (h : changedQuestion change = .ok q) : q.wishes = {} := by
  simp only [changedQuestion, Attempt.bind_ok, Attempt.pure_ok] at h
  obtain ⟨_, -, _, -, _, -, _, -, _, -, rfl⟩ := h
  rfl

/-- The states that a change can begin with: its question says nothing of the wishes. -/
def BeginsChange (start : Value) : Prop := ∃ q : Workflow.Question, q.wishes = {} ∧ q.Begins start

lemma keeps_watch_changed (h : changedQuestion change = .ok q) : Keeps (Starts BeginsChange) (watch how q) :=
  keeps_watch fun _ hs => ⟨q, changedQuestion_wishes h, hs⟩

lemma keeps_carryOut (total : Nat) : ∀ (changes : List (Value × Nat)) (state? : Option Value),
    Keeps (Starts BeginsChange) (carryOut total state? changes)
  | [], state? => by
    unfold carryOut
    infer_instance
  | (change, i) :: rest, state? => by
    have hr : ∀ change, Keeps (Starts BeginsChange) (rewriteWaiting (i - 1) change) := by
      intro change
      refine .next fun waiting? => ?_
      split <;> infer_instance
    refine .next fun _ => .next fun change => .bind (hr change) fun _ =>
      .lift_bind fun q hq => .bind (keeps_watch_changed hq) fun st => ?_
    dsimp only
    split
    · infer_instance
    · infer_instance
    · exact keeps_carryOut total rest _

/-- The runs that are started for changes, one by one or together, begin like those of a question that says
nothing of the wishes. -/
lemma keeps_pendingChanges : Keeps (Starts BeginsChange) pendingChanges := by
  have ht : ∀ waiting, Keeps (Starts BeginsChange) (applyWaiting waiting) := by
    intro waiting
    refine .next fun total => .next fun _ =>
      .bind (.recover ?_ fun _ => inferInstance) fun _ => inferInstance
    exact .next fun xs => .bind (keeps_carryOut total _ none) fun state? => inferInstance
  have ho : ∀ change, Keeps (Starts BeginsChange) (applyOne change) := by
    intro change
    refine .next fun _ => .recover ?_ fun _ => inferInstance
    exact .lift_bind fun q hq => .bind (keeps_watch_changed hq) fun state? => inferInstance
  unfold pendingChanges
  infer_instance

end Page

end QueryDesk
