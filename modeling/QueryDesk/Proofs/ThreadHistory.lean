import QueryDesk.Proofs.KeptRuns
import QueryDesk.Proofs.Pairing

/-!
What a thread knows of its earlier questions. A question that goes on with a thread is asked with the state to go
on from left out, or to be looked up. Only in the second case does its run begin with what the thread has kept: the
questions since the last one that began afresh, and the plans and statements of the run that was kept last.
-/

namespace QueryDesk.Workflow

open Attempt Desk Value Threads List

variable {begun : Value × Value} {state live previous question : Value}

/-- A question that was asked in a thread: the state its run began with, and the one it ended in. -/
structure Turn where
  question : Question
  start : Value
  state : Value

/-- A question that does not come with a state to go on from: it was left out, or is to be looked up. -/
def Question.Unaided (q : Question) : Prop := q.previous = .record [] ∨ q.previous = .null

/-- The questions that the last of some questions knows of: only itself if the state to go on from was left out,
those before it too if it was looked up. -/
def heard (asked : List Question) : List Value :=
  asked.foldl (fun known q => if q.previous.isNull then known ++ [q.question] else [q.question]) []

/-- What a question knows of a field of the runs before it. -/
def known (turns : List Turn) (q : Question) (key : String) : Value :=
  if q.previous.isNull then ((turns.getLast?.bind fun u => readBack? u.state).bind (·.at? key)).getD (.list [])
  else .list []

/-- A state that begins with what its question knows. -/
structure Told (turns : List Turn) (q : Question) (start : Value) : Prop where
  questions : start.at? "user_questions" = some (.list (heard (turns.map Turn.question ++ [q])))
  plans : start.at? "planner_outputs" = some (known turns q "planner_outputs")
  statements : start.at? "queries" = some (known turns q "queries")

/-! ### Questions that are heard -/

lemma heard_concat (asked : List Question) (q : Question) :
    heard (asked ++ [q]) = if q.previous.isNull then heard asked ++ [q.question] else [q.question] := by
  simp [heard, foldl_append]

lemma heard_of_lookedUp (h : ∀ q ∈ asked, q.previous = .null) : heard asked = asked.map Question.question := by
  induction asked using reverseRecOn with
  | nil => rfl
  | append_singleton asked q ih =>
    have hq : q.previous = .null := h q (by simp)
    have ha := ih fun q hq => h q (by simp [hq])
    rw [heard_concat, hq, ha, map_append]
    rfl

lemma isJson_of_heard (h : ∀ q ∈ asked, q.question.IsJson) : ∀ v ∈ heard asked, v.IsJson := by
  induction asked using reverseRecOn with
  | nil => simp [heard]
  | append_singleton asked q ih =>
    have hq : q.question.IsJson := h q (by simp)
    have ha := ih fun q hq => h q (by simp [hq])
    rw [heard_concat]
    intro v hv
    split at hv
    · rcases mem_append.1 hv with hv | hv
      · exact ha v hv
      · exact mem_singleton.1 hv ▸ hq
    · exact mem_singleton.1 hv ▸ hq

/-! ### The first state -/

section

variable {q : Question} {thread previous state : Value}

lemma newThreadState_unaided (h : q.Unaided) : newThreadState q thread = .ok (baseState q thread) := by
  unfold newThreadState
  rcases h with h | h <;> rw [h] <;> rfl

lemma continuedState_afresh (h : previous.truthy = false) :
    continuedState q previous = .ok (baseState q q.thread) := by
  unfold continuedState
  rw [h]
  rfl

/-- A run that goes on has the questions so far and its own, and the plans and statements so far. -/
lemma continuedState_goesOn {asked : List Value} (ha : previous.at? "user_questions" = some (.list asked))
    (hs : previous.at? "messages" = some (.list said)) :
    ∃ state, continuedState q previous = .ok state ∧ state.IsRecord ∧
      state.at? "user_questions" = some (.list (asked ++ [q.question])) ∧
      state.at? "planner_outputs" = some ((previous.at? "planner_outputs").getD (.list [])) ∧
      state.at? "queries" = some ((previous.at? "queries").getD (.list [])) := by
  have hr := isRecord_of_at? ha
  have ht : previous.truthy = true := by
    obtain ⟨fs, rfl⟩ := hr
    cases fs with
    | nil => cases ha
    | cons => rfl
  have hb : (baseState q q.thread).IsRecord := ⟨_, rfl⟩
  simp only [continuedState, ht, Bool.not_true, Bool.false_eq_true, if_false, hr.getD,
    hr.get, ha, hs, Option.getD_some, followedBy, ok_bind]
  refine ⟨_, rfl, hb.update _, ?_, ?_, ?_⟩
  all_goals
    rw [at?_update hb]
    rfl

/-- A change that a question comes with, if any, has a plan and a schema. -/
def Question.Proper (q : Question) : Prop := q.patch = .null ∨ q.patch.IsRecord ∧ q.plan ≠ .null ∧ q.schema ≠ .null

lemma withPatch_gives (h : q.Proper) (base : Value) : ∃ state, withPatch q base = .ok state := by
  unfold withPatch
  rcases h with h | ⟨⟨fs, h⟩, hp, hs⟩
  · rw [h]
    exact ⟨base, rfl⟩
  · rw [h, isNull_eq_false.2 hp, isNull_eq_false.2 hs]
    exact ⟨_, rfl⟩

end

/-! ### A talk in a thread -/

/-- A question is next in a thread: it begins the thread, or finds the runs in it. -/
inductive Next (thread : String) (turns : List Turn) (listed : List Value) (q : Question) (t : Traffic) : Prop
  | begins {entries : Fields} (hturns : turns = []) (hthread : q.thread = .null) (hname : thread = madeUp t)
      (hshelf : Shelf t.threads.states entries)
  | goesOn (hthread : q.thread = .text thread) (hlists : Lists thread t.threads listed)

/-- The questions that were asked in a thread one after the other, and the runs that the file lists for it. Every
run has come to its end and was kept. Whatever happens in between, each question finds the runs of those before. -/
inductive Talk (thread : String) : List Turn → List Value → Prop
  | nil : Talk thread [] []
  | snoc {turns : List Turn} {listed listed' : List Value} {u : Turn} {E R : Int} {visits : List Visit} {name : String}
      {s s' : Surroundings} {t t₀ t₁ t₂ t₃ t₄ : Traffic} (h : Talk thread turns listed)
      (hnext : Next thread turns listed u.question t) (hunaided : u.question.Unaided)
      (hjson : u.question.question.IsJson) (hbegun : Gives (beginning u.question) s t (.text thread, u.start) t₁)
      (hrun : Run E R u.start t₀ visits none u.state t₂) (hsaid : ∃ said, u.state.at? "messages" = some (.list said))
      (hlists : Lists thread t₃.threads listed)
      (hsave : Gives (save (.text thread) u.question.question u.state) s' t₃ name t₄)
      (hkept : Lists thread t₄.threads listed') : Talk thread (turns ++ [u]) listed'

/-- What the last run of a talk is read back as. -/
structure Recalled (turns : List Turn) (listed : List Value) (live : Value) : Prop where
  listed : ∃ earlier run now question doc, listed = earlier ++ [listing run now question doc] ∧ liveState doc = .ok live
  last : ∃ u, turns.getLast? = some u ∧ readBack? u.state = some live
  questions : live.at? "user_questions" = some (.list (heard (turns.map Turn.question)))
  messages : ∃ said, live.at? "messages" = some (.list said)

/-- A talk that has not begun lists no runs; otherwise its last run can be read back. -/
def Remembered (turns : List Turn) (listed : List Value) : Prop :=
  turns = [] ∧ listed = [] ∨ ∃ live, Recalled turns listed live

section

variable {thread : String} {turns : List Turn} {listed : List Value} {q : Question} {s : Surroundings}
  {t t' : Traffic} {start : Value}

lemma beginning_goesOn (hth : q.thread = .text thread)
    (hp : Gives (if q.previous.isNull then latest q.thread else pure q.previous) s t previous t₁) :
    Gives (beginning q) s t begun t' ↔ ∃ base start, continuedState q previous = .ok base ∧
      withPatch q base = .ok start ∧ (q.thread, start) = begun ∧ t₁ = t' := by
  have hn : q.thread.isNull = false := by
    rw [hth]
    rfl
  have heq : beginning q = (if q.previous.isNull then latest q.thread else pure q.previous) >>= fun previous =>
      liftM (continuedState q previous) >>= fun base => liftM (withPatch q base) >>= fun start =>
        pure (q.thread, start) := by
    unfold beginning
    rw [if_neg (by simp [hn])]
    cases q.previous.isNull <;> rfl
  rw [heq, gives_bind]
  constructor
  · rintro ⟨prev', t₂, hp', hg⟩
    obtain ⟨rfl, rfl⟩ := hp'.unique hp
    simp only [gives_bind, gives_lift, gives_pure, and_assoc, exists_and_left, exists_eq_left'] at hg
    obtain ⟨base, hb, start, hs, hbe, ht⟩ := hg
    exact ⟨base, start, hb, hs, hbe, ht⟩
  · rintro ⟨base, start, hb, hs, rfl, rfl⟩
    exact ⟨previous, t₁, hp, .bind (.lift hb) (.bind (.lift hs) .pure)⟩

lemma beginning_begins (ht : q.thread = .null) (hq : q.Unaided) :
    Gives (beginning q) s t begun t' ↔ ∃ name start, Gives (create q.question) s t name t' ∧
      withPatch q (baseState q (.text name)) = .ok start ∧ (.text name, start) = begun := by
  have hn : q.thread.isNull = true := by
    rw [ht]
    rfl
  unfold beginning
  rw [if_pos hn, gives_bind]
  constructor
  · rintro ⟨name, t₁, hc, hg⟩
    dsimp only at hg
    rw [newThreadState_unaided hq] at hg
    simp only [gives_bind, gives_lift, gives_pure, and_assoc, exists_and_left, exists_eq_left', Except.ok.injEq] at hg
    obtain ⟨start, hs, hb, rfl⟩ := hg
    exact ⟨name, start, hc, hs, hb⟩
  · rintro ⟨name, start, hc, hs, rfl⟩
    exact ⟨name, t', hc, .bind (.lift (newThreadState_unaided hq)) (.bind (.lift hs) .pure)⟩

lemma told_base (hh : heard (turns.map Turn.question ++ [q]) = [q.question])
    (hk : ∀ key, known turns q key = .list []) (thread : Value) : Told turns q (baseState q thread) where
  questions := by rw [hh]; rfl
  plans := by rw [hk]; rfl
  statements := by rw [hk]; rfl

lemma told_first (q : Question) (thread : Value) : Told [] q (baseState q thread) := by
  have hh : heard (([] : List Turn).map Turn.question ++ [q]) = [q.question] := by
    rw [heard_concat, map_nil]
    split <;> rfl
  exact told_base hh (fun key => by rw [known]; split <;> rfl) thread

lemma told_afresh (h : q.previous = .record []) (thread : Value) : Told turns q (baseState q thread) := by
  refine told_base ?_ (fun key => ?_) thread
  · rw [heard_concat, h]
    rfl
  · rw [known, h]
    rfl

lemma Told.patched (h : Told turns q base) (hb : base.IsRecord)
    (hs : withPatch q base = .ok start) : Told turns q start := by
  have hk := withPatch_unconcerned hb hs
  refine ⟨?_, ?_, ?_⟩
  · rw [hk.at? _, h.questions]
  · rw [hk.at? _, h.plans]
  · rw [hk.at? _, h.statements]

section

variable (h : Remembered turns listed)

include h

/-- The state from which a question goes on can be had, and tells the question what it knows. -/
lemma continued_told (hl : Lists thread t.threads listed) (hq : q.Unaided)
    (ht : q.thread = .text thread) (s : Surroundings) :
    ∃ previous base, Gives (if q.previous.isNull then latest q.thread else pure q.previous) s t previous t ∧
      continuedState q previous = .ok base ∧ base.IsRecord ∧ Told turns q base := by
  rcases hq with hp | hp
  · -- The state was left out.
    refine ⟨.record [], baseState q q.thread, ?_, continuedState_afresh rfl, ⟨_, rfl⟩, told_afresh hp _⟩
    rw [hp]
    exact .pure
  · rw [hp, ht]
    rcases h with ⟨rfl, rfl⟩ | ⟨live, hr⟩
    · exact ⟨.null, baseState q q.thread, (runs?_of_lists hl).bind .pure, continuedState_afresh rfl, ⟨_, rfl⟩, told_first q _⟩
    · obtain ⟨earlier, run, now, question, doc, rfl, hli⟩ := hr.listed
      obtain ⟨u, hu, hre⟩ := hr.last
      obtain ⟨said, hsa⟩ := hr.messages
      obtain ⟨base, hb, hrc, hqu, hpl, hs⟩ :=
        continuedState_goesOn (q := q) hr.questions hsa
      have hk : ∀ key, known turns q key = (live.at? key).getD (.list []) := by
        intro key
        rw [known, hp, hu, Option.bind_some, hre]
        rfl
      refine ⟨live, base, latest_of_lists hl hli, hb, hrc, ?_, ?_, ?_⟩
      · rw [hqu, heard_concat, hp]
        rfl
      · rw [hpl, hk]
      · rw [hs, hk]

lemma next_told (hn : Next thread turns listed q t) (hq : q.Unaided)
    (hg : Gives (beginning q) s t (.text thread, start) t') : Told turns q start := by
  cases hn with
  | begins htu ht =>
    subst htu
    obtain ⟨name, start, -, hs, hb⟩ := (beginning_begins ht hq).1 hg
    cases hb
    exact (told_first q _).patched ⟨_, rfl⟩ hs
  | goesOn ht hl =>
    obtain ⟨previous, base, hp, hba, hr, hto⟩ := continued_told h hl hq ht s
    obtain ⟨base', start, hb', hs, hb, -⟩ := (beginning_goesOn ht hp).1 hg
    rw [Prod.mk.injEq] at hb
    obtain ⟨-, rfl⟩ := hb
    cases hba.symm.trans hb'
    exact hto.patched hr hs

lemma next_gives (hn : Next thread turns listed q t) (hq : q.Unaided)
    (hj : q.question.IsJson) (hp : q.Proper) (s : Surroundings) :
    ∃ start t', Gives (beginning q) s t (.text thread, start) t' := by
  cases hn with
  | begins htu ht hna hsh =>
    subst hna
    obtain ⟨t', hc, -⟩ := create_lists hsh hj s
    obtain ⟨start, hs⟩ := withPatch_gives hp (baseState q (.text (madeUp t)))
    exact ⟨start, t', (beginning_begins ht hq).2 ⟨_, start, hc, hs, rfl⟩⟩
  | goesOn ht hl =>
    obtain ⟨previous, base, hpr, hb, -, -⟩ := continued_told h hl hq ht s
    obtain ⟨start, hs⟩ := withPatch_gives hp base
    exact ⟨start, t, (beginning_goesOn ht hpr).2 ⟨base, start, hb, hs, by rw [ht], rfl⟩⟩

end

lemma recalled_concat
    (hd : liveState doc = .ok live) (hr : readBack? u.state = some live)
    (hq : live.at? "user_questions" = some (.list (heard (turns.map Turn.question ++ [u.question]))))
    (hs : ∃ said, live.at? "messages" = some (.list said)) :
    Recalled (turns ++ [u]) (listed ++ [listing run now question doc]) live where
  listed := ⟨listed, run, now, question, doc, rfl, hd⟩
  last := ⟨u, getLast?_concat, hr⟩
  questions := by rw [hq, map_append, map_singleton]
  messages := hs

lemma Talk.remembered (h : Talk thread turns listed) :
    Remembered turns listed ∧ ∀ u ∈ turns, u.question.question.IsJson := by
  induction h with
  | nil => exact ⟨.inl ⟨rfl, rfl⟩, by simp⟩
  | @snoc turns listed listed' u E R vis name s s' t t₀ t₁ t₂ t₃ t₄ _ hn hu hj hb hru hs hls
      hsa hk ih =>
    obtain ⟨hr, hqu⟩ := ih
    have ht := next_told hr hn hu hb
    have hal : ∀ q ∈ turns.map Turn.question ++ [u.question], q.question.IsJson := by
      intro q hq
      rcases mem_append.1 hq with hq | hq
      · obtain ⟨u', hu', rfl⟩ := mem_map.1 hq
        exact hqu u' hu'
      · exact mem_singleton.1 hq ▸ hj
    -- No station writes the questions, so they are at the end what they were at the beginning.
    have hfr : Fresh u.start := beginning_ends u.question s t _ t₁ hb
    have ha : u.state.at? "user_questions" = u.start.at? "user_questions" :=
      hru.unwritten hfr (by simp [carried]) (fun stn => by cases stn <;> simp [Station.writes])
    rw [ht.questions] at ha
    obtain ⟨said, hs⟩ := hs
    obtain ⟨run, now, q', plain, doc, hp, hd, rfl⟩ := lists_of_save hls hsa hk
    obtain ⟨live, hli, -, hf, hm⟩ := live_of_kept hs hp hd
    have hl := hf "user_questions" (by decide) _ ha (.list (isJson_of_heard hal))
    refine ⟨.inr ⟨live, recalled_concat hli (readBack?_eq_some hp hd hli) hl hm⟩, ?_⟩
    intro u' hu'
    rcases mem_append.1 hu' with hu' | hu'
    · exact hqu u' hu'
    · exact mem_singleton.1 hu' ▸ hj

/-- A question that goes on with a thread can be asked, and its run begins with what the thread knows: with its
question alone if the state to go on from was left out, and otherwise with all questions since the last one for
which it was, and with the plans and statements of the run that was kept last. Only if it is looked up for every
question does the run begin with all questions of the thread. -/
theorem thread_history (h : Talk thread turns listed) (hnext : Next thread turns listed q t) (hq : q.Unaided) :
    (∀ s start t', Gives (beginning q) s t (.text thread, start) t' → Told turns q start ∧
      ((∀ u ∈ turns, u.question.previous = .null) → q.previous = .null →
        start.at? "user_questions" = some (.list (turns.map (fun u => u.question.question) ++ [q.question])))) ∧
    (q.question.IsJson → q.Proper → ∀ s, ∃ start t', Gives (beginning q) s t (.text thread, start) t') := by
  obtain ⟨hr, -⟩ := h.remembered
  refine ⟨fun s start t' hg => ?_, fun hj hpr s => next_gives hr hnext hq hj hpr s⟩
  have ht := next_told hr hnext hq hg
  refine ⟨ht, fun htu hp => ?_⟩
  have hal : ∀ asked ∈ turns.map Turn.question ++ [q], asked.previous = .null := by
    intro asked ha
    rcases mem_append.1 ha with ha | ha
    · obtain ⟨u, hu, rfl⟩ := mem_map.1 ha
      exact htu u hu
    · exact mem_singleton.1 ha ▸ hp
  rw [ht.questions, heard_of_lookedUp hal, map_append, map_map]
  rfl

lemma talk_first {es : Fields}
    (hs : Shelf t.threads.states es) (ht : q.thread = .null) (hq : q.Unaided) (hj : q.question.IsJson)
    (hb : Gives (beginning q) s t (.text (madeUp t), start) t₁) (hr : Run E R start t₀ visits none state t₂)
    (hsa : ∃ said, state.at? "messages" = some (.list said)) (hk : (readBack? state).isSome = true) :
    ∃ (listed : List Value) (t' : Traffic), Talk (madeUp t) [⟨q, start, state⟩] listed ∧
      Lists (madeUp t) t'.threads listed := by
  have hl : Lists (madeUp t) t₁.threads [] := by
    obtain ⟨_, _, hc, -, -⟩ := (beginning_begins ht hq).1 hb
    obtain ⟨_, hc', hl⟩ := create_lists hs hj s
    obtain ⟨-, rfl⟩ := hc.unique hc'
    exact hl
  obtain ⟨plain, doc, hp, hd⟩ := exists_of_readBack? hk
  obtain ⟨t', hse, hli⟩ := save_lists (s := s) hl hp (kept?_listing hj hd)
  have hn : Next (madeUp t) [] [] q t := .begins rfl ht rfl hs
  exact ⟨_, t', .snoc .nil hn hq hj hb hr hsa hl hse hli, hli⟩

end

/-! A thread in which the orders were asked for, with a statement that was run. -/

def oneRow : Surroundings where
  env := [("ERROR_CORRECTION_COUNT", "1"), ("REFINE_COUNT", "1")]
  server := some (.record [("*", .record [("columns", .list ["id"]), ("rows", .list [.list [.int 7]])])])

def ordersEnd : Progress := Progress.follow oneRow 5 ⟨[], some .transformPlan, limitBeginning.state, {}⟩

lemma list_of_lastSaid (h : (lastSaid state).isSome = true) : ∃ said, state.at? "messages" = some (.list said) := by
  unfold lastSaid at h
  split at h
  · next said hs => exact ⟨said, hs⟩
  · cases h

/-- The run comes to its end, and its end can be kept with the statement that was run. -/
lemma orders_run : ∃ vis state t live, Run 1 1 limitBeginning.state {} vis none state t ∧
    (lastSaid state).isSome = true ∧ readBack? state = some live ∧ (live.peek "queries").truthy = true := by
  have he : (ordersEnd.next.isNone && (lastSaid ordersEnd.state).isSome &&
      (readBack? ordersEnd.state).any fun live => (live.peek "queries").truthy) = true := by decide +kernel
  simp only [Bool.and_eq_true, Option.isNone_iff_eq_none, Option.any_eq_true] at he
  obtain ⟨⟨hn, hs⟩, live, hl, hq⟩ := he
  have hli : Limited oneRow 1 1 := ⟨fun _ => rfl, fun _ => rfl⟩
  have hst : fromStart limitBeginning.state = .ok .transformPlan := rfl
  have hr := Progress.follow_leads begins_limitBeginning.fresh hli hst {} 5
  dsimp only [Progress.Leads] at hr
  rw [← ordersEnd, hn] at hr
  exact ⟨_, _, _, live, hr, hs, hl, hq⟩

lemma orders_talk : ∃ (u : Turn) (listed : List Value) (t : Traffic) (live : Value), u.question = limitQuestion ∧
    Talk "id-1" [u] listed ∧ Lists "id-1" t.threads listed ∧ readBack? u.state = some live ∧
    (live.peek "queries").truthy = true := by
  obtain ⟨vis, state, t, live, hr, hsa, hl, hq⟩ := orders_run
  obtain ⟨t₁, hb⟩ : ∃ t₁, Gives (beginning limitQuestion) {} {} (.text "id-1", limitBeginning.state) t₁ := ⟨_, rfl⟩
  have hs : Shelf ({} : Traffic).threads.states [] := shelf_noThreads
  have hk : (readBack? state).isSome = true := by
    rw [hl]
    rfl
  obtain ⟨listed, t, ht, hli⟩ := talk_first hs rfl (.inl rfl) (.text _) hb hr
    (list_of_lastSaid hsa) hk
  exact ⟨⟨limitQuestion, limitBeginning.state, state⟩, listed, t, live, rfl, ht, hli, hl, hq⟩

/-- A question that goes on with the thread, the state to go on from being left out or looked up. -/
def lateQuestion (previous : Value) : Question where
  question := "And which are late?"
  thread := "id-1"
  previous := previous

theorem thread_history_orders : ∃ u listed t start t', u.question = limitQuestion ∧ Talk "id-1" [u] listed ∧
    Next "id-1" [u] listed (lateQuestion .null) t ∧
    Gives (beginning (lateQuestion .null)) {} t (.text "id-1", start) t' ∧
    start.at? "user_questions" = some (.list ["Which orders?", "And which are late?"]) := by
  obtain ⟨u, listed, t, live, hu, ht, hl, -⟩ := orders_talk
  have hn : Next "id-1" [u] listed (lateQuestion .null) t := .goesOn rfl hl
  obtain ⟨hto, hgi⟩ := thread_history ht hn (.inr rfl)
  obtain ⟨start, t', hg⟩ := hgi (.text _) (.inl rfl) {}
  refine ⟨u, listed, t, start, t', hu, ht, hn, hg, ?_⟩
  rw [(hto {} start t' hg).1.questions, map_singleton, hu]
  rfl

/-- With the state left out, the second question of a thread knows neither the first one nor the statements that were
kept with it. -/
theorem earlier_questions_unknown : ∃ u listed t start t' live, u.question = limitQuestion ∧ Talk "id-1" [u] listed ∧
    Next "id-1" [u] listed (lateQuestion (.record [])) t ∧
    Gives (beginning (lateQuestion (.record []))) {} t (.text "id-1", start) t' ∧
    start.at? "user_questions" ≠ some (.list ["Which orders?", "And which are late?"]) ∧
    readBack? u.state = some live ∧ start.at? "queries" ≠ live.at? "queries" := by
  obtain ⟨u, listed, t, live, hu, hta, hl, hli, ht⟩ := orders_talk
  have hr := hta.remembered.1
  have hn : Next "id-1" [u] listed (lateQuestion (.record [])) t := .goesOn rfl hl
  obtain ⟨start, t', hg⟩ := next_gives hr hn (.inl rfl) (.text _) (.inl rfl) {}
  have hto := next_told hr hn (.inl rfl) hg
  refine ⟨u, listed, t, start, t', live, hu, hta, hn, hg, ?_, hli, fun h => ?_⟩
  · rw [hto.questions]
    simp [heard, lateQuestion, isNull]
  · rw [peek_eq_at?, ← h, hto.statements] at ht
    cases ht

end QueryDesk.Workflow
