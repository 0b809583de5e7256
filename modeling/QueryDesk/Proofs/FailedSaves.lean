import QueryDesk.Proofs.ThreadStore

/-!
What is left of the threads when a run could not be kept. A call writes the whole file, so what it does to the
other threads depends on how it fails: a state whose messages cannot be told ends the call before anything is
written, a value that JSON has no form for takes all threads with it, and for a thread that there is not another
one is begun before the call fails.
-/

namespace QueryDesk

open Attempt List Value Option Fields

variable {found' state threads v w : Value} {f : Fault}

/-! ### Documents that cannot be written -/

namespace Json

variable {fields : Fields} {v w : Value}

lemma kept?_list_eq_none {xs : List Value} (hv : v ∈ xs) (h : kept? v = none) :
    kept? (.list xs) = none := by
  cases hk : keptItems? xs with
  | none => simp [kept?, hk]
  | some ws =>
    obtain ⟨w, -, hw⟩ := (keptItems?_eq_some.1 hk).exists_right hv
    simp [h] at hw

lemma keptFields?_put (key : String) (h : keptFields? fields = some fs')
    (hv : kept? v = some w) : keptFields? (put fields key v) = some (put fs' key w) := by
  rw [keptFields?_eq_some] at h ⊢
  induction h with
  | nil => exact .cons ⟨rfl, hv⟩ .nil
  | @cons f g _ _ hfg hr ih =>
    obtain ⟨⟨k, x⟩, ⟨_, y⟩, ⟨rfl, hxy⟩⟩ := f, g, hfg
    unfold put
    by_cases hk : k = key
    · simp [hk, hv, hr]
    · simp [hk, hxy, ih]

lemma kept?_record_put (key : String) (h : kept? (.record fields) = some (.record fs')) (hv : kept? v = some w) :
    kept? (.record (put fields key v)) = some (.record (put fs' key w)) := by
  simp only [kept?, Option.map_eq_some_iff, record.injEq, exists_eq_right] at h ⊢
  exact keptFields?_put key h hv

lemma keptItems?_append {xs : List Value} (h : (list xs).IsJson) (hv : kept? v = some w) :
    keptItems? (xs ++ [v]) = some (xs ++ [w]) := by
  obtain _ | _ | _ | _ | _ | h := h
  exact keptItems?_eq_some.2 (rel_append (forall₂_same.2 fun x hx => kept?_of_isJson (h x hx)) (.cons hv .nil))

end Json

lemma Value.IsJson.at? (h : v.IsJson) (hw : v.at? key = some w) : w.IsJson := by
  cases h with
  | @record fields h =>
    obtain ⟨pre, after, rfl, -⟩ := lookup_eq_some_iff.1 hw
    exact h (key, w) (by simp)
  | _ => cases hw

lemma Json.kept?_eq_none_of_at? (hw : v.at? key = some w) (h : kept? w = none) :
    kept? v = none := by
  cases v with
  | record fields =>
    obtain ⟨pre, after, rfl, -⟩ := lookup_eq_some_iff.1 hw
    cases hk : keptFields? (pre ++ (key, w) :: after) with
    | none => simp [kept?, hk]
    | some gs =>
      obtain ⟨g, -, -, hg⟩ := (keptFields?_eq_some.1 hk).exists_right (x := (key, w)) (by simp)
      simp [h] at hg
  | _ => cases hw

namespace Threads

open Desk Value

/-! ### A file with threads -/

/-- A document with threads: JSON has a form for it, and every thread has a list of runs. -/
structure Shelf (doc : Value) (entries : Fields) : Prop where
  json : doc.IsJson
  threads : doc.at? "threads" = some (.record entries)
  runs : ∀ name found, entries.lookup name = some found → ∃ listed, found.at? "queries" = some (.list listed)

def unused (name now : String) (question : Value) : Value :=
  .record [("thread_id", .text name), ("original_query", question), ("created_at", .text now),
    ("last_updated", .text now), ("queries", .list [])]

def reshelved (doc : Value) (entries : Fields) (name : String) (found : Value) : Value :=
  doc.update [("threads", .record (put entries name found))]

def listing (run now : String) (question state : Value) : Value :=
  .record [("query_id", .text run), ("timestamp", .text now), ("user_question", question), ("state", state)]

def relisted (found : Value) (now : String) (listed : List Value) : Value :=
  (found.update [("queries", .list listed)]).update [("last_updated", .text now)]

section

variable {doc found : Value} {entries : Fields} {name run now : String} {question : Value} {listed : List Value}

section

variable (h : Shelf doc entries)

include h

lemma Shelf.field : doc.field "threads" = .ok (.record entries) := field_ok.2 h.threads

lemma Shelf.withThread_eq :
    withThread name now question doc = .ok (reshelved doc entries name (unused name now question)) := by
  unfold withThread
  rw [h.field, ok_bind]
  show doc.setField "threads" _ = _
  rw [(isRecord_of_at? h.threads).setField]
  rfl

lemma Shelf.withRun_eq (hf : entries.lookup name = some found)
    (hl : found.at? "queries" = some (.list listed)) (state : Value) :
    withRun run now (.text name) question state doc =
      .ok (reshelved doc entries name (relisted found now (listed ++ [listing run now question state]))) := by
  have hr := isRecord_of_at? hl
  have he : entry (.record entries) (.text name) = .ok found := by
    rw [entry_text, field_ok]
    exact hf
  have hn := hr.update [("queries", .list (listed ++ [listing run now question state]))]
  simp only [withRun, h.field, ok_bind, he, field_ok.2 hl, ← listing.eq_1]
  show (found.setField "queries" (.list (listed ++ [listing run now question state])) >>= _) = _
  rw [hr.setField, ok_bind, hn.setField, ok_bind]
  show doc.setField "threads" _ = _
  rw [(isRecord_of_at? h.threads).setField]
  rfl

lemma Shelf.withRun_eq_error (hf : entries.lookup name = none) (state : Value) :
    withRun run now (.text name) question state doc = .error (absent name) := by
  have he : entry (.record entries) (.text name) = .error (absent name) := by
    simp [entry_text, Value.field, hf]
  simp [withRun, h.field, he, bind, Except.bind]

end

/-! ### What a file holds after a document was written -/

lemma states_of_kept (h : Json.kept? doc = some doc') (hc : ThreadFile.isCountable doc') :
    (ThreadFile.holding doc).states = doc' := by
  simp [ThreadFile.holding, h, ThreadFile.states, hc]

section

variable (h : Shelf doc entries)

include h

lemma Shelf.at?_reshelved :
    (reshelved doc entries name found).at? "threads" = some (.record (put entries name found)) :=
  (isRecord_of_at? h.threads).at?_self _ _

lemma Shelf.isCountable_reshelved : ThreadFile.isCountable (reshelved doc entries name found) = true := by
  rw [ThreadFile.isCountable, (isRecord_of_at? h.at?_reshelved).getD, h.at?_reshelved]
  rfl

lemma Shelf.states_reshelved (hf : Json.kept? found = some found') :
    (ThreadFile.holding (reshelved doc entries name found)).states = reshelved doc entries name found' := by
  have ht := Json.kept?_record_put name (Json.kept?_of_isJson (h.json.at? h.threads)) hf
  have hc : ThreadFile.isCountable (reshelved doc entries name found') = true := h.isCountable_reshelved
  have hj := Json.kept?_of_isJson h.json
  obtain ⟨fields, rfl⟩ := isRecord_of_at? h.threads
  exact states_of_kept (Json.kept?_record_put "threads" hj ht) hc

lemma Shelf.states_lost (hf : Json.kept? found = none) :
    (ThreadFile.holding (reshelved doc entries name found)).states = ThreadFile.noThreads := by
  have he : (record (put entries name found)).at? name = some found := by
    show (put entries name found).lookup name = some found
    rw [lookup_put, if_pos rfl]
  have hn := Json.kept?_eq_none_of_at? h.at?_reshelved (Json.kept?_eq_none_of_at? he hf)
  simp [ThreadFile.holding, hn, ThreadFile.states]

end

lemma kept?_unused (name now : String) (question : Value) :
    Json.kept? (unused name now question) = (Json.kept? question).map (unused name now) := by
  cases h : Json.kept? question <;> simp [unused, Json.kept?, Json.keptFields?, Json.keptField?, Json.keptItems?, h]

lemma kept?_listing_eq_none (h : Json.kept? question = none ∨ Json.kept? state = none) :
    Json.kept? (listing run now question state) = none := by
  have hq : (listing run now question state).at? "user_question" = some question := rfl
  have hs : (listing run now question state).at? "state" = some state := rfl
  rcases h with h | h
  · exact Json.kept?_eq_none_of_at? hq h
  · exact Json.kept?_eq_none_of_at? hs h

lemma at?_relisted (hl : found.at? "queries" = some (.list listed)) (listed' : List Value) :
    (relisted found now listed').at? "queries" = some (.list listed') := by
  have hr := isRecord_of_at? hl
  have hn := hr.update [("queries", .list listed')]
  rw [relisted, (hn.kept_self "last_updated" _).at? _, hr.at?_self]

lemma kept?_relisted (hj : found.IsJson) (hl : found.at? "queries" = some (.list listed))
    (hv : Json.kept? v = some w) :
    Json.kept? (relisted found now (listed ++ [v])) = some (relisted found now (listed ++ [w])) := by
  have hli : Json.kept? (.list (listed ++ [v])) = some (.list (listed ++ [w])) := by
    simp [Json.kept?, Json.keptItems?_append (hj.at? hl) hv]
  have hw := Json.kept?_of_isJson hj
  obtain ⟨fields, rfl⟩ := isRecord_of_at? hl
  exact Json.kept?_record_put "last_updated" (Json.kept?_record_put "queries" hw hli) rfl

lemma kept?_relisted_eq_none (hl : found.at? "queries" = some (.list listed))
    (hv : Json.kept? v = none) : Json.kept? (relisted found now (listed ++ [v])) = none :=
  Json.kept?_eq_none_of_at? (at?_relisted hl _) (Json.kept?_list_eq_none (v := v) (by simp) hv)

end

/-! ### Calls that keep a run or do not -/

section

variable {s : Surroundings} {t : Traffic} {entries : Fields} {thread : String} {question state plain found : Value}
  {listed : List Value}

def named (t : Traffic) : Traffic := { t with names := t.names + 1 }

lemma gives_states_of (t : Traffic) : Gives states s t t.threads.states t := rfl

lemma all_reads (h : file.states.at? "threads" = some threads) :
    Reads file all threads := by
  rintro s t rfl
  refine (gives_states_of t).bind (.lift ?_)
  rw [(isRecord_of_at? h).getD, h, getD_some]

lemma isIn_of_lookup (h : entries.lookup thread = some found) : (text thread).isIn (.record entries) = .ok true := by
  rw [isIn_record, h, isSome_some]

section

variable (h : Shelf t.threads.states entries)

include h

lemma Shelf.save_fails (hf : entries.lookup thread = some found)
    (hp : plainState state = .error f) : Fails (save (.text thread) question state) s t f (named t) :=
  fails_of_gives gives_freshName <| fails_of_gives gives_read <| fails_of_gives (gives_states_of (named t)) <|
    fails_of_gives (.lift h.field) <| fails_of_gives (.lift (isIn_of_lookup hf)) <|
      fails_bind.2 (.inl (fails_lift.2 ⟨hp, rfl⟩))

lemma Shelf.save_gives (hf : entries.lookup thread = some found)
    (hl : found.at? "queries" = some (.list listed)) (hp : plainState state = .ok plain) :
    Gives (save (.text thread) question state) s t (madeUp t) { named t with
      threads := .holding (reshelved t.threads.states entries thread
        (relisted found s.now (listed ++ [listing (madeUp t) s.now question plain]))) } :=
  gives_freshName.bind <| .bind gives_read <| .bind (gives_states_of (named t)) <| .bind (.lift h.field) <|
    .bind (.lift (isIn_of_lookup hf)) <| .bind (.lift hp) <|
      .bind (.lift (h.withRun_eq hf hl plain)) <| .bind gives_write .pure

lemma Shelf.save_unknown (hf : entries.lookup thread = none) (s : Surroundings) (question state : Value) :
    ∃ f, Fails (save (.text thread) question state) s t f { named (named t) with
      threads := .holding (reshelved t.threads.states entries (madeUp (named t))
        (unused (madeUp (named t)) s.now question)) } := by
  have hin : (text thread).isIn (.record entries) = .ok false := by
    rw [isIn_record, hf, isSome_none]
  have hc : Gives (create question) s (named t) (madeUp (named t)) { named (named t) with
      threads := .holding (reshelved t.threads.states entries (madeUp (named t))
        (unused (madeUp (named t)) s.now question)) } :=
    gives_freshName.bind <| .bind gives_read <| .bind (gives_states_of (named (named t))) <|
      .bind (.lift h.withThread_eq) <| .bind gives_write .pure
  cases hp : plainState state with
  | error f =>
    refine ⟨f, fails_of_gives gives_freshName <| fails_of_gives gives_read <|
      fails_of_gives (gives_states_of (named t)) <| fails_of_gives (.lift h.field) <| fails_of_gives (.lift hin) <|
        fails_of_gives hc ?_⟩
    exact fails_bind.2 (.inl (fails_lift.2 ⟨hp, rfl⟩))
  | ok plain =>
    -- The new thread has another name, and the document at hand is older than it.
    refine ⟨absent thread, fails_of_gives gives_freshName <| fails_of_gives gives_read <|
      fails_of_gives (gives_states_of (named t)) <| fails_of_gives (.lift h.field) <| fails_of_gives (.lift hin) <|
        fails_of_gives hc <| fails_of_gives (.lift hp) ?_⟩
    exact fails_bind.2 (.inl (fails_lift.2 ⟨h.withRun_eq_error hf plain, rfl⟩))

end

/-- How a call ends that is to keep a run: by the thread, the state and what JSON has a form for. -/
structure SaveEnds (t : Traffic) (entries : Fields) (thread : String) (question state : Value) : Prop where
  /-- The run is added to its thread. -/
  kept : ∀ s found listed plain shown, entries.lookup thread = some found →
    found.at? "queries" = some (.list listed) → plainState state = .ok plain →
    Json.kept? (listing (madeUp t) s.now question plain) = some shown →
    ∃ file, Gives (save (.text thread) question state) s t (madeUp t) { named t with threads := file } ∧
      file.states = reshelved t.threads.states entries thread (relisted found s.now (listed ++ [shown]))
  unchanged : ∀ s found f, entries.lookup thread = some found → plainState state = .error f →
    Fails (save (.text thread) question state) s t f (named t)
  /-- The call succeeds, and no thread is left. -/
  lost : ∀ s found plain, entries.lookup thread = some found → plainState state = .ok plain →
    Json.kept? question = none ∨ Json.kept? plain = none →
    ∃ file, Gives (save (.text thread) question state) s t (madeUp t) { named t with threads := file } ∧
      file.states = ThreadFile.noThreads
  /-- The call fails, and there is one more thread, begun under a name of its own. -/
  grown : ∀ s shown, entries.lookup thread = none → Json.kept? question = some shown →
    ∃ f file, Fails (save (.text thread) question state) s t f { named (named t) with threads := file } ∧
      file.states = reshelved t.threads.states entries (madeUp (named t))
        (unused (madeUp (named t)) s.now shown)
  /-- The call fails, and no thread is left. -/
  lostUnknown : ∀ s, entries.lookup thread = none → Json.kept? question = none →
    ∃ f file, Fails (save (.text thread) question state) s t f { named (named t) with threads := file } ∧
      file.states = ThreadFile.noThreads

/-- A call that does not keep its run leaves the threads as they were only if it fails on the messages of the
state. For a thread that there is not it fails too, but a thread that nobody asked for has been begun; and a
question or a state that JSON has no form for costs all threads, though the call seems to succeed. -/
theorem save_leaves (h : Shelf t.threads.states entries) (thread : String) (question state : Value) :
    SaveEnds t entries thread question state where
  kept s found listed plain shown hfound hlisted hplain hshown := by
    have hj := (h.json.at? h.threads).at? hfound
    exact ⟨_, h.save_gives hfound hlisted hplain, h.states_reshelved (kept?_relisted hj hlisted hshown)⟩
  unchanged s found f hfound hplain := h.save_fails hfound hplain
  lost s found plain hfound hplain hn := by
    obtain ⟨listed, hlisted⟩ := h.runs thread found hfound
    exact ⟨_, h.save_gives hfound hlisted hplain,
      h.states_lost (kept?_relisted_eq_none hlisted (kept?_listing_eq_none hn))⟩
  grown s shown hfound hshown := by
    obtain ⟨f, hf⟩ := h.save_unknown hfound s question state
    exact ⟨f, _, hf, h.states_reshelved (by rw [kept?_unused, hshown, map_some])⟩
  lostUnknown s hfound hn := by
    obtain ⟨f, hf⟩ := h.save_unknown hfound s question state
    exact ⟨f, _, hf, h.states_lost (by rw [kept?_unused, hn, map_none])⟩

end

/-! ### One thread -/

def oneThread : Fields := [("id-1", .record [("thread_id", "id-1"), ("original_query", "Which orders are open?"),
  ("created_at", "2025-01-15T10:30:00"), ("last_updated", "2025-01-15T10:31:00"),
  ("queries", .list [listing "id-2" "2025-01-15T10:31:00" "Which orders are open?" (.record [("rows", .int 12)])])])]

/-- A file with this thread, two names having been made up for it. -/
def oneThreadFile : Traffic := { threads := .document (store oneThread), names := 2 }

def stateWithSet : Value := .record [("removed_columns", .set ["status"])]

lemma shelf_oneThread : Shelf oneThreadFile.threads.states oneThread where
  json := by
    refine .record fun f hf => ?_
    obtain rfl := mem_singleton.1 hf
    refine .record fun f hf => ?_
    obtain rfl := mem_singleton.1 hf
    refine .record ?_
    simp only [forall_mem_cons, not_mem_nil, false_implies, implies_true, and_true]
    refine ⟨.text _, .text _, .text _, .text _, .list ?_⟩
    simp only [forall_mem_cons, not_mem_nil, false_implies, implies_true, and_true]
    refine .record ?_
    simp only [forall_mem_cons, not_mem_nil, false_implies, implies_true, and_true]
    refine ⟨.text _, .text _, .text _, .record fun f hf => ?_⟩
    obtain rfl := mem_singleton.1 hf
    exact .int 12
  threads := rfl
  runs name found hfo := by
    simp only [oneThread, lookup_cons, lookup_nil, ite_none_right_eq_some, some.injEq] at hfo
    obtain ⟨-, rfl⟩ := hfo
    exact ⟨_, rfl⟩

theorem save_leaves_one : Shelf oneThreadFile.threads.states oneThread ∧
    (∃ f file, Fails (save "id-9" "And which are late?" (.record [])) {} oneThreadFile f
        { named (named oneThreadFile) with threads := file } ∧
      file.states = reshelved (store oneThread) oneThread "id-4"
        (unused "id-4" "2025-01-15T10:30:00" "And which are late?")) ∧
    (∃ file, Gives (save "id-1" "And which are late?" stateWithSet) {} oneThreadFile "id-3"
        { named oneThreadFile with threads := file } ∧ file.states = ThreadFile.noThreads) ∧
    Fails (save "id-1" "And which are late?" (.record [("messages", "none")])) {} oneThreadFile
      (.noAttribute "str" "content") (named oneThreadFile) :=
  ⟨shelf_oneThread, (save_leaves shelf_oneThread "id-9" _ _).grown {} _ rfl rfl,
    (save_leaves shelf_oneThread "id-1" _ _).lost {} _ _ rfl rfl (.inr rfl),
    (save_leaves shelf_oneThread "id-1" _ _).unchanged {} _ _ rfl rfl⟩

/-- Neither a call for a thread that there is not nor a state that cannot be written leaves the threads alone: after
the first there are two of them, after the second none. -/
theorem threads_not_left_alone :
    Reads oneThreadFile.threads all (.record oneThread) ∧
    (∃ f t', Fails (save "id-9" "And which are late?" (.record [])) {} oneThreadFile f t' ∧
      Reads t'.threads all (.record (oneThread ++
        [("id-4", unused "id-4" "2025-01-15T10:30:00" "And which are late?")]))) ∧
    ∃ t', Gives (save "id-1" "And which are late?" stateWithSet) {} oneThreadFile "id-3" t' ∧
      Reads t'.threads all (.record []) :=
  ⟨all_reads rfl, ⟨absent "id-9", _, rfl, all_reads rfl⟩, _, rfl, all_reads rfl⟩

end Threads

end QueryDesk
