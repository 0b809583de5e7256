import Mathlib.Data.List.Induction
import QueryDesk.Proofs.Names
import QueryDesk.Service.Threads

/-!
What the file of threads remembers. Every call reads the whole file, changes one entry and writes the whole file
back, and a state goes into it with its messages as plain documents, which tell their kinds and contents only. The
file has the same entries as a log in which each call adds to its own thread (`Story.holds`), so that every state
comes back but for what else its messages carried, and what is read about a thread depends on the calls on this
thread alone.
-/

namespace QueryDesk

open Attempt List Value Option

variable {s : Surroundings} {t : Traffic}

/-! ### What JSON can hold -/

inductive Value.IsJson : Value → Prop
  | null : IsJson .null
  | bool (b : Bool) : IsJson (.bool b)
  | int (n : Int) : IsJson (.int n)
  | float (x : Float) : IsJson (.float x)
  | text (s : String) : IsJson (.text s)
  | list {items : List Value} (h : ∀ v ∈ items, IsJson v) : IsJson (.list items)
  | record {fields : Fields} (h : ∀ f ∈ fields, IsJson f.2) : IsJson (.record fields)

namespace Json

lemma keptItems?_eq_some {vs ws : List Value} :
    keptItems? vs = some ws ↔ Forall₂ (fun v w => kept? v = some w) vs ws := by
  induction vs generalizing ws with
  | nil => simp [keptItems?, eq_comm]
  | cons v rest ih => simp [keptItems?, forall₂_cons_left_iff, bind_eq_some_iff, ih, eq_comm (a := ws)]

lemma keptFields?_eq_some {fs gs : Fields} :
    keptFields? fs = some gs ↔ Forall₂ (fun f g => f.1 = g.1 ∧ kept? f.2 = some g.2) fs gs := by
  induction fs generalizing gs with
  | nil => simp [keptFields?, eq_comm]
  | cons f rest ih =>
    obtain ⟨k, v⟩ := f
    simp [keptFields?, keptField?, forall₂_cons_left_iff, bind_eq_some_iff, ih, eq_comm (a := gs)]

lemma kept?_of_isJson (h : v.IsJson) : kept? v = some v := by
  induction h with
  | null | bool | int | float | text => rfl
  | list _ ih => simp [kept?, keptItems?_eq_some.2 (forall₂_same.2 ih)]
  | record _ ih => simp [kept?, keptFields?_eq_some.2 (forall₂_same.2 fun f hf => ⟨rfl, ih f hf⟩)]

end Json

namespace Fields

lemma isJson_put {fields : Fields} (h : (record fields).IsJson) (key : String) (hv : v.IsJson) :
    (record (put fields key v)).IsJson := by
  obtain _ | _ | _ | _ | _ | _ | h := h
  refine .record fun f hf => ?_
  rcases mem_put hf with hf | hf
  · exact h f hf
  · exact hf ▸ hv

end Fields

namespace Role

/-- What a message carries besides its content. -/
def more : Role → List (String × String)
  | human fs | assistant fs | system fs => fs

def bare : Role → Role
  | human _ => human
  | assistant _ => assistant
  | system _ => system

end Role

namespace Threads

open Desk Value

variable {entries : Fields} {log : Log} {k : Save}

/-! ### States with messages -/

/-- A message with a content that JSON has a form for. -/
structure Said where
  role : Role
  content : Value
  json : content.IsJson

namespace Said

def message (m : Said) : Value := .message m.role m.content

def doc (m : Said) : Value := .record [("type", .text m.role.label), ("content", m.content)]

/-- The message that is made from the document: of the same kind, with the same content and nothing else. -/
def bare (m : Said) : Value := .message m.role.bare m.content

lemma isJson_doc (m : Said) : m.doc.IsJson := by
  refine .record fun f hf => ?_
  simp only [mem_cons, not_mem_nil, or_false] at hf
  rcases hf with rfl | rfl
  · exact .text _
  · exact m.json

lemma messageFrom_doc (m : Said) : messageFrom m.doc = .ok m.bare := by
  obtain ⟨role, content, json⟩ := m
  cases role <;> rfl

lemma bare_eq_message {m : Said} : m.bare = m.message ↔ m.role.more = [] := by
  obtain ⟨role, content, json⟩ := m
  cases role <;> simp [bare, message, Role.bare, Role.more, eq_comm]

end Said

/-- A state that can be kept, the document that it is kept as and the state that is made from this again: the same
but for the messages, if there are any. -/
inductive Stored : Value → Value → Value → Prop
  | silent {fields : Fields} (json : (record fields).IsJson)
      (silent : ∀ v, fields.lookup "messages" = some v → v.truthy = false) :
      Stored (.record fields) (.record fields) (.record fields)
  | talk (before after : Fields) (said : List Said) (hbefore : (record before).IsJson)
      (hafter : (record after).IsJson) (first : before.lookup "messages" = none) :
      Stored (.record (before ++ ("messages", .list (said.map Said.message)) :: after))
        (.record (before ++ ("messages", .list (said.map Said.doc)) :: after))
        (.record (before ++ ("messages", .list (said.map Said.bare)) :: after))

/-- The messages of a state carry nothing besides their contents. -/
def Bare (state : Value) : Prop :=
  ∀ said, state.at? "messages" = some (.list said) → ∀ role content, .message role content ∈ said → role.more = []

lemma mapMessages_silent {fs : Fields} (h : ∀ v, fs.lookup "messages" = some v → v.truthy = false) :
    mapMessages f (.record fs) = .ok (.record fs) := by
  unfold mapMessages
  cases hm : fs.lookup "messages" with
  | none => simp [hm]
  | some v => simp [hm, h v hm]

lemma mapMessages_talk {after : Fields}
    (first : pre.lookup "messages" = none) (h : xs.mapM f = .ok ys) :
    mapMessages f (.record (pre ++ ("messages", .list xs) :: after)) =
      .ok (.record (pre ++ ("messages", .list ys) :: after)) := by
  cases xs with
  | nil =>
    obtain rfl : ys = [] := by simpa [mapM_ok] using h
    exact mapMessages_silent fun v hv => by
      rw [Fields.lookup_middle first, some.injEq] at hv
      rw [← hv]
      rfl
  | cons x xs =>
    simp only [mapMessages, Fields.lookup_middle first, truthy, items, isEmpty_cons, Bool.not_false, if_true,
      ok_bind, h, Fields.put_middle first]
    rfl

namespace Stored

variable {state doc back : Value}

lemma isJson (h : Stored state doc back) : doc.IsJson := by
  cases h with
  | silent json => exact json
  | talk pre after said hb ha =>
    obtain _ | _ | _ | _ | _ | _ | hb := hb
    obtain _ | _ | _ | _ | _ | _ | ha := ha
    have hs : (list (said.map Said.doc)).IsJson := .list <| by
      rintro v hv
      obtain ⟨m, -, rfl⟩ := mem_map.1 hv
      exact m.isJson_doc
    refine .record fun f hf => ?_
    rcases mem_append.1 hf with hf | hf
    · exact hb f hf
    · rcases mem_cons.1 hf with rfl | hf
      · exact hs
      · exact ha f hf

lemma plainState_eq (h : Stored state doc back) : plainState state = .ok doc := by
  cases h with
  | silent _ silent => exact mapMessages_silent silent
  | talk pre after said _ _ first => exact mapMessages_talk first (mapM_map_eq_map fun _ => rfl)

lemma liveState_eq (h : Stored state doc back) : liveState doc = .ok back := by
  have hm : mapMessages messageFrom doc = .ok back := by
    cases h with
    | silent _ silent => exact mapMessages_silent silent
    | talk pre after said _ _ first => exact mapMessages_talk first (mapM_map_eq_map Said.messageFrom_doc)
  unfold liveState
  split
  · exact hm
  · next he =>
    -- Only a state without fields counts as false, and it has no messages.
    cases h with
    | silent => rfl
    | talk => simp [truthy] at he

lemma back_eq_iff (h : Stored state doc back) : back = state ↔ Bare state := by
  cases h with
  | silent _ silent =>
    refine ⟨fun _ said hs role content hm => ?_, fun _ => rfl⟩
    have he := silent _ hs
    rw [truthy, Bool.not_eq_false', List.isEmpty_iff] at he
    rw [he] at hm
    cases hm
  | talk pre after said _ _ first =>
    have hs : at? (.record (pre ++ ("messages", .list (said.map Said.message)) :: after)) "messages" =
        some (.list (said.map Said.message)) := Fields.lookup_middle first _
    simp only [Bare, hs, record.injEq, append_cancel_left_eq, cons.injEq, Prod.mk.injEq, list.injEq, true_and,
      and_true, map_inj_left, Said.bare_eq_message, some.injEq, forall_eq']
    refine ⟨fun hm role content hr => ?_, fun hm m hms => hm _ m.content (mem_map_of_mem hms)⟩
    obtain ⟨m, hms, he⟩ := mem_map.1 hr
    cases he
    exact hm m hms

end Stored

/-! ### Deeds -/

/-- A thread that was begun: under which name, when and with which question. -/
structure Opening where
  name : String
  now : String
  question : Value
  json : question.IsJson

/-- A run that was kept: in which thread and under which name, when, for which question, and the state it ended in
with its document and what is made from this again. -/
structure Save where
  thread : String
  run : String
  now : String
  question : Value
  state : Value
  doc : Value
  back : Value
  json : question.IsJson
  stored : Stored state doc back

def Save.listing (k : Save) : Value :=
  .record [("query_id", .text k.run), ("timestamp", .text k.now), ("user_question", k.question), ("state", k.doc)]

/-- A call that changed the file of threads. -/
inductive Deed where
  | opened (o : Opening)
  | saved (k : Save)

namespace Deed

def name : Deed → String
  | opened o => o.name
  | saved k => k.run

def thread : Deed → String
  | opened o => o.name
  | saved k => k.thread

def savedIn? (thread : String) : Deed → Option Save
  | opened _ => none
  | saved k => if k.thread = thread then some k else none

def opened? : Deed → Option String
  | opened o => some o.name
  | saved _ => none

def now : Deed → String
  | opened o => o.now
  | saved k => k.now

def call : Deed → Desk String
  | opened o => create o.question
  | saved k => save (.text k.thread) k.question k.state

structure Done (s : Surroundings) (t : Traffic) (d : Deed) (t' : Traffic) : Prop where
  now : d.now = s.now
  gives : Gives d.call s t d.name t'

end Deed

def begun (deeds : List Deed) : List String := deeds.filterMap Deed.opened?

def savesOf (thread : String) (deeds : List Deed) : List Save := deeds.filterMap (Deed.savedIn? thread)

/-- A deed that comes after others: a run is kept in a thread that there is. -/
def Deed.Follows (deeds : List Deed) : Deed → Prop
  | opened _ => True
  | saved k => k.thread ∈ begun deeds

instance (deeds : List Deed) : (d : Deed) → Decidable (d.Follows deeds)
  | .opened _ => .isTrue trivial
  | .saved k => inferInstanceAs (Decidable (k.thread ∈ begun deeds))

/-- Deeds that were done one after the other on a file without threads, and the file they left. Between them all
else may change. -/
inductive Story : List Deed → ThreadFile → Prop
  | nil {file : ThreadFile} (h : file.states = ThreadFile.noThreads) : Story [] file
  | snoc {deeds : List Deed} {d : Deed} {s : Surroundings} {t t' : Traffic} (h : Story deeds t.threads)
      (hfollows : d.Follows deeds) (hdone : d.Done s t t') : Story (deeds ++ [d]) t'.threads

/-! ### The entries of the file -/

/-- A thread with the runs kept in it since it was begun. -/
structure Log where
  opening : Opening
  saves : List Save

namespace Log

def updated (log : Log) : String := (log.saves.getLast?.map Save.now).getD log.opening.now

def doc (log : Log) : Value :=
  .record [("thread_id", .text log.opening.name), ("original_query", log.opening.question),
    ("created_at", .text log.opening.now), ("last_updated", .text log.updated),
    ("queries", .list (log.saves.map Save.listing))]

def add (log : Log) (k : Save) : Log := { log with saves := log.saves ++ [k] }

lemma isJson_doc (log : Log) : log.doc.IsJson := by
  have hl (k : Save) : k.listing.IsJson := .record <| by
    simp only [forall_mem_cons, not_mem_nil, false_implies, implies_true, and_true]
    exact ⟨.text _, .text _, k.json, k.stored.isJson⟩
  have hr : (list (log.saves.map Save.listing)).IsJson := .list <| by
    intro v hv
    obtain ⟨k, -, rfl⟩ := mem_map.1 hv
    exact hl k
  refine .record ?_
  simp only [forall_mem_cons, not_mem_nil, false_implies, implies_true, and_true]
  exact ⟨.text _, log.opening.json, .text _, .text _, hr⟩

end Log

def Deed.after (log : Option Log) : Deed → Option Log
  | opened o => some ⟨o, []⟩
  | saved k => log.map fun l => l.add k

def logOf (thread : String) (deeds : List Deed) : Option Log :=
  deeds.foldl (fun log d => if d.thread = thread then d.after log else log) none

lemma logOf_snoc (thread : String) (deeds : List Deed) (d : Deed) :
    logOf thread (deeds ++ [d]) = if d.thread = thread then d.after (logOf thread deeds) else logOf thread deeds := by
  rw [logOf, foldl_append]
  rfl

def store (entries : Fields) : Value := .record [("threads", .record entries)]

/-- The file has an entry for every thread that was begun, and no other. -/
structure Holds (deeds : List Deed) (file : ThreadFile) (entries : Fields) : Prop where
  states : file.states = store entries
  json : (record entries).IsJson
  logs : ∀ thread, entries.lookup thread = (logOf thread deeds).map Log.doc

/-! ### Reading -/

/-- Wherever the file of threads is `file`, a step gives `v` and leaves all as it was. -/
def Reads (file : ThreadFile) (step : Desk Value) (v : Value) : Prop :=
  ∀ s t, t.threads = file → Gives step s t v t

lemma Reads.unique {file : ThreadFile} {step : Desk Value} {v w : Value} (h : Reads file step v)
    (h' : Reads file step w) : v = w :=
  ((h {} { threads := file } rfl).unique (h' {} { threads := file } rfl)).1

/-- The runs of a thread; one that was not begun has none. -/
def savesIn (log : Option Log) : List Save := (log.map Log.saves).getD []

lemma isIn_record (name : String) (fs : Fields) :
    (text name).isIn (.record fs) = .ok (fs.lookup name).isSome := by
  have ha : (fs.any fun f => text f.1 == .text name) = (fs.lookup name).isSome := by
    induction fs with
    | nil => rfl
    | cons f rest ih =>
      obtain ⟨k, v⟩ := f
      rw [any_cons, ih, beq_text, text?, Fields.lookup_cons]
      by_cases h : name = k <;> simp [h]
  simp [isIn, hashable, changeable?, ha, pure, Except.pure]

lemma entry_text (name : String) (threads : Value) : entry threads (.text name) = threads.field name := rfl

lemma field_store (entries : Fields) : (store entries).field "threads" = .ok (.record entries) := rfl

lemma gives_states (h : t.threads.states = store entries) :
    Gives states s t (store entries) t := h ▸ rfl

section Readings

variable {s : Surroundings} {t : Traffic} {file : ThreadFile} {entries : Fields} {thread : String} {log : Option Log}

lemma runs?_gives (hss : t.threads.states = store entries) (hlo : entries.lookup thread = log.map Log.doc) :
    Gives (runs? (.text thread)) s t (log.map fun l => .list (l.saves.map Save.listing)) t := by
  refine (gives_states hss).bind (.bind (.lift (field_store entries)) ?_)
  refine .bind (.lift (isIn_record thread entries)) ?_
  rw [hlo]
  cases log with
  | none => exact .pure
  | some l =>
    have he : entry (.record entries) (.text thread) = .ok l.doc := by
      rw [entry_text, field_ok]
      exact hlo
    exact .bind (.lift he) (.bind (.lift rfl) .pure)

lemma runNamed?_listing (run : String) (saves : List Save) :
    runNamed? (.text run) (saves.map Save.listing) = .ok ((saves.find? (·.run == run)).map Save.listing) := by
  induction saves with
  | nil => rfl
  | cons k rest ih =>
    have hn : (text k.run == .text run) = (k.run == run) := by
      rw [beq_text, text?, some_beq_some, BEq.comm]
    have hf : k.listing.field "query_id" = .ok (.text k.run) := rfl
    simp only [map_cons, runNamed?, hf, ok_bind, hn, find?_cons]
    cases k.run == run with
    | true => rfl
    | false => exact ih

structure Answers (file : ThreadFile) (thread : String) (log : Option Log) : Prop where
  find : ∀ run, Reads file (find (.text thread) (.text run))
    ((((savesIn log).find? (·.run == run)).map Save.back).getD .null)
  latest : Reads file (latest (.text thread)) (((savesIn log).getLast?.map Save.back).getD .null)
  runs : Reads file (runs (.text thread)) (.list ((savesIn log).map Save.listing))
  info : Reads file (info (.text thread)) ((log.map Log.doc).getD .null)

section

variable (hss : file.states = store entries) (hlo : entries.lookup thread = log.map Log.doc)

include hss hlo

lemma find_reads (run : String) : Reads file (find (.text thread) (.text run))
      ((((savesIn log).find? (·.run == run)).map Save.back).getD .null) := by
  rintro s t rfl
  refine (runs?_gives hss hlo).bind ?_
  cases log with
  | none => exact .pure
  | some l =>
    refine .bind (.lift rfl) (.bind (.lift (runNamed?_listing run l.saves)) ?_)
    show Gives _ s t (((l.saves.find? (·.run == run)).map Save.back).getD .null) t
    cases l.saves.find? (·.run == run) with
    | none => exact .pure
    | some k => exact .bind (.lift rfl) (.lift k.stored.liveState_eq)

lemma latest_reads : Reads file (latest (.text thread)) (((savesIn log).getLast?.map Save.back).getD .null) := by
  rintro s t rfl
  refine (runs?_gives hss hlo).bind ?_
  cases log with
  | none => exact .pure
  | some l =>
    rcases l.saves.eq_nil_or_concat with hs | ⟨saves, k, hs⟩
    · simp only [map_some, savesIn, hs]
      exact .pure
    · have hl : (list (l.saves.map Save.listing)).last = .ok k.listing := by
        simp [hs, last]
      have ht : (list (l.saves.map Save.listing)).truthy = true := by
        simp [hs, truthy]
      have hst : (((savesIn (some l)).getLast?.map Save.back).getD .null) = k.back := by
        simp [savesIn, hs]
      simp only [map_some, ht, if_true, hst]
      exact .bind (.lift hl) (.bind (.lift rfl) (.lift k.stored.liveState_eq))

lemma answers_of_lookup :
    Answers file thread log where
  find := find_reads hss hlo
  latest := latest_reads hss hlo
  runs := by
    rintro s t rfl
    refine (runs?_gives hss hlo).bind ?_
    cases log <;> exact .pure
  info := by
    rintro s t rfl
    refine (gives_states hss).bind (.bind (.lift (field_store entries)) (.lift ?_))
    rw [← hlo]
    rfl

end

end Readings

/-! ### Writing -/

lemma states_holding (h : (record entries).IsJson) : (ThreadFile.holding (store entries)).states = store entries := by
  have hs : (store entries).IsJson := .record fun f hf => by
    rw [mem_singleton] at hf
    exact hf ▸ h
  rw [ThreadFile.holding, Json.kept?_of_isJson hs]
  rfl

section Writing

variable {s : Surroundings} {t : Traffic} {entries : Fields}

lemma gives_read : Gives read s t s t := rfl

def madeUp (t : Traffic) : String := s!"id-{t.names + 1}"

lemma gives_freshName : Gives freshName s t (madeUp t) { t with names := t.names + 1 } := rfl

lemma gives_write {doc : Value} : Gives (write doc) s t () { t with threads := .holding doc } := rfl

lemma withThread_eq (o : Opening) (entries : Fields) :
    withThread o.name o.now o.question (store entries) = .ok (store (Fields.put entries o.name (Log.mk o []).doc)) :=
  rfl

/-- What a file with some entries becomes when one of them is set. -/
def written (t : Traffic) (entries : Fields) (thread : String) (log : Log) : Traffic :=
  { t with names := t.names + 1, threads := .holding (store (Fields.put entries thread log.doc)) }

lemma create_gives (hss : t.threads.states = store entries) {o : Opening} (hn : o.name = madeUp t)
    (hno : o.now = s.now) : Gives (create o.question) s t o.name (written t entries o.name ⟨o, []⟩) := by
  have ht := withThread_eq o entries
  rw [hn, hno] at ht
  rw [hn]
  exact gives_freshName.bind (.bind gives_read (.bind (gives_states hss)
    (.bind (.lift ht) (.bind gives_write .pure))))

lemma withRun_eq (hlo : entries.lookup k.thread = some log.doc) :
    withRun k.run k.now (.text k.thread) k.question k.doc (store entries) =
      .ok (store (Fields.put entries k.thread (log.add k).doc)) := by
  have he : entry (.record entries) (.text k.thread) = .ok log.doc := by
    rw [entry_text, field_ok]
    exact hlo
  have hr : appended (.list (log.saves.map Save.listing)) k.listing =
      .ok (.list ((log.add k).saves.map Save.listing)) := by
    simp [appended, Log.add]
  have hu : (log.add k).updated = k.now := by simp [Log.updated, Log.add]
  have hq : log.doc.field "queries" = .ok (.list (log.saves.map Save.listing)) := rfl
  simp only [withRun, field_store, he, hq, ok_bind, ← Save.listing.eq_1, hr]
  rw [Log.doc.eq_1 (log.add k), hu]
  rfl

lemma save_gives (hss : t.threads.states = store entries)
    (hlo : entries.lookup k.thread = some log.doc) (hn : k.run = madeUp t) (hno : k.now = s.now) :
    Gives (save (.text k.thread) k.question k.state) s t k.run (written t entries k.thread (log.add k)) := by
  have hin : (text k.thread).isIn (.record entries) = .ok true := by
    rw [isIn_record, hlo, isSome_some]
  have hr := withRun_eq hlo
  rw [hn, hno] at hr
  rw [hn]
  exact gives_freshName.bind (.bind gives_read (.bind (gives_states hss) (.bind (.lift (field_store entries))
    (.bind (.lift hin) (.bind (.lift k.stored.plainState_eq) (.bind (.lift hr) (.bind gives_write .pure)))))))

end Writing

/-! ### Histories -/

lemma mem_begun_iff {thread : String} {deeds : List Deed} :
    thread ∈ begun deeds ↔ ∃ log, logOf thread deeds = some log := by
  induction deeds using reverseRecOn with
  | nil => simp [begun, logOf]
  | append_singleton deeds d ih =>
    rw [logOf_snoc, begun, filterMap_append, mem_append, ← begun, ih]
    cases d with
    | opened o =>
      by_cases h : o.name = thread
      · simp [Deed.opened?, Deed.thread, Deed.after, h]
      · simp [Deed.opened?, Deed.thread, h, Ne.symm h]
    | saved k => by_cases h : k.thread = thread <;> simp [Deed.opened?, Deed.thread, Deed.after, h]

section Steps

variable {s : Surroundings} {t t' : Traffic} {deeds : List Deed} {d : Deed} {entries : Fields} {file : ThreadFile}

lemma Holds.gives (h : Holds deeds t.threads entries) (hf : d.Follows deeds) (hn : d.name = madeUp t)
    (hno : d.now = s.now) :
    ∃ log, d.after (logOf d.thread deeds) = some log ∧ Gives d.call s t d.name (written t entries d.thread log) := by
  cases d with
  | opened o => exact ⟨⟨o, []⟩, rfl, create_gives h.states hn hno⟩
  | saved k =>
    obtain ⟨log, hlo⟩ := mem_begun_iff.1 hf
    have he : entries.lookup k.thread = some log.doc := by rw [h.logs, hlo, map_some]
    refine ⟨log.add k, ?_, save_gives h.states he hn hno⟩
    rw [Deed.thread, hlo]
    rfl

/-- The name of a deed is made up first and given last, whatever is written in between. -/
lemma Deed.Done.name_eq (h : d.Done s t t') : d.name = madeUp t := by
  obtain ⟨-, h⟩ := h
  cases d with
  | opened o =>
    obtain ⟨name, t₁, hn, h⟩ := gives_bind.1 h
    rw [(hn.unique gives_freshName).1] at h
    refine (?_ : Ends _ (· = madeUp t)) _ _ _ _ h
    exact .bind fun _ => .bind fun _ => .bind fun _ => .bind fun _ => .pure rfl
  | saved k =>
    obtain ⟨name, t₁, hn, h⟩ := gives_bind.1 h
    rw [(hn.unique gives_freshName).1] at h
    refine (?_ : Ends _ (· = madeUp t)) _ _ _ _ h
    refine .bind fun _ => .bind fun _ => .bind fun _ => .bind fun fd => ?_
    dsimp only
    -- For a thread that there is not, another one is begun; its name is not the one that is given.
    split
    · exact .bind fun _ => .bind fun _ => .bind fun _ => .bind fun _ => .pure rfl
    · exact .bind fun _ => .bind fun _ => .bind fun _ => .pure rfl

lemma Holds.written (h : Holds deeds t.threads entries) (hf : d.Follows deeds) (hd : d.Done s t t') :
    ∃ log, d.after (logOf d.thread deeds) = some log ∧ t' = written t entries d.thread log := by
  obtain ⟨log, hlo, hg⟩ := h.gives hf hd.name_eq hd.now
  exact ⟨log, hlo, (hd.gives.unique hg).2⟩

lemma Holds.step (h : Holds deeds t.threads entries) (hf : d.Follows deeds) (hd : d.Done s t t') :
    ∃ entries', Holds (deeds ++ [d]) t'.threads entries' ∧
      ∀ other ≠ d.thread, entries'.lookup other = entries.lookup other := by
  obtain ⟨log, hlo, rfl⟩ := h.written hf hd
  have hj := Fields.isJson_put h.json d.thread log.isJson_doc
  refine ⟨_, ⟨states_holding hj, hj, fun thread => ?_⟩, fun other ho => ?_⟩
  · rw [Fields.lookup_put, logOf_snoc]
    by_cases ht : thread = d.thread
    · simp [ht, hlo]
    · rw [if_neg ht, if_neg (Ne.symm ht), h.logs]
  · rw [Fields.lookup_put, if_neg ho]

lemma Story.holds (h : Story deeds file) : ∃ entries, Holds deeds file entries := by
  induction h with
  | nil h => exact ⟨[], h, .record (by simp), fun _ => rfl⟩
  | snoc _ hf hd ih =>
    obtain ⟨entries, he⟩ := ih
    obtain ⟨es', he', -⟩ := he.step hf hd
    exact ⟨es', he'⟩

def Distinct (deeds : List Deed) : Prop := (deeds.map Deed.name).Nodup

instance (deeds : List Deed) : Decidable (Distinct deeds) := inferInstanceAs (Decidable (deeds.map Deed.name).Nodup)

lemma Distinct.of_snoc (h : Distinct (deeds ++ [d])) : Distinct deeds ∧ d.name ∉ deeds.map Deed.name := by
  rw [Distinct, map_append, map_singleton, nodup_append] at h
  exact ⟨h.1, fun hd => h.2.2 d.name hd d.name (by simp) rfl⟩

lemma begun_subset (deeds : List Deed) : begun deeds ⊆ deeds.map Deed.name := by
  intro thread h
  obtain ⟨d, hd, ho⟩ := mem_filterMap.1 h
  refine mem_map.2 ⟨d, hd, ?_⟩
  cases d with
  | opened o => exact some.inj ho
  | saved k => cases ho

/-- The log of a thread has all runs that were kept in it: no other thread was begun under its name. -/
lemma Story.saves_eq (h : Story deeds file) (hd : Distinct deeds) (thread : String) :
    savesIn (logOf thread deeds) = savesOf thread deeds := by
  induction h with
  | nil => rfl
  | @snoc deeds d s t t' _ hf _ ih =>
    obtain ⟨hde, hfr⟩ := hd.of_snoc
    have ih := ih hde
    rw [logOf_snoc, savesOf, filterMap_append, ← savesOf, ← ih]
    cases d with
    | opened o =>
      by_cases ht : o.name = thread
      · -- A thread that begins has no runs yet, for its name was not given to another before.
        have hn : logOf thread deeds = none := by
          rw [← not_isSome_iff_eq_none, isSome_iff_exists, ← mem_begun_iff, ← ht]
          exact fun hb => hfr (begun_subset deeds hb)
        simp [Deed.thread, Deed.after, Deed.savedIn?, ht, hn, savesIn]
      · simp [Deed.thread, Deed.savedIn?, ht]
    | saved k =>
      by_cases ht : k.thread = thread
      · obtain ⟨log, hlo⟩ := mem_begun_iff.1 hf
        rw [ht] at hlo
        simp [Deed.thread, Deed.after, Deed.savedIn?, ht, hlo, savesIn, Log.add]
      · simp [Deed.thread, Deed.savedIn?, ht]

lemma runs_sublist (thread : String) (deeds : List Deed) :
    ((savesOf thread deeds).map Save.run).Sublist (deeds.map Deed.name) := by
  induction deeds with
  | nil => exact .slnil
  | cons d deeds ih =>
    rw [savesOf, filterMap_cons]
    cases hd : d.savedIn? thread with
    | none => exact ih.cons _
    | some k =>
      have hn : d.name = k.run := by
        cases d with
        | opened o => cases hd
        | saved k' =>
          simp only [Deed.savedIn?, ite_none_right_eq_some, some.injEq] at hd
          rw [Deed.name, hd.2]
      rw [map_cons, map_cons, hn]
      exact ih.cons_cons _

lemma find?_run : ∀ {saves : List Save}, (saves.map Save.run).Nodup → k ∈ saves →
    saves.find? (·.run == k.run) = some k
  | k' :: saves, hn, hk => by
    rw [map_cons, nodup_cons] at hn
    rcases mem_cons.1 hk with rfl | hk
    · simp
    · have hne : k'.run ≠ k.run := fun he => hn.1 (he ▸ mem_map_of_mem hk)
      rw [find?_cons_of_neg (by simpa using hne), find?_run hn.2 hk]

/-! ### What is remembered -/

def Unmoved (file file' : ThreadFile) (step : Desk Value) : Prop := ∃ v, Reads file step v ∧ Reads file' step v

/-- Nothing that can be read about a thread tells two files apart. -/
structure Untouched (thread : String) (file file' : ThreadFile) : Prop where
  find : ∀ run, Unmoved file file' (find (.text thread) (.text run))
  latest : Unmoved file file' (latest (.text thread))
  runs : Unmoved file file' (runs (.text thread))
  info : Unmoved file file' (info (.text thread))

lemma Answers.untouched {file' : ThreadFile} {thread : String} {log : Option Log} (h : Answers file thread log)
    (h' : Answers file' thread log) : Untouched thread file file' where
  find run := ⟨_, h.find run, h'.find run⟩
  latest := ⟨_, h.latest, h'.latest⟩
  runs := ⟨_, h.runs, h'.runs⟩
  info := ⟨_, h.info, h'.info⟩

/-- The file answers for some deeds, and takes the next one. -/
structure Remembers (deeds : List Deed) (file : ThreadFile) : Prop where
  found : ∀ k, .saved k ∈ deeds → Reads file (find (.text k.thread) (.text k.run)) k.back
  whole : ∀ k, .saved k ∈ deeds → (Reads file (find (.text k.thread) (.text k.run)) k.state ↔ Bare k.state)
  last : ∀ thread, Reads file (latest (.text thread)) (((savesOf thread deeds).getLast?.map Save.back).getD .null)
  listed : ∀ thread, Reads file (runs (.text thread)) (.list ((savesOf thread deeds).map Save.listing))
  opens : ∀ (s : Surroundings) (t : Traffic) (question : Value), t.threads = file → question.IsJson →
    ∃ name t', Gives (create question) s t name t'
  keeps : ∀ (s : Surroundings) (t : Traffic) (thread : String) (question state doc back : Value),
    t.threads = file → thread ∈ begun deeds → question.IsJson → Stored state doc back →
      ∃ run t', Gives (save (.text thread) question state) s t run t'
  apart : ∀ (d : Deed) (s : Surroundings) (t t' : Traffic), t.threads = file → d.Follows deeds → d.Done s t t' →
    ∀ other, other ≠ d.thread → Untouched other file t'.threads

/-- Whatever was begun and kept, in whatever order and in whichever threads: each state is read back with its
messages made anew from their kinds and contents, so that it is the state that was kept exactly if its messages
carried nothing else; a thread ends in the state that was kept last, or in none; its runs are listed in order;
the next call succeeds, and changes nothing that is read about other threads. -/
theorem threads_remember (h : Story deeds file) (hd : Distinct deeds) : Remembers deeds file := by
  obtain ⟨entries, he⟩ := h.holds
  have ha (thread) : Answers file thread _ := answers_of_lookup he.states (he.logs thread)
  have hs := h.saves_eq hd
  have hf (k : Save) (hk : .saved k ∈ deeds) : Reads file (find (.text k.thread) (.text k.run)) k.back := by
    have hm : k ∈ savesOf k.thread deeds := mem_filterMap.2 ⟨_, hk, by simp [Deed.savedIn?]⟩
    have hn := hd.sublist (runs_sublist k.thread deeds)
    have hfi := (ha k.thread).find k.run
    rwa [hs, find?_run hn hm] at hfi
  refine ⟨hf, fun k hk => ?_, fun thread => ?_, fun thread => ?_, ?_, ?_, ?_⟩
  · rw [← k.stored.back_eq_iff]
    exact ⟨(hf k hk).unique, fun he => he ▸ hf k hk⟩
  · exact hs thread ▸ (ha thread).latest
  · exact hs thread ▸ (ha thread).runs
  · rintro s t q rfl json
    obtain ⟨log, -, hg⟩ :=
      he.gives (d := .opened ⟨madeUp t, s.now, q, json⟩) trivial rfl rfl
    exact ⟨_, _, hg⟩
  · rintro s t thread q state doc back rfl ht json stored
    obtain ⟨log, -, hg⟩ :=
      he.gives (d := .saved ⟨thread, madeUp t, s.now, q, state, doc, back, json, stored⟩) ht rfl rfl
    exact ⟨_, _, hg⟩
  · rintro d s t t' rfl hf hdo other ho
    obtain ⟨es', he', hsa⟩ := he.step hf hdo
    have ha' := answers_of_lookup he'.states ((hsa other ho).trans (he.logs other))
    exact (ha other).untouched ha'

lemma Story.extend (h : Story deeds t.threads) (hf : d.Follows deeds) (hna : d.name = madeUp t)
    (hn : d.now = s.now) : ∃ t' : Traffic, Story (deeds ++ [d]) t'.threads ∧ t'.names = t.names + 1 := by
  obtain ⟨entries, he⟩ := h.holds
  obtain ⟨log, -, hg⟩ := he.gives hf hna hn
  exact ⟨_, h.snoc hf ⟨hn, hg⟩, rfl⟩

end Steps

/-! ### Two threads -/

def asking (name question : String) : Opening := ⟨name, "2025-01-15T10:30:00", .text question, .text question⟩

/-- A talk about a question: what was asked, with the id that the message has got, and the number of rows that were
found. -/
def talked (thread run question : String) (rows : Int) (id : List (String × String) := []) : Save where
  thread := thread
  run := run
  now := "2025-01-15T10:30:00"
  question := .text question
  state := .record [("user_question", .text question), ("messages", .list [.message (.human id) (.text question),
    .message .assistant "Query Successfully Executed"]), ("rows", .int rows)]
  doc := .record [("user_question", .text question), ("messages", .list [
    .record [("type", "HumanMessage"), ("content", .text question)],
    .record [("type", "AIMessage"), ("content", "Query Successfully Executed")]]), ("rows", .int rows)]
  back := .record [("user_question", .text question), ("messages", .list [.message .human (.text question),
    .message .assistant "Query Successfully Executed"]), ("rows", .int rows)]
  json := .text question
  stored := .talk [("user_question", .text question)] [("rows", .int rows)]
    [⟨.human id, .text question, .text question⟩, ⟨.assistant, _, .text "Query Successfully Executed"⟩]
    (.record (by simp [IsJson.text])) (.record (by simp [IsJson.int])) rfl

def twoThreads : List Deed :=
  [.opened (asking "id-1" "Which orders are open?"), .opened (asking "id-2" "Who are our customers?"),
    .saved (talked "id-1" "id-3" "Which orders are open?" 12 [("id", "run-1")]),
    .saved (talked "id-2" "id-4" "Who are our customers?" 80),
    .saved (talked "id-1" "id-5" "Which of them are late?" 3)]

theorem threads_remember_two : ∃ file, Story twoThreads file ∧ Distinct twoThreads ∧ Remembers twoThreads file := by
  have hs : Story [] ({} : Traffic).threads := .nil rfl
  obtain ⟨t₁, h₁, hn₁⟩ := hs.extend (s := {}) (d := .opened (asking "id-1" "Which orders are open?"))
    trivial rfl rfl
  obtain ⟨t₂, h₂, hn₂⟩ := h₁.extend (s := {}) (d := .opened (asking "id-2" "Who are our customers?"))
    trivial (by rw [madeUp, hn₁]; rfl) rfl
  obtain ⟨t₃, h₃, hn₃⟩ := h₂.extend (s := {}) (d := .saved (talked "id-1" "id-3" "Which orders are open?" 12 [("id", "run-1")]))
    (by decide) (by rw [madeUp, hn₂, hn₁]; rfl) rfl
  obtain ⟨t₄, h₄, hn₄⟩ := h₃.extend (s := {}) (d := .saved (talked "id-2" "id-4" "Who are our customers?" 80))
    (by decide) (by rw [madeUp, hn₃, hn₂, hn₁]; rfl) rfl
  obtain ⟨t₅, h₅, -⟩ := h₄.extend (s := {}) (d := .saved (talked "id-1" "id-5" "Which of them are late?" 3))
    (by decide) (by rw [madeUp, hn₄, hn₃, hn₂, hn₁]; rfl) rfl
  have hd : Distinct twoThreads := by decide
  exact ⟨t₅.threads, h₅, hd, threads_remember h₅ hd⟩

/-- A run in a thread of its own, and what is found of it. -/
def keptAndFound (state : Value) : Desk Value := do
  let thread ← create "Which orders are open?"
  let run ← save (.text thread) "Which orders are open?" state
  find (.text thread) (.text run)

/-- A state with one message, which stands under `key`. -/
def oneMessage (key : String) (role : Role) : Value :=
  .record [(key, .list [.message role "Which orders are open?"])]

/-- The id of a message does not come back, and a message that stands elsewhere than among the messages of its state
takes the state with it. -/
theorem messages_not_kept :
    (∃ t, Gives (keptAndFound (oneMessage "messages" (.human [("id", "run-1")]))) {} {} (oneMessage "messages" .human) t) ∧
    oneMessage "messages" .human ≠ oneMessage "messages" (.human [("id", "run-1")]) ∧
    ∃ t, Gives (keptAndFound (oneMessage "history" .human)) {} {} .null t :=
  ⟨⟨_, rfl⟩, by simp [oneMessage], _, rfl⟩

end Threads

end QueryDesk
