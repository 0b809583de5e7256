import QueryDesk.Proofs.FailedSaves

/-!
The runs of one thread in the file. A state that was kept is read back with its messages, each field being what
JSON makes of it; a run that can be kept is listed behind those that were kept before, and the last one listed is
the one that a thread is gone on with.
-/

namespace QueryDesk

open Attempt List Value Option Fields

variable {live v : Value}

/-! ### What JSON makes of a document -/

namespace Json

mutual

lemma isJson_of_kept? : ∀ {v w : Value}, kept? v = some w → w.IsJson
  | .null, _, h => by
    cases h
    exact .null
  | .bool b, _, h => by
    cases h
    exact .bool b
  | .int n, _, h => by
    cases h
    exact .int n
  | .float x, _, h => by
    cases h
    exact .float x
  | .text s, _, h => by
    cases h
    exact .text s
  | .statement _, _, h => by
    cases h
    exact .text _
  | .list _, _, h => by
    obtain ⟨xs, hi, rfl⟩ := map_eq_some_iff.1 h
    exact .list (isJson_of_keptItems? (keptItems?_eq_some.1 hi))
  | .tuple _, _, h => by
    obtain ⟨xs, hi, rfl⟩ := map_eq_some_iff.1 h
    exact .list (isJson_of_keptItems? (keptItems?_eq_some.1 hi))
  | .record _, _, h => by
    obtain ⟨fs, hf, rfl⟩ := map_eq_some_iff.1 h
    exact .record (isJson_of_keptFields? (keptFields?_eq_some.1 hf))

lemma isJson_of_keptItems? : ∀ {vs ws : List Value}, Forall₂ (fun v w => kept? v = some w) vs ws → ∀ w ∈ ws, w.IsJson
  | [], _, .nil => by simp
  | v :: rest, _, .cons hw hws => forall_mem_cons.2 ⟨isJson_of_kept? hw, isJson_of_keptItems? hws⟩

lemma isJson_of_keptFields? : ∀ {fs gs : Fields}, Forall₂ (fun f g => f.1 = g.1 ∧ kept? f.2 = some g.2) fs gs →
    ∀ g ∈ gs, g.2.IsJson
  | [], _, .nil => by simp
  | (k, v) :: rest, _, .cons hg hgs => forall_mem_cons.2 ⟨isJson_of_kept? hg.2, isJson_of_keptFields? hgs⟩

end

lemma keptFields?_lookup (key : String) (h : keptFields? fields = some fields') :
    fields'.lookup key = (fields.lookup key).bind kept? := by
  rw [keptFields?_eq_some] at h
  induction h with
  | nil => rfl
  | @cons f g _ _ hfg _ ih =>
    obtain ⟨⟨k, x⟩, ⟨_, y⟩, ⟨rfl, hxy⟩⟩ := f, g, hfg
    rw [lookup_cons, lookup_cons]
    split
    · exact hxy.symm
    · exact ih

lemma kept?_at? (hv : v.IsRecord) (h : kept? v = some w) :
    w.IsRecord ∧ ∀ key, w.at? key = (v.at? key).bind kept? := by
  obtain ⟨fs, rfl⟩ := hv
  obtain ⟨fs', hf, rfl⟩ := Option.map_eq_some_iff.1 h
  exact ⟨⟨fs', rfl⟩, fun key => keptFields?_lookup key hf⟩

end Json

namespace Threads

open Desk Value

variable {doc state plain shown : Value} {run now : String} {entries : Fields}

/-! ### A state that is read back -/

/-- A state as it is read after it was kept; none if it cannot be kept or read. -/
def readBack? (state : Value) : Option Value := do
  let plain ← (plainState state).toOption
  let doc ← Json.kept? plain
  (liveState doc).toOption

section

variable {state after : Value}

lemma mapMessages_kept (h : state.IsRecord) (hm : mapMessages f state = .ok after) :
    Kept ["messages"] state after := by
  obtain ⟨fs, rfl⟩ := h
  unfold mapMessages at hm
  dsimp only at hm
  split at hm
  · split at hm
    · simp only [bind_ok, pure_ok] at hm
      obtain ⟨xs, -, msgs, -, rfl⟩ := hm
      exact IsRecord.kept_self ⟨fs, rfl⟩ "messages" (.list msgs)
    · cases hm
      exact kept_refl ⟨fs, rfl⟩
  · cases hm
    exact kept_refl ⟨fs, rfl⟩

lemma mapMessages_list (hs : state.at? "messages" = some (.list said)) (hma : mapMessages f state = .ok after) :
    ∃ said', after.at? "messages" = some (.list said') ∧ ∀ m ∈ said', ∃ x, f x = .ok m := by
  obtain ⟨fs, rfl⟩ := isRecord_of_at? hs
  unfold mapMessages at hma
  dsimp only at hma
  rw [show fs.lookup "messages" = some (.list said) from hs] at hma
  dsimp only at hma
  split at hma
  · simp only [bind_ok, pure_ok] at hma
    obtain ⟨xs, -, msgs, hme, rfl⟩ := hma
    refine ⟨msgs, IsRecord.at?_self ⟨fs, rfl⟩ "messages" (.list msgs), fun m hm => ?_⟩
    obtain ⟨x, -, hx⟩ := (mapM_ok.1 hme).exists_left hm
    exact ⟨x, hx⟩
  · next hn =>
    cases hma
    have he : said = [] := by simpa [truthy] using hn
    exact ⟨said, hs, by simp [he]⟩

lemma mapMessages_gives (hs : state.at? "messages" = some (.list said))
    (h : ∀ m ∈ said, ∃ x, f m = .ok x) : ∃ after, mapMessages f state = .ok after := by
  obtain ⟨fields, rfl⟩ := isRecord_of_at? hs
  obtain ⟨messages, hm⟩ := exists_mapM h
  unfold mapMessages
  dsimp only
  rw [show fields.lookup "messages" = some (.list said) from hs]
  dsimp only
  split
  · simp [items, hm]
  · exact ⟨_, rfl⟩

end

lemma isRecord_of_plainMessage (h : plainMessage m = .ok doc) : doc.IsRecord := by
  simp only [plainMessage, bind_ok, pure_ok] at h
  obtain ⟨content, -, rfl⟩ := h
  exact ⟨_, rfl⟩

lemma messageFrom_gives (h : doc.IsRecord) : ∃ m, messageFrom doc = .ok m := by
  obtain ⟨fs, rfl⟩ := h
  exact ⟨_, rfl⟩

section

variable {state plain doc live : Value}

lemma readBack?_eq_some (hp : plainState state = .ok plain) (hd : Json.kept? plain = some doc)
    (hl : liveState doc = .ok live) : readBack? state = some live := by
  simp [readBack?, hp, hd, hl, Except.toOption]

lemma exists_of_readBack? (h : (readBack? state).isSome = true) :
    ∃ plain doc, plainState state = .ok plain ∧ Json.kept? plain = some doc := by
  cases hp : plainState state with
  | error f => simp [readBack?, hp, Except.toOption] at h
  | ok plain =>
    cases hd : Json.kept? plain with
    | none => simp [readBack?, hp, hd, Except.toOption] at h
    | some doc => exact ⟨plain, doc, rfl, hd⟩

lemma liveState_kept (h : doc.IsRecord) (hl : liveState doc = .ok live) : Kept ["messages"] doc live := by
  unfold liveState at hl
  split at hl
  · exact mapMessages_kept h hl
  · cases hl
    exact kept_refl h

lemma liveState_list (hs : doc.at? "messages" = some (.list said))
    (hl : liveState doc = .ok live) : ∃ said', live.at? "messages" = some (.list said') := by
  unfold liveState at hl
  split at hl
  · obtain ⟨said', hs', -⟩ := mapMessages_list hs hl
    exact ⟨said', hs'⟩
  · cases hl
    exact ⟨said, hs⟩

/-- A state that can be kept can be read back. It has the same fields then, as far as JSON has a form for them. -/
lemma live_of_kept (hs : state.at? "messages" = some (.list said))
    (hp : plainState state = .ok plain) (hdo : Json.kept? plain = some doc) :
    ∃ live, liveState doc = .ok live ∧ live.IsRecord ∧
      (∀ key ≠ "messages", ∀ v, state.at? key = some v → v.IsJson → live.at? key = some v) ∧
      ∃ said', live.at? "messages" = some (.list said') := by
  have hk := mapMessages_kept (isRecord_of_at? hs) hp
  obtain ⟨docs, hd, hr⟩ := mapMessages_list hs hp
  obtain ⟨hre, hf⟩ := Json.kept?_at? hk.record hdo
  obtain ⟨docs', hd', hr'⟩ : ∃ docs', doc.at? "messages" = some (.list docs') ∧ ∀ m ∈ docs', m.IsRecord := by
    cases hi : Json.keptItems? docs with
    | none =>
      have hn := Json.kept?_eq_none_of_at? hd (by simp [Json.kept?, hi])
      rw [hdo] at hn
      cases hn
    | some docs' =>
      refine ⟨docs', by simp [hf, hd, Json.kept?, hi], fun m hm => ?_⟩
      obtain ⟨x, hx, hke⟩ := (Json.keptItems?_eq_some.1 hi).exists_left hm
      obtain ⟨y, hy⟩ := hr x hx
      exact (Json.kept?_at? (isRecord_of_plainMessage hy) hke).1
  obtain ⟨live, hli⟩ : ∃ live, liveState doc = .ok live := by
    unfold liveState
    split
    · exact mapMessages_gives hd' fun m hm => messageFrom_gives (hr' m hm)
    · exact ⟨doc, rfl⟩
  have hl := liveState_kept hre hli
  refine ⟨live, hli, hl.record, fun key hky v hv hj => ?_, liveState_list hd' hli⟩
  rw [hl.same key (by simpa using hky), hf, hk.same key (by simpa using hky), hv, bind_some,
    Json.kept?_of_isJson hj]

end

/-! ### The list of runs -/

lemma shelf_noThreads : Shelf ThreadFile.noThreads [] where
  json := .record fun f hf => by
    obtain rfl := mem_singleton.1 hf
    exact .record (by simp)
  threads := rfl
  runs name found hfo := by cases hfo

def Lists (thread : String) (file : ThreadFile) (listed : List Value) : Prop :=
  ∃ entries found, Shelf file.states entries ∧ entries.lookup thread = some found ∧
    found.at? "queries" = some (.list listed)

section

variable {thread : String} {t : Traffic} {listed : List Value}

lemma runs?_of_lists (h : Lists thread t.threads listed) :
    Gives (runs? (.text thread)) s t (some (.list listed)) t := by
  obtain ⟨entries, found, hs, hf, hl⟩ := h
  have he : entry (.record entries) (.text thread) = .ok found := by
    rw [entry_text, field_ok]
    exact hf
  refine (gives_states_of t).bind (.bind (.lift hs.field) (.bind (.lift (isIn_of_lookup hf)) ?_))
  refine .bind (.lift he) (.bind (.lift ?_) .pure)
  rw [(isRecord_of_at? hl).getD, hl, getD_some]

lemma latest_of_lists
    (h : Lists thread t.threads (listed ++ [listing run now q doc])) (hl : liveState doc = .ok live) :
    Gives (latest (.text thread)) s t live t := by
  have hla : (list (listed ++ [listing run now q doc])).last = .ok (listing run now q doc) := by
    simp [last]
  have ht : (list (listed ++ [listing run now q doc])).truthy = true := by simp [truthy]
  refine (runs?_of_lists h).bind ?_
  simp only [ht, if_true]
  exact .bind (.lift hla) (.bind (.lift rfl) (.lift hl))

lemma Shelf.set (h : Shelf doc entries) (name : String)
    (hj : fd.IsJson) (hl : fd.at? "queries" = some (.list listed)) :
    Shelf (reshelved doc entries name fd) (put entries name fd) where
  json := by
    have ht := isJson_put (h.json.at? h.threads) name hj
    have hd := h.json
    obtain ⟨fs, rfl⟩ := isRecord_of_at? h.threads
    exact isJson_put hd "threads" ht
  threads := h.at?_reshelved
  runs other other' ho := by
    rw [lookup_put] at ho
    split at ho
    · cases ho
      exact ⟨listed, hl⟩
    · exact h.runs other other' ho

lemma Shelf.lists (h : Shelf doc entries) (name : String)
    (hk : Json.kept? fd = some fd') (hl : fd'.at? "queries" = some (.list listed)) :
    Lists name (.holding (reshelved doc entries name fd)) listed := by
  refine ⟨put entries name fd', fd', ?_, ?_, hl⟩
  · rw [h.states_reshelved hk]
    exact h.set name (Json.isJson_of_kept? hk) hl
  · rw [lookup_put, if_pos rfl]

lemma create_lists (h : Shelf t.threads.states entries) (hj : q.IsJson) (s : Surroundings) :
    ∃ t', Gives (create q) s t (madeUp t) t' ∧ Lists (madeUp t) t'.threads [] := by
  have hk : Json.kept? (unused (madeUp t) s.now q) = some (unused (madeUp t) s.now q) := by
    rw [kept?_unused, Json.kept?_of_isJson hj, map_some]
  have hg : Gives (create q) s t (madeUp t) { named t with
      threads := .holding (reshelved t.threads.states entries (madeUp t) (unused (madeUp t) s.now q)) } :=
    gives_freshName.bind <| .bind gives_read <| .bind (gives_states_of (named t)) <|
      .bind (.lift h.withThread_eq) <| .bind gives_write .pure
  exact ⟨_, hg, h.lists (madeUp t) hk rfl⟩

lemma save_lists (h : Lists thread t.threads listed) (hp : plainState state = .ok plain)
    (hsh : Json.kept? (listing (madeUp t) s.now q plain) = some shown) :
    ∃ t', Gives (save (.text thread) q state) s t (madeUp t) t' ∧
      Lists thread t'.threads (listed ++ [shown]) := by
  obtain ⟨entries, fd, hs, hf, hl⟩ := h
  have hj := (hs.json.at? hs.threads).at? hf
  have hk : Json.kept? (relisted fd s.now (listed ++ [listing (madeUp t) s.now q plain])) =
      some (relisted fd s.now (listed ++ [shown])) := kept?_relisted hj hl hsh
  exact ⟨_, hs.save_gives hf hl hp, hs.lists thread hk (at?_relisted hl _)⟩

lemma Lists.unique (h : Lists thread t.threads listed) (h' : Lists thread t.threads listed') : listed = listed' := by
  obtain ⟨hl, -⟩ := (runs?_of_lists h).unique (runs?_of_lists (s := {}) h')
  cases hl
  rfl

lemma not_lists_noThreads (h : file.states = ThreadFile.noThreads) :
    ¬ Lists thread file listed := by
  rintro ⟨entries, fd, hs, hf, -⟩
  have he := hs.threads
  rw [h] at he
  cases he
  cases hf

lemma kept?_listing (hj : q.IsJson) (hd : Json.kept? plain = some doc) :
    Json.kept? (listing run now q plain) = some (listing run now q doc) := by
  simp [listing, Json.kept?, Json.keptFields?, Json.keptField?, Json.kept?_of_isJson hj, hd]

lemma kept?_listing_eq_some (h : Json.kept? (listing run now q plain) = some shown) :
    ∃ q' doc, Json.kept? plain = some doc ∧ shown = listing run now q' doc := by
  cases hq : Json.kept? q with
  | none =>
    rw [kept?_listing_eq_none (.inl hq)] at h
    cases h
  | some q' =>
    cases hp : Json.kept? plain with
    | none =>
      rw [kept?_listing_eq_none (.inr hp)] at h
      cases h
    | some doc =>
      refine ⟨q', doc, rfl, ?_⟩
      simpa [listing, Json.kept?, Json.keptFields?, Json.keptField?, hq, hp] using h.symm

lemma lists_of_save (h : Lists thread t.threads listed)
    (hsa : Gives (save (.text thread) q state) s t name t') (ha : Lists thread t'.threads listed') :
    ∃ run now q' plain doc, plainState state = .ok plain ∧ Json.kept? plain = some doc ∧
      listed' = listed ++ [listing run now q' doc] := by
  obtain ⟨entries, fd, hs, hf, hl⟩ := id h
  cases hp : plainState state with
  | error f => cases hsa.symm.trans (hs.save_fails hf hp)
  | ok plain =>
    cases hsh : Json.kept? (listing (madeUp t) s.now q plain) with
    | none =>
      -- Then no thread would be left.
      obtain ⟨-, rfl⟩ := hsa.unique (hs.save_gives hf hl hp)
      exact absurd ha (not_lists_noThreads (hs.states_lost (kept?_relisted_eq_none hl hsh)))
    | some shown =>
      obtain ⟨t₁, hg, hli⟩ := save_lists h hp hsh
      obtain ⟨-, rfl⟩ := hsa.unique hg
      obtain ⟨q', doc, hd, rfl⟩ := kept?_listing_eq_some hsh
      exact ⟨_, _, q', plain, doc, rfl, hd, ha.unique hli⟩

end

end Threads

end QueryDesk
