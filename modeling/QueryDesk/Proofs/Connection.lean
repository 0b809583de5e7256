import QueryDesk.Proofs.Links
import QueryDesk.Proofs.Stations

/-!
The three stations that deal with the connection to the database. Two of them may open one: they ask for
at most one, and only if the state has none. The third one closes what is open and leaves none.
-/

namespace QueryDesk

open List

variable {t t' : Traffic}

def Opening (sent : List Request) : Prop := sent = [] ∨ ∃ target, sent = [.connect target]

namespace Desk

/-- A step that asks for at most one connection, whatever its outcome. `P` relates what it gives to what
it asked for. -/
def Opens (step : Desk α) (P : α → List Request → Prop) : Prop :=
  ∀ s t, ∃ sent, links (carryOut step s t).2.requests = links t.requests ++ sent ∧ Opening sent ∧
    ∀ a, (carryOut step s t).1 = .ok a → P a sent

namespace Opens

lemma of_quiet [hm : Quiet m] (h : Ends m (P · [])) : Opens m P := by
  intro s t
  refine ⟨[], by rw [hm.links_eq, append_nil], .inl rfl, fun b hb => ?_⟩
  exact h s t b _ (Prod.ext hb rfl)

lemma after_quiet {m : Desk α} [hm : Quiet m] (h : ∀ a, Opens (f a) P) : Opens (m >>= f) P := by
  intro s t
  have hl := hm.links_eq s t
  rw [carryOut_bind]
  rcases hc : carryOut m s t with ⟨fault | a, t₁⟩
  all_goals rw [hc] at hl
  · exact ⟨[], by rw [append_nil]; exact hl, .inl rfl, by simp⟩
  · rw [← hl]
    exact h a s t₁

lemma then_quiet {m : Desk α} (hm : Opens m Q) (hf : ∀ a, Quiet (f a))
    (h : ∀ a sent, Q a sent → Ends (f a) (P · sent)) : Opens (m >>= f) P := by
  intro s t
  obtain ⟨sent, hl, hs, hq⟩ := hm s t
  rw [carryOut_bind]
  rcases hc : carryOut m s t with ⟨fault | a, t₁⟩
  all_goals rw [hc] at hl hq
  · exact ⟨sent, hl, hs, by simp⟩
  · refine ⟨sent, ((hf a).links_eq s t₁).trans hl, hs, fun b hb => ?_⟩
    exact h a sent (hq a rfl) s t₁ b _ (Prod.ext hb rfl)

lemma recover (hm : Opens m P) (hr : ∀ f, Quiet (rescue f))
    (h : ∀ f sent, Ends (rescue f) (P · sent)) : Opens (recover m rescue) P := by
  intro s t
  obtain ⟨sent, hl, hs, hp⟩ := hm s t
  rw [Desk.recover, carryOut_tryCatch]
  rcases hc : carryOut m s t with ⟨fault | b, t₁⟩
  all_goals rw [hc] at hl hp
  · dsimp only
    split
    · refine ⟨sent, ((hr fault).links_eq s t₁).trans hl, hs, fun b hb => ?_⟩
      exact h fault sent s t₁ b _ (Prod.ext hb rfl)
    · refine ⟨sent, hl, hs, fun b hb => ?_⟩
      cases hb
  · exact ⟨sent, hl, hs, hp⟩

lemma gives (hm : Opens m P) (hg : Gives m s t b t') :
    ∃ sent, links t'.requests = links t.requests ++ sent ∧ Opening sent ∧ P b sent := by
  obtain ⟨sent, hl, hs, hp⟩ := hm s t
  rw [hg] at hl hp
  exact ⟨sent, hl, hs, hp b rfl⟩

end Opens

end Desk

namespace Workflow

open Desk Value

variable {state after : Value} {news : Fields} {text : String}

/-- The connection that a state holds; null if it has none. -/
def connectionOf (state : Value) : Value := (state.at? "db_connection").getD .null

/-- A connection to a server, which has replies of its own, was asked for. -/
def Asked (replies : Value) (sent : List Request) : Prop := replies = .null ∨ sent ≠ []

lemma connect_opens :
    Opens Database.connect fun c sent => ∃ reps, c = .connection reps ∧ Asked reps sent := by
  refine .after_quiet fun sample => ?_
  split
  · exact .of_quiet (.pure ⟨.null, rfl, .inl rfl⟩)
  · refine .after_quiet fun target => .then_quiet (Q := fun _ sent => sent ≠ []) ?_ ?_ ?_
    · intro s t
      refine ⟨[.connect target], ?_, .inr ⟨target, rfl⟩, by simp⟩
      show links (t.requests ++ [.connect target]) = _
      simp [links, Request.isLink]
    · intro _
      refine .next fun s => ?_
      split <;> infer_instance
    · intro _ sent hs
      refine .bind fun s => ?_
      split
      · exact .pure ⟨_, rfl, .inr hs⟩
      · exact .throw

/-- The connection is the one that was there, or a new one if there was none. -/
def Connects (before : Value) (sent : List Request) (after : Value) : Prop :=
  after.at? "db_connection" = before.at? "db_connection" ∨
    (connectionOf before).truthy = false ∧
      ∃ replies, after.at? "db_connection" = some (.connection replies) ∧ Asked replies sent

section

variable {state : Value} (h : state.IsRecord)

include h

lemma initializeConnection_opens (hn : state.at? "db_connection" = some .null) :
    Opens (initializeConnection state) fun after sent => Connects state sent after := by
  refine .after_quiet fun _ => .after_quiet fun _ => .then_quiet
    (Q := fun c sent => c = .null ∨ ∃ reps, c = .connection reps ∧ Asked reps sent)
    (.recover ?_ ?_ ?_) (fun _ => inferInstance) fun c sent hc => .pure ?_
  · refine .then_quiet connect_opens (fun _ => inferInstance) fun c sent hc => ?_
    exact .bind fun _ => .bind fun _ => .pure (.inr hc)
  · exact fun f => inferInstance
  · exact fun f sent => .bind fun _ => .bind fun _ => .pure (.inl rfl)
  · unfold Connects connectionOf
    rw [at?_update h, hn]
    rcases hc with rfl | ⟨reps, rfl, ha⟩
    · exact .inl rfl
    · exact .inr ⟨rfl, reps, rfl, ha⟩

end

/-! ### Applying a patch -/

lemma remarkedState_ok (h : remarkedState state news text = .ok after) :
    ∃ msgs, after = state.update (news ++ [("messages", msgs)]) := by
  simp only [remarkedState, Attempt.bind_ok, Attempt.pure_ok] at h
  obtain ⟨_, -, msgs, -, rfl⟩ := h
  exact ⟨msgs, rfl⟩

/-- What applying a patch does: the request for it is taken back, and there is a connection if one is to
be had. -/
structure Patched (before : Value) (sent : List Request) (after : Value) : Prop where
  kept : Kept Station.transformPlan.writes before after
  taken : after.at? "patch_requested" = some (.bool false)
  connects : Connects before sent after

section

variable {state base : Value} {sent : List Request}

section

variable (hk : Kept Station.transformPlan.writes state base) (hc : Connects state sent base)

include hk hc

lemma Patched.update (hn : news.map (·.1) ⊆ Station.transformPlan.writes)
    (ht : Fields.latest news "patch_requested" = some (.bool false))
    (hs : Fields.latest news "db_connection" = none) : Patched state sent (base.update news) := by
  refine ⟨hk.update hn, ?_, ?_⟩
  · rw [at?_update hk.record, ht]
    rfl
  · unfold Connects
    rw [at?_update hk.record, hs]
    exact hc

lemma remarkedState_patched (hn : news = patchTaken ∨ news = patchTaken ++ [("current_patch_operation", .null)])
    (ha : remarkedState base news text = .ok after) : Patched state sent after := by
  obtain ⟨msgs, rfl⟩ := remarkedState_ok ha
  rcases hn with rfl | rfl
  · exact .update hk hc (by simp [patchTaken, Station.writes]) rfl rfl
  · exact .update hk hc (by simp [patchTaken, Station.writes]) rfl rfl

lemma patchPlan_ends : Ends (patchPlan base patch plan sch step) (Patched state sent) := by
  refine .recover ?_ fun f => .bind fun _ => .bind fun _ => .lift fun after ha =>
    remarkedState_patched hk hc (.inr rfl) ha
  repeat refine .bind fun _ => ?_
  exact .pure (.update hk hc (by simp [patchTaken, Station.writes]) rfl rfl)

lemma patchState_ends : Ends (patchState base step) (Patched state sent) := by
  refine .bind fun patch => .bind fun plan => .bind fun sch => ?_
  split
  · exact .bind fun _ => .lift fun after ha => remarkedState_patched hk hc (.inl rfl) ha
  · split
    · exact .bind fun _ => .lift fun after ha => remarkedState_patched hk hc (.inl rfl) ha
    · split
      · exact .bind fun _ => .lift fun after ha => remarkedState_patched hk hc (.inl rfl) ha
      · exact patchPlan_ends hk hc

end

lemma connectedState_opens (h : state.IsRecord) : Opens (connectedState state step) fun connected sent =>
    ∀ base, connected = .ok base → Kept Station.transformPlan.writes state base ∧ Connects state sent base := by
  unfold connectedState
  rw [h.get]
  show Opens (if (connectionOf state).truthy = true then _ else _) _
  split
  · refine .of_quiet (.pure fun base hb => ?_)
    cases hb
    exact ⟨kept_refl h, .inl rfl⟩
  case isFalse hn =>
    refine .after_quiet fun _ => .recover ?_ (fun f => inferInstance) ?_
    · refine .then_quiet connect_opens (fun _ => inferInstance) fun c sent hc => .pure fun base hb => ?_
      obtain ⟨reps, rfl, ha⟩ := hc
      cases hb
      refine ⟨h.kept_update (by simp [Station.writes]), .inr ⟨by simpa using hn, reps, ?_, ha⟩⟩
      rw [at?_update h]
      rfl
    · exact fun f sent => .bind fun _ => .pure (by simp)

instance : Quiet (patchPlan base patch plan sch step) := by
  refine .recover ?_ fun f => inferInstance
  repeat refine .next fun _ => ?_
  exact .bind (aside_modify fun _ => ⟨rfl, rfl, rfl⟩) fun _ => inferInstance

instance : Quiet (patchState base step) := by
  unfold patchState
  infer_instance

lemma transformPlan_opens (h : state.IsRecord) :
    Opens (transformPlan state) fun after sent => Patched state sent after := by
  refine .after_quiet fun _ => .after_quiet fun _ => .then_quiet (connectedState_opens h) ?_ ?_
  · intro connected
    cases connected <;> infer_instance
  · intro connected sent hco
    cases connected with
    | error text =>
      exact .lift fun after ha => remarkedState_patched (kept_refl h) (.inl rfl) (.inl rfl) ha
    | ok base =>
      obtain ⟨hk, hc⟩ := hco base rfl
      exact patchState_ends hk hc

end

/-! ### Closing -/

/-- What is sent to close a connection. The sample database is closed without a request. -/
def closing (connection : Value) : List Request :=
  match connection with
  | .connection .null => []
  | .connection _ => [.closeConnection]
  | _ => []

/-- A state holds a connection or knows that it has none. -/
def Settled (state : Value) : Prop :=
  state.at? "db_connection" = some .null ∨ ∃ replies, state.at? "db_connection" = some (.connection replies)

lemma close_links (reps : Value) (s : Surroundings) (t : Traffic) :
    links (carryOut (Database.close (.connection reps)) s t).2.requests =
      links t.requests ++ closing (.connection reps) := by
  have hf : ∀ r k, Quiet (Database.failWith r k) := fun r k => inferInstance
  cases reps with
  | null => exact (append_nil _).symm
  | record fs =>
    refine ((hf fs "close_error").links_eq s _).trans ?_
    simp [links, Request.isLink, closing]
  | _ =>
    refine ((hf [] "close_error").links_eq s _).trans ?_
    simp [links, Request.isLink, closing]

lemma recover_links (hr : ∀ f, Quiet (rescue f))
    (s : Surroundings) (t : Traffic) :
    links (carryOut (recover m rescue) s t).2.requests = links (carryOut m s t).2.requests := by
  rw [Desk.recover, carryOut_tryCatch]
  rcases carryOut m s t with ⟨fault | a, t₁⟩
  · dsimp only
    split
    · exact (hr fault).links_eq s t₁
    · rfl
  · rfl

section

variable {state : Value}

lemma cleanUp_ends (h : state.IsRecord) : Ends (cleanUp state) fun after =>
    Kept Station.cleanup.writes state after ∧ after.at? "db_connection" = some .null := by
  refine .bind fun _ => .bind fun conn => ?_
  split
  all_goals
    repeat refine .bind fun _ => ?_
    refine .pure ⟨h.kept_update (by simp [Station.writes]), ?_⟩
    rw [at?_update h]
    rfl

lemma cleanUp_closes (h : state.IsRecord) (hs : Settled state)
    (hg : Gives (cleanUp state) s t after t') :
    links t'.requests = links t.requests ++ closing (connectionOf state) := by
  unfold cleanUp at hg
  simp only [h.get, gives_bind, gives_lift, and_assoc, exists_and_left] at hg
  obtain ⟨_, t₁, hr, conn, hco, _, rfl, hg⟩ := hg
  cases hco
  have hre : ∀ {t₁ : Traffic}, Gives (do
      status "cleanup" "completed"
      pure (state.update [("schema", .list []), ("db_connection", .null), ("last_step", "cleanup")])) s t₁
        after t' → links t'.requests = links t₁.requests := fun hg => Keeps.gives (R := Desk.SameLinks) inferInstance hg
  rw [← Keeps.gives (R := Desk.SameLinks) inferInstance hr]
  rcases hs with hn | ⟨reps, ho⟩
  · rw [hn] at hg
    rw [hre hg, connectionOf, hn]
    exact (append_nil _).symm
  · rw [ho, Option.getD_some, if_pos (show (Value.connection reps).truthy = true from rfl), gives_bind] at hg
    obtain ⟨_, t₂, hcl, hg⟩ := hg
    rw [hre hg, connectionOf, ho, Option.getD_some, ← close_links reps s t₁,
      ← recover_links (fun _ => quiet_pure) s t₁, hcl]

end

/-! ### All stations -/

lemma Station.run_kept (h : state.IsRecord) (stn : Station) :
    Ends (stn.run state) (Kept stn.writes state) := by
  cases stn with
  | initializeConnection => exact initializeConnection_kept h
  | analyzeSchema => exact analyzeSchema_kept h
  | filterSchema => exact filterSchema_kept h
  | inferForeignKeys => exact inferForeignKeys_kept h
  | formatSchemaMarkdown => exact formatMarkdown_kept h
  | prePlanner => exact createStrategy_kept h
  | planner => exact planQuery_kept h
  | planAudit => exact planAudit_kept h
  | checkClarification => exact checkClarification_kept h
  | generateQuery => exact generateQuery_kept h
  | executeQuery => exact fun s t after t' hg => (executeQuery_ends s t after t' hg).kept h
  | handleError => exact fun s t after t' hg => (handleError_ends h s t after t' hg).1
  | cleanup => exact fun s t after t' hg => (cleanUp_ends h s t after t' hg).1
  | refineQuery => exact fun s t after t' hg => (refineQuery_ends h s t after t' hg).1
  | transformPlan =>
    intro s t after t' hg
    obtain ⟨sent, -, -, hp⟩ := (transformPlan_opens h).gives hg
    exact hp.kept
  | generateModificationOptions => exact offerChanges_kept h

def Station.connects : Station → Bool
  | initializeConnection | transformPlan | cleanup => true
  | _ => false

lemma Station.run_quiet {stn : Station} (h : stn.connects = false) : Quiet (stn.run state) := by
  cases stn with
  | initializeConnection | transformPlan | cleanup => cases h
  | _ =>
    unfold Station.run
    infer_instance

end Workflow

end QueryDesk
