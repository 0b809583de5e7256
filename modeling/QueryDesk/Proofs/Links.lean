import QueryDesk.Proofs.Success
import QueryDesk.Workflow.Steps

/-!
Which steps open and close connections to the database. A step is quiet if it sends no request of that
kind. Quiet steps put together are quiet, so it is enough to look at what a step is put together from;
only connecting and closing are not.
-/

namespace QueryDesk

open Sql

def Request.isLink : Request → Bool
  | .connect _ | .closeConnection => true
  | _ => false

/-- The requests that open and close connections, in order. -/
def links (requests : List Request) : List Request := requests.filter Request.isLink

/-- The requests that neither go to a model nor open or close a connection. -/
def Request.isAside : Request → Bool
  | .invoke _ | .connect _ | .closeConnection => false
  | _ => true

namespace Desk

/-- Relations that hold whatever a service does on the side: it announces, writes debug files, takes what a search
has found and sends requests aside. -/
class Aside (R : Traffic → Traffic → Prop) : Prop extends Std.Refl R, IsTrans Traffic R where
  unseen : ∀ t t', t'.requests = t.requests → t'.replies = t.replies → t'.workbooks = t.workbooks → R t t'
  sent : ∀ t r, r.isAside = true → R t { t with requests := t.requests ++ [r] }

def SameLinks (t t' : Traffic) : Prop := links t'.requests = links t.requests

instance : Aside SameLinks where
  refl _ := rfl
  trans _ _ _ h h' := Eq.trans h' h
  unseen _ _ h _ _ := congrArg links h
  sent t r h := by cases r <;> simp [Request.isAside, SameLinks, links, Request.isLink] at h ⊢

/-- A step that neither opens nor closes a connection, whatever its outcome. -/
abbrev Quiet (step : Desk α) : Prop := Keeps SameLinks step

lemma Quiet.links_eq (h : Quiet step) (s : Surroundings) (t : Traffic) :
    links (carryOut step s t).2.requests = links t.requests := @Keeps.related _ _ _ h s t

lemma aside_modify [Aside R] (h : ∀ t, (f t).requests = t.requests ∧ (f t).replies = t.replies ∧
    (f t).workbooks = t.workbooks) : Keeps R (modify f : Desk Unit) :=
  keeps_modify fun t => Aside.unseen t (f t) (h t).1 (h t).2.1 (h t).2.2

lemma aside_send [Aside R] (h : r.isAside = true) : Keeps R (send r) := keeps_modify fun t => Aside.sent t r h

instance quiet_pure : Quiet (pure a : Desk α) := keeps_pure

instance quiet_lift {x : Attempt α} : Quiet (liftM x : Desk α) := keeps_lift

instance quiet_bind [hm : Quiet m] [hf : ∀ a, Quiet (f a)] : Quiet (m >>= f) := hm.bind hf

end Desk

open Desk

section

variable [Aside R] {name note directory form : String}

/-! ### Services -/

instance : Keeps R (announce event) := by
  have : Keeps R (modify fun t => { t with events := t.events ++ [event] } : Desk Unit) :=
    aside_modify fun _ => ⟨rfl, rfl, rfl⟩
  unfold announce
  infer_instance

instance : Keeps R (status step st v) := by unfold status; infer_instance

instance : Keeps R (log step note level) := by unfold log; infer_instance

instance : Keeps R (env? name) := by unfold env?; infer_instance

instance : Keeps R (env name dflt) := by unfold env; infer_instance

instance : Keeps R (envValue name) := by unfold envValue; infer_instance

instance : Keeps R onSampleData := by unfold onSampleData; infer_instance

instance : Keeps R walk := keeps_bind

instance : Quiet (invoke v) := by
  refine .bind (keeps_modify fun t => ?_) fun _ => .next fun t => ?_
  · simp [SameLinks, links, Request.isLink]
  split
  · infer_instance
  · refine .bind (keeps_modify fun _ => rfl) fun _ => ?_
    split <;> infer_instance

instance : Keeps R (buildIndex name passages) := by
  have : ∀ texts, Keeps R (send (.index name texts)) := fun _ => aside_send rfl
  unfold buildIndex
  infer_instance

instance : Keeps R nextResult := by
  refine .next fun t => ?_
  split
  · infer_instance
  · refine .bind (aside_modify fun _ => ⟨rfl, rfl, rfl⟩) fun _ => ?_
    split <;> infer_instance

instance : Keeps R (search index v w) := by
  have : Keeps R (send (.search v w)) := aside_send rfl
  unfold search
  infer_instance

/-! ### Debug files -/

instance : Keeps R DebugFile.prepare := aside_modify fun _ => ⟨rfl, rfl, rfl⟩

instance : Keeps R (DebugFile.find? name) := keeps_bind

instance : Keeps R (DebugFile.place name text) := aside_modify fun _ => ⟨rfl, rfl, rfl⟩

instance : Keeps R (DebugFile.store name text) := by unfold DebugFile.store; infer_instance

instance : Keeps R (DebugFile.isWritable name) := by unfold DebugFile.isWritable; infer_instance

instance : Keeps R (DebugFile.put directory name v) := by
  unfold DebugFile.put
  split <;> infer_instance

instance quiet_quietly [Keeps R m] : Keeps R (DebugFile.quietly m) := by
  unfold DebugFile.quietly
  infer_instance

lemma quiet_whenWanted (h : ∀ directory, Keeps R (m directory)) :
    Keeps R (DebugFile.whenWanted m v) := by
  refine .next fun s => ?_
  split <;> infer_instance

instance : Keeps R (DebugFile.save v w timed) :=
  quiet_whenWanted fun _ => inferInstance

instance : Keeps R (DebugFile.saveExchange v w x y z) := quiet_whenWanted fun _ => inferInstance

instance : Keeps R (DebugFile.collection name v) := by
  refine .next fun fd => ?_
  split <;> infer_instance

instance : Keeps R (DebugFile.append v w x) := by
  refine quiet_whenWanted fun _ => @quiet_quietly _ _ _ (.next fun _ => .next fun _ => ?_)
  dsimp only
  split <;> infer_instance

/-! ### Models -/

instance : Keeps R Model.isLocal := keeps_bind

instance : Keeps R Model.routing := keeps_bind

instance : Keeps R (Model.forStage v) := by
  refine .next fun stage => .next fun isLocal => ?_
  split <;> infer_instance

instance : Keeps R (Model.construct name opts) :=
  .bind (aside_send rfl) fun _ => inferInstance

instance : Keeps R (Model.placed v) := by
  refine .next fun routing => ?_
  split <;> infer_instance

instance : Keeps R (Model.remoteChat provider v w x) := by
  unfold Model.remoteChat
  split <;> infer_instance

instance : Keeps R (Model.chat v w x) := by unfold Model.chat; infer_instance

instance : Keeps R (send (.structured form opts)) := aside_send rfl

instance : Keeps R (Model.structured form v w x) := keeps_bind

instance : Keeps R (send (.construct name opts)) := aside_send rfl

instance : Keeps R (Model.embedding showsProgress) := keeps_bind

/-! ### The domain and its schema -/

instance : Keeps R Domain.filesInView := keeps_bind

instance : Keeps R (Domain.isPresent path) := keeps_bind

instance : Keeps R (Domain.readText path) := by
  refine .next fun s => .next fun files => ?_
  split <;> infer_instance

instance : Keeps R (Domain.readDocument path) := keeps_bind

lemma quiet_offSample (h : Keeps R load) : Keeps R (Domain.offSample v load) := by
  unfold Domain.offSample
  infer_instance

instance : Keeps R Domain.foreignKeys := quiet_offSample inferInstance

instance : Keeps R Domain.tableFacts := quiet_offSample inferInstance

instance : Keeps R Domain.guidance := quiet_offSample inferInstance

instance : Keeps R Domain.planGuidance := quiet_offSample inferInstance

lemma quiet_unlessGiven (h : Keeps R load) :
    Keeps R (Domain.unlessGiven part load) := by
  refine .next fun s => ?_
  split <;> infer_instance

instance : Keeps R Domain.keysInUse := quiet_unlessGiven inferInstance

instance : Keeps R Domain.tablesInUse := quiet_unlessGiven inferInstance

instance : Keeps R Domain.guidanceInUse := quiet_unlessGiven inferInstance

instance : Keeps R Domain.planGuidanceInUse := quiet_unlessGiven inferInstance

instance : Keeps R Domain.strategyGuidanceInUse := quiet_unlessGiven inferInstance

instance : Keeps R (Domain.optionalDocument name) := by
  refine .next fun present => ?_
  split
  · refine .tryCatch inferInstance fun f => ?_
    split <;> infer_instance
  · infer_instance

instance : Keeps R (Domain.combine v includesKeys) := keeps_bind

instance : Keeps R Database.samplePath := by unfold Database.samplePath; infer_instance

instance : Keeps R (Database.shown name) := by unfold Database.shown; infer_instance

instance : Keeps R Database.serverTarget := by unfold Database.serverTarget; infer_instance

instance : Keeps R Database.address := by unfold Database.address; infer_instance

instance Schema.keeps_introspect : Keeps R Schema.introspect := by
  refine .next fun address => .bind (aside_send rfl) fun _ => .next fun s =>
    .bind (aside_send rfl) fun _ => ?_
  split <;> infer_instance

instance : Quiet (Schema.guessKeys v) := by
  refine .next fun _ => ?_
  split
  · repeat refine .next fun _ => ?_
    infer_instance
  · infer_instance

/-! ### Statements -/

instance : Quiet (parse v w) := by
  refine .bind (aside_send rfl) fun _ => ?_
  split
  · infer_instance
  · refine .next fun s => ?_
    split <;> infer_instance

instance : Quiet (parseExpression v w x) := quiet_bind

instance {ns : List Value} : Quiet (orderClause ns v w x) := quiet_bind

instance : Quiet (orderClauses xs v w x y) := quiet_bind

instance : Quiet (buildClauses v w x) := by
  repeat refine .next fun _ => ?_
  dsimp only
  split
  all_goals
    repeat refine .next fun _ => ?_
    infer_instance

instance : Quiet (build v w x) := by
  refine .next fun clauses => .next fun s => ?_
  split <;> infer_instance

instance : Quiet (Database.failWith reps name) := by
  unfold Database.failWith
  split <;> infer_instance

instance : Quiet (Database.openCursor v) := quiet_bind

instance : Quiet (Database.closeCursor v) := by
  have : Quiet (send .closeCursor) := aside_send rfl
  unfold Database.closeCursor
  infer_instance

instance : Quiet (Database.execute v w) := by
  refine .next fun reps => .bind (aside_send rfl) fun _ => ?_
  dsimp only
  split
  · infer_instance
  · split <;> infer_instance

/-! ### Stations -/

namespace Workflow

instance : Quiet (envFloat name dflt) := by
  refine .next fun text => ?_
  split <;> infer_instance

instance : Quiet (envInt name dflt) := by
  refine .next fun text => ?_
  split <;> infer_instance

instance : Quiet (envCount name n) := quiet_bind

instance : Keeps R tierInUse := keeps_bind

instance : Keeps R today := keeps_bind

instance : Quiet (keepPage name text) := quiet_bind

instance : Quiet (linkKeys xs) := quiet_bind

instance : Quiet (analyzeSchema st) := by
  refine .next fun _ => ?_
  split
  · repeat refine .next fun _ => ?_
    refine .recover ?_ fun _ => inferInstance
    repeat refine .next fun _ => ?_
    infer_instance
  · infer_instance

instance : Quiet (formatMarkdown st) := quiet_bind

instance : Quiet (inferForeignKeys state) := by
  refine .next fun _ => .next fun wanted => ?_
  split
  · infer_instance
  refine .next fun schema => ?_
  split
  · infer_instance
  · repeat refine .next fun _ => ?_
    infer_instance

instance : Quiet (candidates v w) := by
  repeat refine .next fun _ => ?_
  infer_instance

instance : Quiet (approach state) := by
  repeat refine .next fun _ => ?_
  infer_instance

instance {a : ChoiceTask} : Quiet a.choice := quiet_bind

instance : Quiet (filterSchema st) := quiet_bind

instance : Quiet (strategyPrompt st v w tier feedback) := quiet_bind

instance : Quiet (createStrategy st) := by
  repeat refine .next fun _ => ?_
  refine .recover ?_ fun _ => inferInstance
  repeat refine .next fun _ => ?_
  infer_instance

instance : Keeps R (keepRefusal att v r) := keeps_bind

instance : Quiet (askForPlan tier xs) := by
  refine .next fun opts => .next fun _ => .next fun walk =>
    .tryCatch inferInstance fun f => ?_
  split
  · split <;> infer_instance
  · infer_instance

instance quiet_seekPlan :
    ∀ {left : Nat} {last : Option Plan.Refusal}, Quiet (seekPlan tier base v left last)
  | 0, last => by
    unfold seekPlan
    infer_instance
  | left + 1, last => by
    unfold seekPlan
    refine .next fun reply => ?_
    split
    · infer_instance
    · exact .next fun _ => quiet_seekPlan

instance : Keeps R (withPlan st v step) := by
  repeat refine .next fun _ => ?_
  refine .bind (aside_modify fun _ => ⟨rfl, rfl, rfl⟩) fun _ => ?_
  infer_instance

instance : Keeps R (planPrompt st v w tier) := by
  repeat refine .next fun _ => ?_
  infer_instance

instance : Keeps R (withReply st fd step) := by
  unfold withReply
  infer_instance

instance : Quiet (planQuery st) := by
  repeat refine .next fun _ => ?_
  refine .recover ?_ fun _ => inferInstance
  repeat refine .next fun _ => ?_
  infer_instance

instance : Quiet (repairedHistory st v) := by
  unfold repairedHistory
  split
  · refine .next fun t => ?_
    split <;> infer_instance
  · infer_instance

instance : Quiet (planAudit st) := by
  refine .next fun _ => .next fun plan => ?_
  split
  · infer_instance
  refine .next fun decision => ?_
  split
  · infer_instance
  · repeat refine .next fun _ => ?_
    infer_instance

instance : Quiet (checkClarification st) := by
  refine .next fun _ => .next fun plan => ?_
  split
  · infer_instance
  refine .next fun decision => ?_
  split
  · infer_instance
  split
  · infer_instance
  · repeat refine .next fun _ => ?_
    infer_instance

instance : Quiet databaseContext := quiet_bind

instance : Quiet (generateQuery st) := by
  refine .next fun _ => .recover (.next fun plan => ?_) fun _ => inferInstance
  split
  · infer_instance
  · repeat refine .next fun _ => ?_
    infer_instance

instance : Quiet dialectInUse := quiet_bind

instance : Quiet (splitLimit step v) := quiet_bind

instance : Quiet (withLimit step v n) := quiet_bind

instance : Quiet (prepareCursor step v) := by unfold prepareCursor; infer_instance

instance : Quiet (limitFor step limit total) := by
  unfold limitFor
  split <;> infer_instance

instance : Quiet (runLimited step v w limit) := by
  repeat refine .next fun _ => ?_
  infer_instance

instance : Quiet (executedState st v outcome w step) := by
  repeat refine .next fun _ => ?_
  infer_instance

instance : Quiet (noteInvalidColumn f step) := by
  unfold noteInvalidColumn
  split
  · split <;> infer_instance
  · infer_instance

instance : Quiet (failedState st v f step) := quiet_bind

instance : Quiet (refusedState st text step) := quiet_bind

instance : Quiet (leaveCursor v) := by unfold leaveCursor; infer_instance

instance : Quiet (prepareStatement step v w) := quiet_bind

instance : Quiet (runPrepared st v w split step) := by
  unfold runPrepared
  infer_instance

instance : Quiet (runStatement st v w step) := by
  refine .next fun split? => ?_
  split <;> infer_instance

instance : Quiet (executeQuery st) := quiet_bind

instance : Quiet (correctedStrategy v w x y z) := quiet_bind

instance : Quiet (refinedStrategy v w x xs y z) := quiet_bind

instance : Quiet (handleError st) := by
  repeat refine .next fun _ => ?_
  infer_instance

instance : Quiet (refineQuery st) := quiet_bind

instance : Quiet (offerChanges st) := by
  refine .next fun plan => .next fun sch => ?_
  split
  · infer_instance
  · split <;> infer_instance

end Workflow

end

end QueryDesk
