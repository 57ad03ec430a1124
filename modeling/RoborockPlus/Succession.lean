import RoborockPlus.Departure
import RoborockPlus.Freshness
import RoborockPlus.Async.Creation

/-! One sequence after another. Every accepted clean or resume creates a sequence and
stores its handle over the last one's; nothing ends the sequence before. -/
namespace RoborockPlus
open Async GarageController GarageRuntime

/-- The sequences that were created and have not ended. -/
def liveSequences : List (Item Garage) → List ℕ
  | [] => []
  | .spawned _ child .finishSequence :: past => child :: liveSequences past
  | .finished u :: past | .failed u _ :: past => (liveSequences past).filter (· ≠ u)
  | _ :: past => liveSequences past

def latestSequence : List (Item Garage) → Option ℕ
  | [] => none
  | .spawned _ child .finishSequence :: _ => some child
  | _ :: past => latestSequence past

def ruleKinds : List Kind :=
  [.robot .returning,.robot .departure,.cover .toOpen .returning,.cover .toOpen .redocked,
    .cover .toClose .departure,.cover .toClose .finished]

/-- A sequence is created where none is live, and commands as the latest and only one. -/
def ownsSequence (past : List (Item Garage)) : Item Garage → Bool
  | .spawned _ _ .finishSequence => decide (liveSequences past = [])
  | .event t e => decide (e.kind ∉ ruleKinds) || decide (liveSequences past = [t] ∧ latestSequence past = some t)
  | _ => true

/-- The task waits for the answer to the clean or resume that it has sent. -/
def awaitsClean (t : ℕ) (past : List (Item Garage)) : Bool :=
  match own t past with
  | .waiting _ .send :: .event _ (.sent (some name)) :: _ => decide (name ∈ newTaskCommands ++ resumeCommands)
  | _ => false

/-- No clean or resume is accepted while a sequence is live. -/
def acceptsAlone (past : List (Item Garage)) : Item Garage → Bool
  | .resumed t (.ok _) => !awaitsClean t past || decide (liveSequences past = [])
  | _ => true

section Alone

@[simp] theorem alone_read : @Co.Alone Garage GarageRuntime Co.get := trivial

@[simp] theorem alone_wait (request : Request) : @Co.Alone Garage Unit (Co.await request) := trivial

@[simp] theorem alone_refresh (place : Place) : (GarageController.refresh place).Alone := by
  simp [GarageController.refresh]

@[simp] theorem alone_noted {α : Type} (value : α) (after : GarageRuntime → GarageRuntime) (error : Exc) :
    (noted value after error).Alone := by
  cases error <;> simp [noted]

@[simp] theorem alone_waitFor (d : Direction) (cause : Cause) : (waitFor d cause).Alone := by
  simp only [waitFor,alone_bind,alone_read,true_and]
  intro s
  split <;> simp [pollEndpoint]

@[simp] theorem alone_reportFailure (d : Direction) (cause : Cause) (error : Exc) : (reportFailure d cause error).Alone := by
  cases error <;> simp [reportFailure]

@[simp] theorem alone_operate (d : Direction) (cause : Cause) (done : GarageRuntime → GarageRuntime) :
    (operate d cause done).Alone := by
  simp [operate,moveDoor]

@[simp] theorem alone_openDoor (cause : Cause) : (openDoor cause).Alone := by
  simp only [openDoor,alone_bind,alone_refresh,alone_read,true_and]
  intro _ s
  split <;> simp

@[simp] theorem alone_closeDoor (cause : Cause) : (closeDoor cause).Alone := by
  simp only [closeDoor,alone_bind,alone_refresh,alone_read,true_and]
  intro _ s
  split <;> simp

@[simp] theorem alone_writeEntity (n : ℕ) : (writeEntity n).Alone := by
  induction n with
  | zero => exact alone_pure ()
  | succ n ih => simp [writeEntity,ih]

@[simp] theorem alone_publish : publish.Alone := by
  have entities (listeners : List DiagnosticEntity) : (writeEntities listeners).Alone := by
    induction listeners with
    | nil => exact alone_pure ()
    | cons first rest ih => simp [writeEntities,ih]
  simp [publish,entities]

@[simp] theorem alone_command (name : String) (params : List PyValue) (cause : Cause) :
    (asyncControlCommand name params cause).Alone := by
  simp [asyncControlCommand,transmit]

@[simp] theorem alone_handleReturn : handleReturn.Alone := by
  simp only [handleReturn,updateReturning,pauseRobot,resumeRobot,alone_bind,alone_refresh,alone_read,alone_ite,alone_pure,
    alone_attempt,alone_modify,alone_command,alone_openDoor,alone_throw,alone_publish,true_and,and_true,implies_true]
  intro _ s _ error
  cases error <;> simp

@[simp] theorem alone_handleDeparture (handled : Bool) : (handleDeparture handled).Alone := by
  simp [handleDeparture,updateAfterDeparture,closeBehind,pauseOpenCloseResume,pauseRobot,resumeRobot]

@[simp] theorem alone_sequenceFinished : sequenceFinished.Alone := by
  simp [sequenceFinished,finishRules]

@[simp] theorem alone_finishSequence : finishSequence.Alone := by
  simp only [finishSequence,alone_bind,alone_read,true_and]
  intro s
  split
  · simp
  apply alone_guarded _ alone_publish
  simp only [alone_attempt]
  constructor
  · simp [awaitCleanStarted,lookForStart,iterate,applyRules]
  · intro error
    cases error <;> simp

@[simp] theorem alone_runControlledExit : runControlledExit.Alone := by
  simp only [runControlledExit,alone_bind,alone_read,true_and]
  intro s
  split <;> simp [leaveForWaypoint,lookForWaypoint]

theorem alone_body {call : Call} (send : ∀ command, call ≠ .asyncSend command)
    (stage : ∀ command timeoutMinutes, call ≠ .asyncStartStage command timeoutMinutes) : (body call).Alone := by
  cases call with
  | asyncSend command => exact absurd rfl (send command)
  | asyncStartStage command timeoutMinutes => exact absurd rfl (stage command timeoutMinutes)
  | shutdown =>
    simp only [body,shutdown,alone_bind,alone_read,true_and]
    intro s
    simp only [alone_modify,alone_emit,true_and]
    intro _ _
    split <;> simp
  | _ => simp [body,asyncStart,asyncRestore,asyncRoutine,asyncRequestOpen,asyncRequestClose,reset,onDoorChange,sendCommand]

end Alone

/-- What goes on from a send that was answered, in that slice: it creates its sequence. -/
def createSequence : Action := do
  publish
  let task ← .spawn .finishSequence
  .modify fun s => {s with sequenceTask := some task}

/-! A send is an opening, with a fact `F` before it and `H` behind it, and what comes after. -/
section
variable {I F H G Q : Point Garage → Prop} {t : ℕ} {p : Point Garage}

theorem wp_openAndSend {cause : Cause} {send : Action} (weaker : ∀ q, H q → F q)
    (opens : wp I t (openDoor cause) (fun _ q => I q ∧ H q) (fun _ q => I q ∧ F q) p) (published : Carries I H t publish)
    (sends : ∀ q, I q → H q → wp I t send (fun _ => G) (fun _ q => I q ∧ H q) q) :
    wp I t (openAndSend cause send) (fun _ => G) (fun _ q => I q ∧ F q) p := by
  have leaves (q : Point Garage) (both : I q ∧ H q) : I q ∧ F q := ⟨both.1,weaker q both.2⟩
  unfold openAndSend
  rw [wp_bind]
  refine wp_mono opens (fun _ q both => ?_) (fun _ _ both => both)
  rw [wp_bind]
  refine wp_mono (published q both.1 both.2) (fun _ q both => ?_) (fun _ q both => leaves q both)
  rw [wp_attempt]
  refine wp_mono (sends q both.1 both.2) (fun _ _ ready => ready) fun error q both => ?_
  have reports : wp I t (do publish; .throw error : Action) (fun _ => G) (fun _ q => I q ∧ F q) q := by
    rw [wp_bind]
    exact wp_mono (published q both.1 both.2) (fun _ q both => leaves q both) (fun _ q both => leaves q both)
  cases error with
  | control reason => exact reports
  | other reason => exact reports
  | cancelled => exact leaves q both

/-- The way out may end in a fact of its own. -/
theorem wp_asyncSend_out {X : Point Garage → Prop} {name : String} {cause : Cause} {send : Action} (weaker : ∀ q, H q → F q)
    (ends : ∀ q, I q → F q → X q) (exits : wp I t runControlledExit (fun _ q => I q ∧ F q) (fun _ => X) p)
    (opens : ∀ q, I q → F q → wp I t (openDoor cause) (fun _ q => I q ∧ H q) (fun _ q => I q ∧ F q) q)
    (published : Carries I H t publish)
    (direct : releasing (some name) = false → wp I t send (fun _ => Q) (fun _ q => I q ∧ F q) p)
    (sends : name ∈ newTaskCommands ++ resumeCommands → ∀ q, I q → H q →
      wp I t send (fun _ => G) (fun _ q => I q ∧ H q) q)
    (creates : ∀ q, G q → wp I t createSequence (fun _ => Q) (fun _ q => I q ∧ F q) q) (inv : I p) (fact : F p) :
    wp I t (asyncSend name cause send) (fun _ => Q) (fun _ => X) p := by
  have ended (_ : Exc) (q : Point Garage) (both : I q ∧ F q) : X q := ends q both.1 both.2
  unfold asyncSend
  rw [wp_bind,wp_get,wp_ite]
  split
  · exact ends p inv fact
  next listed =>
  rw [wp_ite]
  split
  next safe => exact wp_mono (direct (by simp [releasing,safe])) (fun _ _ sent => sent) ended
  next risky =>
  rw [wp_ite]
  split
  · exact ends p inv fact
  rw [wp_ite]
  split
  next other =>
    have charge : name = "app_charge" := by simpa [risky,other] using listed
    exact wp_mono (direct (by simp [releasing,charge])) (fun _ _ sent => sent) ended
  next known =>
  have known : name ∈ newTaskCommands ++ resumeCommands := by
    rw [List.mem_append]
    by_contra neither
    exact known (not_or.mp neither)
  have first : wp I t (controlledExitFirst name) (fun _ q => I q ∧ F q) (fun _ => X) p := by
    unfold controlledExitFirst
    rw [wp_bind,wp_get,wp_ite]
    split
    · exact exits
    · exact ⟨inv,fact⟩
  rw [wp_bind]
  refine wp_mono first (fun _ q both => ?_) (fun _ _ held => held)
  rw [wp_bind]
  have opened := wp_openAndSend weaker (opens q both.1 both.2) published (sends known)
  exact wp_mono opened (fun _ q ready => wp_mono (creates q ready) (fun _ _ done => done) ended) ended

theorem wp_asyncSend {name : String} {cause : Cause} {send : Action} (weaker : ∀ q, H q → F q)
    (exits : Carries I F t runControlledExit)
    (opens : ∀ q, I q → F q → wp I t (openDoor cause) (fun _ q => I q ∧ H q) (fun _ q => I q ∧ F q) q)
    (published : Carries I H t publish)
    (direct : releasing (some name) = false → wp I t send (fun _ => Q) (fun _ q => I q ∧ F q) p)
    (sends : name ∈ newTaskCommands ++ resumeCommands → ∀ q, I q → H q →
      wp I t send (fun _ => G) (fun _ q => I q ∧ H q) q)
    (creates : ∀ q, G q → wp I t createSequence (fun _ => Q) (fun _ q => I q ∧ F q) q) (inv : I p) (fact : F p) :
    wp I t (asyncSend name cause send) (fun _ => Q) (fun _ q => I q ∧ F q) p :=
  wp_asyncSend_out weaker (fun _ inv fact => ⟨inv,fact⟩) (exits p inv fact) opens published direct sends creates inv fact

/-- The stage's callback fails, so no stage returns or gets as far as a sequence. -/
theorem wp_asyncStartStage {command : String} {timeoutMinutes : Option PyValue} (weaker : ∀ q, H q → F q)
    (exits : Carries I F t runControlledExit)
    (opens : ∀ q, I q → F q → wp I t (openDoor .stage) (fun _ q => I q ∧ H q) (fun _ q => I q ∧ F q) q)
    (published : Carries I H t publish) (publishes : Carries I F t publish)
    (noted : ∀ q result, I q → F q →
      I ⟨{q.state with stageResult := result},q.history⟩ ∧ F ⟨{q.state with stageResult := result},q.history⟩)
    (inv : I p) (fact : F p) :
    wp I t (asyncStartStage command timeoutMinutes) (fun _ _ => False) (fun _ q => I q ∧ F q) p := by
  have sends : wp I t (asyncSend command .stage sendStage) (fun _ _ => False) (fun _ q => I q ∧ F q) p :=
    wp_asyncSend (G := fun _ => False) weaker exits opens published (fun _ => ⟨inv,fact⟩) (fun _ q inv fact => ⟨inv,fact⟩)
      (fun q never => never.elim) inv fact
  rw [← startStage_sendStage]
  have stage : wp I t (startStage sendStage command timeoutMinutes) (fun _ q => I q ∧ False) (fun _ q => I q ∧ F q) p :=
    wp_startStage (K := fun _ => False) (fun _ never => never.elim) (fun _ => wp_mono sends (fun _ _ never => never.elim) (fun _ _ both => both))
      (fun _ _ never => never.elim) (fun _ _ _ never => never.elim) (fun _ q inv fact => noted q _ inv fact) (fun _ _ never => never.elim)
      publishes inv fact
  exact wp_mono stage (fun _ _ both => both.2) (fun _ _ both => both)

end

abbrev SequencePromise : Point Garage → Prop := Promise acceptsAlone ownsSequence

section
variable {t : ℕ} {p : Point Garage} {item : Item Garage} {past : List (Item Garage)}

theorem liveSequences_latest (owns : throughout ownsSequence past = true) (live : t ∈ liveSequences past) :
    liveSequences past = [t] ∧ latestSequence past = some t := by
  induction past with
  | nil => simp [liveSequences] at live
  | cons item past ih =>
    obtain ⟨now,before⟩ := (throughout_cons _ _ _).mp owns
    rcases item with _ | _ | ⟨u,child,call⟩ | _ | _ | _ | u | ⟨u,error⟩
    case spawned =>
      cases call with
      | finishSequence =>
        have none : liveSequences past = [] := by simpa [ownsSequence] using now
        simp only [liveSequences,none,List.mem_singleton] at live
        subst live
        exact ⟨by simp [liveSequences,none],rfl⟩
      | _ => exact ih before live
    case finished =>
      obtain ⟨old,other⟩ := List.mem_filter.mp live
      obtain ⟨single,latest⟩ := ih before old
      exact ⟨by simpa [liveSequences,single] using other,latest⟩
    case failed =>
      obtain ⟨old,other⟩ := List.mem_filter.mp live
      obtain ⟨single,latest⟩ := ih before old
      exact ⟨by simpa [liveSequences,single] using other,latest⟩
    all_goals exact ih before live

theorem liveSequences_step (live : t ∈ liveSequences past) (other : item ≠ .finished t) (lasting : ∀ error, item ≠ .failed t error) :
    t ∈ liveSequences (item :: past) := by
  rcases item with _ | _ | ⟨u,child,call⟩ | _ | _ | _ | u | ⟨u,error⟩
  case spawned => cases call <;> first | exact live | exact List.mem_cons_of_mem _ live
  case finished =>
    have foreign : t ≠ u := fun same => other (by rw [same])
    exact List.mem_filter.mpr ⟨live,by simpa using foreign⟩
  case failed =>
    have foreign : t ≠ u := fun same => lasting error (by rw [same])
    exact List.mem_filter.mpr ⟨live,by simpa using foreign⟩
  all_goals exact live

theorem liveSequences_mem (spawned : ∃ parent, .spawned parent t .finishSequence ∈ past) (begun : own t past = []) :
    t ∈ liveSequences past := by
  refine of_unowned (A := fun past => (∃ parent, .spawned parent t .finishSequence ∈ past) → t ∈ liveSequences past)
    begun ?_ ?_ spawned
  · rintro ⟨parent,member⟩
    exact absurd member List.not_mem_nil
  · rintro item past foreign live ⟨parent,member⟩
    rcases List.mem_cons.mp member with rfl | old
    · exact List.mem_cons_self
    · exact liveSequences_step (live ⟨parent,old⟩) (by rintro rfl; exact foreign rfl) (by rintro error rfl; exact foreign rfl)

/-- Under the condition, the task is the live sequence. -/
abbrev Owner (t : ℕ) (past : List (Item Garage)) : Prop :=
  throughout ownsSequence past = true → liveSequences past = [t]

theorem owner_step (owner : Owner t past) (other : item ≠ .finished t) (lasting : ∀ error, item ≠ .failed t error) :
    Owner t (item :: past) := by
  intro owns
  obtain ⟨now,before⟩ := (throughout_cons _ _ _).mp owns
  have single := owner before
  rcases item with _ | _ | ⟨u,child,call⟩ | _ | _ | _ | u | ⟨u,error⟩
  case spawned =>
    cases call with
    | finishSequence => simp [ownsSequence,single] at now
    | _ => exact single
  case finished =>
    have foreign : t ≠ u := fun same => other (by rw [same])
    simpa [liveSequences,single] using foreign
  case failed =>
    have foreign : t ≠ u := fun same => lasting error (by rw [same])
    simpa [liveSequences,single] using foreign
  all_goals exact single

theorem ownsSequence_quiet (past : List (Item Garage)) {e : Event} (other : e.kind ∉ ruleKinds) :
    ownsSequence past (.event t e) = true := by
  simp [ownsSequence,other]

theorem sequencePromise_until (t : ℕ) {R : GarageRuntime → GarageRuntime → Prop} {S : Event → Prop}
    (apart : ∀ e, S e → e.kind ∉ ruleKinds) : Ignores (Until SequencePromise t) t R S := by
  refine Until.ignores (fun p s held _ => held.of_same rfl) ?_ ?_ ?_
  · exact fun p e held inside => held.push fun _ _ => ownsSequence_quiet _ (apart e inside)
  · exact fun p request held => held.push fun _ _ => rfl
  · exact fun p answer held => held.push fun _ _ => rfl

theorem sequencePromise_plain {α : Type} {m : Co Garage α} {kinds : List Kind} (alone : m.Alone) (inside : Emits kinds m)
    (apart : ∀ kind ∈ kinds, kind ∉ ruleKinds) : Carries SequencePromise (Childless t) t m := by
  have untilThen : Carries (Until SequencePromise t) (fun _ => True) t m :=
    Co.Within.carries (sequencePromise_until t fun e member => apart e.kind member) .top .top inside
  intro p inv childless
  have inside := alone.carries untilThen p inv ⟨trivial,childless⟩
  exact wp_mono inside (fun _ _ held => ⟨held.1,held.2.2⟩) (fun _ _ held => ⟨held.1,held.2.2⟩)

/-- The slice in which a clean or a resume is accepted: no other sequence is live. -/
structure Accepted (p : Point Garage) : Prop where
  promise : SequencePromise p
  none : throughout acceptsAlone p.history = true → liveSequences p.history = []

theorem accepted_publish {X : Exc → Point Garage → Prop} (accepted : Accepted p) :
    wp SequencePromise t publish (fun _ => Accepted) X p := by
  refine wp_publish (fun _ q ready => ⟨?_,fun condition => ?_⟩) accepted
  · have read : SequencePromise (q.push (.event t (.read .entity q.state.refresh))) :=
      ready.promise.push fun _ _ => ownsSequence_quiet _ (by simp [Event.kind,ruleKinds])
    exact read.of_same rfl
  · exact ready.none ((throughout_cons _ _ _).mp condition).2

theorem accepted_sends {command : String} (known : command ∈ newTaskCommands ++ resumeCommands) (inv : SequencePromise p)
    (childless : Childless t p) :
    wp SequencePromise t (sendCommand (some command)) (fun _ => Accepted) (fun _ q => SequencePromise q ∧ Childless t q) p := by
  unfold sendCommand
  rw [wp_bind,wp_emit,wp_bind]
  have sent : SequencePromise (p.push (.event t (.sent (some command)))) :=
    inv.push fun _ _ => ownsSequence_quiet _ (by simp [Event.kind,ruleKinds])
  have waits : Childless t ((p.push (.event t (.sent (some command)))).push (.waiting t .send)) :=
    (childless.push (by simp) : Childless t (p.push (.event t (.sent (some command))))).push (by simp)
  refine ⟨sent.push fun _ _ => rfl,fun q inv later answer => ?_⟩
  have resumed : SequencePromise (q.push (.resumed t answer)) := inv.push fun _ _ => rfl
  cases answer with
  | error error => exact ⟨resumed,(Childless.stable t _ _ waits later).push (by simp)⟩
  | ok reply =>
    refine ⟨resumed,fun condition => ?_⟩
    have alone : acceptsAlone q.history (.resumed t (.ok reply)) = true := ((throughout_cons _ _ _).mp condition).1
    have awaits : awaitsClean t q.history = true := by
      unfold awaitsClean
      rw [later.own,Point.push_history,own_cons_self _ rfl,Point.push_history,own_cons_self _ rfl]
      exact decide_eq_true known
    simpa [acceptsAlone,awaits,Point.push,liveSequences] using alone

theorem accepted_creates (accepted : Accepted p) :
    wp SequencePromise t createSequence (fun _ => SequencePromise) (fun _ q => SequencePromise q ∧ Childless t q) p := by
  unfold createSequence
  rw [wp_bind]
  refine wp_mono (accepted_publish accepted) ?_ (fun _ _ held => held)
  intro _ q accepted n fresh
  have created : SequencePromise (q.push (.spawned t n .finishSequence)) := by
    refine accepted.promise.push fun _ condition => ?_
    simp [ownsSequence,accepted.none condition]
  exact created.of_same rfl

section Sends

theorem sequencePromise_opens {cause : Cause} (apart : ∀ kind ∈ openKinds cause, kind ∉ ruleKinds) :
    Carries SequencePromise (Childless t) t (openDoor cause) :=
  sequencePromise_plain (alone_openDoor cause) (emits_openDoor (List.Subset.refl _)) apart

theorem sequencePromise_exits : Carries SequencePromise (Childless t) t runControlledExit :=
  sequencePromise_plain alone_runControlledExit (emits_runControlledExit (List.Subset.refl _))
    (by simp [exitKinds,openKinds,closeKinds,ruleKinds])

theorem sequencePromise_publish : Carries SequencePromise (Childless t) t publish :=
  sequencePromise_plain alone_publish (emits_publish (List.mem_singleton_self Kind.read)) (by simp [ruleKinds])

theorem sequencePromise_clean {command : String} (inv : SequencePromise p) (childless : Childless t p) :
    wp SequencePromise t (asyncSend command .clean (sendCommand (some command))) (fun _ => SequencePromise)
      (fun _ => SequencePromise) p := by
  have inside : Emits [.sent] (sendCommand (some command)) := emits_sendCommand (by simp)
  have direct := sequencePromise_plain (t := t) (by simp [sendCommand]) inside (by simp [ruleKinds]) p inv childless
  have opens : Carries SequencePromise (Childless t) t (openDoor .clean) :=
    sequencePromise_opens (by simp [openKinds,ruleKinds])
  have sends : wp SequencePromise t (asyncSend command .clean (sendCommand (some command))) (fun _ => SequencePromise)
      (fun _ q => SequencePromise q ∧ Childless t q) p :=
    wp_asyncSend (G := Accepted) (fun _ childless => childless) sequencePromise_exits opens sequencePromise_publish
      (fun _ => wp_mono direct (fun _ _ both => both.1) (fun _ _ both => both))
      (fun known q inv childless => accepted_sends known inv childless) (fun q accepted => accepted_creates accepted)
      inv childless
  exact wp_mono sends (fun _ _ held => held) (fun _ _ both => both.1)

theorem sequencePromise_stage {command : String} {timeoutMinutes : Option PyValue} :
    Carries SequencePromise (Childless t) t (asyncStartStage command timeoutMinutes) := by
  have opens : Carries SequencePromise (Childless t) t (openDoor .stage) :=
    sequencePromise_opens (by simp [openKinds,ruleKinds])
  intro p inv childless
  have stage : wp SequencePromise t (asyncStartStage command timeoutMinutes) (fun _ _ => False)
      (fun _ q => SequencePromise q ∧ Childless t q) p := wp_asyncStartStage (fun _ childless => childless) sequencePromise_exits opens sequencePromise_publish
    sequencePromise_publish (fun q result inv childless => ⟨inv.of_same rfl,childless⟩) inv childless
  exact wp_mono stage (fun _ _ never => never.elim) (fun _ _ both => both)

end Sends

theorem sequencePromise_sequence (t : ℕ) :
    Carries (Until SequencePromise t) (fun p => Owner t p.history) t finishSequence := by
  have blind : Ignores (Until SequencePromise t) t Frame fun (e : Event) => e.kind ∉ ruleKinds :=
    sequencePromise_until t fun _ other => other
  have framed : Ignores (fun p => Owner t p.history) t Frame fun (e : Event) => e.kind ∈ sequenceKinds :=
    Ignores.of_history (A := Owner t) fun item past _ inside owner =>
      owner_step owner (by rintro rfl; exact inside) (by rintro error rfl; exact inside)
  have stable : Stable t fun p : Point Garage => Owner t p.history :=
    Stable.of_history (A := Owner t) fun item past foreign owner =>
      owner_step owner (by rintro rfl; exact foreign rfl) (by rintro error rfl; exact foreign rfl)
  refine (emits_finishSequence (List.Subset.refl _)).carries_both
    ⟨fun p s both moves => ⟨blind.act p s both.1 moves,both.2⟩,fun p e both member => ⟨?_,framed.event p e both.2 member⟩,
      fun p n call both => ⟨blind.spawned p n call both.1,framed.spawned p n call both.2⟩,
      fun p request both => ⟨blind.waiting p request both.1,framed.waiting p request both.2⟩,
      fun p answer both => ⟨blind.resumed p answer both.1,framed.resumed p answer both.2⟩⟩ stable
  intro childless
  refine (both.1 childless.before).push fun _ condition => ?_
  have owns := both.1 childless.before condition
  have single := both.2 owns
  have latest := (liveSequences_latest owns (single ▸ List.mem_singleton_self t)).2
  simp [ownsSequence,single,latest]

theorem sequencePromise_keeps : Preserves program SequencePromise where
  outside input p inv := (show SequencePromise (p.push (.outside input)) from inv.push fun _ _ => rfl).of_same rfl
  dropped t p inv _ := inv.push fun _ _ => rfl
  body call t p inv begun origin := by
    have started : SequencePromise (p.push (.started t call)) := inv.push fun _ _ => rfl
    have entered : own t (p.push (.started t call)).history = [.started t call] := by
      rw [Point.push_history,own_cons_self _ rfl,begun]
    have childless : Childless t (p.push (.started t call)) := .begun entered
    have ends {m : Action} (held : wp SequencePromise t m (fun _ => SequencePromise) (fun _ => SequencePromise)
        (p.push (.started t call))) : wp SequencePromise t m (fun _ q => SequencePromise (q.push (.finished t)))
        (fun error q => SequencePromise (q.push (.failed t error))) (p.push (.started t call)) :=
      wp_mono held (fun _ _ inv => inv.push fun _ _ => rfl) (fun _ _ inv => inv.push fun _ _ => rfl)
    by_cases sequence : call = .finishSequence
    · subst sequence
      obtain ⟨parent,spawned⟩ := origin.resolve_left (by simp [program])
      refine ends ?_
      have owner : Owner t (p.push (.started t .finishSequence)).history := by
        refine owner_step (fun owns => ?_) (by simp) (by simp)
        exact (liveSequences_latest owns (liveSequences_mem ⟨parent,spawned⟩ begun)).1
      have carried := alone_finishSequence.carries (sequencePromise_sequence t) _ started ⟨owner,childless⟩
      exact wp_mono carried (fun _ _ held => held.1) (fun _ _ held => held.1)
    refine ends ?_
    by_cases send : ∃ command, call = .asyncSend command
    · obtain ⟨command,rfl⟩ := send
      exact sequencePromise_clean started childless
    by_cases stage : ∃ command timeoutMinutes, call = .asyncStartStage command timeoutMinutes
    · obtain ⟨command,timeoutMinutes,rfl⟩ := stage
      exact sequencePromise_stage.plain started childless
    have alone : (body call).Alone :=
      alone_body (fun command same => send ⟨command,same⟩) fun command minutes same => stage ⟨command,minutes,same⟩
    have carried : Carries (Until SequencePromise t) (fun _ => True) t (body call) := by
      by_cases unloading : call = .shutdown
      · subst unloading
        exact carries_shutdown (sequencePromise_until t fun e kind => by simp [kind,ruleKinds])
      refine Co.Within.carries (sequencePromise_until t fun e member => ?_) .top .top (emits_body unloading (List.Subset.refl _))
      have apart : ∀ kind ∈ call.kinds, kind ∉ ruleKinds := by
        cases call <;> simp_all [Call.kinds,openKinds,closeKinds,ruleKinds]
      exact apart e.kind member
    have held := alone.carries carried _ started ⟨trivial,childless⟩
    exact wp_mono held (fun _ _ held => held.1) (fun _ _ held => held.1)

end

/-- At most one sequence is live, that of the clean or resume accepted last, and only it
commands, in every run in which none is accepted while a sequence is live. -/
theorem one_sequence_at_a_time (binding : Binding) (world : World) (schedule : List (Label Garage))
    (alone : throughout acceptsAlone (run binding world schedule).history = true) :
    (∀ t ∈ liveSequences (run binding world schedule).history,
      liveSequences (run binding world schedule).history = [t] ∧
        latestSequence (run binding world schedule).history = some t) ∧
      throughout ownsSequence (run binding world schedule).history = true := by
  have owns := sequencePromise_keeps.exec (GarageRuntime.init binding world) (fun _ => rfl) schedule alone
  exact ⟨fun t live => liveSequences_latest owns live,owns⟩

/-- The cover's answer is followed by the door opening and the wait for it ending. -/
def opensFor (task : ℕ) : List (Label Garage) :=
  [goesOn task,.outside (.entity "binary_sensor.closed" (contact false)),
    .outside (.entity "binary_sensor.open" (contact true)),goesOn task]

/-- The next clean is sent behind the door that the last sequence has closed. -/
def cleansAgain : List (Label Garage) :=
  closesAtHome ++ [.call (.asyncSend "app_start")] ++ opensFor 2 ++ [goesOn 2,.start]

theorem one_sequence_at_a_time_eastward :
    (liveSequences (run contactBinding drivingOut (departsTo 3000)).history = [1] ∧
      (run contactBinding drivingOut (departsTo 3000)).history.any closesBehind = true) ∧
    latestSequence (run contactBinding cleaningInside closesAtHome).history = some 1 ∧
      liveSequences (run contactBinding cleaningInside cleansAgain).history = [3] ∧
      latestSequence (run contactBinding cleaningInside cleansAgain).history = some 3 :=
  ⟨⟨((one_sequence_at_a_time contactBinding drivingOut (departsTo 3000) (by decide +kernel)).1 1 (by decide +kernel)).1,
      by decide +kernel⟩,
    by decide +kernel,(one_sequence_at_a_time contactBinding cleaningInside cleansAgain (by decide +kernel)).1 3 (by decide +kernel)⟩

def startsTwice : List (Label Garage) :=
  [.call (.asyncSend "app_start"),goesOn 0,.start,.call (.asyncSend "app_start"),goesOn 2,.start]

/-- Nothing ends the first sequence when the second is created. -/
theorem two_sequences_live :
    liveSequences (run contactBinding cleaningInside startsTwice).history = [3,1] ∧
      throughout ownsSequence (run contactBinding cleaningInside startsTwice).history = false := by
  decide +kernel

end RoborockPlus
