import RoborockPlus.Rules

/-! The door before the robot. A call releases the robot in the slice in which its
opening ended, after the entities have written themselves; their readings can differ
from the one the opening ended on, for a cover that calls itself closing. -/
namespace RoborockPlus
open Async GarageController GarageRuntime

/-- An opening on behalf of one of these causes ends at this reading, with the door open. -/
def endsOpen (causes : List Cause) (seen : GarageRuntime) : Place → Bool
  | .asked .toOpen cause =>
    decide (cause ∈ causes) && seen.controller.doorBlockedReason.isNone && seen.controller.openConfirmed
  | .waited .toOpen cause => decide (cause ∈ causes) && seen.controller.openConfirmed
  | _ => false

/-- The last reading of all is the task's own, later than its last door command, and
has the door open. -/
def readOpen (t : ℕ) : List (Item Garage) → Bool
  | [] => false
  | .event u (.read _ seen) :: _ => u == t && seen.controller.openConfirmed
  | .event u (.cover _ _) :: past => u != t && readOpen t past
  | _ :: past => readOpen t past

/-- The last door operation the task entered opened the door. -/
def hasOpened (t : ℕ) : List (Item Garage) → Bool
  | [] => false
  | .event u (.read (.asked _ _) _) :: past => u != t && hasOpened t past
  | .event u (.gaveUp _ _) :: past => u != t && hasOpened t past
  | .event u (.succeeded d _) :: past => if u = t then decide (d = .toOpen) else hasOpened t past
  | _ :: past => hasOpened t past

/-- The robot is released by a task that has opened the door and reads it open. -/
def releasesOpen (t : ℕ) (past : List (Item Garage)) : Event → Bool
  | .sent command => !releasing command || (readOpen t past && hasOpened t past)
  | .robot name cause _ =>
    (name, cause) ∉ [("app_goto_target",.controlledExit),("app_resume",.returning)] ||
      (readOpen t past && hasOpened t past)
  | _ => true

/-- For these causes a robot is sent off once the door has opened. A stage needs a callback that
takes the call, and control that was unloaded sends no robot to the waypoint. -/
def sendingCauses (takes : ℕ → Bool) (closed : Bool) : List Cause :=
  [.clean,.routine] ++ (if takes 0 then [.stage] else []) ++ if closed then [] else [.controlledExit]

/-- A cover that calls itself closing is not taken for an open door while entities listen. -/
def opensStill (takes : ℕ → Bool) (_ : ℕ) (_ : List (Item Garage)) : Event → Bool
  | .read place seen =>
    !endsOpen (sendingCauses takes seen.closed) seen place || seen.listeners.isEmpty || !coverClosing seen.binding seen.world
  | _ => true

section
variable {I : Point Garage → Prop} {t : ℕ} {p q : Point Garage} {cause : Cause}

theorem endsOpen_confirmed {causes : List Cause} {seen : GarageRuntime} {place : Place}
    (ends : endsOpen causes seen place = true) : seen.controller.openConfirmed = true := by
  cases place with
  | asked d cause => cases d <;> simp_all [endsOpen]
  | waited d cause => cases d <;> simp_all [endsOpen]
  | _ => simp [endsOpen] at ends

theorem endsOpen_mono {causes more : List Cause} {seen : GarageRuntime} {place : Place} (subset : causes ⊆ more)
    (ends : endsOpen causes seen place = true) : endsOpen more seen place = true := by
  cases place with
  | asked d cause => cases d <;> simp_all [endsOpen,subset _]
  | waited d cause => cases d <;> simp_all [endsOpen,subset _]
  | _ => simp [endsOpen] at ends

theorem wp_opening {Q : Unit → Point Garage → Prop} (blind : Unmoved I t) (inv : I p)
    (commanded : opens p.state = true → ∀ s, Frame p.state s →
      I ⟨s,.event t (.cover .toOpen cause) :: (reread t (.asked .toOpen cause) p).history⟩)
    (ended : ∀ x place, endsOpen [cause] x.state.refresh place = true → I (reread t place x) →
      Q () ⟨opened x.state.refresh,.event t (.succeeded .toOpen cause) :: (reread t place x).history⟩) :
    wp I t (openDoor cause) Q (fun _ q => I q ∧ True) p := by
  have read : I (reread t (.asked .toOpen cause) p) := blind.silent.reread (by simp) inv
  apply wp_openDoor (F := fun _ => True) blind.silent .top .top
  · exact fun s _ _ frame => ⟨blind.act _ s read ⟨frame.world,frame.binding,frame.closed⟩,trivial⟩
  · exact fun readable confirmed => ended p _ (by simp [endsOpen,readable,confirmed]) read
  · exact fun readable shut s frame => ⟨commanded (opens_of_guards readable shut) s frame,trivial⟩
  · exact fun x read _ confirmed => ended x _ (by simp [endsOpen,confirmed]) read
  · exact fun q s _ inv _ frame => ⟨blind.ended inv frame rfl,trivial⟩

section Opened
variable {G : Point Garage → Prop} (blind : Unmoved I t)
  (commanded : ∀ p, I p → opens p.state = true → ∀ s, Frame p.state s →
    I ⟨s,.event t (.cover .toOpen cause) :: (reread t (.asked .toOpen cause) p).history⟩)
  (ended : ∀ x place, endsOpen [cause] x.state.refresh place = true → I (reread t place x) →
    G ⟨opened x.state.refresh,.event t (.succeeded .toOpen cause) :: (reread t place x).history⟩)
  (published : ∀ q, G q → wp I t publish (fun _ => G) (fun _ q => I q ∧ True) q)
include blind commanded ended published

theorem carries_opened {rest : Action} (released : ∀ q, G q → wp I t rest (fun _ q => I q ∧ True) (fun _ q => I q ∧ True) q) :
    Carries I (fun _ => True) t (do openDoor cause; publish; rest : Action) := by
  intro p inv _
  rw [wp_bind]
  refine wp_opening blind inv (commanded p inv) fun x place ends read => ?_
  rw [wp_bind]
  exact wp_mono (published _ (ended x place ends read)) (fun _ q ready => released q ready) (fun _ _ both => both)

theorem carries_sends {send : Action} (sends : ∀ q, G q → wp I t send (fun _ q => I q ∧ True) (fun _ q => I q ∧ True) q) :
    Carries I (fun _ => True) t (openAndSend cause send) := by
  refine carries_opened blind commanded ended published fun q ready => ?_
  have fails (error : Exc) : Carries I (fun _ => True) t (do publish; .throw error : Action) :=
    .bind (blind.silent.emits .top .top (emits_publish (by simp))) fun _ => blind.silent.emits .top .top trivial
  rw [wp_attempt]
  refine wp_mono (sends q ready) (fun _ _ both => both) fun error q both => ?_
  cases error with
  | control reason => exact fails _ q both.1 trivial
  | other reason => exact fails _ q both.1 trivial
  | cancelled => exact both

end Opened

theorem wp_sendCommand {command : Option String} (blind : Unmoved I t)
    (sent : I (q.push (.event t (.sent command)))) :
    wp I t (sendCommand command) (fun _ q => I q ∧ True) (fun _ q => I q ∧ True) q := by
  unfold sendCommand
  rw [wp_bind,wp_emit,wp_bind]
  exact blind.silent.await .top .top .send _ sent trivial

end

structure Found (s u : GarageRuntime) : Prop where
  frame : Frame s u
  listeners : u.listeners = s.listeners
  state : u.controller.state = s.refresh.controller.state
  evidence : u.controller.evidence = s.refresh.controller.evidence
  robot : u.controller.robot = s.world.robotObservation

theorem Found.again {s u : GarageRuntime} (found : Found s u) (confirmed : s.refresh.controller.openConfirmed = true)
    (still : coverClosing s.binding s.world = false) : u.refresh = u := by
  have held := DoorState.revoked_of_opened (openConfirmed_state confirmed)
  apply observe_same held found.state found.evidence found.robot found.frame.world
  unfold doorObservation
  rw [found.frame.world,found.frame.binding]
  exact observeDoor_phase still _ _ _ _

abbrev ReleasePromise (takes : ℕ → Bool) : Point Garage → Prop := Promise (atEvents (opensStill takes)) (atEvents releasesOpen)

def releases : List Kind := [.sent,.robot .controlledExit,.robot .returning]

section
variable {takes : ℕ → Bool} {t : ℕ} {p q : Point Garage} {cause : Cause}

theorem releasesOpen_quiet {past : List (Item Garage)} {e : Event} (other : e.kind ∉ releases) :
    releasesOpen t past e = true := by
  cases e with
  | robot name cause utc => cases cause <;> simp_all [Event.kind,releases,releasesOpen]
  | sent command => simp [Event.kind,releases] at other
  | _ => rfl

theorem releasePromise_blind (takes : ℕ → Bool) (t : ℕ) {R : GarageRuntime → GarageRuntime → Prop} {S : Event → Prop}
    (other : ∀ e, S e → e.kind ∉ releases) : Ignores (ReleasePromise takes) t R S :=
  Promise.ignores fun _ e inside => releasesOpen_quiet (other e inside)

theorem releasePromise_unmoved (takes : ℕ → Bool) (t : ℕ) : Unmoved (ReleasePromise takes) t :=
  .of_blind (releasePromise_blind takes t fun _ other => other) (by simp [releases]) (by simp [releases])

structure SeesOpen (t : ℕ) (p : Point Garage) : Prop where
  opened : (readOpen t p.history && hasOpened t p.history) = true
  lasting : p.state.listeners = [] ∨ p.state.refresh = p.state ∧ p.state.controller.openConfirmed = true

structure Poised (takes : ℕ → Bool) (cause : Cause) (t : ℕ) (p : Point Garage) : Prop where
  promise : ReleasePromise takes p
  sees : throughout (atEvents (opensStill takes)) p.history = true →
    cause = .controlledExit ∧ p.state.closed = true ∨ SeesOpen t p

theorem poised_opened {x : Point Garage} {place : Place} {s : GarageRuntime}
    (member : cause ∈ sendingCauses takes false) (ends : endsOpen [cause] x.state.refresh place = true)
    (read : ReleasePromise takes (reread t place x)) (found : Found x.state s) :
    Poised takes cause t ⟨s,.event t (.succeeded .toOpen cause) :: (reread t place x).history⟩ := by
  have confirmed := endsOpen_confirmed ends
  refine ⟨(read.event fun _ => rfl).of_same rfl,fun condition => ?_⟩
  have here : opensStill takes t x.history (.read place x.state.refresh) = true :=
    ((throughout_cons _ _ _).mp (throughout_suffix condition (List.suffix_cons _ _))).1
  by_cases unloaded : cause = .controlledExit ∧ s.closed = true
  · exact Or.inl unloaded
  refine Or.inr ⟨by simp [reread,readOpen,hasOpened,confirmed],?_⟩
  have goes : endsOpen (sendingCauses takes x.state.refresh.closed) x.state.refresh place = true := by
    refine endsOpen_mono ?_ ends
    have closed : x.state.refresh.closed = s.closed := found.frame.closed.symm
    rw [closed]
    cases unloadedNow : s.closed <;> simp_all [sendingCauses]
  simp only [opensStill,goes,Bool.not_true,Bool.false_or,Bool.or_eq_true,List.isEmpty_iff,Bool.not_eq_true'] at here
  refine here.imp (fun alone => found.listeners.trans alone) fun still => ⟨found.again confirmed still,?_⟩
  change s.controller.openConfirmed = true
  unfold GarageController.openConfirmed
  rw [found.state]
  exact confirmed

theorem poised_publish {X : Exc → Point Garage → Prop} (poised : Poised takes cause t p) :
    wp (ReleasePromise takes) t publish (fun _ => Poised takes cause t) X p := by
  have held : p.state.listeners = p.state.listeners ∧ Poised takes cause t p := ⟨rfl,poised⟩
  refine wp_mono (wp_publish (G := fun q => q.state.listeners = p.state.listeners ∧ Poised takes cause t q) ?_ held)
    (fun _ _ both => both.2) (fun _ _ failed => failed)
  rintro listening q ⟨same,ready⟩
  refine ⟨same,(releasePromise_unmoved takes t).silent.reread (by simp) ready.promise,fun condition => ?_⟩
  refine (ready.sees ((throughout_cons _ _ _).mp condition).2).imp id fun sees => ?_
  obtain alone | ⟨again,confirmed⟩ := sees.lasting
  · exact absurd (same.symm.trans alone) listening
  have opened := sees.opened
  simp only [Bool.and_eq_true] at opened
  refine ⟨?_,Or.inr ?_⟩
  · simp [reread,readOpen,hasOpened,again,confirmed,opened.2]
  · simp only [reread]
    rw [again]
    exact ⟨again,confirmed⟩

theorem Poised.release {e : Event} {s : GarageRuntime} (poised : Poised takes cause t p) (running : cause = .controlledExit → p.state.closed = false)
    (passes : (readOpen t p.history && hasOpened t p.history) = true → releasesOpen t p.history e = true) :
    ReleasePromise takes ⟨s,.event t e :: p.history⟩ := by
  refine (poised.promise.event fun condition => ?_).of_same rfl
  obtain ⟨exit,closed⟩ | sees := poised.sees condition
  · rw [running exit] at closed
    exact absurd closed (by simp)
  · exact passes sees.opened

theorem releasePromise_commanded (p : Point Garage) (inv : ReleasePromise takes p) (s : GarageRuntime) :
    ReleasePromise takes ⟨s,.event t (.cover .toOpen cause) :: (reread t (.asked .toOpen cause) p).history⟩ := by
  have read : ReleasePromise takes (reread t (.asked .toOpen cause) p) :=
    (releasePromise_unmoved takes t).silent.reread (by simp) inv
  exact (read.event fun _ => rfl).of_same rfl

theorem releasePromise_sent {command : Option String} (poised : Poised takes cause t p) (inside : cause ≠ .controlledExit) :
    wp (ReleasePromise takes) t (sendCommand command) (fun _ q => ReleasePromise takes q ∧ True) (fun _ q => ReleasePromise takes q ∧ True) p := by
  refine wp_sendCommand (releasePromise_unmoved takes t) (poised.release (fun exit => absurd exit inside) fun seen => ?_)
  simp only [releasesOpen,seen,Bool.or_true]

theorem releasePromise_leave (t : ℕ) (settings : ExitSettings) :
    Carries (ReleasePromise takes) (fun _ => True) t (leaveForWaypoint settings) := by
  have blind := releasePromise_unmoved takes t
  intro p inv _
  unfold leaveForWaypoint
  rw [wp_bind]
  refine wp_opening blind inv (fun _ s _ => releasePromise_commanded p inv s) fun x place ends read => ?_
  rw [wp_bind,wp_modify,wp_bind]
  have poised : Poised takes .controlledExit t ⟨(opened x.state.refresh).setPhase .controlledExit,
      .event t (.succeeded .toOpen .controlledExit) :: (reread t place x).history⟩ :=
    poised_opened (by simp [sendingCauses]) ends read ⟨⟨rfl,rfl,rfl⟩,rfl,rfl,rfl,rfl⟩
  refine wp_mono (poised_publish poised) (fun _ q ready => ?_) (fun _ _ both => both)
  refine wp_asyncControlCommand blind.silent (by simp) (by simp [invalidTarget]) (fun _ => ⟨ready.promise,trivial⟩)
    ?_ (fun _ _ _ _ inv _ => ⟨inv,trivial⟩) (fun _ _ _ _ _ inv _ => ⟨inv,trivial⟩)
  exact fun running s _ => ready.release (fun _ => running) fun seen => by simp [releasesOpen,seen]

theorem releasePromise_return (t : ℕ) : Carries (ReleasePromise takes) (fun _ => True) t handleReturn := by
  have blind := releasePromise_unmoved takes t
  apply carries_handleReturn blind
  · exact fun p read _ _ _ s _ => (read.event fun _ => by simp [releasesOpen]).of_same rfl
  · exact fun p s₀ q _ _ _ _ _ _ r s _ _ asked _ => (asked.event fun _ => rfl).of_same rfl
  · intro x s place utc _ confirmed _ inv
    refine (inv.event fun _ => ?_).of_same rfl
    simp [releasesOpen,reread,readOpen,hasOpened,confirmed]

theorem releasePromise_exit (t : ℕ) : Carries (ReleasePromise takes) (fun _ => True) t runControlledExit :=
  carries_runControlledExit (releasePromise_unmoved takes t).silent .top .top (releasePromise_leave t)

/-- What is sent behind an opening on behalf of such a cause is sent with the door open. -/
theorem releasePromise_sends {command : Option String} (member : cause ∈ sendingCauses takes true) (t : ℕ) :
    Carries (ReleasePromise takes) (fun _ => True) t (openAndSend cause (sendCommand command)) := by
  have inside : cause ≠ .controlledExit := by
    rintro rfl
    revert member
    unfold sendingCauses
    split <;> simp
  have loaded : cause ∈ sendingCauses takes false := by
    revert member
    simp only [sendingCauses,List.mem_append]
    tauto
  exact carries_sends (G := Poised takes cause t) (releasePromise_unmoved takes t) (fun p inv _ s _ => releasePromise_commanded p inv s)
    (fun x place ends read => poised_opened loaded ends read ⟨⟨rfl,rfl,rfl⟩,rfl,rfl,rfl,rfl⟩)
    (fun _ poised => poised_publish poised) (fun _ poised => releasePromise_sent poised inside)

theorem releasePromise_keeps : Preserves program (ReleasePromise takes) := by
  refine preserves_promise releases (fun _ _ _ other => releasesOpen_quiet other) (by simp [releases]) ?_
  intro call t touched
  have blind := releasePromise_unmoved takes t
  have silent := blind.silent
  have plain {α : Type} (kinds : List Kind) {m : Co Garage α} (inside : Emits kinds m)
      (apart : ∀ kind ∈ kinds, kind ∉ releases) : Carries (ReleasePromise takes) (fun _ => True) t m :=
    Emits.carries (releasePromise_blind takes t fun _ other => other) .top .top kinds inside apart
  cases call with
  | asyncSend command =>
    refine carries_asyncSend silent .top .top (releasePromise_exit t) ?_ ?_
    · intro harmless p inv _
      exact wp_sendCommand blind (inv.event fun _ => by simp [releasesOpen,harmless])
    · exact releasePromise_sends (by simp [sendingCauses]) t
  | asyncStartStage command timeoutMinutes =>
    exact carries_asyncStartStage silent .top .top (carries_asyncSend silent .top .top (releasePromise_exit t)
      (fun _ => plain [] trivial (by simp)) (carries_openAndSend silent .top .top
      (plain _ (emits_openDoor (List.Subset.refl _)) (by simp [openKinds,releases])) (plain [] trivial (by simp))))
  | asyncRoutine =>
    refine carries_opened (G := Poised takes .routine t) blind (fun p inv _ s _ => releasePromise_commanded p inv s)
      (fun x place ends read => poised_opened (by simp [sendingCauses]) ends read ⟨⟨rfl,rfl,rfl⟩,rfl,rfl,rfl,rfl⟩)
      (fun _ poised => poised_publish poised) fun q poised => ?_
    have writes : Carries (ReleasePromise takes) (fun _ => True) t publish := silent.emits .top .top (emits_publish (by simp))
    rw [wp_guarded]
    refine wp_mono (releasePromise_sent poised (by simp)) ?_ ?_
    · exact fun _ q both => writes q both.1 trivial
    · exact fun _ q both => writes q both.1 trivial
  | finishSequence =>
    exact carries_turns (releasePromise_blind takes t fun _ other => other) (by simp [releases]) (releasePromise_return t)
      (fun handled => plain departureKinds (emits_handleDeparture (List.Subset.refl _) handled)
        (by simp [departureKinds,closeKinds,releases]))
      (plain _ (emits_sequenceFinished (List.Subset.refl _)) (by simp [finishKinds,openKinds,closeKinds,releases]))
  | _ => simp [Call.kinds,openKinds,closeKinds,releases] at touched

/-- A stage sends behind its own opening, if its callback takes the call at all. -/
theorem releasePromise_stage {P : Type} (wire : String × P → String) (t : ℕ) (command : String) (timeoutMinutes : Option PyValue) :
    Carries (ReleasePromise takes) (fun _ => True) t (startStage (callback takes wire []) command timeoutMinutes) := by
  have silent := (releasePromise_unmoved takes t).silent
  refine carries_startStage silent .top .top fun listed => carries_asyncSend silent .top .top (releasePromise_exit t) ?_ ?_
  · have releases : ∀ name ∈ controlledExitCommands, releasing (some name) = true := by decide +kernel
    exact fun direct => absurd (direct.symm.trans (releases command listed)) Bool.false_ne_true
  unfold callback
  split
  next taken => exact releasePromise_sends (by simp only [List.length_nil] at taken; simp [sendingCauses,taken]) t
  next refused =>
    refine carries_openAndSend silent .top .top ?_ (silent.emits .top .top trivial)
    exact Emits.carries (releasePromise_blind takes t fun _ other => other) .top .top _ (emits_openDoor (List.Subset.refl _))
      (by simp [openKinds,releases])

theorem releasePromise_staged {P : Type} (takes : ℕ → Bool) (wire : String × P → String) :
    Preserves (stagedProgram fun _ => callback takes wire []) (ReleasePromise takes) :=
  stagedProgram_preserves releasePromise_keeps (fun t command timeoutMinutes => releasePromise_stage wire t command timeoutMinutes)
    (fun _ _ _ inv => inv.push fun _ _ => rfl) (fun _ _ inv => inv.push fun _ _ => rfl) (fun _ _ _ inv => inv.push fun _ _ => rfl)

end

/-- Whatever callback a stage is given: a robot is released only by a task that reads the door open
after its last door command, in every run in which no closing cover is taken for an open door before
entities that listen. With the callback of the service the run is the program's own. -/
theorem robot_released_open {P : Type} (takes : ℕ → Bool) (wire : String × P → String) (binding : Binding) (world : World)
    (schedule : List (Label Garage))
    (still : throughout (atEvents (opensStill takes)) (stagedRun (fun _ => callback takes wire []) binding world schedule).history = true) :
    throughout (atEvents releasesOpen) (stagedRun (fun _ => callback takes wire []) binding world schedule).history = true :=
  (releasePromise_staged takes wire).exec (GarageRuntime.init binding world) (fun _ => rfl) schedule still

def sendsClean : Item Garage → Bool
  | .event _ (.sent (some "app_start")) => true
  | _ => false

def opensForClean : List (Label Garage) :=
  [.outside (.listen .binarySensor),.call (.asyncSend "app_start"),goesOn 0,
    .outside (.entity "binary_sensor.closed" (contact false)),.outside (.entity "binary_sensor.open" (contact true)),
    goesOn 0]

def stagesBehind : List (Label Garage) :=
  opensForClean++[goesOn 0,.call (.asyncStartStage "app_segment_clean" none)]

/-- Through the door that was opened for a clean a stage is sent, too, by a callable that takes anything. -/
theorem robot_released_open_after_opening :
    let sent := stagedRun (fun _ => callback (fun _ => true) Prod.fst ([] : List (String ⊕ List ℕ))) contactBinding
      (contactWorld "closed" false true (statusOf .charging false) 0) stagesBehind
    throughout (atEvents releasesOpen) sent.history = true ∧ sent.history.any sendsClean = true ∧
      sent.history.any (fun | .event _ (.sent none) => true | _ => false) = true :=
  ⟨robot_released_open _ _ _ _ _ (by decide +kernel),by decide +kernel,by decide +kernel⟩

def cleansWhileClosing : List (Label Garage) :=
  [.outside (.listen .binarySensor),.call .asyncRequestClose,
    .outside (.entity "cover.garage" (some {state := "closing"})),.call (.asyncSend "app_start")]

def dockedBehindOpen : World := contactWorld "open" true false (statusOf .charging false) 0

/-- The opening ends on the contact of a door that nobody can read when the clean is sent. -/
theorem robot_released_unread :
    throughout (atEvents releasesOpen)
      (run contactBinding dockedBehindOpen cleansWhileClosing).history = false := by
  decide +kernel

end RoborockPlus
