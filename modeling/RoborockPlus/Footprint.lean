import RoborockPlus.GarageRuntime
import RoborockPlus.Async.History

/-! What each coroutine can do: which kinds of events it records, and that it leaves
the outside world alone. A property that does not look at these kinds is carried. -/
namespace RoborockPlus
open Async GarageController GarageRuntime

/-- What no coroutine but the shutdown touches. -/
structure Frame (s s' : GarageRuntime) : Prop where
  world : s'.world = s.world
  binding : s'.binding = s.binding
  closed : s'.closed = s.closed

theorem Frame.refl (s : GarageRuntime) : Frame s s := ⟨rfl,rfl,rfl⟩

theorem Frame.trans {s s' s'' : GarageRuntime} (first : Frame s s') (second : Frame s' s'') : Frame s s'' :=
  ⟨second.world.trans first.world,second.binding.trans first.binding,second.closed.trans first.closed⟩

inductive Kind
  | read | opening | finishing
  | cover (d : Direction) (cause : Cause)
  | outcome (d : Direction) (cause : Cause)
  | robot (cause : Cause)
  | sent | iterated | shutdown
deriving DecidableEq

def Event.kind : Event → Kind
  | .read .iteration _ => .opening
  | .read .finish _ => .finishing
  | .read _ _ => .read
  | .cover d cause => .cover d cause
  | .succeeded d cause | .gaveUp d cause => .outcome d cause
  | .robot _ cause _ => .robot cause
  | .sent _ => .sent
  | .iterated => .iterated
  | .shutdown => .shutdown

def openKinds (cause : Cause) : List Kind := [.read,.cover .toOpen cause,.outcome .toOpen cause]

def closeKinds (cause : Cause) : List Kind := [.read,.cover .toClose cause,.outcome .toClose cause]

def returnKinds : List Kind := .robot .returning :: openKinds .returning

def departureKinds : List Kind := .robot .departure :: closeKinds .departure

def finishKinds : List Kind := .finishing :: openKinds .redocked ++ closeKinds .finished

def exitKinds : List Kind := .robot .controlledExit :: openKinds .controlledExit ++ closeKinds .waypoint

def sequenceKinds : List Kind := [.read,.opening,.iterated] ++ returnKinds ++ departureKinds ++ finishKinds

def Call.kinds : Call → List Kind
  | .asyncStart | .reset | .onDoorChange | .readEntity _ => [.read]
  | .asyncSend _ => .sent :: exitKinds ++ openKinds .clean
  | .asyncStartStage _ _ => exitKinds ++ openKinds .stage
  | .asyncRoutine => .sent :: openKinds .routine
  | .asyncRequestOpen => openKinds .request
  | .asyncRequestClose => closeKinds .request
  | .shutdown => [.shutdown]
  | .finishSequence => sequenceKinds

abbrev Emits (kinds : List Kind) {α : Type} (m : Co Garage α) : Prop :=
  m.Within Frame fun (e : Event) => e.kind ∈ kinds

section Emits
variable {kinds : List Kind}

theorem emits_modify {f : GarageRuntime → GarageRuntime} (frame : ∀ s, Frame s (f s)) :
    Emits kinds (.modify f) := frame

theorem emits_get : Emits kinds (Co.get : Co Garage GarageRuntime) := Frame.refl

theorem emits_refresh {place : Place} (ordinary : place ∉ [.iteration,.finish]) (read : .read ∈ kinds) :
    Emits kinds (GarageController.refresh place) := by
  refine ⟨emits_modify fun _ => ⟨rfl,rfl,rfl⟩,fun _ => ⟨emits_get,fun s => ?_⟩⟩
  have same : (Event.read place s).kind = .read := by
    cases place <;> first | rfl | simp at ordinary
  rw [within_emit,same]
  exact read

theorem emits_moveDoor {d : Direction} {cause : Cause} (cover : .cover d cause ∈ kinds) :
    Emits kinds (moveDoor d cause) := by
  refine ⟨emits_modify fun _ => ⟨rfl,rfl,rfl⟩,fun _ => ⟨emits_get,fun s => ?_⟩⟩
  dsimp only
  split
  · trivial
  · exact ⟨cover,fun _ => ⟨trivial,fun _ => trivial⟩⟩

theorem emits_waitFor {d : Direction} {cause : Cause} (read : .read ∈ kinds) :
    Emits kinds (waitFor d cause) := by
  refine ⟨emits_get,fun s => ?_⟩
  dsimp only
  split
  · trivial
  · refine ⟨emits_refresh (by simp) read,fun _ => ⟨emits_get,fun s => ?_⟩⟩
    dsimp only
    split_ifs <;> trivial

theorem emits_reportFailure {d : Direction} {cause : Cause} (error : Exc) (outcome : .outcome d cause ∈ kinds) :
    Emits kinds (reportFailure d cause error) := by
  refine ⟨outcome,fun _ => ?_⟩
  cases error with
  | control reason => trivial
  | other reason => exact ⟨emits_modify fun _ => ⟨rfl,rfl,rfl⟩,fun _ => trivial⟩
  | cancelled => trivial

theorem emits_operate {d : Direction} {cause : Cause} {confirmed : GarageRuntime → GarageRuntime}
    (frame : ∀ s, Frame s (confirmed s)) (read : .read ∈ kinds) (cover : .cover d cause ∈ kinds)
    (outcome : .outcome d cause ∈ kinds) : Emits kinds (operate d cause confirmed) :=
  ⟨⟨emits_modify fun _ => ⟨rfl,rfl,rfl⟩,fun _ => ⟨emits_moveDoor cover,fun _ => ⟨emits_waitFor read,fun _ =>
    ⟨emits_modify frame,fun _ => outcome⟩⟩⟩⟩,fun error => emits_reportFailure error outcome⟩

theorem emits_openDoor {cause : Cause} (inside : openKinds cause ⊆ kinds) : Emits kinds (openDoor cause) := by
  have read : .read ∈ kinds := inside (by simp [openKinds])
  have cover : .cover .toOpen cause ∈ kinds := inside (by simp [openKinds])
  have outcome : .outcome .toOpen cause ∈ kinds := inside (by simp [openKinds])
  refine ⟨emits_refresh (by simp) read,fun _ => ⟨emits_get,fun s => ?_⟩⟩
  dsimp only
  split
  · exact ⟨emits_modify fun _ => ⟨rfl,rfl,rfl⟩,fun _ => trivial⟩
  split_ifs
  · exact ⟨emits_modify fun _ => ⟨rfl,rfl,rfl⟩,fun _ => outcome⟩
  · exact ⟨emits_modify fun _ => ⟨rfl,rfl,rfl⟩,fun _ =>
      emits_operate (fun _ => ⟨rfl,rfl,rfl⟩) read cover outcome⟩

theorem emits_closeDoor {cause : Cause} (inside : closeKinds cause ⊆ kinds) : Emits kinds (closeDoor cause) := by
  have read : .read ∈ kinds := inside (by simp [closeKinds])
  have cover : .cover .toClose cause ∈ kinds := inside (by simp [closeKinds])
  have outcome : .outcome .toClose cause ∈ kinds := inside (by simp [closeKinds])
  refine ⟨emits_refresh (by simp) read,fun _ => ⟨emits_get,fun s => ?_⟩⟩
  dsimp only
  split
  · exact ⟨emits_modify fun _ => ⟨rfl,rfl,rfl⟩,fun _ => trivial⟩
  split_ifs
  · trivial
  · exact ⟨emits_modify fun _ => ⟨rfl,rfl,rfl⟩,fun _ => outcome⟩
  · exact ⟨emits_modify fun _ => ⟨rfl,rfl,rfl⟩,fun _ =>
      emits_operate (fun _ => ⟨rfl,rfl,rfl⟩) read cover outcome⟩

theorem emits_noted {α : Type} {value : α} {after : GarageRuntime → GarageRuntime}
    (frame : ∀ s, Frame s (after s)) (error : Exc) : Emits kinds (noted value after error) := by
  cases error with
  | control reason =>
    refine ⟨emits_modify fun s => ?_,fun _ => trivial⟩
    have first : Frame s ((s.setLastError (some reason)).setPhase .blocked) := ⟨rfl,rfl,rfl⟩
    exact first.trans (frame _)
  | other reason => trivial
  | cancelled => trivial

theorem emits_writeEntity (read : .read ∈ kinds) (n : ℕ) : Emits kinds (writeEntity n) := by
  induction n with
  | zero => trivial
  | succ n ih => exact ⟨emits_refresh (by simp) read,fun _ => ih⟩

theorem emits_publish (read : .read ∈ kinds) : Emits kinds publish := by
  refine ⟨emits_get,fun s => ?_⟩
  dsimp only
  induction s.listeners with
  | nil => trivial
  | cons entity rest ih => exact ⟨emits_writeEntity read _,fun _ => ih⟩

theorem emits_asyncControlCommand {name : String} {params : List PyValue} {cause : Cause}
    (robot : .robot cause ∈ kinds) : Emits kinds (asyncControlCommand name params cause) := by
  refine ⟨emits_get,fun s => ?_⟩
  have allowed : Emits kinds (do .modify (noteResume name); transmit name cause : Action) := by
    refine ⟨emits_modify fun s => ?_,fun _ => ⟨emits_get,fun s =>
      ⟨robot,fun _ => ⟨trivial,fun _ => ⟨trivial,fun _ => trivial⟩⟩⟩⟩⟩
    unfold noteResume
    split_ifs <;> exact ⟨rfl,rfl,rfl⟩
  simp only [within_ite]
  exact ⟨fun _ => trivial,fun _ => ⟨fun _ => trivial,fun _ => ⟨fun _ => trivial,fun _ => allowed⟩⟩⟩

theorem emits_updateReturning {pause resume : Action} (held : Emits kinds pause) (released : Emits kinds resume)
    (inside : openKinds .returning ⊆ kinds) : Emits kinds (updateReturning pause resume) := by
  have read : .read ∈ kinds := inside (by simp [openKinds])
  refine ⟨emits_refresh (by simp) read,fun _ => ⟨emits_get,fun s => ?_⟩⟩
  dsimp only
  split_ifs
  · trivial
  · trivial
  refine ⟨emits_modify fun _ => ⟨rfl,rfl,rfl⟩,fun _ => ⟨held,fun _ =>
    ⟨emits_refresh (by simp) read,fun _ => ⟨emits_get,fun s => ?_⟩⟩⟩⟩
  dsimp only
  rw [within_ite]
  refine ⟨fun _ => ⟨emits_modify fun _ => ⟨rfl,rfl,rfl⟩,fun _ => trivial⟩,fun _ => ?_⟩
  exact ⟨emits_modify fun _ => ⟨rfl,rfl,rfl⟩,fun _ => ⟨emits_openDoor inside,fun _ =>
    ⟨emits_modify fun _ => ⟨rfl,rfl,rfl⟩,fun _ => ⟨released,fun _ => emits_modify fun _ => ⟨rfl,rfl,rfl⟩⟩⟩⟩⟩

theorem emits_closeBehind {hold : Option (Action × Action)} (inside : closeKinds .departure ⊆ kinds)
    (held : ∀ pair ∈ hold, Emits kinds pair.1 ∧ Emits kinds pair.2) : Emits kinds (closeBehind hold) := by
  have close : Emits kinds (.attempt (do closeDoor .departure; pure true) (noted false id) : Co Garage Bool) :=
    ⟨⟨emits_closeDoor inside,fun _ => trivial⟩,emits_noted Frame.refl⟩
  rcases hold with _ | ⟨pause,resume⟩
  · exact close
  obtain ⟨paused,resumed⟩ := held _ rfl
  refine ⟨emits_modify fun _ => ⟨rfl,rfl,rfl⟩,fun _ => ⟨paused,fun _ =>
    ⟨emits_refresh (by simp) (inside (by simp [closeKinds])),fun _ => ⟨emits_get,fun s => ?_⟩⟩⟩⟩
  dsimp only
  rw [within_ite]
  exact ⟨fun _ => ⟨emits_modify fun _ => ⟨rfl,rfl,rfl⟩,fun _ => trivial⟩,fun _ => within_guarded close resumed⟩

theorem emits_updateAfterDeparture {hold : Option (Action × Action)} (inside : closeKinds .departure ⊆ kinds)
    (held : ∀ pair ∈ hold, Emits kinds pair.1 ∧ Emits kinds pair.2) : Emits kinds (updateAfterDeparture hold) := by
  refine ⟨emits_refresh (by simp) (inside (by simp [closeKinds])),fun _ => ⟨emits_get,fun s => ?_⟩⟩
  dsimp only
  split_ifs
  · trivial
  · exact ⟨emits_modify fun _ => ⟨rfl,rfl,rfl⟩,fun _ => trivial⟩
  · exact ⟨emits_modify fun _ => ⟨rfl,rfl,rfl⟩,fun _ => trivial⟩
  refine ⟨emits_closeBehind inside held,fun closed => ⟨emits_modify fun s => ?_,fun _ => trivial⟩⟩
  cases closed <;> exact ⟨rfl,rfl,rfl⟩

theorem emits_finishRules (inside : openKinds .redocked ++ closeKinds .finished ⊆ kinds) : Emits kinds finishRules := by
  obtain ⟨opens,closes⟩ := List.append_subset.mp inside
  refine ⟨emits_get,fun s => ?_⟩
  dsimp only
  split_ifs
  · trivial
  · exact ⟨emits_modify fun _ => ⟨rfl,rfl,rfl⟩,fun _ => trivial⟩
  · exact ⟨⟨emits_openDoor opens,fun _ => trivial⟩,emits_noted Frame.refl⟩
  · trivial
  · trivial
  · exact ⟨emits_modify fun _ => ⟨rfl,rfl,rfl⟩,fun _ => trivial⟩
  · exact ⟨emits_modify fun _ => ⟨rfl,rfl,rfl⟩,fun _ => trivial⟩
  · exact ⟨⟨emits_closeDoor closes,fun _ => ⟨emits_modify fun _ => ⟨rfl,rfl,rfl⟩,fun _ => trivial⟩⟩,
      emits_noted fun _ => ⟨rfl,rfl,rfl⟩⟩

theorem emits_sequenceFinished (inside : finishKinds ⊆ kinds) : Emits kinds sequenceFinished := by
  obtain ⟨finishing,rest⟩ := List.cons_subset.mp inside
  exact ⟨⟨emits_modify fun _ => ⟨rfl,rfl,rfl⟩,fun _ => ⟨emits_get,fun _ => finishing⟩⟩,fun _ => emits_finishRules rest⟩

theorem emits_handleReturn (inside : returnKinds ⊆ kinds) : Emits kinds handleReturn := by
  obtain ⟨robot,opens⟩ := List.cons_subset.mp inside
  have read : .read ∈ kinds := opens (by simp [openKinds])
  refine ⟨emits_refresh (by simp) read,fun _ => ⟨emits_get,fun s => ?_⟩⟩
  dsimp only
  split_ifs
  · trivial
  refine ⟨⟨emits_updateReturning (emits_asyncControlCommand robot) (emits_asyncControlCommand robot) opens,?_⟩,
    fun _ => ⟨emits_publish read,fun _ => trivial⟩⟩
  intro error
  cases error <;> trivial

theorem emits_handleDeparture (inside : departureKinds ⊆ kinds) (handled : Bool) :
    Emits kinds (handleDeparture handled) := by
  obtain ⟨robot,closes⟩ := List.cons_subset.mp inside
  unfold handleDeparture
  split_ifs
  · trivial
  apply emits_updateAfterDeparture closes
  rintro pair ⟨⟩
  exact ⟨emits_asyncControlCommand robot,emits_asyncControlCommand robot⟩

theorem emits_runControlledExit (inside : exitKinds ⊆ kinds) : Emits kinds runControlledExit := by
  obtain ⟨robot,rest⟩ := List.cons_subset.mp inside
  obtain ⟨opens,closes⟩ := List.append_subset.mp rest
  have read : .read ∈ kinds := opens (by simp [openKinds])
  refine ⟨emits_get,fun s => ?_⟩
  dsimp only
  split
  · trivial
  have leaves (settings : ExitSettings) : Emits kinds (leaveForWaypoint settings) :=
    ⟨emits_openDoor opens,fun _ => ⟨emits_modify fun _ => ⟨rfl,rfl,rfl⟩,fun _ => ⟨emits_publish read,fun _ =>
      emits_asyncControlCommand robot⟩⟩⟩
  refine ⟨emits_refresh (by simp) read,fun _ => ⟨leaves _,fun _ => ⟨emits_get,fun s => ⟨?_,fun _ =>
    ⟨emits_closeDoor closes,fun _ => ⟨emits_modify fun _ => ⟨rfl,rfl,rfl⟩,fun _ => emits_publish read⟩⟩⟩⟩⟩⟩
  refine ⟨emits_refresh (by simp) read,fun _ => ⟨emits_get,fun s => ?_⟩⟩
  dsimp only
  split_ifs <;> trivial

theorem emits_asyncSend {name : String} {cause : Cause} {send : Action} (exits : exitKinds ⊆ kinds)
    (opens : openKinds cause ⊆ kinds) (sends : Emits kinds send) : Emits kinds (asyncSend name cause send) := by
  have read : .read ∈ kinds := opens (by simp [openKinds])
  have first : Emits kinds (controlledExitFirst name) := by
    refine ⟨emits_get,fun s => ?_⟩
    dsimp only
    split_ifs
    · exact emits_runControlledExit exits
    · trivial
  have opened : Emits kinds (openAndSend cause send) := by
    refine ⟨emits_openDoor opens,fun _ => ⟨emits_publish read,fun _ => ⟨sends,fun error => ?_⟩⟩⟩
    cases error
    · exact ⟨emits_publish read,fun _ => trivial⟩
    · exact ⟨emits_publish read,fun _ => trivial⟩
    · trivial
  refine ⟨emits_get,fun s => ?_⟩
  simp only [within_ite]
  refine ⟨fun _ => trivial,fun _ => ⟨fun _ => sends,fun _ => ⟨fun _ => trivial,fun _ => ⟨fun _ => sends,fun _ => ?_⟩⟩⟩⟩
  exact ⟨first,fun _ => ⟨opened,fun _ => ⟨emits_publish read,fun _ => ⟨trivial,fun _ =>
    emits_modify fun _ => ⟨rfl,rfl,rfl⟩⟩⟩⟩⟩

theorem emits_sendCommand {command : Option String} (sent : .sent ∈ kinds) : Emits kinds (sendCommand command) :=
  ⟨sent,fun _ => ⟨trivial,fun _ => trivial⟩⟩

theorem emits_awaitCleanStarted (read : .read ∈ kinds) : Emits kinds awaitCleanStarted := by
  refine ⟨emits_get,fun s => ⟨emits_get,fun s => ?_⟩⟩
  dsimp only
  split_ifs
  · trivial
  refine ⟨emits_refresh (by simp) read,fun _ => ⟨emits_get,fun s => ?_⟩⟩
  dsimp only
  split_ifs
  · trivial
  · exact ⟨emits_modify fun _ => ⟨rfl,rfl,rfl⟩,fun _ => trivial⟩
  · trivial

theorem emits_applyRules (inside : sequenceKinds ⊆ kinds) : Emits kinds applyRules := by
  obtain ⟨rest,finish⟩ := List.append_subset.mp inside
  obtain ⟨rest,departure⟩ := List.append_subset.mp rest
  obtain ⟨marks,returning⟩ := List.append_subset.mp rest
  have opening : Emits kinds (GarageController.refresh .iteration) :=
    ⟨emits_modify fun _ => ⟨rfl,rfl,rfl⟩,fun _ => ⟨emits_get,fun _ => marks (by simp [Event.kind])⟩⟩
  exact ⟨opening,fun _ => ⟨emits_handleReturn returning,fun handled => ⟨emits_handleDeparture departure handled,
    fun _ => ⟨emits_publish (marks (by simp)),fun _ => emits_sequenceFinished finish⟩⟩⟩⟩

theorem emits_iterate (inside : sequenceKinds ⊆ kinds) (start : ℚ) (timeout : PyFloat) :
    Emits kinds (iterate start timeout) := by
  refine ⟨emits_get,fun s => ?_⟩
  dsimp only
  split_ifs
  · trivial
  refine ⟨within_guarded (emits_applyRules inside) (inside (by simp [sequenceKinds,Event.kind])),fun ended =>
    ⟨emits_get,fun s => ?_⟩⟩
  dsimp only
  split_ifs <;> trivial

theorem emits_finishSequence (inside : sequenceKinds ⊆ kinds) : Emits kinds finishSequence := by
  have read : .read ∈ kinds := inside (by simp [sequenceKinds])
  refine ⟨emits_get,fun s => ?_⟩
  dsimp only
  split
  · trivial
  refine within_guarded ⟨⟨emits_awaitCleanStarted read,fun started => ?_⟩,?_⟩ (emits_publish read)
  · dsimp only
    split_ifs
    · exact emits_iterate inside _ _
    · trivial
  · intro error
    cases error <;> trivial

theorem emits_awaitStage {timeoutMinutes : Option PyValue} (read : .read ∈ kinds) :
    Emits kinds (awaitStage timeoutMinutes) := by
  refine ⟨emits_get,fun s => ?_⟩
  dsimp only
  split
  · trivial
  refine ⟨emits_get,fun s => ⟨emits_get,fun s => ?_⟩⟩
  dsimp only
  split_ifs
  · trivial
  refine ⟨emits_refresh (by simp) read,fun _ => ⟨emits_get,fun s => ?_⟩⟩
  dsimp only
  split_ifs <;> trivial

theorem emits_asyncStartStage {command : String} {timeoutMinutes : Option PyValue} (exits : exitKinds ⊆ kinds)
    (opens : openKinds .stage ⊆ kinds) : Emits kinds (asyncStartStage command timeoutMinutes) := by
  have read : .read ∈ kinds := opens (by simp [openKinds])
  refine (within_ite _ _ _).mpr ⟨fun _ => trivial,fun _ => within_guarded ⟨⟨emits_asyncSend exits opens trivial,
    fun _ => ⟨emits_awaitStage read,fun _ => emits_modify fun _ => ⟨rfl,rfl,rfl⟩⟩⟩,?_⟩ (emits_publish read)⟩
  intro error
  cases error
  · exact ⟨emits_modify fun _ => ⟨rfl,rfl,rfl⟩,fun _ => trivial⟩
  · exact ⟨emits_modify fun _ => ⟨rfl,rfl,rfl⟩,fun _ => trivial⟩
  · trivial

theorem emits_asyncRoutine (inside : .sent :: openKinds .routine ⊆ kinds) : Emits kinds asyncRoutine := by
  obtain ⟨sent,opens⟩ := List.cons_subset.mp inside
  have read : .read ∈ kinds := opens (by simp [openKinds])
  exact ⟨emits_openDoor opens,fun _ => ⟨emits_publish read,fun _ =>
    within_guarded (emits_sendCommand sent) (emits_publish read)⟩⟩

theorem emits_asyncRequestClose (inside : closeKinds .request ⊆ kinds) : Emits kinds asyncRequestClose := by
  have read : .read ∈ kinds := inside (by simp [closeKinds])
  refine ⟨emits_refresh (by simp) read,fun _ => ⟨emits_get,fun s => ?_⟩⟩
  dsimp only
  split_ifs
  · trivial
  · exact ⟨emits_closeDoor inside,fun _ => emits_publish read⟩

theorem emits_syncPhaseWithDoor : Emits kinds (.modify syncPhaseWithDoor) := by
  refine emits_modify fun s => ?_
  unfold syncPhaseWithDoor
  split_ifs <;> exact ⟨rfl,rfl,rfl⟩

theorem emits_body {call : Call} (running : call ≠ .shutdown) (inside : call.kinds ⊆ kinds) :
    Emits kinds (body call) := by
  have opened {cause : Cause} (opens : openKinds cause ⊆ kinds) : .read ∈ kinds := opens (by simp [openKinds])
  cases call with
  | asyncStart =>
    have read : .read ∈ kinds := inside (by simp [Call.kinds])
    exact ⟨⟨trivial,fun _ => ⟨emits_refresh (by simp) read,fun _ => emits_syncPhaseWithDoor⟩⟩,
      fun _ => emits_publish read⟩
  | asyncSend command =>
    obtain ⟨rest,opens⟩ := List.append_subset.mp inside
    obtain ⟨sent,exits⟩ := List.cons_subset.mp rest
    exact emits_asyncSend exits opens (emits_sendCommand sent)
  | asyncStartStage command timeoutMinutes =>
    obtain ⟨exits,opens⟩ := List.append_subset.mp inside
    exact emits_asyncStartStage exits opens
  | asyncRoutine => exact emits_asyncRoutine inside
  | asyncRequestOpen => exact ⟨emits_openDoor inside,fun _ => emits_publish (opened inside)⟩
  | asyncRequestClose => exact emits_asyncRequestClose inside
  | reset =>
    have read : .read ∈ kinds := inside (by simp [Call.kinds])
    exact ⟨emits_refresh (by simp) read,fun _ => ⟨emits_modify fun _ => ⟨rfl,rfl,rfl⟩,fun _ => emits_publish read⟩⟩
  | onDoorChange =>
    have read : .read ∈ kinds := inside (by simp [Call.kinds])
    exact ⟨emits_refresh (by simp) read,fun _ => ⟨emits_syncPhaseWithDoor,fun _ => emits_publish read⟩⟩
  | readEntity entity => exact emits_writeEntity (inside (by simp [Call.kinds])) _
  | shutdown => exact absurd rfl running
  | finishSequence => exact emits_finishSequence inside

end Emits

end RoborockPlus
