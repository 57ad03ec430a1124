import RoborockPlus.GarageState

/-! The controller's coroutines: opening and closing with confirmation, and the
reactive rules. Every refresh is recorded with its place in the program and every
command with the rule it comes from; no branch reads either record. -/
namespace RoborockPlus
open Async

/-- On whose behalf a door or robot command is issued. -/
inductive Cause
  | clean | stage | routine | request | controlledExit | waypoint
  | returning | redocked | departure | finished
deriving DecidableEq

inductive Place
  | asked (d : Direction) (cause : Cause)
  | waited (d : Direction) (cause : Cause)
  | iteration | handleReturn | returning | returnPaused | departure | departurePaused | finish
  | starting | exitStart | exitPoll | closeRequest | stage | entity | reset | doorChange | restore
deriving DecidableEq

/-- `sent` is a call of the send callback, with the command's name if it has one. -/
inductive Event
  | read (place : Place) (seen : GarageRuntime)
  | cover (d : Direction) (cause : Cause)
  | succeeded (d : Direction) (cause : Cause)
  | gaveUp (d : Direction) (cause : Cause)
  | robot (command : String) (cause : Cause) (utc : ℚ)
  | sent (command : Option String)
  | iterated
  | shutdown

/-- `other` is any exception that is no control error, with its `reason` attribute. -/
inductive Exc
  | control (reason : Reason)
  | other (reason : Option Reason)
  | cancelled
deriving DecidableEq

inductive Request
  | cover (d : Direction)
  | robotCommand (command : String)
  | coordinatorRefresh
  | send
  | sleep (seconds : ℚ)
deriving DecidableEq

inductive Call
  | asyncStart
  | asyncSend (command : String)
  | asyncStartStage (command : String) (timeoutMinutes : Option PyValue)
  | asyncRoutine | asyncRequestOpen | asyncRequestClose
  | reset | onDoorChange | readEntity (entity : DiagnosticEntity) | shutdown
  | finishSequence
deriving DecidableEq

/-- What happens outside between two slices. `sampled` is a status request that
succeeds at the wall-clock time `utc`; the other entries change what they name. -/
inductive Stimulus
  | time (clock utc : ℚ)
  | entity (id : String) (state : Option EntityState)
  | sampled (status : Status) (utc : ℚ)
  | statusPushed (status : Status)
  | updateFinished (success : Bool)
  | updateInterval (seconds : Option ℚ)
  | mapData (data : Option MapData)
  | mapStamped
  | zone (zone : Option Zone)
  | listen (entity : DiagnosticEntity)
  | unlisten (entity : DiagnosticEntity)

abbrev Garage : Signature := ⟨GarageRuntime,Event,Exc,Request,Unit,Call,Stimulus⟩

abbrev Action := Co Garage Unit

def elapsed (start : ℚ) (seconds : PyFloat) (now : ℚ) : Bool :=
  match seconds with
  | .finite n => decide (start+n ≤ now)
  | .infinite negative => negative
  | .nan => false

namespace GarageController

def refresh (place : Place) : Action := do
  .modify GarageRuntime.refresh
  let s ← .get
  .emit (.read place s)

def makeContext (s : GarageRuntime) : GarageRuntime :=
  {s with contexts := (s.contexts ++ [s.nextContext]).drop (s.contexts.length+1-64), nextContext := s.nextContext+1}

def moveDoor (d : Direction) (cause : Cause) : Action := do
  .modify makeContext
  let s ← .get
  if (s.binding .coverEntityId).isNone then .throw (.other none)
  else do
    .emit (.cover d cause)
    let _ ← .await (.cover d)

def notConfirmed : Direction → Reason
  | .toOpen => .openNotConfirmed
  | .toClose => .closeNotConfirmed

def pollEndpoint (d : Direction) (cause : Cause) (start : ℚ) (timeout : PyFloat) : Co Garage (Option Unit) := do
  refresh (.waited d cause)
  let s ← .get
  if s.controller.confirmed d then pure (some ())
  else if elapsed start timeout s.world.clock then .throw (.control (notConfirmed d))
  else pure none

def waitFor (d : Direction) (cause : Cause) : Action := do
  let s ← .get
  match pyFloat ((s.binding .operationTimeoutSeconds).getD (.int 90)) with
  | none => .throw (.other none)
  | some timeout => .poll (pollEndpoint d cause s.world.clock timeout) (.sleep (1/5))

/-- The `except` clauses that opening and closing share. -/
def reportFailure (d : Direction) (cause : Cause) (error : Exc) : Action := do
  .emit (.gaveUp d cause)
  match error with
  | .control reason => .throw (.control reason)
  | .other reason => do
    let reason := reason.getD .doorCommandFailed
    .modify fun s => (s.setPhase .blocked).setLastError (some reason)
    .throw (.control reason)
  | .cancelled => .throw .cancelled

def operate (d : Direction) (cause : Cause) (confirmed : GarageRuntime → GarageRuntime) : Action :=
  .attempt (do
    .modify GarageRuntime.invalidateEvidence
    moveDoor d cause
    waitFor d cause
    .modify confirmed
    .emit (.succeeded d cause)) (reportFailure d cause)

def opened (s : GarageRuntime) : GarageRuntime :=
  ((s.setTaskInProgress true).setPhase .outside).setLastError none

def openDoor (cause : Cause) : Action := do
  refresh (.asked .toOpen cause)
  let s ← .get
  match s.controller.doorBlockedReason with
  | some reason => do
    .modify fun s => (s.setPhase .blocked).setLastError (some reason)
    .throw (.control reason)
  | none =>
    if s.controller.openConfirmed then do
      .modify opened
      .emit (.succeeded .toOpen cause)
    else do
      .modify (GarageRuntime.setPhase .opening)
      operate .toOpen cause opened

def closeDoor (cause : Cause) : Action := do
  refresh (.asked .toClose cause)
  let s ← .get
  match s.controller.doorBlockedReason with
  | some reason => do
    .modify fun s => (s.setPhase .blocked).setLastError (some reason)
    .throw (.control reason)
  | none =>
    if s.closeAllowed = false then .throw (.control .closeNotAllowed)
    else if s.controller.closedConfirmed then do
      .modify fun s => (s.setPhase .idle).setLastError none
      .emit (.succeeded .toClose cause)
    else do
      .modify (GarageRuntime.setPhase .closing)
      operate .toClose cause (GarageRuntime.setLastError none)

/-- `except GarageControlError`: the refusal is noted and answered with `value`. -/
def noted {α : Type} (value : α) (after : GarageRuntime → GarageRuntime) (error : Exc) : Co Garage α :=
  match error with
  | .control reason => do
    .modify fun s => after ((s.setLastError (some reason)).setPhase .blocked)
    pure value
  | error => .throw error

def pauseOpenCloseResume (pause resume : Action) : Co Garage Bool := do
  .modify (GarageRuntime.setPhase .pausingExit)
  pause
  refresh .departurePaused
  let s ← .get
  if s.controller.robot.state ≠ .paused then do
    .modify fun s => (s.setPhase .blocked).setLastError (some .pauseNotObserved)
    pure false
  else .guarded (.attempt (do closeDoor .departure; pure true) (noted false id)) resume

def closeBehind : Option (Action × Action) → Co Garage Bool
  | some (pause,resume) => pauseOpenCloseResume pause resume
  | none => .attempt (do closeDoor .departure; pure true) (noted false id)

def updateAfterDeparture (hold : Option (Action × Action)) : Co Garage Bool := do
  refresh .departure
  let s ← .get
  if s.controller.robotOutside = false then pure false
  else if s.controller.closedConfirmed then do
    .modify (GarageRuntime.setPhase .closedOutside)
    pure true
  else if s.controller.doorBlockedReason.isSome then do
    .modify (GarageRuntime.setPhase .blocked)
    pure true
  else do
    let closed ← closeBehind hold
    .modify fun s => if closed then (s.setTaskInProgress false).setPhase .closedOutside else s.setPhase .blocked
    pure true

def updateReturning (pause resume : Action) : Action := do
  refresh .returning
  let s ← .get
  if s.controller.isReturning = false then pure ()
  else if s.controller.openConfirmed then pure ()
  else do
    .modify (GarageRuntime.setPhase .pausingReturn)
    pause
    refresh .returnPaused
    let s ← .get
    if s.controller.robot.state ≠ .paused then do
      .modify fun s => (s.setPhase .blocked).setLastError (some .pauseNotObserved)
      .throw (.control .pauseNotObserved)
    else do
      .modify (GarageRuntime.setPhase .opening)
      openDoor .returning
      .modify (GarageRuntime.setPhase .resumingReturn)
      resume
      .modify (GarageRuntime.setPhase .outside)

def finishRules : Co Garage Bool := do
  let s ← .get
  if s.controller.taskInProgress = false then pure false
  else if s.controller.taskRunning then
    if s.controller.robotDocked ∧ s.controller.openConfirmed = false then
      if s.controller.doorBlockedReason.isSome then do
        .modify (GarageRuntime.setPhase .blocked)
        pure false
      else .attempt (do openDoor .redocked; pure false) (noted false id)
    else pure false
  else if s.controller.robotDocked = false then pure false
  else if s.controller.closedConfirmed then do
    .modify fun s => (s.setTaskInProgress false).setPhase .idle
    pure true
  else if s.controller.doorBlockedReason.isSome then do
    -- the sequence ends anyway, so that a stuck sensor cannot hold its caller
    .modify fun s => (s.setPhase .blocked).setTaskInProgress false
    pure true
  else .attempt (do
      closeDoor .finished
      .modify fun s => (s.setTaskInProgress false).setPhase .idle
      pure true) (noted true (GarageRuntime.setTaskInProgress false))

def sequenceFinished : Co Garage Bool := do
  refresh .finish
  finishRules

end GarageController

end RoborockPlus
