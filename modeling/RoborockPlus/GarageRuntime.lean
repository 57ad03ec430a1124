import RoborockPlus.GarageCommands
import RoborockPlus.GarageDoor
import RoborockPlus.Async.Loop

/-! The runtime: the command entries, the task that carries one clean to its end,
and the program they form together with what happens outside. -/
namespace RoborockPlus
open Async

/-- `int(value)`: a float is truncated, and one that is not finite is refused. -/
def pyInt : PyValue → Option ℤ
  | .bool value => some (if value then 1 else 0)
  | .int value => some value
  | .float (.finite value) => some (if 0 ≤ value then ⌊value⌋ else ⌈value⌉)
  | _ => none

def atLeastOneSecond : PyFloat → PyFloat
  | .finite minutes => .finite (max 1 (minutes*60))
  | .infinite false => .infinite false
  | _ => .finite 1

namespace GarageRuntime
open GarageController (openDoor closeDoor updateReturning updateAfterDeparture sequenceFinished)

/-- An entity writing itself: each of its properties refreshes the controller. -/
def writeEntity : ℕ → Action
  | 0 => pure ()
  | n+1 => do
    GarageController.refresh .entity
    writeEntity n

def writeEntities : List DiagnosticEntity → Action
  | [] => pure ()
  | entity :: rest => do
    writeEntity entity.refreshes
    writeEntities rest

def publish : Action := do
  let s ← .get
  writeEntities s.listeners

def noteResume (name : String) (s : GarageRuntime) : GarageRuntime :=
  if name = "app_goto_target" then s else {s with lastResumeCommand := some "app_resume"}

def transmit (name : String) (cause : Cause) : Action := do
  let s ← .get
  .emit (.robot name cause s.world.utc)
  let _ ← .await (.robotCommand name)
  let _ ← .await .coordinatorRefresh

def invalidTarget (params : List PyValue) : Bool :=
  params.length != 2 || params.any fun value => match value with | .int _ => false | _ => true

def asyncControlCommand (name : String) (params : List PyValue) (cause : Cause) : Action := do
  let s ← .get
  if name ∉ ["app_pause","app_resume","app_goto_target"] then .throw (.control .unsupportedGuardedCommand)
  else if name = "app_goto_target" ∧ invalidTarget params then .throw (.control .invalidControlledExitTarget)
  else if s.closed then .throw (.control .controlUnloaded)
  else do
    .modify (noteResume name)
    transmit name cause

def pauseRobot (cause : Cause) : Action := asyncControlCommand "app_pause" [] cause

def resumeRobot (cause : Cause) : Action := asyncControlCommand "app_resume" [] cause

def handleReturn : Co Garage Bool := do
  GarageController.refresh .handleReturn
  let s ← .get
  if s.controller.isReturning = false then pure false
  else do
    .attempt (updateReturning (pauseRobot .returning) (resumeRobot .returning)) fun
      | .control _ => pure ()
      | error => .throw error
    publish
    pure true

def startConfirmationSeconds : ℚ := 180

def lookForStart (start : ℚ) : Co Garage (Option Bool) := do
  let s ← .get
  if s.closed then pure (some false)
  else do
    GarageController.refresh .starting
    let s ← .get
    if s.controller.taskRunning ∧ s.controller.robotDocked = false then pure (some true)
    else if start+startConfirmationSeconds ≤ s.world.clock then do
      .modify (setTaskInProgress false)
      pure (some false)
    else pure none

def awaitCleanStarted : Co Garage Bool := do
  let s ← .get
  .poll (lookForStart s.world.clock) (.sleep 1)

def handleDeparture (handled : Bool) : Co Garage Bool :=
  if handled then pure true
  else updateAfterDeparture (some (pauseRobot .departure,resumeRobot .departure))

def applyRules : Co Garage Bool := do
  GarageController.refresh .iteration
  let handled ← handleReturn
  let _ ← handleDeparture handled
  publish
  sequenceFinished

def iterate (start : ℚ) (timeout : PyFloat) : Co Garage (Option Unit) := do
  let s ← .get
  if s.closed then pure (some ())
  else do
    let ended ← .guarded applyRules (.emit .iterated)
    let s ← .get
    if ended ∨ elapsed start timeout s.world.clock then pure (some ())
    else pure none

/-- The one task that carries a clean through: its start, the returns, the final close. -/
def finishSequence : Action := do
  let s ← .get
  match pyFloat ((s.binding .sequenceTimeoutMinutes).getD (.int 480)) with
  | none => .throw (.other none)
  | some minutes =>
    .guarded (.attempt (do
        let started ← awaitCleanStarted
        if started then .poll (iterate s.world.clock (atLeastOneSecond minutes)) (.sleep 1)
        else pure ()) fun
      | .cancelled => .throw .cancelled
      | _ => pure ()) publish

structure ExitSettings where
  x : ℤ
  y : ℤ
  timeout : PyFloat

def controlledExitSettings (binding : Binding) : Option ExitSettings := do
  let x ← pyInt (← binding .controlledExitX)
  let y ← pyInt (← binding .controlledExitY)
  let timeout ← pyFloat (← binding .controlledExitTimeoutSeconds)
  pure ⟨x,y,timeout⟩

def shouldControlledExit (s : GarageRuntime) (name : String) : Bool :=
  (s.binding.get .controlledExitEnabled).truthy && decide (name ∈ controlledExitCommands) &&
    !s.controller.taskRunning && s.controller.robotDocked

def lookForWaypoint (settings : ExitSettings) (start : ℚ) : Co Garage (Option Unit) := do
  GarageController.refresh .exitPoll
  let s ← .get
  let arrived := match s.controller.robot.position with
    | some point => point.within ⟨.finite settings.x,.finite settings.y⟩ 400
    | none => false
  if arrived then pure (some ())
  else if elapsed start settings.timeout s.world.clock then .throw (.control .controlledExitFailed)
  else pure none

def leaveForWaypoint (settings : ExitSettings) : Action := do
  openDoor .controlledExit
  .modify (setPhase .controlledExit)
  publish
  asyncControlCommand "app_goto_target" [.int settings.x,.int settings.y] .controlledExit

def runControlledExit : Action := do
  let s ← .get
  match controlledExitSettings s.binding with
  | none => .throw (.other none)
  | some settings => do
    GarageController.refresh .exitStart
    leaveForWaypoint settings
    let s ← .get
    .poll (lookForWaypoint settings s.world.clock) (.sleep (1/5))
    closeDoor .waypoint
    .modify (setPhase .closedOutside)
    publish

def sendCommand (command : Option String) : Action := do
  .emit (.sent command)
  let _ ← .await .send

def controlledExitFirst (name : String) : Action := do
  let s ← .get
  if name ∈ controlledExitCommands ∧ s.shouldControlledExit name then runControlledExit else pure ()

/-- A failed send is published like a successful one, but for a cancellation. -/
def openAndSend (cause : Cause) (send : Action) : Action := do
  openDoor cause
  publish
  .attempt send fun
    | .cancelled => .throw .cancelled
    | error => do
      publish
      .throw error

def asyncSend (name : String) (cause : Cause) (send : Action) : Action := do
  let s ← .get
  if name ∉ newTaskCommands ++ resumeCommands ++ safeDirectCommands ++ ["app_charge"] then
    .throw (.control .unsupportedGuardedCommand)
  else if name ∈ safeDirectCommands then send
  else if s.closed then .throw (.control .controlUnloaded)
  else if name ∉ newTaskCommands ∧ name ∉ resumeCommands then send
  else do
    controlledExitFirst name
    openAndSend cause send
    publish
    let task ← .spawn .finishSequence
    .modify fun s => {s with sequenceTask := some task}

def asyncRoutine : Action := do
  openDoor .routine
  publish
  .guarded (sendCommand none) publish

def asyncRequestOpen : Action := do
  openDoor .request
  publish

def robotInside (c : GarageController) : Bool :=
  c.robot.fresh && c.robot.positionTrusted && c.robot.outsideDangerZone == some false && !c.robot.docked

def asyncRequestClose : Action := do
  GarageController.refresh .closeRequest
  let s ← .get
  if robotInside s.controller then .throw (.control .robotInTheWay)
  else do
    closeDoor .request
    publish

def reset : Action := do
  GarageController.refresh .reset
  .modify fun s => s.setPhase (if s.controller.closedConfirmed then .idle else .outside)
  publish

def lookForCompletion (start : ℚ) (timeout : PyFloat) : Co Garage (Option Unit) := do
  let s ← .get
  if s.closed then .throw (.control .controlUnloaded)
  else do
    GarageController.refresh .stage
    let s ← .get
    if s.controller.taskRunning = false ∧ s.controller.robotDocked then pure (some ())
    else if elapsed start timeout s.world.clock then .throw (.control .stageTimeout)
    else pure none

def awaitStageCompletion (minutes : PyFloat) : Action := do
  let s ← .get
  .poll (lookForCompletion s.world.clock (atLeastOneSecond minutes)) (.sleep 1)

/-- The stage service's callback takes two arguments, so calling it with none fails. -/
def sendStage : Action := .throw (.other none)

def awaitStage (timeoutMinutes : Option PyValue) : Action := do
  let s ← .get
  match pyFloat (timeoutMinutes.getD ((s.binding .stageTimeoutMinutes).getD (.int 180))) with
  | none => .throw (.other none)
  | some minutes => awaitStageCompletion minutes

def asyncStartStage (command : String) (timeoutMinutes : Option PyValue) : Action :=
  if command ∉ controlledExitCommands then .throw (.control .invalidStage)
  else
    .guarded (.attempt (do
        asyncSend command .stage sendStage
        awaitStage timeoutMinutes
        .modify fun s => {s with stageResult := some .succeeded}) fun
      | .cancelled => .throw .cancelled
      | error => do
        let reason := match error with
          | .control reason => reason
          | .other reason => reason.getD .stageFailed
          | .cancelled => .stageFailed
        .modify fun s => {s with stageResult := some (.failed reason)}
        .throw error) publish

def asyncRestore : Action := do
  let _ ← .await .coordinatorRefresh
  GarageController.refresh .restore
  .modify syncPhaseWithDoor

def asyncStart : Action := do
  asyncRestore
  publish

def onDoorChange : Action := do
  GarageController.refresh .doorChange
  .modify syncPhaseWithDoor
  publish

def shutdown : Action := do
  let s ← .get
  .modify fun s => {s with closed := true, sequenceTask := none, listeners := []}
  .emit .shutdown
  match s.sequenceTask with
  | some task => .cancel task
  | none => pure ()

def body : Call → Action
  | .asyncStart => asyncStart
  | .asyncSend command => asyncSend command .clean (sendCommand (some command))
  | .asyncStartStage command timeoutMinutes => asyncStartStage command timeoutMinutes
  | .asyncRoutine => asyncRoutine
  | .asyncRequestOpen => asyncRequestOpen
  | .asyncRequestClose => asyncRequestClose
  | .reset => reset
  | .onDoorChange => onDoorChange
  | .readEntity entity => writeEntity entity.refreshes
  | .shutdown => shutdown
  | .finishSequence => finishSequence

end GarageRuntime

namespace World

def setCoordinator (f : Coordinator → Coordinator) (w : World) : World := {w with coordinator := f w.coordinator}

/-- The monotonic clock never goes back; the wall clock may be set at will. -/
def apply : Stimulus → World → World
  | .time clock utc, w => {w with clock := max w.clock clock, utc}
  | .entity id state, w => {w with states := Function.update w.states id state}
  | .sampled status utc, w =>
    {w with utc}.setCoordinator fun c =>
      {c with garageStatusSample := some ⟨utc,status⟩, liveStatus := status}
  | .statusPushed status, w => w.setCoordinator fun c => {c with liveStatus := status}
  | .updateFinished success, w => w.setCoordinator fun c => {c with lastUpdateSuccess := success}
  | .updateInterval seconds, w => w.setCoordinator fun c => {c with updateInterval := seconds}
  | .mapData data, w => w.setCoordinator fun c => {c with mapData := data}
  | .mapStamped, w => w.setCoordinator fun c => {c with lastMapPositionUpdate := some w.utc}
  | .zone zone, w => {w with zone}
  | .listen _, w | .unlisten _, w => w

end World

def GarageRuntime.apply (input : Stimulus) (s : GarageRuntime) : GarageRuntime :=
  let s := {s with world := s.world.apply input}
  match input with
  | .listen entity => {s with listeners := s.listeners ++ [entity]}
  | .unlisten entity => {s with listeners := s.listeners.erase entity}
  | _ => s

/-- Only the end of a sequence is not an entry: `async_send` alone creates that task. -/
def program : Program Garage where
  body := GarageRuntime.body
  entry := fun call => call != .finishSequence
  outside := GarageRuntime.apply
  cancelledError := .cancelled

/-- The state and history a runtime reaches from its construction. -/
def run (binding : Binding) (world : World) (schedule : List (Label Garage)) : Point Garage :=
  ((Loop.init (GarageRuntime.init binding world)).exec program schedule).conf.toPoint

/-! A small garage to run: a door with a contact at either end, a robot east of its
dock, and a zone of a metre around the dock. -/

def contactBinding : Binding := Binding.ofList
  [(.handoverConfirmed,.bool true),(.coverEntityId,.str "cover.garage"),
    (.source .toOpen,.str "contact"),(.contact .toOpen,.str "binary_sensor.open"),(.contactState .toOpen,.str "on"),
    (.source .toClose,.str "contact"),(.contact .toClose,.str "binary_sensor.closed"),(.contactState .toClose,.str "on")]

def contact (reached : Bool) : Option EntityState := some {state := if reached then "on" else "off"}

def mapAt (east : ℚ) : MapData := ⟨some ⟨.finite east,.finite 0⟩,some ⟨.finite 0,.finite 0⟩⟩

def contactWorld (cover : String) (opened closed : Bool) (status : Status) (east : ℚ) : World where
  clock := 0
  utc := 100
  states := fun id =>
    if id = "cover.garage" then some {state := cover}
    else if id = "binary_sensor.open" then contact opened
    else if id = "binary_sensor.closed" then contact closed
    else none
  coordinator := {
    garageStatusSample := some ⟨100,status⟩, lastUpdateSuccess := true, updateInterval := some 30,
    liveStatus := status, mapData := some (mapAt east), lastMapPositionUpdate := some 100,
    pollInterval := .none, isOfficialCloud := false}
  zone := some ⟨-1000,1000,-1000,1000⟩

def statusOf (state : RobotState) (task : Bool) : Status := ⟨state,.int (if task then 1 else 0),.int 0⟩

def goesOn (task : ℕ) : Label Garage := .resume task (.ok ())

end RoborockPlus
