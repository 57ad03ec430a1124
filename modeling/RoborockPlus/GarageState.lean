import RoborockPlus.Async.Coroutine
import RoborockPlus.DoorEvidence
import RoborockPlus.World

/-! The shared state of one garage runtime and its observations of the door. The
coroutines of the controller and of the runtime all work on this state. -/
namespace RoborockPlus

inductive Phase
  | idle | opening | outside | closing | closedOutside
  | pausingReturn | resumingReturn | pausingExit | controlledExit | blocked
deriving DecidableEq

/-- The data of the controller. What it last read of the robot and of the door stays
in `robot` and `state` until the next refresh. -/
structure GarageController where
  evidence : DoorEvidence
  phase : Phase
  lastError : Option Reason
  taskInProgress : Bool
  robot : RobotObservation
  state : DoorState

namespace GarageController
variable (c : GarageController)

def doorBlockedReason : Option Reason := c.state.blockedReason

def openConfirmed : Bool := c.state.openConfirmed == some true

def closedConfirmed : Bool := c.state.closedConfirmed == some true

def confirmed : Direction → Bool
  | .toOpen => c.openConfirmed
  | .toClose => c.closedConfirmed

def passageAllowed : Option Bool :=
  if c.state.coverAvailable = false then none
  else if c.closedConfirmed then some false
  else if c.openConfirmed then some true
  else none

def robotOutside : Bool :=
  c.robot.fresh && c.robot.positionTrusted && c.robot.outsideDangerZone == some true && !c.robot.docked

def robotDocked : Bool := c.robot.docked

def isReturning : Bool := decide (c.robot.state ∈ RobotState.returningStates)

def taskRunning : Bool :=
  match c.robot.taskActive with
  | some active => active
  | none =>
    decide (c.robot.state ∈ RobotState.unknownStates) || decide (c.robot.state ∉ RobotState.parkedStates)

end GarageController

inductive DiagnosticEntity
  | binarySensor
  | phaseSensor
deriving DecidableEq

/-- How often an entity asks the controller to refresh while it writes itself. -/
def DiagnosticEntity.refreshes : DiagnosticEntity → ℕ
  | .binarySensor => 2
  | .phaseSensor => 1

inductive StageResult
  | succeeded
  | failed (reason : Reason)
deriving DecidableEq

structure GarageRuntime where
  binding : Binding
  world : World
  controller : GarageController
  contexts : List ℕ := []
  nextContext : ℕ := 0
  sequenceTask : Option ℕ := none
  closed : Bool := false
  listeners : List DiagnosticEntity := []
  stageResult : Option StageResult := none
  lastResumeCommand : Option String := none

namespace GarageRuntime

def setPhase (phase : Phase) (s : GarageRuntime) : GarageRuntime :=
  {s with controller := {s.controller with phase}}

def setLastError (reason : Option Reason) (s : GarageRuntime) : GarageRuntime :=
  {s with controller := {s.controller with lastError := reason}}

def setTaskInProgress (running : Bool) (s : GarageRuntime) : GarageRuntime :=
  {s with controller := {s.controller with taskInProgress := running}}

def invalidateEvidence (s : GarageRuntime) : GarageRuntime :=
  {s with controller := {s.controller with evidence := s.controller.evidence.invalidate}}

section Observation
variable (binding : Binding) (world : World) (phase : Option Phase) (contexts : List ℕ)

def coverClosing : Bool :=
  match world.entity binding .coverEntityId with
  | some cover => cover.state == "closing"
  | none => false

/-- A closing cover is readable only for the runtime's own close, as far as it can tell. -/
def ownClose : Bool :=
  phase == some .closing || phase == some .pausingReturn &&
    match world.entity binding .coverEntityId with
    | some cover => cover.contextId.any (contexts.contains ·)
    | none => false

def contactState (d : Direction) : Option String :=
  match world.entity binding (.contact d) with
  | some contact => if contact.restored.truthy then none else some contact.state
  | none => none

def observeDoor : DoorObservation where
  coverAvailable :=
    binding.get .handoverConfirmed == .bool true &&
      match world.entity binding .coverEntityId with
      | some cover =>
        !(["unknown","unavailable"].contains cover.state) &&
          (cover.state != "closing" || ownClose binding world phase contexts)
      | none => false
  position := match world.entity binding .coverEntityId with
    | some cover => cover.currentPosition
    | none => .none
  openContact := contactState binding world .toOpen
  closeContact := contactState binding world .toClose
  restored := match world.entity binding .coverEntityId with
    | some cover => cover.restored == .bool true
    | none => false

end Observation

def doorObservation (s : GarageRuntime) : DoorObservation :=
  observeDoor s.binding s.world (some s.controller.phase) s.contexts

def refresh (s : GarageRuntime) : GarageRuntime :=
  let door := s.controller.evidence.observe (.float (.finite s.world.clock)) s.doorObservation
  {s with controller := {s.controller with
    robot := s.world.robotObservation, state := door.1, evidence := door.2}}

def closeAllowed (s : GarageRuntime) : Bool :=
  if (s.binding.get .closePermissionEntity).truthy = false then true
  else match s.world.entity s.binding .closePermissionEntity with
    | some state => state.state == "on" && !state.restored.truthy
    | none => false

def syncPhaseWithDoor (s : GarageRuntime) : GarageRuntime :=
  if s.controller.taskInProgress then s
  else if s.controller.closedConfirmed then s.setPhase .idle
  else if s.controller.openConfirmed then s.setPhase .outside
  else if s.controller.doorBlockedReason.isSome then s.setPhase .blocked
  else s

/-- A runtime as it is constructed. The first reading finds no controller to ask for a phase. -/
def init (binding : Binding) (world : World) : GarageRuntime :=
  let evidence : DoorEvidence := {binding}
  let door := evidence.observe (.float (.finite world.clock)) (observeDoor binding world none [])
  {binding, world, controller :=
    {evidence := door.2, phase := .idle, lastError := none, taskInProgress := false,
      robot := world.robotObservation, state := door.1}}

end GarageRuntime

end RoborockPlus
