import RoborockPlus.Python

/-! Robot status and position. The tables are those of the task, trust, controller and
stuck-detection modules, which disagree on what counts as docked and as active. A position
is used only once its sample's age and the dock's own marker allow it. -/
namespace RoborockPlus

/-- State names a table mentions. `other` stands for the names no table has. -/
inductive RobotState
  | starting | remoteControlActive | cleaning | manualMode | paused | spotCleaning | docking
  | goingToTarget | zonedCleaning | segmentCleaning | emptyingTheBin | washingTheMop
  | goingToWashTheMop | washingTheMop2 | backToDockWashingDuster | attachingTheMop | detachingTheMop
  | charging | chargingComplete | chargingProblem | updating | idle | returningHome
  | mapping | patrol | robotStatusMopping | cleanMopCleaning | cleanMopMopping
  | segmentMopping | segmentCleanMopCleaning | segmentCleanMopMopping
  | zonedMopping | zonedCleanMopCleaning | zonedCleanMopMopping
  | unknown | unavailable | empty
  | other (name : ℕ)
deriving DecidableEq

namespace RobotState

def returningStates : List RobotState := [.returningHome,.docking,.goingToWashTheMop]

def parkedStates : List RobotState := [.charging,.chargingComplete,.idle]

def dockedStateNames : List RobotState :=
  [.charging,.chargingComplete,.chargingProblem,.updating,.emptyingTheBin,.washingTheMop,
    .washingTheMop2,.backToDockWashingDuster,.attachingTheMop,.detachingTheMop]

def taskActiveStateNames : List RobotState :=
  [.starting,.remoteControlActive,.cleaning,.manualMode,.paused,.spotCleaning,.docking,
    .goingToTarget,.zonedCleaning,.segmentCleaning,.emptyingTheBin,.washingTheMop,.goingToWashTheMop]

/-- The states in which the stuck detector expects the robot to travel. -/
def movementStates : List RobotState :=
  [.cleaning,.segmentCleaning,.zonedCleaning,.spotCleaning,.returningHome,.docking,.goingToTarget,.goingToWashTheMop,
    .manualMode,.remoteControlActive,.mapping,.patrol,.robotStatusMopping,.cleanMopCleaning,.cleanMopMopping,
    .segmentMopping,.segmentCleanMopCleaning,.segmentCleanMopMopping,.zonedMopping,.zonedCleanMopCleaning,
    .zonedCleanMopMopping]

def unknownStates : List RobotState := [.empty,.unknown,.unavailable]

end RobotState

structure Status where
  state : RobotState
  inCleaning : PyValue
  inReturning : PyValue
deriving DecidableEq

def isV1TaskActive (status : Status) : Bool :=
  status.inCleaning.truthy || status.inReturning.truthy ||
    decide (status.state ∈ RobotState.taskActiveStateNames)

structure MapPoint where
  x : PyFloat
  y : PyFloat
deriving DecidableEq

structure MapData where
  vacuumPosition : Option MapPoint
  charger : Option MapPoint
deriving DecidableEq

inductive PositionReason
  | missingPosition | notDocked | dockedWithoutDockReference | dockedPositionFromCharger
  | dockedAtCharger | dockedStalePositionReplaced | sampleTooOld
deriving DecidableEq

structure ResolvedPosition where
  position : Option MapPoint
  trusted : Bool
  reason : PositionReason
  fromDock : Bool := false
deriving DecidableEq

/-- `hypot(a.x - b.x, a.y - b.y) <= tolerance`, decided on the squares. -/
def MapPoint.within (a b : MapPoint) (tolerance : ℚ) : Bool :=
  match a.x, a.y, b.x, b.y with
  | .finite x, .finite y, .finite u, .finite v => decide (0 ≤ tolerance ∧ (x-u)^2+(y-v)^2 ≤ tolerance^2)
  | _, _, _, _ => false

def defaultDockTolerance : ℚ := 1000

def resolvePositionTrust (state : RobotState) (position charger : Option MapPoint) : ResolvedPosition :=
  if state ∉ RobotState.dockedStateNames then
    match position with
    | none => ⟨none,false,.missingPosition,false⟩
    | some position => ⟨some position,true,.notDocked,false⟩
  else
    match charger, position with
    | none, _ => ⟨none,false,.dockedWithoutDockReference,false⟩
    | some dock, none => ⟨some dock,true,.dockedPositionFromCharger,true⟩
    | some dock, some position =>
      if position.within dock defaultDockTolerance then ⟨some position,true,.dockedAtCharger,false⟩
      else ⟨some dock,true,.dockedStalePositionReplaced,true⟩

section MapPosition
variable (isOfficialCloud : Bool)

def getMapPositionIntervals : ℚ × ℚ := if isOfficialCloud then (60,300) else (5,60)

/-- An override is clamped, never rejected; what is no positive integer means automatic. -/
def resolveMapPositionIntervals (pollInterval : PyValue) : ℚ × ℚ :=
  match pollInterval with
  | .int raw =>
    if raw ≤ 0 then getMapPositionIntervals isOfficialCloud
    else
      let seconds : ℚ := (min raw 300 : ℤ)
      let active := if isOfficialCloud then max seconds 30 else seconds
      (active,max (active*6) 60)
  | _ => getMapPositionIntervals isOfficialCloud

def getMapPositionMaxAge (activeInterval : ℚ) : ℚ := activeInterval*2

def isV1MapPositionFresh (now : ℚ) (positionTime : Option ℚ) (taskActive : Bool) (activeInterval : ℚ) : Bool :=
  !taskActive || positionTime.any fun time => now-time ≤ getMapPositionMaxAge activeInterval

end MapPosition

end RoborockPlus
