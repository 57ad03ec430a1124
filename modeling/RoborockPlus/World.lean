import RoborockPlus.Robot
import Mathlib.Tactic

/-! What the runtime reads from outside: entity states, the coordinator's cache and
two clocks. Between two suspensions of the event loop none of it changes. -/
namespace RoborockPlus

structure EntityState where
  state : String
  currentPosition : PyValue := .none
  restored : PyValue := .none
  contextId : Option ℕ := none
deriving DecidableEq

structure StatusSample where
  sampledAt : ℚ
  status : Status
deriving DecidableEq

/-- `liveStatus` is the library's mutable status object; `garageStatusSample` is not. -/
structure Coordinator where
  garageStatusSample : Option StatusSample
  lastUpdateSuccess : Bool
  updateInterval : Option ℚ
  liveStatus : Status
  mapData : Option MapData
  lastMapPositionUpdate : Option ℚ
  pollInterval : PyValue
  isOfficialCloud : Bool
deriving DecidableEq

structure Zone where
  minX : ℤ
  maxX : ℤ
  minY : ℤ
  maxY : ℤ
deriving DecidableEq

/-- `clock` is the monotonic clock, `utc` the wall clock. -/
structure World where
  clock : ℚ
  utc : ℚ
  states : String → Option EntityState
  coordinator : Coordinator
  zone : Option Zone

structure RobotObservation where
  now : ℚ
  utc : ℚ
  state : RobotState
  inCleaning : PyValue
  inReturning : PyValue
  positionTrusted : Bool
  docked : Bool
  fresh : Bool
  sampleUtc : Option ℚ
  outsideDangerZone : Option Bool
  positionSampleId : Option ℚ
  taskActive : Option Bool
deriving DecidableEq

/-- The observation has no such field, so the lookup always gives the default. -/
def RobotObservation.position (_ : RobotObservation) : Option MapPoint := none

namespace Coordinator

def isMapPositionFresh (c : Coordinator) (now : ℚ) : Bool :=
  isV1MapPositionFresh now c.lastMapPositionUpdate (isV1TaskActive c.liveStatus)
    (resolveMapPositionIntervals c.isOfficialCloud c.pollInterval).1

def resolveVacuumPosition (c : Coordinator) (now : ℚ) : ResolvedPosition :=
  if c.isMapPositionFresh now then
    resolvePositionTrust c.liveStatus.state (c.mapData.bind (·.vacuumPosition)) (c.mapData.bind (·.charger))
  else ⟨none,false,.sampleTooOld,false⟩

def maxAge (c : Coordinator) : ℚ :=
  match c.updateInterval with
  | some interval => max 1 (interval*2)
  | none => 120

end Coordinator

/-- `isfinite` raises for an integer that no float can hold. -/
def Zone.bounded (z : Zone) : Bool := [z.minX,z.maxX,z.minY,z.maxY].all fun n => (pyFloat (.int n)).isSome

def Zone.valid (z : Zone) : Bool := z.bounded && decide (z.minX < z.maxX ∧ z.minY < z.maxY)

def Zone.contains (z : Zone) (x y : ℚ) : Bool := decide (z.minX ≤ x ∧ x ≤ z.maxX ∧ z.minY ≤ y ∧ y ≤ z.maxY)

namespace World

/-- `hass.states.get(binding.get(key, ''))`; no entity has the empty id. -/
def entity (w : World) (binding : Binding) (key : BindingKey) : Option EntityState :=
  match binding key with
  | some (.str id) => w.states id
  | _ => none

def fresh (w : World) : Bool :=
  w.coordinator.lastUpdateSuccess && w.coordinator.garageStatusSample.any fun sample =>
    decide (0 ≤ w.utc-sample.sampledAt ∧ w.utc-sample.sampledAt ≤ w.coordinator.maxAge)

/-- The sampled status; without a sample the state reads as unknown. -/
def status (w : World) : Status :=
  match w.coordinator.garageStatusSample with
  | some sample => sample.status
  | none => ⟨.unknown,.none,.none⟩

def positionSample (w : World) : Option ℚ :=
  w.coordinator.lastMapPositionUpdate.filter fun stamp => decide (0 ≤ stamp ∧ stamp ≤ w.utc)

def trustedPosition (w : World) : Option (ℚ × ℚ × Zone) :=
  let resolved := w.coordinator.resolveVacuumPosition w.utc
  match resolved.position, w.coordinator.mapData.bind (·.charger), w.zone with
  | some ⟨.finite x,.finite y⟩, some ⟨.finite cx,.finite cy⟩, some zone =>
    if resolved.trusted = false ∨ zone.valid = false ∨ zone.contains cx cy = false then none
    else if w.status.state ∈ [.charging,.chargingComplete] ∧ ¬((x-cx)^2+(y-cy)^2 ≤ 1000^2) then none
    else some (x,y,zone)
  | _, _, _ => none

def robotObservation (w : World) : RobotObservation where
  now := w.clock
  utc := w.utc
  state := w.status.state
  inCleaning := w.status.inCleaning
  inReturning := w.status.inReturning
  positionTrusted := w.trustedPosition.isSome
  docked := decide (w.status.state ∈ [.charging,.chargingComplete])
  fresh := w.fresh
  sampleUtc := w.coordinator.garageStatusSample.map (·.sampledAt)
  outsideDangerZone :=
    match w.trustedPosition with
    | some (x,y,zone) => if w.fresh ∧ w.positionSample.isSome then some (!zone.contains x y) else none
    | none => none
  positionSampleId := w.positionSample
  taskActive := some (isV1TaskActive w.status)

end World

end RoborockPlus
