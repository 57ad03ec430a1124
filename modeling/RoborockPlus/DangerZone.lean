import RoborockPlus.Operations

/-! Whether the robot is outside the danger zone. The entity and the runtime answer from the
same resolved position and the same stored zone. Only the runtime asks further whether zone,
charger and samples are fit for an answer. -/
namespace RoborockPlus
open Async GarageController GarageRuntime

/-- A coordinate that is no finite number lies in no zone. -/
def Zone.pointInDangerZone (zone : Zone) (point : MapPoint) : Bool :=
  match point.x, point.y with
  | .finite x, .finite y => zone.contains x y
  | _, _ => false

def Zone.pointOutsideDangerZone (zone : Zone) (point : MapPoint) : Bool := !zone.pointInDangerZone point

def Coordinator.freshVacuumPosition (c : Coordinator) (now : ℚ) : Option MapPoint :=
  let resolved := c.resolveVacuumPosition now
  if resolved.trusted then resolved.position else none

namespace World
variable (w : World)

def reported : Option MapPoint := w.coordinator.mapData.bind (·.vacuumPosition)

def charger : Option MapPoint := w.coordinator.mapData.bind (·.charger)

def resolved : ResolvedPosition := w.coordinator.resolveVacuumPosition w.utc

def freshPosition : Option MapPoint := w.coordinator.freshVacuumPosition w.utc

/-- `is_on` of the entity `outside_danger_zone`. -/
def outsideIsOn : Option Bool :=
  match w.zone with
  | none => some false
  | some zone => w.freshPosition.map zone.pointOutsideDangerZone

/-- What the runtime alone wants before it places the robot at a position. -/
structure Corroborates (zone : Zone) (position : MapPoint) : Prop where
  bounded : zone.bounded = true
  proper : zone.minX < zone.maxX ∧ zone.minY < zone.maxY
  charger : ∃ cx cy, w.charger = some ⟨.finite cx,.finite cy⟩ ∧ zone.contains cx cy = true
  finite : ∃ x y, position = ⟨.finite x,.finite y⟩
  sampled : ∃ stamp, w.coordinator.lastMapPositionUpdate = some stamp ∧ 0 ≤ stamp ∧ stamp ≤ w.utc
  near : w.status.state ∈ [.charging,.chargingComplete] →
    ∀ charger, w.charger = some charger → position.within charger 1000 = true

end World

section
variable {w : World} {zone : Zone} {position charger : MapPoint}

theorem outsideIsOn_iff : w.outsideIsOn = some true ↔
    ∃ zone position, w.zone = some zone ∧ w.freshPosition = some position ∧ zone.pointInDangerZone position = false := by
  unfold World.outsideIsOn
  cases stored : w.zone with
  | none => simp
  | some zone => simp [Zone.pointOutsideDangerZone]

theorem freshPosition_iff : w.freshPosition = some position ↔ w.resolved.trusted = true ∧ w.resolved.position = some position := by
  unfold World.freshPosition World.resolved Coordinator.freshVacuumPosition
  dsimp only
  split
  next trusted => simp [trusted]
  next untrusted => simp [untrusted]

theorem trustedPosition_iff {x y : ℚ} : w.trustedPosition = some (x,y,zone) ↔
    w.zone = some zone ∧ w.freshPosition = some ⟨.finite x,.finite y⟩ ∧ zone.valid = true ∧
      ∃ cx cy, w.charger = some ⟨.finite cx,.finite cy⟩ ∧ zone.contains cx cy = true ∧
        (w.status.state ∈ [.charging,.chargingComplete] → (x-cx)^2+(y-cy)^2 ≤ 1000^2) := by
  rw [freshPosition_iff]
  unfold World.trustedPosition World.charger World.resolved
  dsimp only
  constructor
  · intro found
    split at found
    next u v cx cy stored position marker kept =>
      split_ifs at found with refused far
      simp only [Option.some.injEq,Prod.mk.injEq] at found
      obtain ⟨rfl,rfl,rfl⟩ := found
      simp only [not_or,Bool.not_eq_false] at refused
      exact ⟨kept,⟨refused.1,position⟩,refused.2.1,cx,cy,marker,refused.2.2,fun parked => not_not.mp fun away => far ⟨parked,away⟩⟩
    · simp at found
  · rintro ⟨stored,⟨trusted,position⟩,valid,cx,cy,marker,inside,near⟩
    rw [position,marker,stored]
    dsimp only
    rw [if_neg (by simp [trusted,valid,inside]),if_neg (fun both => both.2 (near both.1))]

theorem observes_outside_iff : w.robotObservation.outsideDangerZone = some true ↔ w.fresh = true ∧
    ∃ zone position, w.zone = some zone ∧ w.freshPosition = some position ∧ zone.pointInDangerZone position = false ∧
      w.Corroborates zone position := by
  have observed : w.robotObservation.outsideDangerZone = some true ↔
      ∃ x y zone, w.trustedPosition = some (x,y,zone) ∧ w.fresh = true ∧ w.positionSample.isSome = true ∧ zone.contains x y = false := by
    unfold World.robotObservation
    dsimp only
    split
    next x y zone found => simp [found,and_assoc]
    next found => simp [found]
  have sampled : w.positionSample.isSome = true ↔
      ∃ stamp, w.coordinator.lastMapPositionUpdate = some stamp ∧ 0 ≤ stamp ∧ stamp ≤ w.utc := by
    unfold World.positionSample
    cases w.coordinator.lastMapPositionUpdate <;> simp [Option.isSome_filter]
  have within {x y cx cy : ℚ} : MapPoint.within ⟨.finite x,.finite y⟩ ⟨.finite cx,.finite cy⟩ 1000 = true ↔
      (x-cx)^2+(y-cy)^2 ≤ 1000^2 := by simp [MapPoint.within]
  rw [observed,sampled]
  constructor
  · rintro ⟨x,y,zone,found,fresh,sample,outside⟩
    obtain ⟨stored,position,valid,cx,cy,marker,inside,near⟩ := trustedPosition_iff.mp found
    obtain ⟨bounded,proper⟩ := Bool.and_eq_true_iff.mp valid
    refine ⟨fresh,zone,_,stored,position,outside,bounded,of_decide_eq_true proper,⟨cx,cy,marker,inside⟩,⟨x,y,rfl⟩,sample,?_⟩
    intro parked charger found
    obtain rfl := Option.some.inj (marker.symm.trans found)
    exact within.mpr (near parked)
  · rintro ⟨fresh,zone,position,stored,given,outside,fits⟩
    obtain ⟨x,y,rfl⟩ := fits.finite
    obtain ⟨cx,cy,marker,inside⟩ := fits.charger
    have valid : zone.valid = true := Bool.and_eq_true_iff.mpr ⟨fits.bounded,decide_eq_true fits.proper⟩
    exact ⟨x,y,zone,trustedPosition_iff.mpr ⟨stored,given,valid,cx,cy,marker,inside,fun parked => within.mp (fits.near parked _ marker)⟩,
      fresh,fits.sampled,outside⟩

theorem observation_refines (outside : w.robotObservation.outsideDangerZone = some true) : w.outsideIsOn = some true := by
  obtain ⟨_,zone,position,stored,given,beyond,_⟩ := observes_outside_iff.mp outside
  exact outsideIsOn_iff.mpr ⟨zone,position,stored,given,beyond⟩

theorem neither_iff : w.robotObservation.outsideDangerZone ≠ some true ∧ w.outsideIsOn ≠ some true ↔ w.outsideIsOn ≠ some true :=
  ⟨fun both => both.2,fun off => ⟨fun outside => off (observation_refines outside),off⟩⟩

end

/-! ### On the dock -/

/-- A sample that still counts as fresh has the robot near the charger, yet outside the zone. -/
def World.Strays (w : World) (zone : Zone) (charger : MapPoint) : Prop :=
  w.coordinator.isMapPositionFresh w.utc = true ∧ ∃ position, w.reported = some position ∧
    position.within charger defaultDockTolerance = true ∧ zone.pointInDangerZone position = false

section Docked
variable {w : World} {zone : Zone} {charger : MapPoint} (docked : w.coordinator.liveStatus.state ∈ RobotState.dockedStateNames)
  (marker : w.charger = some charger)
include docked marker

theorem freshPosition_docked (fresh : w.coordinator.isMapPositionFresh w.utc = true) :
    w.freshPosition = some (match w.reported with
      | some position => if position.within charger defaultDockTolerance then position else charger
      | none => charger) := by
  unfold World.charger at marker
  unfold World.freshPosition Coordinator.freshVacuumPosition Coordinator.resolveVacuumPosition resolvePositionTrust World.reported
  rw [if_pos fresh,if_neg (not_not.mpr docked),marker]
  cases w.coordinator.mapData.bind (·.vacuumPosition) with
  | none => rfl
  | some position =>
    dsimp only
    cases position.within charger defaultDockTolerance <;> rfl

variable (stored : w.zone = some zone) (inside : zone.pointInDangerZone charger = true)
include stored inside

theorem docked_isOn_iff : w.outsideIsOn = some true ↔ w.Strays zone charger := by
  unfold World.outsideIsOn World.Strays
  rw [stored]
  cases fresh : w.coordinator.isMapPositionFresh w.utc with
  | false =>
    have none : w.freshPosition = none := by
      unfold World.freshPosition Coordinator.freshVacuumPosition Coordinator.resolveVacuumPosition
      rw [if_neg (by simp [fresh])]
    simp [none]
  | true =>
    rw [freshPosition_docked docked marker fresh]
    cases reported : w.reported with
    | none => simp [Zone.pointOutsideDangerZone,inside]
    | some position =>
      cases near : position.within charger defaultDockTolerance with
      | false => simp [Zone.pointOutsideDangerZone,inside,near]
      | true => simp [Zone.pointOutsideDangerZone,near]

/-- A docked robot is reported outside just if its sample strays, and where it does not, the
departure rule leaves the door alone. -/
theorem docked_robot_inside :
    (w.robotObservation.outsideDangerZone ≠ some true ∧ w.outsideIsOn ≠ some true ↔ ¬w.Strays zone charger) ∧
      (¬w.Strays zone charger → ∀ (I : Point Garage → Prop) (t : ℕ) (hold : Option (Action × Action)) (p : Point Garage),
        p.state.world = w → wp I t (updateAfterDeparture hold)
          (fun handled q => handled = false ∧ q = reread t .departure p) (fun _ _ => False) p) := by
  have reports := docked_isOn_iff docked marker stored inside
  refine ⟨neither_iff.trans (not_congr reports),fun kept I t hold p world => ?_⟩
  have observed : p.state.refresh.controller.robot = w.robotObservation := congrArg World.robotObservation world
  have unseen : w.robotObservation.outsideDangerZone ≠ some true := fun outside => kept (reports.mp (observation_refines outside))
  have inside : (reread t .departure p).state.controller.robotOutside = false := by
    change p.state.refresh.controller.robotOutside = false
    unfold robotOutside
    rw [observed]
    simp [unseen]
  unfold updateAfterDeparture
  rw [wp_bind,wp_refresh,wp_bind,wp_get,wp_ite,if_pos inside,wp_pure]
  exact ⟨rfl,rfl⟩

end Docked

/-- A robot that charges with a problem, seen this far east of its charger in a small zone. -/
def dockedAt (east : ℚ) : World :=
  {contactWorld "open" true false (statusOf .chargingProblem false) east with zone := some ⟨-300,300,-300,300⟩}

/-- Seen five metres away, it is taken to stand at its charger. -/
example : (dockedAt 5000).freshPosition = some ⟨.finite 0,.finite 0⟩ := by decide +kernel

theorem docked_robot_inside_near : (dockedAt 100).robotObservation.outsideDangerZone ≠ some true ∧ (dockedAt 100).outsideIsOn ≠ some true := by
  have marker : (dockedAt 100).charger = some ⟨.finite 0,.finite 0⟩ := rfl
  have stored : (dockedAt 100).zone = some ⟨-300,300,-300,300⟩ := rfl
  refine (docked_robot_inside (by decide) marker stored (by decide +kernel)).1.mpr ?_
  rintro ⟨_,position,reported,_,beyond⟩
  obtain rfl : MapPoint.mk (.finite 100) (.finite 0) = position := Option.some.inj reported
  exact absurd beyond (by decide +kernel)

/-- A tolerance wider than the zone lets a docked robot out of it. -/
theorem docked_robot_outside :
    (dockedAt 800).coordinator.liveStatus.state ∈ RobotState.dockedStateNames ∧
      (dockedAt 800).robotObservation.outsideDangerZone = some true ∧ (dockedAt 800).outsideIsOn = some true ∧
      (GarageRuntime.init contactBinding (dockedAt 800)).refresh.controller.robotOutside = true := by
  decide +kernel

/-! ### On the move -/

namespace World

/-- The map position was last sampled more than two active intervals ago, or never. -/
def outdated (w : World) : Bool :=
  !w.coordinator.lastMapPositionUpdate.any fun time =>
    decide (w.utc-time ≤ 2*(resolveMapPositionIntervals w.coordinator.isOfficialCloud w.coordinator.pollInterval).1)

end World

theorem movement_not_docked {state : RobotState} (moves : state ∈ RobotState.movementStates) :
    state ∉ RobotState.dockedStateNames := by
  revert state
  decide

section Moving
variable {w : World} (travels : w.coordinator.liveStatus.state ∈ RobotState.movementStates) (old : w.outdated = true)
include old

theorem outdated_fresh : w.coordinator.isMapPositionFresh w.utc = !isV1TaskActive w.coordinator.liveStatus := by
  have stale : (w.coordinator.lastMapPositionUpdate.any fun time => w.utc-time ≤
      getMapPositionMaxAge (resolveMapPositionIntervals w.coordinator.isOfficialCloud w.coordinator.pollInterval).1) = false := by
    simpa [World.outdated,getMapPositionMaxAge,mul_comm] using old
  unfold Coordinator.isMapPositionFresh isV1MapPositionFresh
  rw [stale,Bool.or_false]

include travels

/-- While the robot travels, an outdated position is refused just if the task is known to be
active, or there is no position to refuse. -/
theorem outdated_position_untrusted :
    (w.resolved.trusted = false ∧ w.outsideIsOn ≠ some true ∧ w.robotObservation.outsideDangerZone ≠ some true) ↔
      (w.coordinator.liveStatus.inCleaning.truthy = true ∨ w.coordinator.liveStatus.inReturning.truthy = true ∨
        w.coordinator.liveStatus.state ∈ RobotState.taskActiveStateNames ∨ w.reported = none) := by
  have untrusted : w.resolved.trusted = false ↔ isV1TaskActive w.coordinator.liveStatus = true ∨ w.reported = none := by
    unfold World.resolved Coordinator.resolveVacuumPosition resolvePositionTrust World.reported
    rw [outdated_fresh old]
    cases isV1TaskActive w.coordinator.liveStatus with
    | true => simp
    | false =>
      rw [if_pos Bool.not_false,if_pos (movement_not_docked travels)]
      cases w.coordinator.mapData.bind (·.vacuumPosition) <;> simp
  have silent (refused : w.resolved.trusted = false) : w.outsideIsOn ≠ some true := by
    intro reports
    obtain ⟨_,_,_,given,_⟩ := outsideIsOn_iff.mp reports
    exact absurd (refused.symm.trans (freshPosition_iff.mp given).1) (by simp)
  have active : isV1TaskActive w.coordinator.liveStatus = true ↔ w.coordinator.liveStatus.inCleaning.truthy = true ∨
      w.coordinator.liveStatus.inReturning.truthy = true ∨ w.coordinator.liveStatus.state ∈ RobotState.taskActiveStateNames := by
    simp [isV1TaskActive,or_assoc]
  rw [and_congr_right fun refused => iff_true_intro ⟨silent refused,(neither_iff.mpr (silent refused)).1⟩]
  rw [and_true,untrusted,active,or_assoc,or_assoc]

end Moving

def lastSeenAway (state : RobotState) : World :=
  let seen := contactWorld "open" true false (statusOf state false) 5000
  {seen with coordinator := {seen.coordinator with lastMapPositionUpdate := some 0}}

example : (lastSeenAway .idle).outdated = true ∧ (lastSeenAway .idle).resolved.trusted = true := by decide +kernel

theorem outdated_position_untrusted_cleaning : (lastSeenAway .cleaning).resolved.trusted = false :=
  ((outdated_position_untrusted (by decide) (by decide +kernel)).mpr (Or.inr (Or.inr (Or.inl (by decide))))).1

/-- A state that travels is not always a state that is active. -/
theorem outdated_position_trusted :
    (lastSeenAway .robotStatusMopping).coordinator.liveStatus.state ∈ RobotState.movementStates ∧
      (lastSeenAway .robotStatusMopping).outdated = true ∧ (lastSeenAway .robotStatusMopping).resolved.trusted = true ∧
      (lastSeenAway .robotStatusMopping).outsideIsOn = some true ∧
      (lastSeenAway .robotStatusMopping).robotObservation.outsideDangerZone = some true := by
  decide +kernel

/-! ### Both evaluators -/

/-- With a fresh status the runtime follows the entity just if it can corroborate what the
entity takes for a position outside. -/
theorem evaluators_agree {w : World} {zone : Zone} (stored : w.zone = some zone) (fresh : w.fresh = true) :
    (w.outsideIsOn = some true → w.robotObservation.outsideDangerZone = some true) ↔
      ∀ position, w.freshPosition = some position → zone.pointInDangerZone position = false → w.Corroborates zone position := by
  constructor
  · intro agree position given beyond
    obtain ⟨_,other,point,found,taken,_,fits⟩ := observes_outside_iff.mp (agree (outsideIsOn_iff.mpr ⟨zone,position,stored,given,beyond⟩))
    obtain rfl := Option.some.inj (stored.symm.trans found)
    obtain rfl := Option.some.inj (given.symm.trans taken)
    exact fits
  · intro fits reports
    obtain ⟨other,position,found,given,beyond⟩ := outsideIsOn_iff.mp reports
    obtain rfl := Option.some.inj (stored.symm.trans found)
    exact observes_outside_iff.mpr ⟨fresh,zone,position,stored,given,beyond,fits position given beyond⟩

theorem evaluators_agree_eastward :
    (contactWorld "open" true false (statusOf .cleaning true) 5000).robotObservation.outsideDangerZone = some true := by
  have here : (contactWorld "open" true false (statusOf .cleaning true) 5000).freshPosition = some ⟨.finite 5000,.finite 0⟩ := by
    decide +kernel
  refine (evaluators_agree rfl (by decide +kernel)).mpr (fun position given _ => ?_) (by decide +kernel)
  obtain rfl := Option.some.inj (here.symm.trans given)
  exact ⟨by decide +kernel,⟨by decide,by decide⟩,⟨0,0,rfl,by decide +kernel⟩,⟨5000,0,rfl⟩,⟨100,rfl,by norm_num,le_refl _⟩,
    fun parked => absurd parked (by decide)⟩

def invertedZone : World :=
  {contactWorld "open" true false (statusOf .charging false) 0 with zone := some ⟨300,-300,-300,300⟩}

theorem evaluators_disagree :
    invertedZone.fresh = true ∧ invertedZone.outsideIsOn = some true ∧ invertedZone.robotObservation.outsideDangerZone = none := by
  decide +kernel

end RoborockPlus
