import RoborockPlus.DangerZone

/-! The suggestion for a danger zone, laid out from the dock. It keeps the margin between the dock
and itself, so what is suggested is in general a zone without the dock. -/
namespace RoborockPlus

inductive CabinetDirection
  | north
  | south
  | east
  | west
deriving DecidableEq

def CabinetDirection.name : CabinetDirection → String
  | .north => "north"
  | .south => "south"
  | .east => "east"
  | .west => "west"

def defaultDockX : ℤ := 25500

def defaultDockY : ℤ := 25500

def triggerDepth (safeDistanceFront safeHalfWidth closeMargin : ℤ) : ℤ :=
  min safeDistanceFront (max safeHalfWidth (closeMargin*2))

/-- The error is the text of the `ValueError`. -/
def suggestSafeZone (dockX dockY : ℤ) (cabinetDirection : String) (safeDistanceFront safeHalfWidth closeMargin : ℤ) :
    Except String Zone :=
  let depth := triggerDepth safeDistanceFront safeHalfWidth closeMargin
  if cabinetDirection = "north" then
    .ok ⟨dockX-safeHalfWidth,dockX+safeHalfWidth,dockY-depth-closeMargin,dockY-closeMargin⟩
  else if cabinetDirection = "south" then
    .ok ⟨dockX-safeHalfWidth,dockX+safeHalfWidth,dockY+closeMargin,dockY+depth+closeMargin⟩
  else if cabinetDirection = "west" then
    .ok ⟨dockX-depth-closeMargin,dockX-closeMargin,dockY-safeHalfWidth,dockY+safeHalfWidth⟩
  else if cabinetDirection = "east" then
    .ok ⟨dockX+closeMargin,dockX+depth+closeMargin,dockY-safeHalfWidth,dockY+safeHalfWidth⟩
  else .error "cabinet_direction must be one of north/south/east/west"

/-- What the service's schema lets through: one of four directions, and any integers. -/
structure SuggestionRequest where
  cabinetDirection : CabinetDirection
  safeDistanceFront : ℤ
  safeHalfWidth : ℤ
  closeMargin : ℤ
deriving DecidableEq

def SuggestionRequest.suggestion (request : SuggestionRequest) (dockX dockY : ℤ) : Except String Zone :=
  suggestSafeZone dockX dockY request.cabinetDirection.name request.safeDistanceFront request.safeHalfWidth request.closeMargin

/-- The answer of the service, which knows no other dock than the default one. -/
def getSafeZoneSuggestion (request : SuggestionRequest) : Except String (ℤ × ℤ × Zone) := do
  let zone ← request.suggestion defaultDockX defaultDockY
  pure (defaultDockX,defaultDockY,zone)

def dockPoint (dockX dockY : ℤ) : MapPoint := ⟨.finite dockX,.finite dockY⟩

/-- What a danger zone is for: a robot at the dock is in it, and once it is saved there are
observations of a robot at the dock whose position is trusted. -/
structure Serves (zone : Zone) (dockX dockY : ℤ) : Prop where
  proper : zone.minX < zone.maxX ∧ zone.minY < zone.maxY
  contains : zone.contains dockX dockY = true
  danger : zone.pointInDangerZone (dockPoint dockX dockY) = true
  trusted : ∃ w : World, w.zone = some zone ∧ w.charger = some (dockPoint dockX dockY) ∧ w.robotObservation.positionTrusted = true

namespace CabinetDirection

/-- The coordinate in which the way out of the cabinet leads on, and the other one. -/
def along : CabinetDirection → ℤ → ℤ → ℤ
  | .north,_,y | .south,_,y => y
  | .east,x,_ | .west,x,_ => x

def across : CabinetDirection → ℤ → ℤ → ℤ
  | .north,x,_ | .south,x,_ => x
  | .east,_,y | .west,_,y => y

def outward : CabinetDirection → ℤ
  | .north | .west => -1
  | .south | .east => 1

/-- The rectangle that leads out from `near` to `far` and to both sides as far as `half`. -/
def box (direction : CabinetDirection) (dockX dockY half near far : ℤ) : Zone :=
  match direction with
  | .north => ⟨dockX-half,dockX+half,dockY-far,dockY-near⟩
  | .south => ⟨dockX-half,dockX+half,dockY+near,dockY+far⟩
  | .east => ⟨dockX+near,dockX+far,dockY-half,dockY+half⟩
  | .west => ⟨dockX-far,dockX-near,dockY-half,dockY+half⟩

end CabinetDirection

/-- Width and depth, and no more of a margin than backwards up to the far side. -/
structure SuggestionRequest.Encloses (request : SuggestionRequest) (dockX dockY : ℤ) : Prop where
  width : 0 < request.safeHalfWidth
  depth : 0 < request.safeDistanceFront
  margin : request.closeMargin ≤ 0
  reach : 0 ≤ min request.safeDistanceFront request.safeHalfWidth+request.closeMargin
  -- a number that no float can hold is no bound for the runtime
  float : ∀ bound ∈ [request.cabinetDirection.across dockX dockY-request.safeHalfWidth,
      request.cabinetDirection.across dockX dockY+request.safeHalfWidth,
      request.cabinetDirection.along dockX dockY+request.cabinetDirection.outward*request.closeMargin,
      request.cabinetDirection.along dockX dockY+request.cabinetDirection.outward*
        (min request.safeDistanceFront request.safeHalfWidth+request.closeMargin)], (pyFloat (.int bound)).isSome = true

section
variable {zone : Zone} {dockX dockY front half margin : ℤ} {request : SuggestionRequest}

/-- A robot that charges at the dock, its position sampled just now. -/
def chargingAt (zone : Zone) (dockX dockY : ℤ) : World :=
  let seen := contactWorld "open" true false (statusOf .charging false) 0
  {seen with
    coordinator := {seen.coordinator with mapData := some ⟨some (dockPoint dockX dockY),some (dockPoint dockX dockY)⟩}
    zone := some zone}

theorem charging_resolved : (chargingAt zone dockX dockY).resolved = ⟨some (dockPoint dockX dockY),true,.dockedAtCharger,false⟩ := by
  have near : (dockPoint dockX dockY).within (dockPoint dockX dockY) defaultDockTolerance = true := by
    simp [MapPoint.within,dockPoint,defaultDockTolerance]
  have docked : (chargingAt zone dockX dockY).coordinator.liveStatus.state ∈ RobotState.dockedStateNames := by
    change RobotState.charging ∈ RobotState.dockedStateNames
    decide
  have resting : isV1TaskActive (chargingAt zone dockX dockY).coordinator.liveStatus = false := by
    change isV1TaskActive (statusOf .charging false) = false
    decide
  unfold World.resolved Coordinator.resolveVacuumPosition Coordinator.isMapPositionFresh isV1MapPositionFresh
  rw [resting,Bool.not_false,Bool.true_or,if_pos rfl]
  unfold resolvePositionTrust
  rw [if_neg (not_not.mpr docked)]
  exact if_pos near

theorem charging_trusted (valid : zone.valid = true) (inside : zone.contains dockX dockY = true) :
    (chargingAt zone dockX dockY).robotObservation.positionTrusted = true := by
  have position : (chargingAt zone dockX dockY).freshPosition = some (dockPoint dockX dockY) :=
    freshPosition_iff.mpr (by simp [charging_resolved])
  have found : (chargingAt zone dockX dockY).trustedPosition = some ((dockX : ℚ),(dockY : ℚ),zone) :=
    trustedPosition_iff.mpr ⟨rfl,position,valid,dockX,dockY,rfl,inside,fun _ => by norm_num⟩
  rw [World.robotObservation,found]
  rfl

theorem serves_iff : Serves zone dockX dockY ↔ zone.valid = true ∧ zone.contains dockX dockY = true := by
  constructor
  · intro serves
    obtain ⟨w,stored,_,trusted⟩ := serves.trusted
    obtain ⟨⟨x,y,other⟩,found⟩ := Option.isSome_iff_exists.mp trusted
    obtain ⟨kept,_,valid,_⟩ := trustedPosition_iff.mp found
    obtain rfl := Option.some.inj (stored.symm.trans kept)
    exact ⟨valid,serves.contains⟩
  · rintro ⟨valid,inside⟩
    obtain ⟨_,proper⟩ := Bool.and_eq_true_iff.mp valid
    exact ⟨of_decide_eq_true proper,inside,inside,chargingAt zone dockX dockY,rfl,rfl,charging_trusted valid inside⟩

theorem valid_iff : zone.valid = true ↔
    (∀ bound ∈ [zone.minX,zone.maxX,zone.minY,zone.maxY], (pyFloat (.int bound)).isSome = true) ∧
      zone.minX < zone.maxX ∧ zone.minY < zone.maxY := by
  rw [Zone.valid,Bool.and_eq_true_iff,Zone.bounded,List.all_eq_true,decide_eq_true_iff]

theorem contains_int : zone.contains dockX dockY = true ↔
    zone.minX ≤ dockX ∧ dockX ≤ zone.maxX ∧ zone.minY ≤ dockY ∧ dockY ≤ zone.maxY := by
  rw [Zone.contains,decide_eq_true_iff]
  norm_cast

/-- Where the margin is none, the depth of the box does not depend on it. -/
theorem triggerDepth_backwards (width : 0 < half) (backwards : margin ≤ 0) : triggerDepth front half margin = min front half := by
  rw [triggerDepth,max_eq_left (by omega)]

section Box
variable {direction : CabinetDirection} {near far : ℤ}

theorem suggestSafeZone_box : suggestSafeZone dockX dockY direction.name front half margin =
    .ok (direction.box dockX dockY half margin (triggerDepth front half margin+margin)) := by
  cases direction <;> simp [suggestSafeZone,CabinetDirection.name,CabinetDirection.box] <;> ring

theorem box_proper : (direction.box dockX dockY half near far).minX < (direction.box dockX dockY half near far).maxX ∧
    (direction.box dockX dockY half near far).minY < (direction.box dockX dockY half near far).maxY ↔ 0 < half ∧ near < far := by
  cases direction <;> simp only [CabinetDirection.box] <;> omega

theorem box_contains : (direction.box dockX dockY half near far).contains dockX dockY = true ↔ 0 ≤ half ∧ near ≤ 0 ∧ 0 ≤ far := by
  rw [contains_int]
  cases direction <;> simp only [CabinetDirection.box] <;> omega

theorem box_bounds {p : ℤ → Prop} :
    (∀ bound ∈ [(direction.box dockX dockY half near far).minX,(direction.box dockX dockY half near far).maxX,
      (direction.box dockX dockY half near far).minY,(direction.box dockX dockY half near far).maxY], p bound) ↔
    ∀ bound ∈ [direction.across dockX dockY-half,direction.across dockX dockY+half,
      direction.along dockX dockY+direction.outward*near,direction.along dockX dockY+direction.outward*far], p bound := by
  cases direction <;> simp [CabinetDirection.box,CabinetDirection.across,CabinetDirection.along,CabinetDirection.outward,
    ← sub_eq_add_neg] <;> tauto

end Box

/-- The suggestion serves its purpose just when the margin draws the box back over the dock. -/
theorem suggestion_serves_iff (request : SuggestionRequest) (dockX dockY : ℤ) :
    (∃ zone, request.suggestion dockX dockY = .ok zone ∧ Serves zone dockX dockY) ↔ request.Encloses dockX dockY := by
  have suggested : request.suggestion dockX dockY = .ok _ := suggestSafeZone_box
  have served (zone : Zone) : (∃ other, .ok zone = (.ok other : Except String Zone) ∧ Serves other dockX dockY) ↔ Serves zone dockX dockY := by
    simp
  rw [suggested,served,serves_iff,valid_iff,box_bounds,box_proper,box_contains]
  constructor
  · rintro ⟨⟨float,width,depth⟩,_,near,far⟩
    have trigger : triggerDepth request.safeDistanceFront request.safeHalfWidth request.closeMargin =
        min request.safeDistanceFront request.safeHalfWidth := triggerDepth_backwards width near
    rw [trigger] at float depth far
    exact ⟨width,by omega,near,far,float⟩
  · intro encloses
    have width := encloses.width
    have front := encloses.depth
    rw [triggerDepth_backwards width encloses.margin]
    exact ⟨⟨encloses.float,width,by omega⟩,width.le,encloses.margin,encloses.reach⟩

/-- With a margin in front of the dock the box begins behind it. -/
theorem suggestion_leaves_dock :
    getSafeZoneSuggestion ⟨.east,2500,1200,300⟩ = .ok (25500,25500,⟨25800,27000,24300,26700⟩) ∧
      Zone.pointInDangerZone ⟨25800,27000,24300,26700⟩ (dockPoint 25500 25500) = false ∧
      ¬ ∃ zone, SuggestionRequest.suggestion ⟨.east,2500,1200,300⟩ 25500 25500 = .ok zone ∧ Serves zone 25500 25500 := by
  have suggested : SuggestionRequest.suggestion ⟨.east,2500,1200,300⟩ 25500 25500 = .ok ⟨25800,27000,24300,26700⟩ := rfl
  have outside : Zone.pointInDangerZone ⟨25800,27000,24300,26700⟩ (dockPoint 25500 25500) = false := by decide +kernel
  refine ⟨rfl,outside,?_⟩
  rintro ⟨zone,found,serves⟩
  obtain rfl := Except.ok.inj (suggested.symm.trans found)
  exact absurd (outside.symm.trans serves.danger) Bool.false_ne_true

example : SuggestionRequest.Encloses ⟨.north,2500,1200,-300⟩ 25500 25500 :=
  ⟨by decide,by decide,by decide,by decide,by decide +kernel⟩

example : suggestSafeZone 25500 25500 "bad-direction" 2500 1200 300 =
    .error "cabinet_direction must be one of north/south/east/west" := rfl

end

end RoborockPlus
