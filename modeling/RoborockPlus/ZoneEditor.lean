import RoborockPlus.Geometry.Axis
import RoborockPlus.World

/-! The editor in which the danger zone is drawn onto the map. Numbers are exact here, and a
division by zero, which the browser has a value for, is no part of what is shown. -/
namespace RoborockPlus
open Geometry

namespace ZoneEditor

structure Point where
  x : ℚ
  y : ℚ
deriving DecidableEq

structure Rect where
  x : ℚ
  y : ℚ
  width : ℚ
  height : ℚ
deriving DecidableEq

namespace Rect
variable (rect : Rect)

def topLeft : Point := ⟨rect.x,rect.y⟩

def bottomRight : Point := ⟨rect.x+rect.width,rect.y+rect.height⟩

end Rect

structure CalibrationPoint where
  vacuum : Point
  map : Point
deriving DecidableEq

structure ImageMeta where
  width : Option ℚ
  height : Option ℚ
  scale : Option ℚ
deriving DecidableEq

structure Size where
  width : ℚ
  height : ℚ
deriving DecidableEq

structure StoredZone where
  zone : Zone
  displayRect : Option Rect
deriving DecidableEq

structure Context where
  imageMeta : Option ImageMeta
  calibration : Option (List CalibrationPoint)
  safeZone : Option StoredZone
deriving DecidableEq

/-- What the pointer handlers of the editor read and leave as it is. -/
structure View where
  vacuumEntityId : String
  context : Option Context
  imageNaturalSize : Option Size
deriving DecidableEq

/-- `value || fallback`: zero is as good as nothing. -/
def orElse (value : Option ℚ) (fallback : ℚ) : ℚ :=
  match value with
  | some number => if number = 0 then fallback else number
  | none => fallback

/-- `Math.round`: halves go up. -/
def mathRound (x : ℚ) : ℤ := ⌊x+1/2⌋

namespace View
variable (view : View)

def imageMeta : Option ImageMeta := view.context.bind (·.imageMeta)

def backendCanvasWidth : ℚ :=
  match view.imageMeta with
  | none => 1
  | some image => orElse image.width 1*orElse image.scale 1

def backendCanvasHeight : ℚ :=
  match view.imageMeta with
  | none => 1
  | some image => orElse image.height 1*orElse image.scale 1

def canvasWidth : ℚ := orElse (view.imageNaturalSize.map (·.width)) view.backendCanvasWidth

def canvasHeight : ℚ := orElse (view.imageNaturalSize.map (·.height)) view.backendCanvasHeight

def backendToDisplay (point : Point) : Point :=
  ⟨point.x*(view.canvasWidth/view.backendCanvasWidth),point.y*(view.canvasHeight/view.backendCanvasHeight)⟩

def scaledCalibration : Option (List CalibrationPoint) :=
  match view.context.bind (·.calibration) with
  | none => none
  | some calibration =>
    if calibration.length < 3 then none
    else some (calibration.map fun item => ⟨item.vacuum,view.backendToDisplay item.map⟩)

def mapToImage (vacuumPoint : Point) : Option Point :=
  match view.scaledCalibration with
  | some (p0 :: p1 :: p2 :: _) =>
    some ⟨p0.map.x+(vacuumPoint.x-p0.vacuum.x)*(p1.map.x-p0.map.x)/(p1.vacuum.x-p0.vacuum.x),
      p0.map.y+(vacuumPoint.y-p0.vacuum.y)*(p2.map.y-p0.map.y)/(p2.vacuum.y-p0.vacuum.y)⟩
  | _ => none

def imageToMap (imagePoint : Point) : Option Point :=
  match view.scaledCalibration with
  | some (p0 :: p1 :: p2 :: _) =>
    some ⟨p0.vacuum.x+(imagePoint.x-p0.map.x)*(p1.vacuum.x-p0.vacuum.x)/(p1.map.x-p0.map.x),
      p0.vacuum.y+(imagePoint.y-p0.map.y)*(p2.vacuum.y-p0.vacuum.y)/(p2.map.y-p0.map.y)⟩
  | _ => none

def zoneToDisplayRect (stored : Option StoredZone) : Option Rect :=
  match stored with
  | none => none
  | some ⟨_,some rect⟩ =>
    let topLeft := view.backendToDisplay rect.topLeft
    let bottomRight := view.backendToDisplay rect.bottomRight
    some ⟨topLeft.x,topLeft.y,bottomRight.x-topLeft.x,bottomRight.y-topLeft.y⟩
  | some ⟨zone,none⟩ =>
    match view.mapToImage ⟨zone.minX,zone.minY⟩, view.mapToImage ⟨zone.maxX,zone.maxY⟩ with
    | some p1, some p2 => some ⟨min p1.x p2.x,min p1.y p2.y,|p2.x-p1.x|,|p2.y-p1.y|⟩
    | _, _ => none

/-- The rectangle that `_render` draws for what is stored. -/
def savedRect : Option Rect := view.zoneToDisplayRect (view.context.bind (·.safeZone))

end View

/-- Where a pointer is in the window, and where the drawing area is at that moment. -/
structure PointerEvent where
  pointerId : ℤ
  clientX : ℚ
  clientY : ℚ
  left : ℚ
  top : ℚ
  width : ℚ
  height : ℚ
  width_pos : 0 < width
  height_pos : 0 < height

/-- What the pointer handlers write. -/
structure Drag where
  draftRect : Option Rect := none
  dragStart : Option Point := none
  activePointerId : Option ℤ := none
deriving DecidableEq

/-- A pointer that leaves the drawing area is handled like one that goes up. -/
inductive Input
  | down (event : PointerEvent)
  | move (event : PointerEvent)
  | up (event : PointerEvent)

namespace View
variable (view : View)

def pointerToViewBox (event : PointerEvent) : Point :=
  let width := orElse (some view.canvasWidth) (orElse (some event.width) 1)
  let height := orElse (some view.canvasHeight) (orElse (some event.height) 1)
  ⟨(event.clientX-event.left)/event.width*width,(event.clientY-event.top)/event.height*height⟩

def onPointerDown (event : PointerEvent) : Drag :=
  let point := view.pointerToViewBox event
  ⟨some ⟨point.x,point.y,0,0⟩,some point,some event.pointerId⟩

def onPointerMove (event : PointerEvent) (drag : Drag) : Drag :=
  match drag.dragStart with
  | none => drag
  | some start =>
    if drag.activePointerId ≠ none ∧ drag.activePointerId ≠ some event.pointerId then drag
    else
      let point := view.pointerToViewBox event
      {drag with draftRect := some ⟨min start.x point.x,min start.y point.y,|point.x-start.x|,|point.y-start.y|⟩}

def onPointerUp (event : PointerEvent) (drag : Drag) : Drag :=
  if drag.activePointerId ≠ none ∧ drag.activePointerId ≠ some event.pointerId then drag
  else {drag with dragStart := none, activePointerId := none}

def handle (drag : Drag) : Input → Drag
  | .down event => view.onPointerDown event
  | .move event => view.onPointerMove event drag
  | .up event => onPointerUp event drag

def run (inputs : List Input) : Drag := inputs.foldl view.handle {}

/-- What `_saveDraft` sends to `set_safe_zone`, if it sends anything. -/
def saveDraft (drag : Drag) : Option Zone :=
  if view.vacuumEntityId = "" then none
  else
    match drag.draftRect with
    | none => none
    | some rect =>
      match view.imageToMap ⟨rect.x,rect.y⟩, view.imageToMap ⟨rect.x+rect.width,rect.y+rect.height⟩ with
      | some p1, some p2 =>
        some ⟨mathRound (min p1.x p2.x),mathRound (max p1.x p2.x),mathRound (min p1.y p2.y),mathRound (max p1.y p2.y)⟩
      | _, _ => none

/-- The context as it is loaded again once this zone is stored. -/
def reloaded (zone : Zone) : View :=
  {view with context := view.context.map fun context => {context with safeZone := some ⟨zone,none⟩}}

end View

/-- The rectangle with these two corners. -/
def spanned (p q : Point) : Rect := ⟨min p.x q.x,min p.y q.y,|q.x-p.x|,|q.y-p.y|⟩

/-- Where a pointer that is down was last seen before it went up, if it did. -/
def lastSeen (pointer : ℤ) (last : PointerEvent) : List Input → PointerEvent
  | [] => last
  | .down _ :: _ => last
  | .move event :: rest => if event.pointerId = pointer then lastSeen pointer event rest else lastSeen pointer last rest
  | .up event :: rest => if event.pointerId = pointer then last else lastSeen pointer last rest

/-- The last drag of a sequence: from its last pointer down to where that pointer was seen last. -/
def LastDrag (inputs : List Input) (first last : PointerEvent) : Prop :=
  ∃ before after, inputs = before ++ .down first :: after ∧ (∀ event, .down event ∉ after) ∧ lastSeen first.pointerId first after = last

/-- The first three points tell the coordinates of the map and of the floor apart. -/
def CalibrationPoint.Spans (calibration : List CalibrationPoint) : Prop :=
  ∃ p0 p1 p2 rest, calibration = p0 :: p1 :: p2 :: rest ∧ p1.vacuum.x ≠ p0.vacuum.x ∧ p1.map.x ≠ p0.map.x ∧
    p2.vacuum.y ≠ p0.vacuum.y ∧ p2.map.y ≠ p0.map.y

namespace View
variable (view : View)

def Calibrated : Prop := ∃ calibration, view.context.bind (·.calibration) = some calibration ∧ CalibrationPoint.Spans calibration

/-- Both points are on the floor, at most half a unit apart in either coordinate. -/
def Near (p q : Point) : Prop :=
  ∃ u v, view.imageToMap p = some u ∧ view.imageToMap q = some v ∧ |u.x-v.x| ≤ 1/2 ∧ |u.y-v.y| ≤ 1/2

/-- What is drawn for a zone once it is stored is the rectangle it was saved from. -/
def Redisplays (drag : Drag) (zone : Zone) : Prop :=
  ∃ drawn shown, drag.draftRect = some drawn ∧ (view.reloaded zone).savedRect = some shown ∧
    view.Near shown.topLeft drawn.topLeft ∧ view.Near shown.bottomRight drawn.bottomRight

/-- Saving sends a zone with an inside, and one that looks as it was drawn. -/
def SavesWell (drag : Drag) : Prop :=
  ∀ zone, view.saveDraft drag = some zone → (zone.minX < zone.maxX ∧ zone.minY < zone.maxY) ∧ view.Redisplays drag zone

/-- Rounding tells the two ends of a drag apart on the floor, in both coordinates. -/
def TellsApart (first last : PointerEvent) : Prop :=
  ∃ p q, view.imageToMap (view.pointerToViewBox first) = some p ∧ view.imageToMap (view.pointerToViewBox last) = some q ∧
    HalfBetween p.x q.x ∧ HalfBetween p.y q.y

end View

section Dragging
variable {view : View} {first last : PointerEvent} {inputs after : List Input}

def View.held (view : View) (first last : PointerEvent) : Drag :=
  ⟨some (spanned (view.pointerToViewBox first) (view.pointerToViewBox last)),some (view.pointerToViewBox first),some first.pointerId⟩

theorem onPointerDown_held : view.onPointerDown first = view.held first first := by
  simp [View.onPointerDown,View.held,spanned]

theorem released_run {drag : Drag} (started : drag.dragStart = none) (active : drag.activePointerId = none)
    (single : ∀ event, .down event ∉ after) : (after.foldl view.handle drag).draftRect = drag.draftRect := by
  induction after generalizing drag with
  | nil => rfl
  | cons input rest ih =>
    have later : ∀ event, .down event ∉ rest := fun event inside => single event (List.mem_cons_of_mem _ inside)
    rw [List.foldl_cons]
    cases input with
    | down event => exact absurd List.mem_cons_self (single event)
    | move event =>
      have ignored : view.handle drag (.move event) = drag := by simp [View.handle,View.onPointerMove,started]
      rw [ignored]
      exact ih started active later
    | up event =>
      have cleared : view.handle drag (.up event) = {drag with dragStart := none, activePointerId := none} := by
        simp [View.handle,View.onPointerUp,active]
      rw [cleared]
      exact ih rfl rfl later

/-- While its pointer is down the draft follows it, and afterwards it stays. -/
theorem held_run (single : ∀ event, .down event ∉ after) : (after.foldl view.handle (view.held first last)).draftRect =
    some (spanned (view.pointerToViewBox first) (view.pointerToViewBox (lastSeen first.pointerId last after))) := by
  induction after generalizing last with
  | nil => rfl
  | cons input rest ih =>
    have later : ∀ event, .down event ∉ rest := fun event inside => single event (List.mem_cons_of_mem _ inside)
    rw [List.foldl_cons]
    cases input with
    | down event => exact absurd List.mem_cons_self (single event)
    | move event =>
      by_cases same : event.pointerId = first.pointerId
      · have followed : view.handle (view.held first last) (.move event) = view.held first event := by
          simp [View.handle,View.onPointerMove,View.held,spanned,same]
        rw [followed,ih later,lastSeen,if_pos same]
      · have ignored : view.handle (view.held first last) (.move event) = view.held first last := by
          simp [View.handle,View.onPointerMove,View.held,Ne.symm same]
        rw [ignored,ih later,lastSeen,if_neg same]
    | up event =>
      by_cases same : event.pointerId = first.pointerId
      · have released : view.handle (view.held first last) (.up event) =
            ⟨some (spanned (view.pointerToViewBox first) (view.pointerToViewBox last)),none,none⟩ := by
          simp [View.handle,View.onPointerUp,View.held,same]
        rw [released,released_run rfl rfl later,lastSeen,if_pos same]
      · have ignored : view.handle (view.held first last) (.up event) = view.held first last := by
          simp [View.handle,View.onPointerUp,View.held,Ne.symm same]
        rw [ignored,ih later,lastSeen,if_neg same]

theorem run_lastDrag (drag : LastDrag inputs first last) :
    (view.run inputs).draftRect = some (spanned (view.pointerToViewBox first) (view.pointerToViewBox last)) := by
  obtain ⟨before,after,rfl,single,rfl⟩ := drag
  rw [View.run,List.foldl_append,List.foldl_cons]
  change (after.foldl view.handle (view.onPointerDown first)).draftRect = _
  rw [onPointerDown_held,held_run single]

theorem lastDrag_or_none : (∀ event, .down event ∉ inputs) ∨ ∃ first last, LastDrag inputs first last := by
  induction inputs with
  | nil => simp
  | cons input rest ih =>
    rcases ih with single | ⟨first,last,before,after,rfl,further⟩
    · cases input with
      | down event => exact Or.inr ⟨event,_,[],rest,rfl,single,rfl⟩
      | move event => exact Or.inl (by simpa using single)
      | up event => exact Or.inl (by simpa using single)
    · exact Or.inr ⟨first,last,input :: before,after,rfl,further⟩

theorem run_none (single : ∀ event, .down event ∉ inputs) : (view.run inputs).draftRect = none :=
  released_run rfl rfl single

end Dragging

section Scaling
variable {view : View} {zone : Zone} {p q : Point}

theorem orElse_ne_zero {value : Option ℚ} {fallback : ℚ} (other : fallback ≠ 0) : orElse value fallback ≠ 0 := by
  unfold orElse
  split
  · split_ifs with zero
    · exact other
    · exact zero
  · exact other

theorem backendCanvas_ne_zero : view.backendCanvasWidth ≠ 0 ∧ view.backendCanvasHeight ≠ 0 := by
  unfold View.backendCanvasWidth View.backendCanvasHeight
  cases view.imageMeta with
  | none => exact ⟨one_ne_zero,one_ne_zero⟩
  | some image =>
    have scale : orElse image.scale 1 ≠ 0 := orElse_ne_zero one_ne_zero
    exact ⟨mul_ne_zero (orElse_ne_zero one_ne_zero) scale,mul_ne_zero (orElse_ne_zero one_ne_zero) scale⟩

theorem backendToDisplay_inj : ((view.backendToDisplay p).x = (view.backendToDisplay q).x → p.x = q.x) ∧
    ((view.backendToDisplay p).y = (view.backendToDisplay q).y → p.y = q.y) := by
  obtain ⟨width,height⟩ := @backendCanvas_ne_zero view
  have across : view.canvasWidth/view.backendCanvasWidth ≠ 0 := div_ne_zero (orElse_ne_zero width) width
  have along : view.canvasHeight/view.backendCanvasHeight ≠ 0 := div_ne_zero (orElse_ne_zero height) height
  exact ⟨mul_right_cancel₀ across,mul_right_cancel₀ along⟩

/-- Two axes that the canvas and the floor have in common. -/
structure View.Axes (view : View) (across along : Axis ℚ) : Prop where
  imageToMap : ∀ point, view.imageToMap point = some ⟨across.place point.x,along.place point.y⟩
  mapToImage : ∀ point, view.mapToImage point = some ⟨across.inverse.place point.x,along.inverse.place point.y⟩

theorem calibrated_axes (calibrated : view.Calibrated) : ∃ across along, view.Axes across along := by
  obtain ⟨calibration,found,p0,p1,p2,rest,rfl,vacuumX,mapX,vacuumY,mapY⟩ := calibrated
  have scaled : view.scaledCalibration = some (⟨p0.vacuum,view.backendToDisplay p0.map⟩ ::
      ⟨p1.vacuum,view.backendToDisplay p1.map⟩ :: ⟨p2.vacuum,view.backendToDisplay p2.map⟩ ::
      rest.map fun item => ⟨item.vacuum,view.backendToDisplay item.map⟩) := by
    rw [View.scaledCalibration,found]
    simp
  have horizontal : (view.backendToDisplay p1.map).x ≠ (view.backendToDisplay p0.map).x := fun same => mapX (backendToDisplay_inj.1 same)
  have vertical : (view.backendToDisplay p2.map).y ≠ (view.backendToDisplay p0.map).y := fun same => mapY (backendToDisplay_inj.2 same)
  refine ⟨⟨_,_,_,_,horizontal,vacuumX⟩,⟨_,_,_,_,vertical,vacuumY⟩,fun point => ?_,fun point => ?_⟩
  · rw [View.imageToMap,scaled]
    rfl
  · rw [View.mapToImage,scaled]
    rfl

theorem reloaded_mapToImage : (view.reloaded zone).mapToImage p = view.mapToImage p := by
  obtain ⟨_,context,_⟩ := view
  cases context <;> rfl

theorem mathRound_eq (x : ℚ) : mathRound x = round x := (round_eq x).symm

theorem spanned_right : (spanned p q).x+(spanned p q).width = max p.x q.x := by
  have extent := max_sub_min_eq_abs p.x q.x
  simp only [spanned]
  linarith

theorem spanned_bottom : (spanned p q).y+(spanned p q).height = max p.y q.y := by
  have extent := max_sub_min_eq_abs p.y q.y
  simp only [spanned]
  linarith

theorem reloaded_savedRect {across along : Axis ℚ} (calibrated : view.Calibrated) (axes : view.Axes across along) :
    (view.reloaded zone).savedRect = some (spanned ⟨across.inverse.place zone.minX,along.inverse.place zone.minY⟩
      ⟨across.inverse.place zone.maxX,along.inverse.place zone.maxY⟩) := by
  obtain ⟨_,found,_⟩ := calibrated
  obtain ⟨context,loaded,_⟩ := Option.bind_eq_some_iff.mp found
  have stored : (view.reloaded zone).context.bind (·.safeZone) = some ⟨zone,none⟩ := by
    rw [View.reloaded,loaded]
    rfl
  rw [View.savedRect,stored]
  unfold View.zoneToDisplayRect
  simp only [reloaded_mapToImage,axes.mapToImage,spanned]

theorem saveDraft_spanned {across along : Axis ℚ} {drag : Drag} (axes : view.Axes across along) (chosen : view.vacuumEntityId ≠ "")
    (drawn : drag.draftRect = some (spanned p q)) : view.saveDraft drag =
      some ⟨round (min (across.place p.x) (across.place q.x)),round (max (across.place p.x) (across.place q.x)),
        round (min (along.place p.y) (along.place q.y)),round (max (along.place p.y) (along.place q.y))⟩ := by
  have horizontal := sorted_image across.place p.x q.x
  have vertical := sorted_image along.place p.y q.y
  rw [View.saveDraft,if_neg chosen,drawn]
  dsimp only
  rw [axes.imageToMap,axes.imageToMap]
  dsimp only
  rw [spanned_right,spanned_bottom,mathRound_eq,mathRound_eq,mathRound_eq,mathRound_eq]
  dsimp only [spanned]
  rw [horizontal.1,horizontal.2,vertical.1,vertical.2]

end Scaling

section Saving
variable {view : View} {p q : Point} {drag : Drag} {zone : Zone}

theorem chosen_of_sent (sent : view.saveDraft drag = some zone) : view.vacuumEntityId ≠ "" := by
  intro empty
  simp [View.saveDraft,empty] at sent

theorem redisplays_spanned (calibrated : view.Calibrated) (drawn : drag.draftRect = some (spanned p q))
    (sent : view.saveDraft drag = some zone) : view.Redisplays drag zone := by
  obtain ⟨across,along,axes⟩ := calibrated_axes calibrated
  rw [saveDraft_spanned axes (chosen_of_sent sent) drawn] at sent
  obtain rfl := Option.some.inj sent
  obtain ⟨left,right⟩ := across.rounded_returns p.x q.x
  obtain ⟨top,bottom⟩ := along.rounded_returns p.y q.y
  refine ⟨_,_,drawn,reloaded_savedRect calibrated axes,?_,?_⟩
  · exact ⟨_,_,axes.imageToMap _,axes.imageToMap _,left,top⟩
  · refine ⟨_,_,axes.imageToMap _,axes.imageToMap _,?_,?_⟩
    · dsimp only [Rect.bottomRight]
      rw [spanned_right,spanned_right]
      exact right
    · dsimp only [Rect.bottomRight]
      rw [spanned_bottom,spanned_bottom]
      exact bottom

/-- Every drag is drawn again as it was. It is saved as a zone with an inside just if rounding tells
its ends apart. -/
theorem saves_well_iff (calibrated : view.Calibrated) (inputs : List Input) : view.SavesWell (view.run inputs) ↔
    (view.vacuumEntityId ≠ "" → ∀ first last, LastDrag inputs first last → view.TellsApart first last) := by
  obtain ⟨across,along,axes⟩ := calibrated_axes calibrated
  constructor
  · intro saves chosen first last dragged
    have drawn : (view.run inputs).draftRect = _ := run_lastDrag dragged
    obtain ⟨⟨horizontal,vertical⟩,_⟩ := saves _ (saveDraft_spanned axes chosen drawn)
    exact ⟨_,_,axes.imageToMap _,axes.imageToMap _,round_min_lt_round_max.mp horizontal,round_min_lt_round_max.mp vertical⟩
  · intro apart zone sent
    rcases lastDrag_or_none with single | ⟨first,last,dragged⟩
    · have nothing : (view.run inputs).draftRect = none := run_none single
      simp [View.saveDraft,nothing] at sent
    · have drawn : (view.run inputs).draftRect = _ := run_lastDrag dragged
      have chosen := chosen_of_sent sent
      refine ⟨?_,redisplays_spanned calibrated drawn sent⟩
      rw [saveDraft_spanned axes chosen drawn] at sent
      obtain rfl := Option.some.inj sent
      obtain ⟨_,_,start,finish,horizontal,vertical⟩ := apart chosen first last dragged
      obtain rfl := Option.some.inj ((axes.imageToMap _).symm.trans start)
      obtain rfl := Option.some.inj ((axes.imageToMap _).symm.trans finish)
      exact ⟨round_min_lt_round_max.mpr horizontal,round_min_lt_round_max.mpr vertical⟩

end Saving

/-- A map at fifty units a pixel with north upwards, on a canvas of twice its size. -/
def northUp : View where
  vacuumEntityId := "vacuum.robot"
  context := some {
    imageMeta := some ⟨some 200,some 400,some 1⟩
    calibration := some [⟨⟨25000,25000⟩,⟨0,400⟩⟩,⟨⟨35000,25000⟩,⟨200,400⟩⟩,⟨⟨25000,35000⟩,⟨0,200⟩⟩]
    safeZone := none}
  imageNaturalSize := some ⟨400,800⟩

theorem northUp_calibrated : northUp.Calibrated :=
  ⟨_,rfl,_,_,_,_,rfl,by norm_num,by norm_num,by norm_num,by norm_num⟩

def pointerAt (x y : ℚ) : PointerEvent := ⟨1,x,y,0,0,400,800,by norm_num,by norm_num⟩

theorem lastDrag_once {start finish first last : PointerEvent} (same : finish.pointerId = start.pointerId)
    (dragged : LastDrag [.down start,.move finish,.up finish] first last) : first = start ∧ last = finish := by
  obtain ⟨before,after,parts,_,seen⟩ := dragged
  cases before with
  | nil =>
    obtain ⟨rfl,rfl⟩ := by simpa using parts
    rw [lastSeen,if_pos same,lastSeen,if_pos same] at seen
    exact ⟨rfl,seen.symm⟩
  | cons input rest =>
    have inside : Input.down first ∈ [Input.move finish,Input.up finish] := by
      rw [(List.cons.inj parts).2]
      simp
    simp at inside

theorem northUp_saves_well : northUp.SavesWell (northUp.run
    [.down (pointerAt 100 300),.move (pointerAt 160 340),.up (pointerAt 160 340)]) := by
  refine (saves_well_iff northUp_calibrated _).mpr fun _ first last dragged => ?_
  have same : (pointerAt 160 340).pointerId = (pointerAt 100 300).pointerId := rfl
  obtain ⟨rfl,rfl⟩ := lastDrag_once same dragged
  have start : northUp.imageToMap (northUp.pointerToViewBox (pointerAt 100 300)) = some ⟨27500,37500⟩ := by decide +kernel
  have finish : northUp.imageToMap (northUp.pointerToViewBox (pointerAt 160 340)) = some ⟨29000,36500⟩ := by decide +kernel
  exact ⟨_,_,start,finish,⟨28000,by norm_num,by norm_num⟩,⟨37000,by norm_num,by norm_num⟩⟩

/-- A click without a drag sends a zone that has neither width nor height. -/
theorem northUp_click : northUp.Calibrated ∧
    northUp.saveDraft (northUp.run [.down (pointerAt 100 300),.up (pointerAt 100 300)]) = some ⟨27500,27500,37500,37500⟩ ∧
      ¬ northUp.SavesWell (northUp.run [.down (pointerAt 100 300),.up (pointerAt 100 300)]) := by
  have sent : northUp.saveDraft (northUp.run [.down (pointerAt 100 300),.up (pointerAt 100 300)]) = some ⟨27500,27500,37500,37500⟩ := by
    decide +kernel
  exact ⟨northUp_calibrated,sent,fun saves => absurd (saves _ sent).1.1 (lt_irrefl _)⟩

end ZoneEditor
end RoborockPlus
