import RoborockPlus.MapPatch
import RoborockPlus.Python
import Mathlib.Data.Int.Log

/-! The map image drawn again with the robot where it is. The promise is that whatever goes wrong on
the way leaves the image of the library, so every exception that can leave the functions is modelled. -/
namespace RoborockPlus
open Binary MapRender

namespace PyFloat

/-- The nearest integer, and the even one of two. -/
def nearestEven (q : ℚ) : ℤ :=
  if q-⌊q⌋ < 1/2 ∨ q-⌊q⌋ = 1/2 ∧ ⌊q⌋ % 2 = 0 then ⌊q⌋ else ⌊q⌋+1

/-- The double that arithmetic gives for an exact result. -/
def rounded (q : ℚ) : PyFloat :=
  let ulp : ℚ := 2^max (Int.log 2 |q|-52) (-1074)
  let nearest := nearestEven (q/ulp)*ulp
  if 2^1024 ≤ |nearest| then .infinite (decide (q < 0)) else .finite nearest

def sub : PyFloat → PyFloat → PyFloat
  | .nan,_ | _,.nan => .nan
  | .finite a,.finite b => rounded (a-b)
  | .infinite s,.infinite t => if s = t then .nan else .infinite s
  | .infinite s,.finite _ => .infinite s
  | .finite _,.infinite t => .infinite (!t)

def add : PyFloat → PyFloat → PyFloat
  | .nan,_ | _,.nan => .nan
  | .finite a,.finite b => rounded (a+b)
  | .infinite s,.infinite t => if s = t then .infinite s else .nan
  | .infinite s,.finite _ => .infinite s
  | .finite _,.infinite t => .infinite t

/-- `x ** 2`, which raises when the square of a finite number is too large. -/
def square : PyFloat → Except Failure PyFloat
  | .finite a =>
    match rounded (a^2) with
    | .infinite _ => .error .overflow
    | squared => .ok squared
  | .infinite _ => .ok (.infinite false)
  | .nan => .ok .nan

/-- `int(x)`. -/
def toInt : PyFloat → Except Failure ℤ
  | .finite q => .ok (q.num.tdiv q.den)
  | .infinite _ => .error .overflow
  | .nan => .error .other

end PyFloat

namespace MapImage

/-- The root of a sum of squares is at most fifty when the sum is at most its square. -/
def withinTolerance : PyFloat → Bool
  | .finite sum => decide (sum ≤ 50^2)
  | _ => false

def samePosition (drawn resolved : PyFloat × PyFloat) : Except Failure Bool := do
  let across ← (drawn.1.sub resolved.1).square
  let along ← (drawn.2.sub resolved.2).square
  return withinTolerance (across.add along)

def toInts (position : PyFloat × PyFloat) : Except Failure (ℤ × ℤ) := do
  let x ← position.1.toInt
  let y ← position.2.toInt
  return (x,y)

def renderPosition (drawn : Option (PyFloat × PyFloat)) (resolvedX resolvedY : Option PyFloat) (trusted fromDock : Bool) :
    Except Failure (Option (ℤ × ℤ)) :=
  match trusted,resolvedX,resolvedY with
  | true,some x,some y =>
    match drawn with
    | none => (toInts (x,y)).map some
    | some drawn =>
      if fromDock then do
        if ← samePosition drawn (x,y) then return none
        (toInts (x,y)).map some
      else .ok none
  | _,_,_ => .ok none

/-- What `parse` does with map bytes. An object has an image, none, or a property that raises in its place. -/
inductive Parsed
  | raises
  | object (imageContent : Except Failure (Option Bytes))

/-- The verification of the write: both numbers as they were meant. -/
def verified (written : Option (ℚ × ℚ)) (x y : ℤ) : Bool :=
  decide (written.map (fun place => (place.1.num.tdiv place.1.den,place.2.num.tdiv place.2.den)) = some (x,y))

def parsedImage : Parsed → Except Failure (Option Bytes)
  | .raises => .ok none
  | .object imageContent => imageContent.map fun image => image.filter (· ≠ [])

def correctedImage (gzip : Gzip) (parse : Bytes → Parsed) (raw : Bytes) (x y : ℤ) : Except Failure (Option Bytes) := do
  match ← patchRobotPosition gzip raw x y with
  | none => return none
  | some patched =>
    let written ← readRobotPosition gzip patched
    if verified written x y then parsedImage (parse patched) else return none

def rerenderMapImage (gzip : Gzip) (parse : Bytes → Parsed) (raw : Option Bytes) (drawn : Option (PyFloat × PyFloat))
    (resolvedX resolvedY : Option PyFloat) (trusted fromDock : Bool) : Except Failure (Option Bytes) := do
  let target ← renderPosition drawn resolvedX resolvedY trusted fromDock
  match target,raw with
  | some (x,y),some raw => correctedImage gzip parse raw x y
  | _,_ => return none

/-- The bytes as they came: in the wrapper, when they had one. -/
def rewrap (gzip : Gzip) (raw patched : Bytes) : Bytes := if raw.take 2 = gzipMagic then gzip.compress patched else patched

/-- An image that `parse` made from a map in which nothing but the position is another. -/
def Corrected (gzip : Gzip) (parse : Bytes → Parsed) (raw : Bytes) (x y : ℤ) (image : Bytes) : Prop :=
  image ≠ [] ∧ ∃ unwrapped patched, gzipUnwrap gzip raw = .ok (some unwrapped) ∧ Intact unwrapped patched x y ∧
    patchRobotPosition gzip raw x y = .ok (some (rewrap gzip raw patched)) ∧ parse (rewrap gzip raw patched) = .object (.ok (some image))

/-- The bytes with the position written into them. -/
def rewritten (unwrapped : Bytes) (x y : ℤ) : Option Bytes :=
  (findRobotPositionBlock unwrapped).map fun found => overwrite unwrapped found.1 (found.1+8) (positionCode x y)

/-- What must be so for bytes into which a position is to be written. -/
structure Patchable (gzip : Gzip) (parse : Bytes → Parsed) (raw : Bytes) (x y : ℤ) : Prop where
  gunzips : raw.take 2 = gzipMagic → ∀ failure, gzip.decompress raw = .error failure → failure = .osError
  fits : ∀ unwrapped, gzipUnwrap gzip raw = .ok (some unwrapped) → (findRobotPositionBlock unwrapped).isSome → Fits 4 x ∧ Fits 4 y
  parses : ∀ unwrapped, gzipUnwrap gzip raw = .ok (some unwrapped) → ∀ patched ∈ rewritten unwrapped x y,
    readUnwrapped patched = some ((x : ℚ),(y : ℚ)) → ∃ image, parsedImage (parse (rewrap gzip raw patched)) = .ok image ∧
      (image.isSome → HeaderKept unwrapped x y)

section Correcting
variable {gzip : Gzip} {parse : Bytes → Parsed} {raw unwrapped patched : Bytes} {x y : ℤ}

theorem verified_iff : verified (readUnwrapped patched) x y = true ↔ readUnwrapped patched = some ((x : ℚ),(y : ℚ)) := by
  have whole (n : ℤ) : ((n : ℚ).num.tdiv (n : ℚ).den : ℤ) = n := by simp
  unfold verified readUnwrapped
  rw [decide_eq_true_eq]
  cases findRobotPositionBlock patched with
  | none => simp
  | some found => simp only [Option.map_some,whole,Option.some.injEq,Prod.mk.injEq,Int.cast_inj]

theorem parsedImage_some {parsed : Parsed} {image : Bytes} (made : parsedImage parsed = .ok (some image)) :
    image ≠ [] ∧ parsed = .object (.ok (some image)) := by
  cases parsed with
  | raises => exact nomatch Except.ok.inj made
  | object content =>
    cases content with
    | error failure => exact nomatch made
    | ok content =>
      have kept := Except.ok.inj made
      cases content with
      | none => exact nomatch kept
      | some bytes =>
        dsimp only at kept
        rw [Option.filter_some] at kept
        split_ifs at kept with full
        obtain rfl := Option.some.inj kept
        exact ⟨by simpa using full,rfl⟩

theorem unwraps_rewrap (inverse : ∀ bytes, gzip.decompress (gzip.compress bytes) = .ok bytes)
    (marked : ∀ bytes, (gzip.compress bytes).take 2 = gzipMagic) (same : raw.take 2 ≠ gzipMagic → patched.take 2 ≠ gzipMagic) :
    gzipUnwrap gzip (rewrap gzip raw patched) = .ok (some patched) := by
  unfold rewrap gzipUnwrap
  by_cases wrapped : raw.take 2 = gzipMagic
  · rw [if_pos wrapped,if_pos (marked patched),inverse]
  · rw [if_neg wrapped,if_neg (same wrapped)]

theorem patch_misfit {start size : ℕ} (carried : gzipUnwrap gzip raw = .ok (some unwrapped))
    (located : findRobotPositionBlock unwrapped = some (start,size)) (misfit : ¬ (Fits 4 x ∧ Fits 4 y)) :
    patchRobotPosition gzip raw x y = .error .overflow := by
  have failed : writePosition unwrapped start x y = .error .overflow := by
    unfold writePosition toSigned
    by_cases across : Fits 4 x
    · rw [if_pos across,if_neg (fun along => misfit ⟨across,along⟩)]
    · rw [if_neg across]
  unfold patchRobotPosition
  simp only [carried,bind,Except.bind,located,failed]

theorem unwrap_cases : (∃ failure, failure ≠ .osError ∧ raw.take 2 = gzipMagic ∧ gzip.decompress raw = .error failure ∧
      gzipUnwrap gzip raw = .error failure) ∨
    (raw.take 2 = gzipMagic → ∀ failure, gzip.decompress raw = .error failure → failure = .osError) ∧
      ∃ unwrapped, gzipUnwrap gzip raw = .ok unwrapped := by
  unfold gzipUnwrap
  by_cases wrapped : raw.take 2 = gzipMagic
  · rw [if_pos wrapped]
    cases read : gzip.decompress raw with
    | ok bytes => exact Or.inr ⟨fun _ _ => (nomatch ·),_,rfl⟩
    | error failure =>
      cases failure with
      | osError => exact Or.inr ⟨fun _ failure same => (Except.error.inj same).symm,_,rfl⟩
      | other => exact Or.inl ⟨.other,by decide,wrapped,rfl,rfl⟩
      | overflow => exact Or.inl ⟨.overflow,by decide,wrapped,rfl,rfl⟩
  · rw [if_neg wrapped]
    exact Or.inr ⟨fun marked => absurd marked wrapped,_,rfl⟩

theorem correctedImage_written (inverse : ∀ bytes, gzip.decompress (gzip.compress bytes) = .ok bytes)
    (marked : ∀ bytes, (gzip.compress bytes).take 2 = gzipMagic) {start size : ℕ} (carried : gzipUnwrap gzip raw = .ok (some unwrapped))
    (located : findRobotPositionBlock unwrapped = some (start,size)) (across : Fits 4 x) (along : Fits 4 y) :
    patchRobotPosition gzip raw x y = .ok (some (rewrap gzip raw (overwrite unwrapped start (start+8) (positionCode x y)))) ∧
    correctedImage gzip parse raw x y =
      if readUnwrapped (overwrite unwrapped start (start+8) (positionCode x y)) = some ((x : ℚ),(y : ℚ)) then
        parsedImage (parse (rewrap gzip raw (overwrite unwrapped start (start+8) (positionCode x y)))) else .ok none := by
  have plain : raw.take 2 ≠ gzipMagic → (overwrite unwrapped start (start+8) (positionCode x y)).take 2 ≠ gzipMagic := by
    intro unmarked
    rw [take_two_overwrite located]
    rw [gzipUnwrap,if_neg unmarked] at carried
    obtain rfl := Option.some.inj (Except.ok.inj carried)
    exact unmarked
  have patch : patchRobotPosition gzip raw x y = .ok (some (rewrap gzip raw (overwrite unwrapped start (start+8) (positionCode x y)))) := by
    rw [patch_unwrapped carried across along,located]
    rfl
  have read := readRobotPosition_unwrapped (unwraps_rewrap inverse marked plain)
  refine ⟨patch,?_⟩
  unfold correctedImage
  simp only [patch,read,bind,Except.bind]
  by_cases same : readUnwrapped (overwrite unwrapped start (start+8) (positionCode x y)) = some ((x : ℚ),(y : ℚ))
  · rw [if_pos same,if_pos (verified_iff.mpr same)]
  · rw [if_neg same,if_neg (fun verified => same (verified_iff.mp verified))]
    rfl

theorem rewrap_injective (inverse : ∀ bytes, gzip.decompress (gzip.compress bytes) = .ok bytes) {other : Bytes}
    (same : rewrap gzip raw patched = rewrap gzip raw other) : patched = other := by
  unfold rewrap at same
  split_ifs at same
  · have both := congrArg gzip.decompress same
    rw [inverse,inverse] at both
    exact Except.ok.inj both
  · exact same

/-- Where the position is found and fits, the map is patched as intended exactly when its header is kept. -/
theorem corrected_written_iff (inverse : ∀ bytes, gzip.decompress (gzip.compress bytes) = .ok bytes)
    (marked : ∀ bytes, (gzip.compress bytes).take 2 = gzipMagic)
    (gunzips : raw.take 2 = gzipMagic → ∀ failure, gzip.decompress raw = .error failure → failure = .osError)
    {start size : ℕ} (carried : gzipUnwrap gzip raw = .ok (some unwrapped))
    (located : findRobotPositionBlock unwrapped = some (start,size)) (across : Fits 4 x) (along : Fits 4 y) :
    (∃ result, correctedImage gzip parse raw x y = .ok result ∧ ∀ image ∈ result, Corrected gzip parse raw x y image) ↔
      Patchable gzip parse raw x y := by
  obtain ⟨patch,made⟩ := @correctedImage_written gzip parse raw unwrapped x y inverse marked start size carried located across along
  have same {other : Bytes} (here : gzipUnwrap gzip raw = .ok (some other)) : unwrapped = other :=
    Option.some.inj (Except.ok.inj (carried.symm.trans here))
  have target {patched : Bytes} (written : patched ∈ rewritten unwrapped x y) :
      overwrite unwrapped start (start+8) (positionCode x y) = patched := by
    rw [rewritten,located] at written
    exact Option.some.inj written
  rw [made]
  by_cases reads : readUnwrapped (overwrite unwrapped start (start+8) (positionCode x y)) = some ((x : ℚ),(y : ℚ))
  · rw [if_pos reads]
    constructor
    · rintro ⟨result,made,all⟩
      refine ⟨gunzips,fun _ _ _ => ⟨across,along⟩,fun other here patched written _ => ⟨result,?_,fun drawn => ?_⟩⟩
      · obtain rfl := same here
        obtain rfl := target written
        exact made
      · obtain rfl := same here
        obtain ⟨image,there⟩ := Option.isSome_iff_exists.mp drawn
        obtain ⟨_,other,patched,carried,intact,patch',_⟩ := all image there
        obtain rfl := same carried
        obtain rfl := rewrap_injective inverse (Option.some.inj (Except.ok.inj (patch.symm.trans patch')))
        exact kept_of_intact located intact
    · intro patchable
      have written : overwrite unwrapped start (start+8) (positionCode x y) ∈ rewritten unwrapped x y := by
        rw [rewritten,located]
        rfl
      obtain ⟨result,made,kept⟩ := patchable.parses unwrapped carried _ written reads
      refine ⟨result,made,fun image here => ?_⟩
      obtain rfl : result = some image := here
      obtain ⟨full,parsed⟩ := parsedImage_some made
      exact ⟨full,unwrapped,_,carried,intact_of_kept across along located (kept rfl),patch,parsed⟩
  · rw [if_neg reads]
    refine ⟨fun _ => ⟨gunzips,fun _ _ _ => ⟨across,along⟩,fun other here patched written read => ?_⟩,
      fun _ => ⟨none,rfl,fun image here => (nomatch here)⟩⟩
    obtain rfl := same here
    obtain rfl := target written
    exact absurd read reads

theorem corrected_unfound (carried : ∃ unwrapped, gzipUnwrap gzip raw = .ok unwrapped ∧ ∀ bytes ∈ unwrapped, findRobotPositionBlock bytes = none)
    (gunzips : raw.take 2 = gzipMagic → ∀ failure, gzip.decompress raw = .error failure → failure = .osError) :
    correctedImage gzip parse raw x y = .ok none ∧ Patchable gzip parse raw x y := by
  obtain ⟨unwrapped,carried,unfound⟩ := carried
  have same {other : Bytes} (here : gzipUnwrap gzip raw = .ok (some other)) : findRobotPositionBlock other = none :=
    unfound other (Except.ok.inj (carried.symm.trans here))
  constructor
  · unfold correctedImage patchRobotPosition
    cases unwrapped with
    | none =>
      simp only [carried,bind,Except.bind]
      rfl
    | some unwrapped =>
      simp only [carried,unfound unwrapped rfl,bind,Except.bind]
      rfl
  · refine ⟨gunzips,fun other here found => ?_,fun other here patched written => ?_⟩
    · rw [same here] at found
      exact nomatch found
    · rw [rewritten,same here] at written
      exact nomatch written

/-- Bytes become the image of a map patched as intended, or are left, exactly when they are patchable. -/
theorem corrected_iff (inverse : ∀ bytes, gzip.decompress (gzip.compress bytes) = .ok bytes)
    (marked : ∀ bytes, (gzip.compress bytes).take 2 = gzipMagic) :
    (∃ result, correctedImage gzip parse raw x y = .ok result ∧ ∀ image ∈ result, Corrected gzip parse raw x y image) ↔
      Patchable gzip parse raw x y := by
  rcases @unwrap_cases gzip raw with ⟨failure,uncaught,wrapped,read,raised⟩ | ⟨gunzips,unwrapped,carried⟩
  · have failed : correctedImage gzip parse raw x y = .error failure := by
      simp only [correctedImage,patchRobotPosition,raised,bind,Except.bind]
    rw [failed]
    exact ⟨fun ⟨result,made,_⟩ => (nomatch made),fun patchable => absurd (patchable.gunzips wrapped failure read) uncaught⟩
  · by_cases found : ∀ bytes ∈ unwrapped, findRobotPositionBlock bytes = none
    · obtain ⟨left,patchable⟩ := @corrected_unfound gzip parse raw x y ⟨unwrapped,carried,found⟩ gunzips
      exact ⟨fun _ => patchable,fun _ => ⟨none,left,fun image here => (nomatch here)⟩⟩
    · push Not at found
      obtain ⟨bytes,rfl,found⟩ := found
      obtain ⟨⟨start,size⟩,located⟩ := Option.ne_none_iff_exists'.mp found
      by_cases fits : Fits 4 x ∧ Fits 4 y
      · exact corrected_written_iff inverse marked gunzips carried located fits.1 fits.2
      · have failed : correctedImage gzip parse raw x y = .error .overflow := by
          simp only [correctedImage,patch_misfit carried located fits,bind,Except.bind]
        rw [failed]
        exact ⟨fun ⟨result,made,_⟩ => (nomatch made),fun patchable => absurd (patchable.fits bytes carried (by simp [located])) fits⟩

end Correcting

/-- A position to be drawn: it is known, and the image shows none or, for a robot on the dock, another. -/
structure Wanted (drawn : Option (PyFloat × PyFloat)) (resolvedX resolvedY : Option PyFloat) (trusted fromDock : Bool) (x y : ℤ) : Prop where
  trusted : trusted = true
  resolved : ∃ across along, resolvedX = some across ∧ resolvedY = some along ∧ across.toInt = .ok x ∧ along.toInt = .ok y ∧
    ∀ place ∈ drawn, fromDock = true ∧ samePosition place (across,along) = .ok false

/-- The numbers can be worked with: the squares of the differences are no larger than floats
can be, and what is to be drawn is finite. -/
def Computable (drawn : Option (PyFloat × PyFloat)) (resolvedX resolvedY : Option PyFloat) (trusted fromDock : Bool) : Prop :=
  trusted = true → ∀ across ∈ resolvedX, ∀ along ∈ resolvedY,
    (∀ place ∈ drawn, fromDock = true → ∃ same, samePosition place (across,along) = .ok same) ∧
    ((∀ place ∈ drawn, fromDock = true ∧ samePosition place (across,along) = .ok false) → ∃ x y, across.toInt = .ok x ∧ along.toInt = .ok y)

section Rendering
variable {drawn : Option (PyFloat × PyFloat)} {resolvedX resolvedY : Option PyFloat} {trusted fromDock : Bool} {x y : ℤ}

theorem toInts_ok {across along : PyFloat} {target : ℤ × ℤ} :
    toInts (across,along) = .ok target ↔ across.toInt = .ok target.1 ∧ along.toInt = .ok target.2 := by
  obtain ⟨x,y⟩ := target
  unfold toInts
  dsimp only [bind,Except.bind]
  cases across.toInt <;> cases along.toInt <;> simp [pure,Except.pure]

theorem renderPosition_known {across along : PyFloat} : renderPosition drawn (some across) (some along) true fromDock =
    match drawn with
    | none => (toInts (across,along)).map some
    | some place => if fromDock then do
        if ← samePosition place (across,along) then return none
        (toInts (across,along)).map some
      else .ok none := rfl

theorem renderPosition_unknown (unknown : ¬ (trusted = true ∧ resolvedX.isSome ∧ resolvedY.isSome)) :
    renderPosition drawn resolvedX resolvedY trusted fromDock = .ok none := by
  unfold renderPosition
  cases trusted <;> cases resolvedX <;> cases resolvedY <;> first | rfl | exact absurd ⟨rfl,rfl,rfl⟩ unknown

theorem renderPosition_cases : (∃ across along, trusted = true ∧ resolvedX = some across ∧ resolvedY = some along) ∨
    ¬ (trusted = true ∧ resolvedX.isSome ∧ resolvedY.isSome) ∧ renderPosition drawn resolvedX resolvedY trusted fromDock = .ok none := by
  by_cases known : trusted = true ∧ resolvedX.isSome ∧ resolvedY.isSome
  · obtain ⟨sure,hasX,hasY⟩ := known
    obtain ⟨across,here⟩ := Option.isSome_iff_exists.mp hasX
    obtain ⟨along,there⟩ := Option.isSome_iff_exists.mp hasY
    exact Or.inl ⟨across,along,sure,here,there⟩
  · exact Or.inr ⟨known,renderPosition_unknown known⟩

theorem toInts_map {across along : PyFloat} :
    (toInts (across,along)).map some = .ok (some (x,y)) ↔ across.toInt = .ok x ∧ along.toInt = .ok y := by
  rw [← @toInts_ok _ _ (x,y)]
  cases toInts (across,along) <;> simp [Except.map]

theorem toInts_returns {across along : PyFloat} :
    (∃ target, (toInts (across,along)).map some = .ok target) ↔ ∃ x y, across.toInt = .ok x ∧ along.toInt = .ok y := by
  constructor
  · rintro ⟨target,returned⟩
    cases made : toInts (across,along) with
    | error failure => simp [made,Except.map] at returned
    | ok target => exact ⟨target.1,target.2,toInts_ok.mp made⟩
  · rintro ⟨x,y,both⟩
    exact ⟨_,toInts_map.mpr both⟩

theorem renderPosition_wanted : renderPosition drawn resolvedX resolvedY trusted fromDock = .ok (some (x,y)) ↔
    Wanted drawn resolvedX resolvedY trusted fromDock x y := by
  rcases @renderPosition_cases drawn resolvedX resolvedY trusted fromDock with ⟨across,along,rfl,rfl,rfl⟩ | ⟨known,left⟩
  · have wanted : Wanted drawn (some across) (some along) true fromDock x y ↔ (across.toInt = .ok x ∧ along.toInt = .ok y) ∧
        ∀ place ∈ drawn, fromDock = true ∧ samePosition place (across,along) = .ok false := by
      constructor
      · rintro ⟨_,_,_,⟨⟩,⟨⟩,wide,long,moved⟩
        exact ⟨⟨wide,long⟩,moved⟩
      · rintro ⟨⟨wide,long⟩,moved⟩
        exact ⟨rfl,across,along,rfl,rfl,wide,long,moved⟩
    rw [wanted,renderPosition_known]
    cases drawn with
    | none => simp [toInts_map]
    | some place =>
      cases fromDock with
      | false => simp
      | true =>
        cases compared : samePosition place (across,along) with
        | error failure => simp [compared,bind,Except.bind]
        | ok same => cases same <;> simp [compared,bind,Except.bind,pure,Except.pure,toInts_map]
  · rw [left]
    constructor
    · exact fun target => (nomatch target)
    · rintro ⟨rfl,across,along,rfl,rfl,_⟩
      exact absurd ⟨rfl,rfl,rfl⟩ known

theorem renderPosition_returns : (∃ target, renderPosition drawn resolvedX resolvedY trusted fromDock = .ok target) ↔
    Computable drawn resolvedX resolvedY trusted fromDock := by
  rcases @renderPosition_cases drawn resolvedX resolvedY trusted fromDock with ⟨across,along,rfl,rfl,rfl⟩ | ⟨known,left⟩
  · have computable : Computable drawn (some across) (some along) true fromDock ↔
        (∀ place ∈ drawn, fromDock = true → ∃ same, samePosition place (across,along) = .ok same) ∧
        ((∀ place ∈ drawn, fromDock = true ∧ samePosition place (across,along) = .ok false) →
          ∃ x y, across.toInt = .ok x ∧ along.toInt = .ok y) := by
      simp [Computable]
    rw [computable,renderPosition_known]
    cases drawn with
    | none => simp [toInts_returns]
    | some place =>
      cases fromDock with
      | false => simp
      | true =>
        cases compared : samePosition place (across,along) with
        | error failure => simp [compared,bind,Except.bind]
        | ok same => cases same <;> simp [compared,bind,Except.bind,pure,Except.pure,toInts_returns]
  · rw [left]
    refine ⟨fun _ trusted across hasX along hasY => absurd ⟨trusted,?_,?_⟩ known,fun _ => ⟨none,rfl⟩⟩
    · exact Option.isSome_of_mem hasX
    · exact Option.isSome_of_mem hasY

end Rendering

section Rerendering
variable {gzip : Gzip} {parse : Bytes → Parsed} {raw : Option Bytes} {drawn : Option (PyFloat × PyFloat)}
  {resolvedX resolvedY : Option PyFloat} {trusted fromDock : Bool}

/-- The image is left or drawn again from a map patched as intended, and nothing is raised,
exactly when the numbers can be worked with and the bytes patched. -/
theorem rerendered_iff_patchable (inverse : ∀ bytes, gzip.decompress (gzip.compress bytes) = .ok bytes)
    (marked : ∀ bytes, (gzip.compress bytes).take 2 = gzipMagic) :
    (∃ result, rerenderMapImage gzip parse raw drawn resolvedX resolvedY trusted fromDock = .ok result ∧
        ∀ image ∈ result, ∃ bytes ∈ raw, ∃ x y, Wanted drawn resolvedX resolvedY trusted fromDock x y ∧ Corrected gzip parse bytes x y image) ↔
      Computable drawn resolvedX resolvedY trusted fromDock ∧
        ∀ x y, Wanted drawn resolvedX resolvedY trusted fromDock x y → ∀ bytes ∈ raw, Patchable gzip parse bytes x y := by
  rw [← renderPosition_returns]
  unfold rerenderMapImage
  cases rendered : renderPosition drawn resolvedX resolvedY trusted fromDock with
  | error failure => simp [bind,Except.bind]
  | ok target =>
    have wanted {x y : ℤ} : Wanted drawn resolvedX resolvedY trusted fromDock x y ↔ target = some (x,y) := by
      rw [← renderPosition_wanted,rendered,Except.ok.injEq]
    simp only [bind,Except.bind,wanted]
    cases target with
    | none => simp [pure,Except.pure]
    | some place =>
      cases raw with
      | none => simp [pure,Except.pure]
      | some bytes =>
        obtain ⟨x,y⟩ := place
        have corrected := @corrected_iff gzip parse bytes x y inverse marked
        have single {motive : ℤ → ℤ → Prop} : (∃ a b, (x = a ∧ y = b) ∧ motive a b) ↔ motive x y := by simp
        have every {motive : ℤ → ℤ → Prop} : (∀ a b, x = a → y = b → motive a b) ↔ motive x y := by simp
        simpa only [Option.mem_def,Option.some.injEq,Prod.mk.injEq,exists_eq_left',forall_eq',and_imp,single,every,
          Except.ok.injEq,exists_eq',true_and] using corrected

/-- The wrapper with one byte for the rest of the header, without which the data are cut off. -/
def briefGzip : Gzip where
  compress bytes := gzipMagic ++ 8 :: bytes
  decompress raw := match raw.drop 2 with | [] => .error .other | _ :: bytes => .ok bytes

def onePixel : Bytes → Parsed := fun _ => .object (.ok (some [1]))

theorem shortHeader_drawn : ∃ result, rerenderMapImage briefGzip onePixel (some shortHeader) none (some (.finite (19/2))) (some (.finite 0)) true true = .ok result ∧
    ∀ image ∈ result, ∃ bytes ∈ some shortHeader, ∃ x y, Wanted none (some (.finite (19/2))) (some (.finite 0)) true true x y ∧
      Corrected briefGzip onePixel bytes x y image := by
  have plain : gzipUnwrap briefGzip shortHeader = .ok (some shortHeader) := rfl
  refine (rerendered_iff_patchable (fun _ => rfl) (fun _ => rfl)).mpr ⟨fun _ across hasX along hasY => ?_,fun x y wanted bytes given => ?_⟩
  · obtain rfl := Option.some.inj hasX
    obtain rfl := Option.some.inj hasY
    exact ⟨fun place here => (nomatch here),fun _ => ⟨_,_,rfl,rfl⟩⟩
  · obtain rfl := Option.some.inj given
    obtain ⟨_,_,_,⟨⟩,⟨⟩,across,along,_⟩ := wanted
    have wide : (PyFloat.finite (19/2)).toInt = .ok 9 := by decide +kernel
    obtain rfl := Except.ok.inj (wide.symm.trans across)
    obtain rfl : 0 = y := Except.ok.inj along
    refine ⟨fun wrapped => absurd wrapped (by decide),fun _ _ _ => by decide,fun unwrapped here patched _ _ => ⟨some [1],rfl,fun _ => ?_⟩⟩
    obtain rfl := Option.some.inj (Except.ok.inj (plain.symm.trans here))
    exact shortHeader_headerKept

/-- Bytes that end inside the wrapper, a coordinate too large for the map, and one that is no number. -/
theorem failures_raised : (∀ bytes, briefGzip.decompress (briefGzip.compress bytes) = .ok bytes) ∧
    (∀ bytes, (briefGzip.compress bytes).take 2 = gzipMagic) ∧
    rerenderMapImage briefGzip onePixel (some gzipMagic) none (some (.finite 0)) (some (.finite 0)) true true = .error .other ∧
    rerenderMapImage briefGzip onePixel (some shortHeader) none (some (.finite (2^31))) (some (.finite 0)) true true = .error .overflow ∧
    rerenderMapImage briefGzip onePixel none none (some .nan) (some (.finite 0)) true true = .error .other := by
  have plain : gzipUnwrap briefGzip shortHeader = .ok (some shortHeader) := rfl
  have misfit : patchRobotPosition briefGzip shortHeader (2^31) 0 = .error .overflow := patch_misfit plain shortHeader_found (by decide)
  refine ⟨fun _ => rfl,fun _ => rfl,rfl,?_,rfl⟩
  have target : renderPosition none (some (.finite (2^31))) (some (.finite 0)) true true = .ok (some (2^31,0)) := rfl
  simp only [rerenderMapImage,correctedImage,target,misfit,bind,Except.bind]

end Rerendering

end MapImage

end RoborockPlus
