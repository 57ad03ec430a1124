import RoborockPlus.MapImage
import RoborockPlus.World

/-! The image entities of the maps. A call reads the content of its own map and the position that
the coordinator resolves from the active one, and the event loop goes on while the map is drawn. -/
namespace RoborockPlus
open Binary MapRender

namespace MapImage

/-- A response is an object. When it is freed its identity may become that of another. -/
structure RawResponse where
  identity : ℕ
  bytes : Bytes

structure MapContent where
  rawApiResponse : Option RawResponse
  imageContent : Option Bytes
  mapData : Option MapData

namespace MapContent
variable (content : MapContent)

def drawn : Option (PyFloat × PyFloat) := (content.mapData.bind (·.vacuumPosition)).map fun place => (place.x,place.y)

def raw : Option Bytes := content.rawApiResponse.map (·.bytes)

/-- All of the content that an image can depend on. -/
def shown : Option Bytes × Option Bytes × Option (PyFloat × PyFloat) := (content.raw,content.imageContent,content.drawn)

end MapContent

structure CacheKey where
  identity : Option ℕ
  drawn : Option (PyFloat × PyFloat)
  x : Option PyFloat
  y : Option PyFloat
  trusted : Bool
  fromDock : Bool
deriving DecidableEq

/-- What a call of `async_image` has read, and which map was the active one. -/
structure Call where
  flag : ℕ
  content : MapContent
  resolved : ResolvedPosition
  active : ℕ

def Call.cacheKey (call : Call) : CacheKey :=
  ⟨call.content.rawApiResponse.map (·.identity),call.content.drawn,call.resolved.position.map (·.x),call.resolved.position.map (·.y),
    call.resolved.trusted,call.resolved.fromDock⟩

/-- The stored maps, the coordinator with the active one, and the entities. The calls whose
corrections were kept are listed for the statements only, the last one first. -/
structure Gallery where
  homeMapContent : ℕ → Option MapContent
  coordinator : Coordinator
  utc : ℚ
  activeMap : ℕ
  correctedCache : ℕ → Option (CacheKey × Bytes) := fun _ => none
  pending : List Call := []
  corrected : List Call := []

inductive Action
  | updates (homeMapContent : ℕ → Option MapContent) (coordinator : Coordinator) (utc : ℚ) (activeMap : ℕ)
  | asks (flag : ℕ)
  | finishes (job : ℕ)

/-- How a call ends, if one does. -/
inductive Outcome
  | nothing
  | raised (flag : ℕ)
  | returned (flag : ℕ) (image : Option Bytes)

section Entities
variable (gzip : Gzip) (parse : Bytes → Parsed)

/-- The job of the executor. -/
def redrawn (content : MapContent) (resolved : ResolvedPosition) : Except Failure (Option Bytes) :=
  rerenderMapImage gzip parse content.raw content.drawn (resolved.position.map (·.x)) (resolved.position.map (·.y))
    resolved.trusted resolved.fromDock

namespace Gallery
variable (s : Gallery)

def call (flag : ℕ) (content : MapContent) : Call := ⟨flag,content,s.coordinator.resolveVacuumPosition s.utc,s.activeMap⟩

/-- A job is done, whatever comes of it. -/
def released (job : ℕ) : Gallery := {s with pending := s.pending.eraseIdx job}

def keeps (call : Call) (image : Bytes) : Gallery :=
  {s with correctedCache := Function.update s.correctedCache call.flag (some (call.cacheKey,image)), corrected := call :: s.corrected}

def asyncImage (flag : ℕ) : Gallery × Outcome :=
  match s.homeMapContent flag with
  | none => (s,.raised flag)
  | some content =>
    let call := s.call flag content
    match s.correctedCache flag with
    | some (key,image) =>
      if key = call.cacheKey then (s,.returned flag (some image)) else ({s with pending := s.pending ++ [call]},.nothing)
    | none => ({s with pending := s.pending ++ [call]},.nothing)

/-- The rest of a call, when its job is done. -/
def resumed (job : ℕ) : Gallery × Outcome :=
  match s.pending[job]? with
  | none => (s,.nothing)
  | some call =>
    match redrawn gzip parse call.content call.resolved with
    | .error _ => (s.released job,.raised call.flag)
    | .ok none => (s.released job,.returned call.flag call.content.imageContent)
    | .ok (some image) => ((s.released job).keeps call image,.returned call.flag (some image))

def step : Action → Gallery × Outcome
  | .updates homeMapContent coordinator utc activeMap =>
    ({s with homeMapContent := homeMapContent, coordinator := coordinator, utc := utc, activeMap := activeMap},.nothing)
  | .asks flag => s.asyncImage flag
  | .finishes job => s.resumed gzip parse job

/-- The call that the correction in the cache is of. -/
def lastCorrected (flag : ℕ) : Option Call := s.corrected.find? (·.flag = flag)

end Gallery

/-- What an entity may show: the image of its map, or its bytes drawn again at a position that was
resolved while its map was the active one. -/
def Faithful (s : Gallery) (flag : ℕ) (image : Bytes) : Prop :=
  ∃ content, s.homeMapContent flag = some content ∧ (content.imageContent = some image ∨
    ∃ source ∈ s.corrected, source.flag = flag ∧ source.active = flag ∧ redrawn gzip parse content source.resolved = .ok (some image))

/-- What the calls must find. A correction in the cache is of the bytes that have its identity now,
one that has to be drawn is of the active map, and no map is replaced while it is drawn. -/
def Undisturbed (s : Gallery) : Action → Prop
  | .updates .. => True
  | .asks flag => ∀ content ∈ s.homeMapContent flag, if (s.correctedCache flag).map (·.1) = some (s.call flag content).cacheKey then
      ∀ last ∈ s.lastCorrected flag, last.content.raw = content.raw
    else ∀ image, redrawn gzip parse content (s.call flag content).resolved = .ok (some image) → s.activeMap = flag
  | .finishes job => ∀ call ∈ s.pending[job]?, (s.homeMapContent call.flag).map MapContent.shown = some call.content.shown

/-- The state before each of the actions, with the action. -/
def course (s : Gallery) : List Action → List (Gallery × Action)
  | [] => []
  | action :: rest => (s,action) :: course (s.step gzip parse action).1 rest

/-- Every image that is returned in a run is faithful. -/
def Truthful (s : Gallery) (actions : List Action) : Prop :=
  ∀ moment ∈ course gzip parse s actions, ∀ flag image, (moment.1.step gzip parse moment.2).2 = .returned flag (some image) →
    Faithful gzip parse (moment.1.step gzip parse moment.2).1 flag image

end Entities

/-- What is known of every correction: its map was active, and the cache has it under its key. -/
structure Sourced (gzip : Gzip) (parse : Bytes → Parsed) (s : Gallery) : Prop where
  own : ∀ call ∈ s.corrected, call.active = call.flag
  cached : ∀ flag key image, s.correctedCache flag = some (key,image) → ∃ call, s.lastCorrected flag = some call ∧
    call.cacheKey = key ∧ redrawn gzip parse call.content call.resolved = .ok (some image)
  waiting : ∀ call ∈ s.pending, ∀ image, redrawn gzip parse call.content call.resolved = .ok (some image) → call.active = call.flag

section Running
variable {gzip : Gzip} {parse : Bytes → Parsed} {s : Gallery} {flag job : ℕ} {image : Bytes}

theorem asyncImage_cases :
    (∃ content image, s.homeMapContent flag = some content ∧ s.correctedCache flag = some ((s.call flag content).cacheKey,image) ∧
      s.asyncImage flag = (s,.returned flag (some image))) ∨
    (∃ content, s.homeMapContent flag = some content ∧ (s.correctedCache flag).map (·.1) ≠ some (s.call flag content).cacheKey ∧
      s.asyncImage flag = ({s with pending := s.pending ++ [s.call flag content]},.nothing)) ∨
    s.asyncImage flag = (s,.raised flag) := by
  unfold Gallery.asyncImage
  cases stored : s.homeMapContent flag with
  | none => exact Or.inr (Or.inr rfl)
  | some content =>
    cases cached : s.correctedCache flag with
    | none => exact Or.inr (Or.inl ⟨content,rfl,by simp,rfl⟩)
    | some entry =>
      obtain ⟨key,image⟩ := entry
      by_cases same : key = (s.call flag content).cacheKey
      · subst same
        exact Or.inl ⟨content,image,rfl,rfl,by simp only [if_true]⟩
      · exact Or.inr (Or.inl ⟨content,rfl,by simpa using same,by simp only [if_neg same]⟩)

theorem resumed_cases :
    (∃ call ∈ s.pending[job]?, ∃ image, redrawn gzip parse call.content call.resolved = .ok (some image) ∧
      s.resumed gzip parse job = ((s.released job).keeps call image,.returned call.flag (some image))) ∨
    (∃ call ∈ s.pending[job]?, s.resumed gzip parse job = (s.released job,.returned call.flag call.content.imageContent)) ∨
    (∃ flag, s.resumed gzip parse job = (s.released job,.raised flag)) ∨
    s.resumed gzip parse job = (s,.nothing) := by
  unfold Gallery.resumed
  cases waiting : s.pending[job]? with
  | none => exact Or.inr (Or.inr (Or.inr rfl))
  | some call =>
    cases drawn : redrawn gzip parse call.content call.resolved with
    | error failure => exact Or.inr (Or.inr (Or.inl ⟨call.flag,by simp only [drawn]⟩))
    | ok result =>
      cases result with
      | none => exact Or.inr (Or.inl ⟨call,rfl,by simp only [drawn]⟩)
      | some image => exact Or.inl ⟨call,rfl,image,drawn,by simp only [drawn]⟩

theorem redrawn_key {call : Call} {content : MapContent} {other : ResolvedPosition} {active : ℕ} (bytes : call.content.raw = content.raw)
    (same : call.cacheKey = (Call.mk flag content other active).cacheKey) :
    redrawn gzip parse content call.resolved = redrawn gzip parse call.content call.resolved := by
  have drawn : call.content.drawn = content.drawn := congrArg CacheKey.drawn same
  unfold redrawn
  rw [bytes,drawn]

theorem Sourced.released (sourced : Sourced gzip parse s) : Sourced gzip parse (s.released job) :=
  ⟨sourced.own,sourced.cached,fun call inside => sourced.waiting call (List.mem_of_mem_eraseIdx inside)⟩

theorem Sourced.keeps {call : Call} (sourced : Sourced gzip parse s) (own : call.active = call.flag)
    (drawn : redrawn gzip parse call.content call.resolved = .ok (some image)) : Sourced gzip parse (s.keeps call image) := by
  refine ⟨List.forall_mem_cons.mpr ⟨own,sourced.own⟩,fun flag key picture cached => ?_,sourced.waiting⟩
  change Function.update s.correctedCache call.flag (some (call.cacheKey,image)) flag = some (key,picture) at cached
  by_cases here : flag = call.flag
  · subst here
    rw [Function.update_self] at cached
    obtain ⟨rfl,rfl⟩ := Prod.mk.inj (Option.some.inj cached)
    exact ⟨call,List.find?_cons_of_pos (by simp),rfl,drawn⟩
  · rw [Function.update_of_ne here] at cached
    obtain ⟨source,last,key,made⟩ := sourced.cached flag key picture cached
    have other : (s.keeps call image).lastCorrected flag = s.lastCorrected flag :=
      List.find?_cons_of_neg (by simpa using Ne.symm here)
    exact ⟨source,other.trans last,key,made⟩

theorem Sourced.asks (sourced : Sourced gzip parse s) (fair : Undisturbed gzip parse s (.asks flag)) :
    Sourced gzip parse (s.asyncImage flag).1 := by
  rcases @asyncImage_cases s flag with ⟨_,_,_,_,ended⟩ | ⟨content,stored,missed,ended⟩ | ended
  · rwa [ended]
  · rw [ended]
    refine ⟨sourced.own,sourced.cached,fun call inside image drawn => ?_⟩
    rcases List.mem_append.mp inside with before | new
    · exact sourced.waiting call before image drawn
    · obtain rfl := List.mem_singleton.mp new
      have own := fair content stored
      rw [if_neg missed] at own
      exact own image drawn
  · rwa [ended]

theorem Sourced.finishes (sourced : Sourced gzip parse s) : Sourced gzip parse (s.resumed gzip parse job).1 := by
  rcases @resumed_cases gzip parse s job with ⟨call,waiting,image,drawn,ended⟩ | ⟨_,_,ended⟩ | ⟨_,ended⟩ | ended
  · rw [ended]
    exact sourced.released.keeps (sourced.waiting call (List.mem_of_getElem? waiting) image drawn) drawn
  · rw [ended]
    exact sourced.released
  · rw [ended]
    exact sourced.released
  · rwa [ended]

theorem Sourced.step {action : Action} (sourced : Sourced gzip parse s) (fair : Undisturbed gzip parse s action) :
    Sourced gzip parse (s.step gzip parse action).1 := by
  cases action with
  | updates homeMapContent coordinator utc activeMap => exact ⟨sourced.own,sourced.cached,sourced.waiting⟩
  | asks flag => exact sourced.asks fair
  | finishes job => exact sourced.finishes

theorem faithful_asked (sourced : Sourced gzip parse s) (fair : Undisturbed gzip parse s (.asks flag)) {other : ℕ}
    (returned : (s.asyncImage flag).2 = .returned other (some image)) : Faithful gzip parse (s.asyncImage flag).1 other image := by
  rcases @asyncImage_cases s flag with ⟨content,picture,stored,cached,ended⟩ | ⟨_,_,_,ended⟩ | ended
  · rw [ended] at returned ⊢
    obtain ⟨rfl,same⟩ := Outcome.returned.inj returned
    obtain rfl := Option.some.inj same
    obtain ⟨source,last,key,drawn⟩ := sourced.cached flag _ _ cached
    have found := List.find?_some last
    have listed := List.mem_of_find?_eq_some last
    have owner : source.flag = flag := by simpa using found
    have bytes := fair content stored
    rw [if_pos (by rw [cached]; rfl)] at bytes
    refine ⟨content,stored,Or.inr ⟨source,listed,owner,(sourced.own source listed).trans owner,?_⟩⟩
    exact (redrawn_key (bytes source last) key).trans drawn
  · rw [ended] at returned
    exact nomatch returned
  · rw [ended] at returned
    exact nomatch returned

theorem faithful_finished (sourced : Sourced gzip parse s) (fair : Undisturbed gzip parse s (.finishes job))
    (returned : (s.resumed gzip parse job).2 = .returned flag (some image)) :
    Faithful gzip parse (s.resumed gzip parse job).1 flag image := by
  have present (call : Call) (waiting : call ∈ s.pending[job]?) :
      ∃ content, s.homeMapContent call.flag = some content ∧ content.shown = call.content.shown :=
    Option.map_eq_some_iff.mp (fair call waiting)
  rcases @resumed_cases gzip parse s job with ⟨call,waiting,picture,drawn,ended⟩ | ⟨call,waiting,ended⟩ | ⟨_,ended⟩ | ended
  · rw [ended] at returned ⊢
    obtain ⟨rfl,same⟩ := Outcome.returned.inj returned
    obtain rfl := Option.some.inj same
    obtain ⟨content,stored,same⟩ := present call waiting
    have own := sourced.waiting call (List.mem_of_getElem? waiting) picture drawn
    refine ⟨content,stored,Or.inr ⟨call,List.mem_cons_self,rfl,own,?_⟩⟩
    have bytes : content.raw = call.content.raw := congrArg (·.1) same
    have place : content.drawn = call.content.drawn := congrArg (·.2.2) same
    unfold redrawn at drawn ⊢
    rw [bytes,place,drawn]
  · rw [ended] at returned ⊢
    obtain ⟨rfl,image⟩ := Outcome.returned.inj returned
    obtain ⟨content,stored,same⟩ := present call waiting
    exact ⟨content,stored,Or.inl ((congrArg (·.2.1) same).trans image)⟩
  · rw [ended] at returned
    exact nomatch returned
  · rw [ended] at returned
    exact nomatch returned

/-- Every image that is returned is faithful, in every run whose calls are undisturbed. -/
theorem images_faithful (gzip : Gzip) (parse : Bytes → Parsed) (actions : List Action) (s : Gallery)
    (uncached : ∀ flag, s.correctedCache flag = none) (idle : s.pending = []) (new : s.corrected = [])
    (fair : ∀ moment ∈ course gzip parse s actions, Undisturbed gzip parse moment.1 moment.2) : Truthful gzip parse s actions := by
  have sourced : Sourced gzip parse s := ⟨by simp [new],by simp [uncached],by simp [idle]⟩
  clear uncached idle new
  induction actions generalizing s with
  | nil => simp [Truthful,course]
  | cons action rest ih =>
    obtain ⟨now,later⟩ := List.forall_mem_cons.mp fair
    intro moment inside flag image returned
    rcases List.mem_cons.mp inside with rfl | further
    · cases action with
      | updates => exact nomatch returned
      | asks => exact faithful_asked sourced now returned
      | finishes => exact faithful_finished sourced now returned
    · exact ih _ later (sourced.step now) moment further flag image returned

end Running

/-- A map of nothing but a position, with a byte more after it. -/
def bareMap (x last : UInt8) : Bytes := [0x72,0x72,4,0,8,0,8,0,9,0,0,0,x,0,0,0,0,0,0,0,last]

/-- The map itself is the image. -/
def echo : Bytes → Parsed := fun bytes => .object (.ok (some bytes))

def bareContent (identity : ℕ) (last : UInt8) : MapContent := ⟨some ⟨identity,bareMap 0 last⟩,some [9],none⟩

def onlyMap (content : MapContent) (flag : ℕ) : Option MapContent := if flag = 1 then some content else none

/-- A robot that stands on its dock in the active map. Of the maps one is stored, the one with the flag 1. -/
def dockedOn (active : ℕ) : Gallery where
  homeMapContent := onlyMap (bareContent 7 0)
  coordinator := ⟨none,true,none,⟨.charging,.none,.none⟩,some ⟨none,some ⟨.finite 5,.finite 0⟩⟩,none,.none,false⟩
  utc := 0
  activeMap := active

theorem bareMap_found (x last : UInt8) : findRobotPositionBlock (bareMap x last) = some (12,9) := by
  have size : (bareMap x last).length = 21 := rfl
  have header : fromBytes (slice (bareMap x last) 2 4) = 4 := rfl
  have found : walk (bareMap x last) 4 = some (4+8,9) :=
    walk_position (by omega) rfl rfl rfl (by decide) (by decide) (by decide) (by omega)
  exact find_first (by omega) header (by omega) found

theorem bareMap_redrawn (identity : ℕ) (last : UInt8) {resolved : ResolvedPosition}
    (docked : resolved = ⟨some ⟨.finite 5,.finite 0⟩,true,.dockedPositionFromCharger,true⟩) :
    redrawn storedGzip echo (bareContent identity last) resolved = .ok (some (bareMap 5 last)) := by
  subst docked
  have target : renderPosition none (some (.finite 5)) (some (.finite 0)) true true = .ok (some (5,0)) := rfl
  have written : overwrite (bareMap 0 last) 12 (12+8) (positionCode 5 0) = bareMap 5 last := rfl
  have read : readUnwrapped (bareMap 5 last) = some (((5 : ℤ) : ℚ),((0 : ℤ) : ℚ)) := by
    rw [readUnwrapped,bareMap_found]
    rfl
  obtain ⟨_,made⟩ := @correctedImage_written storedGzip echo (bareMap 0 last) (bareMap 0 last) 5 0 (fun _ => rfl) (fun _ => rfl) 12 9
    rfl (bareMap_found 0 last) (by decide) (by decide)
  rw [written,if_pos read] at made
  change rerenderMapImage storedGzip echo (some (bareMap 0 last)) none (some (.finite 5)) (some (.finite 0)) true true = _
  simp only [rerenderMapImage,target,bind,Except.bind]
  exact made

theorem resumed_redrawn {gzip : Gzip} {parse : Bytes → Parsed} {s : Gallery} {job : ℕ} {call : Call} {image : Bytes}
    (waiting : s.pending[job]? = some call) (drawn : redrawn gzip parse call.content call.resolved = .ok (some image)) :
    s.resumed gzip parse job = ((s.released job).keeps call image,.returned call.flag (some image)) := by
  simp only [Gallery.resumed,waiting,drawn]

/-- The call for the map, and the state when its image has been drawn again. -/
def bareCall (active : ℕ) : Call := (dockedOn active).call 1 (bareContent 7 0)

def redrawnOn (active : ℕ) : Gallery := (dockedOn active).keeps (bareCall active) (bareMap 5 0)

theorem dockedOn_finished (active : ℕ) : ((dockedOn active).step storedGzip echo (.asks 1)).1.step storedGzip echo (.finishes 0) =
    (redrawnOn active,.returned 1 (some (bareMap 5 0))) := by
  have waiting : ((dockedOn active).asyncImage 1).1.pending[0]? = some (bareCall active) := rfl
  exact resumed_redrawn waiting (bareMap_redrawn 7 0 rfl)

theorem ownMap_truthful : Truthful storedGzip echo (dockedOn 1) [.asks 1,.finishes 0,.asks 1] := by
  apply images_faithful storedGzip echo [.asks 1,.finishes 0,.asks 1] (dockedOn 1) (fun _ => rfl) rfl rfl
  simp only [course,dockedOn_finished]
  have missed : Undisturbed storedGzip echo (dockedOn 1) (.asks 1) := by
    intro content stored
    obtain rfl : bareContent 7 0 = content := Option.some.inj stored
    exact fun image _ => rfl
  have finishes : Undisturbed storedGzip echo ((dockedOn 1).step storedGzip echo (.asks 1)).1 (.finishes 0) := by
    intro call waiting
    obtain rfl : bareCall 1 = call := Option.some.inj waiting
    rfl
  have hit : Undisturbed storedGzip echo (redrawnOn 1) (.asks 1) := by
    intro content stored
    obtain rfl : bareContent 7 0 = content := Option.some.inj stored
    have cached : ((redrawnOn 1).correctedCache 1).map (·.1) = some ((redrawnOn 1).call 1 (bareContent 7 0)).cacheKey := rfl
    rw [if_pos cached]
    intro last found
    obtain rfl : bareCall 1 = last := Option.some.inj found
    rfl
  exact List.forall_mem_cons.mpr ⟨missed,List.forall_mem_cons.mpr ⟨finishes,List.forall_mem_cons.mpr ⟨hit,by simp⟩⟩⟩

/-- The identity of the response that was drawn belongs to another one. -/
def reusedIdentity : Gallery := {redrawnOn 1 with homeMapContent := onlyMap (bareContent 7 1)}

def replacements : List Action :=
  [.updates (onlyMap (bareContent 8 0)) (dockedOn 1).coordinator 0 1,.updates (onlyMap (bareContent 7 1)) (dockedOn 1).coordinator 0 1]

theorem otherMap_unfaithful : ¬ Faithful storedGzip echo (redrawnOn 0) 1 (bareMap 5 0) := by
  rintro ⟨content,stored,same | ⟨source,inside,_,active,_⟩⟩
  · obtain rfl : bareContent 7 0 = content := Option.some.inj stored
    exact absurd (Option.some.inj same) (by decide)
  · obtain rfl := List.mem_singleton.mp inside
    exact Nat.zero_ne_one active

theorem reusedIdentity_unfaithful : ¬ Faithful storedGzip echo reusedIdentity 1 (bareMap 5 0) := by
  rintro ⟨content,stored,shown⟩
  obtain rfl : bareContent 7 1 = content := Option.some.inj stored
  rcases shown with same | ⟨source,inside,_,_,drawn⟩
  · exact absurd (Option.some.inj same) (by decide)
  · obtain rfl := List.mem_singleton.mp inside
    have other := bareMap_redrawn 7 1 (rfl : (bareCall 1).resolved = _)
    exact absurd (Option.some.inj (Except.ok.inj (drawn.symm.trans other))) (by decide)

/-- The dock of another map is drawn, and a map is shown whose identity a newer one has taken. -/
theorem corrections_astray : ¬ Truthful storedGzip echo (dockedOn 0) [.asks 1,.finishes 0] ∧
    ¬ Truthful storedGzip echo (dockedOn 1) (.asks 1 :: .finishes 0 :: replacements ++ [.asks 1]) := by
  constructor
  · intro truthful
    have faithful := truthful (_,.finishes 0) (List.mem_cons_of_mem _ List.mem_cons_self) 1 (bareMap 5 0) (by rw [dockedOn_finished])
    rw [dockedOn_finished] at faithful
    exact otherMap_unfaithful faithful
  · intro truthful
    have late : (reusedIdentity,.asks 1) ∈ course storedGzip echo (dockedOn 1) (.asks 1 :: .finishes 0 :: replacements ++ [.asks 1]) := by
      simp only [List.cons_append,course,dockedOn_finished]
      exact List.mem_cons_of_mem _ (List.mem_cons_of_mem _ (List.mem_cons_of_mem _ (List.mem_cons_of_mem _ List.mem_cons_self)))
    exact reusedIdentity_unfaithful (truthful _ late 1 (bareMap 5 0) rfl)

end MapImage

end RoborockPlus
