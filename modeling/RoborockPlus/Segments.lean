import RoborockPlus.ServerUrl
import RoborockPlus.ResumeLogic
import RoborockPlus.Text.Decimal

/-! The rooms of all maps as segments that can be cleaned. A segment's id is a text of the flag of its
map and the number of its room, and cleaning reads it back. -/
namespace RoborockPlus.Segments

structure Room where
  segmentId : ℤ
  name : String

structure MapInfo where
  name : String
  rooms : List Room

/-- `home_map_info`, by map flag. -/
abbrev HomeMap := List (ℤ × MapInfo)

structure Segment where
  id : String
  name : String
  group : String

def segmentId (mapFlag room : ℤ) : String := String.ofList (Decimal.text mapFlag ++ '_' :: Decimal.text room)

def asyncGetSegments (home : HomeMap) : List Segment :=
  home.flatMap fun item => item.2.rooms.map fun room => ⟨segmentId item.1 room.segmentId,room.name,item.2.name⟩

/-- The map flags and rooms of a home. -/
def rooms (home : HomeMap) : List (ℤ × ℤ) :=
  home.flatMap fun item => item.2.rooms.map fun room => (item.1,room.segmentId)

inductive Action
  | remembered (command : Resume.ResumeCommand)
  | sent (segments : List ℤ)
  | watched
deriving DecidableEq

section Cleaning
variable (digits : Decimal.Digits)

/-- `split("_", maxsplit=1)` into two, and `int` of each; nothing where one of these raises. -/
def parseSegment (id : String) : Option (ℤ × ℤ) :=
  let text := id.toList
  if '_' ∈ text then do
    let mapFlag ← Decimal.read digits (ServerUrl.strip (text.takeWhile (· != '_')))
    let room ← Decimal.read digits (ServerUrl.strip ((text.dropWhile (· != '_')).drop 1))
    return (mapFlag,room)
  else none

def guardSegmentClean : List Action :=
  if shouldGuardCleanCommand "app_segment_clean" then
    ((Resume.cleanCommandResumeCommands.lookup "app_segment_clean").map Action.remembered).toList
  else []

/-- `delivered`: sending the command does not raise. -/
def asyncCleanSegments (currentMap : Option ℤ) (segmentIds : List String) (delivered : Bool) : Option (List Action) := do
  let parsed ← segmentIds.mapM (parseSegment digits)
  let currentMapSegments := (parsed.filter fun item => currentMap == some item.1).map (·.2)
  if currentMapSegments = [] then return []
  return guardSegmentClean ++ .sent currentMapSegments :: if delivered then [.watched] else []

/-- Whether a repair issue is created on an update. -/
def segmentsIssue (lastSeen : Option (List Segment)) (home : HomeMap) : Bool :=
  match lastSeen with
  | none => false
  | some seen =>
    let current := (asyncGetSegments home).map (·.id)
    let known := seen.map (·.id)
    !(current.all known.contains && known.all current.contains)

end Cleaning

section Ids
variable {digits : Decimal.Digits} {mapFlag room : ℤ}

theorem strip_text (n : ℤ) : ServerUrl.strip (Decimal.text n) = Decimal.text n := by
  have plain (c : Char) (member : c ∈ Decimal.text n) : ServerUrl.isSpace c = false := by
    rcases Decimal.mem_text member with digit | rfl
    · obtain ⟨d,small,rfl⟩ := Decimal.exists_digit digit
      have every : ∀ d < 10, ServerUrl.isSpace d.digitChar = false := by decide
      exact every d small
    · decide
  have stripped : ServerUrl.strip ([] ++ (Decimal.text n ++ [])) = Decimal.text n := ServerUrl.strip_spaces (by simp) (by simp)
    (fun c member => plain c (List.mem_of_mem_head? member)) (fun c member => plain c (List.mem_of_mem_getLast? member)) (Decimal.text_ne_nil n)
  simpa using stripped

theorem underscore_not_mem (n : ℤ) : '_' ∉ Decimal.text n := fun member =>
  (Decimal.mem_text member).elim (fun digit => absurd digit (by decide)) fun same => absurd same (by decide)

@[simp] theorem parse_segmentId : parseSegment digits (segmentId mapFlag room) = some (mapFlag,room) := by
  have kept (c : Char) (member : c ∈ Decimal.text mapFlag) : (c != '_') = true := by
    simpa using fun same : c = '_' => underscore_not_mem mapFlag (same ▸ member)
  have before : (Decimal.text mapFlag ++ '_' :: Decimal.text room).takeWhile (· != '_') = Decimal.text mapFlag := by
    rw [List.takeWhile_append_of_pos kept]
    simp
  have after : (Decimal.text mapFlag ++ '_' :: Decimal.text room).dropWhile (· != '_') = '_' :: Decimal.text room := by
    rw [List.dropWhile_append_of_pos kept]
    simp
  rw [parseSegment,segmentId,String.toList_ofList]
  simp only [before,after,List.drop_one,List.tail_cons,strip_text,Decimal.read_text]
  simp

theorem segmentId_injective : Function.Injective fun item : ℤ × ℤ => segmentId item.1 item.2 := by
  intro item other same
  have ascii : Decimal.Digits := ⟨fun c => (List.range 10).find? fun n => n.digitChar = c,by decide⟩
  have read := congrArg (parseSegment ascii) same
  rw [parse_segmentId,parse_segmentId] at read
  exact Option.some.inj read

/-- Whatever rooms are chosen by their ids: those of the current map are cleaned, all of them and in this order, and where
there is none, nothing is done at all. -/
theorem chosen_cleaned (digits : Decimal.Digits) (currentMap : Option ℤ) (chosen : List (ℤ × ℤ)) (delivered : Bool) :
    asyncCleanSegments digits currentMap (chosen.map fun item => segmentId item.1 item.2) delivered =
      let segments := (chosen.filter fun item => currentMap == some item.1).map (·.2)
      some (if segments = [] then [] else [.remembered .appResume,.sent segments] ++ if delivered then [.watched] else []) := by
  have parsed : (chosen.map fun item => segmentId item.1 item.2).mapM (parseSegment digits) = some chosen := by
    induction chosen with
    | nil => rfl
    | cons item rest ih => simp [ih]
  rw [asyncCleanSegments,parsed]
  dsimp only [Option.bind_eq_bind,Option.bind_some]
  split
  · rfl
  · rfl

theorem mem_ids {home : HomeMap} {id : String} :
    id ∈ (asyncGetSegments home).map (·.id) ↔ ∃ item ∈ rooms home, id = segmentId item.1 item.2 := by
  simp only [asyncGetSegments,rooms,List.map_flatMap,List.map_map,List.mem_flatMap,List.mem_map,Function.comp]
  constructor
  · rintro ⟨item,inside,room,member,rfl⟩
    exact ⟨_,⟨item,inside,room,member,rfl⟩,rfl⟩
  · rintro ⟨_,⟨item,inside,room,member,rfl⟩,rfl⟩
    exact ⟨item,inside,room,member,rfl⟩

/-- The issue is created exactly when the maps do not have the rooms any more that were there when the segments were
listed, or have others; no two rooms share an id. -/
theorem segments_issue_iff (listed home : HomeMap) :
    (segmentsIssue (some (asyncGetSegments listed)) home = true ↔ ¬ ∀ item, item ∈ rooms home ↔ item ∈ rooms listed) ∧
      Function.Injective fun item : ℤ × ℤ => segmentId item.1 item.2 := by
  have covers (first second : HomeMap) : ((asyncGetSegments first).map (·.id)).all ((asyncGetSegments second).map (·.id)).contains = true ↔
      ∀ item ∈ rooms first, item ∈ rooms second := by
    rw [List.all_eq_true]
    constructor
    · intro all item member
      obtain ⟨other,inside,same⟩ := mem_ids.mp (List.contains_iff_mem.mp (all _ (mem_ids.mpr ⟨item,member,rfl⟩)))
      exact (segmentId_injective same : item = other) ▸ inside
    · intro all id member
      obtain ⟨item,inside,rfl⟩ := mem_ids.mp member
      exact List.contains_iff_mem.mpr (mem_ids.mpr ⟨item,all item inside,rfl⟩)
  refine ⟨?_,segmentId_injective⟩
  rw [segmentsIssue,Bool.not_eq_true',← Bool.not_eq_true,Bool.and_eq_true,covers,covers]
  refine not_congr ⟨fun both item => ⟨both.1 item,both.2 item⟩,fun same => ⟨fun item => (same item).mp,fun item => (same item).mpr⟩⟩

end Ids

end RoborockPlus.Segments
