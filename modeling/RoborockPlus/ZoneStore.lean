import RoborockPlus.World
import RoborockPlus.Async.History
import RoborockPlus.Storage.Register

/-! The store of the danger zones of all robots, loaded once from a file that takes
over what is saved in its own time. How far it has come with that, and which version
a load reads, is left to the outside. -/
namespace RoborockPlus
open Async

/-- A Python mapping, its items in the order in which its keys were added. -/
abbrev PyDict (α : Type) := List (String × α)

namespace PyDict
variable {α β : Type}

def set (key : String) (value : α) : PyDict α → PyDict α
  | [] => [(key,value)]
  | item :: rest => if item.1 = key then (key,value) :: rest else item :: set key value rest

def pop (key : String) (items : PyDict α) : PyDict α := items.filter fun item => item.1 != key

def mapValues (f : α → β) (items : PyDict α) : PyDict β := items.map fun item => (item.1,f item.2)

theorem lookup_cons (first other : String) (value : α) (rest : PyDict α) :
    List.lookup other ((first,value) :: rest) = if first = other then some value else List.lookup other rest := by
  rw [List.lookup_cons]
  by_cases same : first = other
  · simp [same]
  · rw [if_neg same,beq_eq_false_iff_ne.mpr (Ne.symm same)]

theorem lookup_set (key other : String) (value : α) (items : PyDict α) :
    (set key value items).lookup other = if key = other then some value else items.lookup other := by
  induction items with
  | nil => rw [set,lookup_cons,List.lookup_nil]
  | cons item rest ih =>
    obtain ⟨first,old⟩ := item
    rw [set,lookup_cons first]
    split
    next same =>
      obtain rfl : first = key := same
      rw [lookup_cons]
      split <;> rfl
    next apart =>
      rw [lookup_cons,ih]
      by_cases equal : first = other
      · subst equal
        rw [if_pos rfl,if_neg (Ne.symm apart),if_pos rfl]
      · rw [if_neg equal,if_neg equal]

theorem lookup_pop (key other : String) (items : PyDict α) :
    (pop key items).lookup other = if key = other then none else items.lookup other := by
  induction items with
  | nil => simp [pop]
  | cons item rest ih =>
    obtain ⟨first,old⟩ := item
    unfold pop at ih ⊢
    rw [List.filter_cons,lookup_cons first]
    by_cases same : first = key
    · subst same
      simp only [bne_self_eq_false,Bool.false_eq_true,if_false,ih]
      split <;> rfl
    · simp only [bne_iff_ne,ne_eq,same,not_false_eq_true,if_true,lookup_cons,ih]
      by_cases equal : first = other
      · subst equal
        rw [if_pos rfl,if_neg (Ne.symm same),if_pos rfl]
      · rw [if_neg equal,if_neg equal]

theorem lookup_mapValues (f : α → β) (key : String) (items : PyDict α) :
    (mapValues f items).lookup key = (items.lookup key).map f := by
  induction items with
  | nil => rfl
  | cons item rest ih =>
    unfold mapValues at ih ⊢
    rw [List.map_cons,List.lookup_cons,List.lookup_cons,ih]
    split <;> rfl

end PyDict

structure StoredSafeZone where
  duid : String
  zone : Zone
  updatedAt : String
deriving DecidableEq

structure ZoneData where
  minX : Option ℤ
  maxX : Option ℤ
  minY : Option ℤ
  maxY : Option ℤ
deriving DecidableEq

structure RecordData where
  duid : Option String
  zone : Option ZoneData
  updatedAt : Option String
deriving DecidableEq

def Zone.asDict (z : Zone) : ZoneData := ⟨some z.minX,some z.maxX,some z.minY,some z.maxY⟩

def Zone.fromDict (data : ZoneData) : Option Zone := do
  let minX ← data.minX
  let maxX ← data.maxX
  let minY ← data.minY
  let maxY ← data.maxY
  return ⟨minX,maxX,minY,maxY⟩

theorem Zone.fromDict_eq_some {data : ZoneData} {z : Zone} : fromDict data = some z ↔ data = z.asDict := by
  constructor
  · intro read
    simp only [fromDict,Option.bind_eq_bind,Option.bind_eq_some_iff] at read
    obtain ⟨minX,hasMinX,maxX,hasMaxX,minY,hasMinY,maxY,hasMaxY,last⟩ := read
    obtain rfl := Option.some.inj last
    obtain ⟨_,_,_,_⟩ := data
    exact congr (congr (congrArg₂ _ hasMinX hasMaxX) hasMinY) hasMaxY
  · rintro rfl
    rfl

namespace StoredSafeZone

def asDict (r : StoredSafeZone) : RecordData := ⟨some r.duid,some r.zone.asDict,some r.updatedAt⟩

/-- Nothing where a key is missing, for which the source raises. -/
def fromDict (data : RecordData) : Option StoredSafeZone := do
  let duid ← data.duid
  let zone ← data.zone
  let zone ← Zone.fromDict zone
  let updatedAt ← data.updatedAt
  return ⟨duid,zone,updatedAt⟩

theorem fromDict_eq_some {data : RecordData} {r : StoredSafeZone} : fromDict data = some r ↔ data = r.asDict := by
  constructor
  · intro read
    simp only [fromDict,Option.bind_eq_bind,Option.bind_eq_some_iff] at read
    obtain ⟨duid,hasDuid,raw,hasZone,zone,parsed,updatedAt,hasTime,last⟩ := read
    obtain rfl := Option.some.inj last
    obtain rfl := Zone.fromDict_eq_some.mp parsed
    obtain ⟨_,_,_⟩ := data
    exact congr (congrArg₂ _ hasDuid hasZone) hasTime
  · rintro rfl
    rfl

/-- The comprehension of `async_load`: one bad record fails the whole. -/
def readAll (raw : PyDict RecordData) : Option (PyDict StoredSafeZone) :=
  raw.mapM fun item => (fromDict item.2).map fun r => (item.1,r)

theorem readAll_lookup {raw : PyDict RecordData} {zones : PyDict StoredSafeZone} (read : readAll raw = some zones)
    (duid : String) : (zones.lookup duid).map asDict = raw.lookup duid := by
  induction raw generalizing zones with
  | nil =>
    obtain rfl : [] = zones := by simpa [readAll] using read
    rfl
  | cons item rest ih =>
    obtain ⟨key,data⟩ := item
    simp only [readAll,List.mapM_cons,Option.bind_eq_bind,Option.bind_eq_some_iff,Option.map_eq_some_iff] at read
    obtain ⟨_,⟨r,parsed,rfl⟩,zones',rest_read,last⟩ := read
    obtain rfl := Option.some.inj last
    rw [List.lookup_cons,List.lookup_cons]
    split
    · rw [fromDict_eq_some.mp parsed]
      rfl
    · exact ih rest_read

end StoredSafeZone

/-- The file has the version `written` of those it was given; the first was there before. -/
structure ZoneStore where
  zones : PyDict StoredSafeZone := []
  loaded : Bool := false
  versions : List (PyDict RecordData)
  written : ℕ := 0
  reading : Option (PyDict RecordData) := none

inductive ZoneEvent
  | loadBegun
  | loadDone
  | loadFailed (loaded : Bool)
  | stored (duid : String) (record : Option StoredSafeZone)
  | updated (duid : String)
  | answered (duid : String) (record : Option StoredSafeZone)

inductive ZoneFault
  | keyError
  | other (reason : String)
  | cancelled

inductive ZoneRequest
  | load
  | save

inductive ZoneCall
  | asyncLoad
  | asyncGet (duid : String)
  | asyncSet (duid : String) (zone : Zone) (updatedAt : String)
  | asyncClear (duid : String)

def ZoneCall.writes : ZoneCall → Bool
  | .asyncLoad | .asyncGet _ => false
  | .asyncSet _ _ _ | .asyncClear _ => true

/-- The file takes over a version, or one that is still to be taken over is read. -/
inductive FileMove
  | written (version : ℕ)
  | read (version : ℕ)

namespace ZoneStore

def disk (s : ZoneStore) : PyDict RecordData := (s.versions[s.written]?).getD []

/-- What the load brings; the version now on disk if none was read so far. -/
def loads (s : ZoneStore) : PyDict RecordData := s.reading.getD s.disk

def getLoaded (s : ZoneStore) (duid : String) : Option StoredSafeZone := s.zones.lookup duid

def write (version : ℕ) (s : ZoneStore) : ZoneStore :=
  if version < s.versions.length then {s with written := max s.written version} else s

def read (version : ℕ) (s : ZoneStore) : ZoneStore := {s with reading := s.versions[max s.written version]?}

def move : FileMove → ZoneStore → ZoneStore
  | .written version => write version
  | .read version => read version

/-- The head of `_async_save`, up to its wait. -/
def handOver (s : ZoneStore) : ℕ × ZoneStore :=
  (s.versions.length,{s with versions := s.versions ++ [PyDict.mapValues StoredSafeZone.asDict s.zones]})

end ZoneStore

abbrev Zones : Signature where
  State := ZoneStore
  Event := ZoneEvent
  Exn := ZoneFault
  Request := ZoneRequest
  Reply := Unit
  Call := ZoneCall
  Stimulus := FileMove

namespace Zones

/-- The flag is up before the file is read, and stays up. -/
def loadOnce : Co Zones Unit := do
  .modify fun s => {s with loaded := true, reading := none}
  .emit .loadBegun
  .await .load
  let s ← .get
  match StoredSafeZone.readAll s.loads with
  | none => .throw .keyError
  | some zones => do
    .modify fun s => {s with zones := zones}
    .emit .loadDone

def loadFailed (fault : ZoneFault) : Co Zones Unit := do
  let s ← .get
  .emit (.loadFailed s.loaded)
  .throw fault

def asyncLoad : Co Zones Unit := do
  let s ← .get
  if s.loaded then pure () else .attempt loadOnce loadFailed

def asyncGet (duid : String) : Co Zones Unit := do
  asyncLoad
  let s ← .get
  .emit (.answered duid (s.getLoaded duid))

/-- The save has returned when the file has its version, or a newer one. -/
def asyncSave : Co Zones Unit := do
  let version ← .act fun s => s.handOver
  .await .save
  .modify fun s => s.write version

def change (duid : String) (record : Option StoredSafeZone) (s : ZoneStore) : ZoneStore := {s with
  zones := match record with
    | some record => PyDict.set duid record s.zones
    | none => PyDict.pop duid s.zones}

/-- What `async_set` and `async_clear` do to one record once the store is loaded. -/
def store (duid : String) (record : Option StoredSafeZone) : Co Zones Unit := do
  .modify (change duid record)
  .emit (.stored duid record)
  asyncSave
  .emit (.updated duid)

def asyncSet (duid : String) (zone : Zone) (updatedAt : String) : Co Zones Unit := do
  asyncLoad
  store duid (some ⟨duid,zone,updatedAt⟩)

def asyncClear (duid : String) : Co Zones Unit := do
  asyncLoad
  store duid none

def program : Program Zones where
  body := fun
    | .asyncLoad => asyncLoad
    | .asyncGet duid => asyncGet duid
    | .asyncSet duid zone updatedAt => asyncSet duid zone updatedAt
    | .asyncClear duid => asyncClear duid
  entry _ := true
  outside := ZoneStore.move
  cancelledError := .cancelled

def run (persisted : PyDict RecordData) (schedule : List (Label Zones)) : Point Zones :=
  ((Loop.init (L := Zones) ({versions := [persisted]} : ZoneStore)).exec program schedule).conf.toPoint

def stores (history : List (Item Zones)) : List (Storage.Write String RecordData) :=
  history.filterMap fun
    | .event t (.stored duid record) => some ⟨t,duid,record.map StoredSafeZone.asDict⟩
    | _ => none

def begunLoads (history : List (Item Zones)) : List ℕ :=
  history.filterMap fun | .event t .loadBegun => some t | _ => none

def doneLoads (history : List (Item Zones)) : List ℕ :=
  history.filterMap fun | .event t .loadDone => some t | _ => none

def completed (history : List (Item Zones)) (t : ℕ) : Bool :=
  history.any fun | .finished u => u == t | _ => false

/-- The newest completed change of the record may be seen, or one after it. -/
def holds (persisted : PyDict RecordData) (history : List (Item Zones)) (duid : String) (value : Option RecordData) : Bool :=
  Storage.admits (fun key => persisted.lookup key) (completed history) duid value (stores history)

/-- The store has been loaded, or a change of the record was completed. -/
def known (history : List (Item Zones)) (duid : String) : Bool :=
  !(doneLoads history).isEmpty || (stores history).any fun w => w.key == duid && completed history w.writer

/-- A known record is answered as it stands, and a load that fails leaves the store unloaded. -/
def answersWell (persisted : PyDict RecordData) : List (Item Zones) → Item Zones → Bool
  | past, .event _ (.answered duid record) => !known past duid || holds persisted past duid (record.map StoredSafeZone.asDict)
  | _, .event _ (.loadFailed loaded) => !loaded
  | _, _ => true

structure Reliable (persisted : PyDict RecordData) (p : Point Zones) : Prop where
  file : ∀ duid, holds persisted p.history duid (p.state.disk.lookup duid) = true
  memory : ∀ duid, known p.history duid = true →
    holds persisted p.history duid ((p.state.getLoaded duid).map StoredSafeZone.asDict) = true
  answers : throughout (answersWell persisted) p.history = true

/-- No load fails, and nothing is set or cleared while one is under way. -/
def calm : List (Item Zones) → Item Zones → Bool
  | past, .started _ call => !call.writes || (begunLoads past).isEmpty || !(doneLoads past).isEmpty
  | _, .event _ (.loadFailed _) => false
  | _, _ => true

section Histories
variable {item : Item Zones} {history : List (Item Zones)} {t : ℕ}

/-- An entry that neither changes a record nor ends a load or a call. -/
def Quiet : Item Zones → Prop
  | .event _ (.updated _) => True
  | .event _ _ | .finished _ => False
  | _ => True

theorem Quiet.same (quiet : Quiet item) (history : List (Item Zones)) : stores (item :: history) = stores history ∧
    begunLoads (item :: history) = begunLoads history ∧ doneLoads (item :: history) = doneLoads history ∧
    completed (item :: history) = completed history ∧ ∀ persisted past, answersWell persisted past item = true := by
  rcases item with _ | _ | _ | ⟨u,_ | _ | _ | _ | _ | _⟩ | _ | _ | _ | _
  case event.updated => exact ⟨rfl,rfl,rfl,rfl,fun _ _ => rfl⟩
  all_goals first
    | exact quiet.elim
    | exact ⟨rfl,rfl,rfl,rfl,fun _ _ => rfl⟩

theorem completed_finished : completed (.finished t :: history) = fun u => u == t || completed history u := by
  funext u
  rw [completed,List.any_cons,← completed,BEq.comm]

/-- The task is still at work, and has changed no record. -/
def Blank (t : ℕ) (history : List (Item Zones)) : Prop :=
  completed history t = false ∧ ∀ w ∈ stores history, w.writer ≠ t

/-- What the task has changed is in the first `k` versions, and those exist. -/
def Covered (t k : ℕ) (history : List (Item Zones)) : Prop :=
  Storage.Covers (fun u => u == t) (stores history) k ∧ k ≤ (stores history).length

theorem foreign_stores (history : List (Item Zones)) (foreign : item.owner ≠ some t) :
    stores (item :: history) = stores history ∨
      ∃ w : Storage.Write String RecordData, w.writer ≠ t ∧ stores (item :: history) = w :: stores history := by
  rcases item with _ | _ | _ | ⟨u,_ | _ | _ | ⟨duid,record⟩ | _ | _⟩ | _ | _ | _ | _
  case event.stored => exact Or.inr ⟨_,fun same => foreign (congrArg some same),rfl⟩
  all_goals exact Or.inl rfl

theorem Blank.foreign (blank : Blank t history) (foreign : item.owner ≠ some t) : Blank t (item :: history) := by
  constructor
  · rw [completed,List.any_cons,← completed,blank.1,Bool.or_false]
    cases item with
    | finished u => exact beq_eq_false_iff_ne.mpr fun same => foreign (congrArg some same)
    | _ => rfl
  · rcases foreign_stores history foreign with same | ⟨w,other,same⟩
    · rw [same]
      exact blank.2
    · rw [same]
      exact fun v member => (List.mem_cons.mp member).elim (fun equal => equal ▸ other) (blank.2 v)

theorem Covered.foreign {k : ℕ} (covered : Covered t k history) (foreign : item.owner ≠ some t) :
    Covered t k (item :: history) := by
  rcases foreign_stores history foreign with same | ⟨w,other,same⟩
  · rw [Covered,same]
    exact covered
  · rw [Covered,same]
    exact ⟨covered.1.cons (beq_eq_false_iff_ne.mpr other),Nat.le_succ_of_le covered.2⟩

theorem doneLoads_foreign (foreign : item.owner ≠ some t) (absent : t ∉ doneLoads history) :
    t ∉ doneLoads (item :: history) := by
  rcases item with _ | _ | _ | ⟨u,_ | _ | _ | _ | _ | _⟩ | _ | _ | _ | _
  case event.loadDone =>
    intro member
    rcases List.mem_cons.mp member with same | old
    · exact foreign (congrArg some same.symm)
    · exact absent old
  all_goals exact absent

theorem begunLoads_grows (item : Item Zones) (begun : t ∈ begunLoads history) : t ∈ begunLoads (item :: history) := by
  rcases item with _ | _ | _ | ⟨u,_ | _ | _ | _ | _ | _⟩ | _ | _ | _ | _
  case event.loadBegun => exact List.mem_cons_of_mem _ begun
  all_goals exact begun

end Histories

/-- Each saved version is the store after one change more. -/
structure Linked (s : ZoneStore) (writes : List (Storage.Write String RecordData)) : Prop where
  length : s.versions.length = writes.length+1
  written : s.written < s.versions.length
  reading : ∀ raw, s.reading = some raw → raw ∈ s.versions

/-- A calm run: one load, before everything else, and no change that is not saved. -/
structure Held (persisted : PyDict RecordData) (s : ZoneStore) (writes : List (Storage.Write String RecordData))
    (begun done : List ℕ) (ended : ℕ → Bool) : Prop where
  phase : (s.loaded = false ∧ begun = [] ∧ done = []) ∨ (s.loaded = true ∧ ∃ t, begun = [t] ∧ (done = [] ∨ done = [t]))
  untouched : done = [] → writes = []
  memory : done ≠ [] → ∀ duid, (s.getLoaded duid).map StoredSafeZone.asDict =
    Storage.latest (fun key => persisted.lookup key) writes duid
  versions : ∀ (k : ℕ) raw, s.versions[k]? = some raw → ∀ duid, raw.lookup duid =
    Storage.version (fun key => persisted.lookup key) writes k duid
  acknowledged : Storage.Covers ended writes s.written

def Calm (persisted : PyDict RecordData) (p : Point Zones) : Prop :=
  Linked p.state (stores p.history) ∧ (throughout calm p.history = true →
    Held persisted p.state (stores p.history) (begunLoads p.history) (doneLoads p.history) (completed p.history) ∧
      throughout (answersWell persisted) p.history = true)

section Linked
variable {persisted : PyDict RecordData} {s : ZoneStore} {writes : List (Storage.Write String RecordData)}
  {begun done : List ℕ} {ended : ℕ → Bool} {duid : String}

theorem Linked.disk (linked : Linked s writes) : s.versions[s.written]? = some s.disk := by
  rw [ZoneStore.disk,List.getElem?_eq_getElem linked.written]
  rfl

theorem Linked.loads (linked : Linked s writes) : s.loads ∈ s.versions := by
  unfold ZoneStore.loads
  cases found : s.reading with
  | none => exact List.mem_of_getElem? linked.disk
  | some raw => exact linked.reading raw found

theorem Linked.write (linked : Linked s writes) (version : ℕ) : Linked (s.write version) writes := by
  unfold ZoneStore.write
  split
  next inside => exact ⟨linked.length,max_lt linked.written inside,linked.reading⟩
  next => exact linked

theorem Linked.read (linked : Linked s writes) (version : ℕ) : Linked (s.read version) writes :=
  ⟨linked.length,linked.written,fun _ found => List.mem_of_getElem? found⟩

theorem Linked.change (linked : Linked s writes) (record : Option StoredSafeZone) (w : Storage.Write String RecordData) :
    Linked (change duid record s).handOver.2 (w :: writes) := by
  have longer : (Zones.change duid record s).handOver.2.versions.length = s.versions.length+1 := List.length_append
  refine ⟨?_,?_,fun raw found => List.mem_append_left _ (linked.reading raw found)⟩
  · rw [longer,linked.length,List.length_cons]
  · rw [longer]
    exact Nat.lt_succ_of_lt linked.written

theorem Held.write (held : Held persisted s writes begun done ended) (version : ℕ) :
    Held persisted (s.write version) writes begun done ended := by
  unfold ZoneStore.write
  split
  · exact ⟨held.phase,held.untouched,held.memory,held.versions,held.acknowledged.mono (Nat.le_max_left _ _)⟩
  · exact held

theorem Held.begin (held : Held persisted s writes begun done ended) (unloaded : s.loaded = false) (t : ℕ) :
    Held persisted {s with loaded := true, reading := none} writes (t :: begun) done ended := by
  rcases held.phase with ⟨_,rfl,none⟩ | ⟨loaded,_⟩
  · exact ⟨Or.inr ⟨rfl,t,rfl,Or.inl none⟩,held.untouched,held.memory,held.versions,held.acknowledged⟩
  · exact absurd (unloaded.symm.trans loaded) Bool.false_ne_true

/-- The one load of the run finds what was there before, whenever its file was read. -/
theorem Held.load (held : Held persisted s writes begun done ended) (linked : Linked s writes) {t : ℕ} (mine : t ∈ begun)
    (fresh : t ∉ done) {zones : PyDict StoredSafeZone} (read : StoredSafeZone.readAll s.loads = some zones) :
    Held persisted {s with zones := zones} writes begun (t :: done) ended := by
  obtain ⟨loaded,u,rfl,rfl | rfl⟩ : s.loaded = true ∧ ∃ u, begun = [u] ∧ (done = [] ∨ done = [u]) := by
    rcases held.phase with ⟨_,rfl,_⟩ | loading
    · simp at mine
    · exact loading
  · obtain rfl : t = u := List.mem_singleton.mp mine
    obtain rfl : writes = [] := held.untouched rfl
    refine ⟨Or.inr ⟨loaded,t,rfl,Or.inr rfl⟩,fun none => absurd none (List.cons_ne_nil _ _),fun _ duid => ?_,
      held.versions,held.acknowledged⟩
    obtain ⟨k,found⟩ := List.mem_iff_getElem?.mp linked.loads
    calc (zones.lookup duid).map StoredSafeZone.asDict
        = s.loads.lookup duid := StoredSafeZone.readAll_lookup read duid
      _ = Storage.version (fun key => persisted.lookup key) [] k duid := held.versions k _ found duid
      _ = persisted.lookup duid := by simp [Storage.version]
  · exact absurd mine fresh

theorem change_lookup (record : Option StoredSafeZone) (other : String) :
    (change duid record s).getLoaded other = if duid = other then record else s.getLoaded other := by
  cases record with
  | none => exact PyDict.lookup_pop duid other s.zones
  | some record => exact PyDict.lookup_set duid other record s.zones

theorem Held.change (held : Held persisted s writes begun done ended) (linked : Linked s writes) (loaded : done ≠ [])
    {t : ℕ} (working : ended t = false) (record : Option StoredSafeZone) :
    Held persisted (change duid record s).handOver.2 (⟨t,duid,record.map StoredSafeZone.asDict⟩ :: writes)
      begun done ended := by
  have memory (other : String) : ((Zones.change duid record s).getLoaded other).map StoredSafeZone.asDict =
      Storage.latest (fun key => persisted.lookup key) (⟨t,duid,record.map StoredSafeZone.asDict⟩ :: writes) other := by
    rw [change_lookup,Storage.latest_cons]
    split
    · rfl
    · exact held.memory loaded other
  refine ⟨held.phase,fun none => absurd none loaded,fun _ => memory,fun k raw found other => ?_,
    held.acknowledged.cons working⟩
  change (s.versions ++ [_])[k]? = some raw at found
  rcases Nat.lt_or_ge k s.versions.length with old | new
  · rw [List.getElem?_append_left old] at found
    have inside : k ≤ writes.length := by
      rw [linked.length] at old
      exact Nat.le_of_lt_succ old
    rw [Storage.version_cons inside]
    exact held.versions k raw found other
  · -- the version just handed over is the memory as it is now
    have last : k = s.versions.length := by
      have bound := (List.getElem?_eq_some_iff.mp found).1
      rw [List.length_append,List.length_singleton] at bound
      exact Nat.le_antisymm (Nat.lt_succ_iff.mp bound) new
    subst last
    rw [List.getElem?_concat_length,Option.some.injEq] at found
    rw [linked.length,← found,PyDict.lookup_mapValues]
    exact (memory other).trans (congrFun Storage.version_all.symm other)

theorem Held.known_loaded {history : List (Item Zones)} (held : Held persisted s (stores history) begun (doneLoads history) ended)
    (seen : known history duid = true) : doneLoads history ≠ [] := by
  intro none
  have untouched := held.untouched none
  simp [known,none,untouched] at seen

theorem Held.getLoaded_holds {history : List (Item Zones)}
    (held : Held persisted s (stores history) begun (doneLoads history) ended) (seen : known history duid = true) :
    holds persisted history duid ((s.getLoaded duid).map StoredSafeZone.asDict) = true := by
  rw [held.memory (held.known_loaded seen),holds]
  exact Storage.admits_latest

end Linked

namespace Calm
variable {persisted : PyDict RecordData} {p : Point Zones} {t : ℕ}

theorem push (inv : Calm persisted p) (item : Item Zones) (quiet : Quiet item) : Calm persisted (p.push item) := by
  obtain ⟨sameStores,sameBegun,sameDone,sameCompleted,well⟩ := quiet.same p.history
  unfold Calm
  rw [Point.push_history,sameStores,sameBegun,sameDone,sameCompleted]
  refine ⟨inv.1,fun calm => ?_⟩
  obtain ⟨held,answers⟩ := inv.2 ((throughout_cons _ _ _).mp calm).2
  exact ⟨held,(throughout_cons _ _ _).mpr ⟨well persisted _,answers⟩⟩

theorem write (inv : Calm persisted p) (version : ℕ) : Calm persisted {p with state := p.state.write version} :=
  ⟨inv.1.write version,fun calm => ⟨(inv.2 calm).1.write version,(inv.2 calm).2⟩⟩

theorem move (inv : Calm persisted p) (input : FileMove) :
    Calm persisted ⟨ZoneStore.move input p.state,.outside input :: p.history⟩ := by
  cases input with
  | written version => exact (inv.write version).push (.outside (.written version)) trivial
  | read version =>
    have moved : Calm persisted {p with state := p.state.read version} := by
      refine ⟨inv.1.read version,fun calm => ?_⟩
      obtain ⟨held,answers⟩ := inv.2 calm
      exact ⟨⟨held.phase,held.untouched,held.memory,held.versions,held.acknowledged⟩,answers⟩
    exact moved.push (.outside (.read version)) trivial

theorem loadBegun (inv : Calm persisted p) (unloaded : p.state.loaded = false) :
    Calm persisted ⟨{p.state with loaded := true, reading := none},.event t .loadBegun :: p.history⟩ := by
  refine ⟨⟨inv.1.length,inv.1.written,by simp⟩,fun calm => ?_⟩
  obtain ⟨held,answers⟩ := inv.2 ((throughout_cons _ _ _).mp calm).2
  exact ⟨held.begin unloaded t,(throughout_cons _ _ _).mpr ⟨rfl,answers⟩⟩

theorem loadDone (inv : Calm persisted p) (mine : t ∈ begunLoads p.history) (fresh : t ∉ doneLoads p.history)
    {zones : PyDict StoredSafeZone} (read : StoredSafeZone.readAll p.state.loads = some zones) :
    Calm persisted ⟨{p.state with zones := zones},.event t .loadDone :: p.history⟩ := by
  refine ⟨⟨inv.1.length,inv.1.written,inv.1.reading⟩,fun calm => ?_⟩
  obtain ⟨held,answers⟩ := inv.2 ((throughout_cons _ _ _).mp calm).2
  exact ⟨held.load inv.1 mine fresh read,(throughout_cons _ _ _).mpr ⟨rfl,answers⟩⟩

theorem loadFailed (inv : Calm persisted p) (loaded : Bool) : Calm persisted (p.push (.event t (.loadFailed loaded))) := by
  refine ⟨inv.1,fun calm => ?_⟩
  have spared := ((throughout_cons _ _ _).mp calm).1
  simp [Zones.calm] at spared

theorem change (inv : Calm persisted p)
    (loaded : throughout calm p.history = true → doneLoads p.history ≠ []) (working : completed p.history t = false)
    (duid : String) (record : Option StoredSafeZone) :
    Calm persisted ⟨(change duid record p.state).handOver.2,.event t (.stored duid record) :: p.history⟩ := by
  refine ⟨inv.1.change record ⟨t,duid,record.map StoredSafeZone.asDict⟩,fun calm => ?_⟩
  have before := ((throughout_cons _ _ _).mp calm).2
  obtain ⟨held,answers⟩ := inv.2 before
  exact ⟨held.change inv.1 (loaded before) working record,(throughout_cons _ _ _).mpr ⟨rfl,answers⟩⟩

theorem answered (inv : Calm persisted p) (duid : String) :
    Calm persisted (p.push (.event t (.answered duid (p.state.getLoaded duid)))) := by
  refine ⟨inv.1,fun calm => ?_⟩
  obtain ⟨held,answers⟩ := inv.2 ((throughout_cons _ _ _).mp calm).2
  refine ⟨held,(throughout_cons _ _ _).mpr ⟨?_,answers⟩⟩
  cases seen : known p.history duid with
  | false => simp [answersWell,seen]
  | true => simpa [answersWell,seen] using held.getLoaded_holds seen

theorem finished (inv : Calm persisted p) {k : ℕ} (covered : Covered t k p.history) (taken : k ≤ p.state.written) :
    Calm persisted (p.push (.finished t)) := by
  refine ⟨inv.1,fun calm => ?_⟩
  obtain ⟨held,answers⟩ := inv.2 ((throughout_cons _ _ _).mp calm).2
  refine ⟨⟨held.phase,held.untouched,held.memory,held.versions,?_⟩,(throughout_cons _ _ _).mpr ⟨rfl,answers⟩⟩
  rw [Point.push_history,completed_finished]
  exact (covered.1.mono taken).or held.acknowledged

theorem finished_blank (inv : Calm persisted p) (blank : Blank t p.history) : Calm persisted (p.push (.finished t)) := by
  refine inv.finished (k := 0) ⟨fun w older suffix mine => ?_,Nat.zero_le _⟩ (Nat.zero_le _)
  exact absurd (eq_of_beq mine) (blank.2 w (suffix.subset List.mem_cons_self))

end Calm

/-- A load that returns leaves the store loaded, for a call that found no other under way. -/
theorem wp_asyncLoad {persisted : PyDict RecordData} {t : ℕ} {p : Point Zones} (alone : Prop) (inv : Calm persisted p)
    (blank : Blank t p.history) (fresh : t ∉ doneLoads p.history)
    (calls : alone → throughout calm p.history = true → begunLoads p.history = [] ∨ doneLoads p.history ≠ []) :
    wp (Calm persisted) t asyncLoad
      (fun _ q => Calm persisted q ∧ Blank t q.history ∧ (alone → throughout calm q.history = true → doneLoads q.history ≠ []))
      (fun _ q => Calm persisted q) p := by
  unfold asyncLoad
  rw [wp_bind,wp_get,wp_ite]
  split
  next loaded =>
    refine ⟨inv,blank,fun lone calm => ?_⟩
    rcases (inv.2 calm).1.phase with ⟨unloaded,_⟩ | ⟨_,u,begun,_⟩
    · exact absurd (unloaded.symm.trans loaded) Bool.false_ne_true
    · exact (calls lone calm).resolve_left (by simp [begun])
  next unloaded =>
    have begun := inv.loadBegun (t := t) (by simpa using unloaded)
    unfold loadOnce
    rw [wp_attempt,wp_bind,wp_modify,wp_bind,wp_emit,wp_bind]
    refine ⟨begun.push (.waiting t .load) trivial,fun q inv later answer => ?_⟩
    have kept : Blank t q.history ∧ t ∈ begunLoads q.history ∧ t ∉ doneLoads q.history := by
      have stable := Stable.of_history (t := t)
        (A := fun past => Blank t past ∧ t ∈ begunLoads past ∧ t ∉ doneLoads past) fun item past foreign held =>
          ⟨held.1.foreign foreign,begunLoads_grows item held.2.1,doneLoads_foreign foreign held.2.2⟩
      refine stable _ q ?_ later
      exact ⟨blank,List.mem_cons_self,fresh⟩
    obtain ⟨blank,mine,fresh⟩ := kept
    have resumed := inv.push (.resumed t answer) trivial
    cases answer with
    | error fault => exact resumed.loadFailed _
    | ok reply =>
      change wp (Calm persisted) t (match StoredSafeZone.readAll q.state.loads with
        | none => _
        | some zones => _) _ _ _
      cases read : StoredSafeZone.readAll q.state.loads with
      | none => exact resumed.loadFailed _
      | some zones => exact ⟨resumed.loadDone mine fresh read,blank,fun _ _ => List.cons_ne_nil _ _⟩

theorem wp_store {persisted : PyDict RecordData} {t : ℕ} {p : Point Zones} (inv : Calm persisted p)
    (blank : Blank t p.history) (loaded : throughout calm p.history = true → doneLoads p.history ≠ [])
    (duid : String) (record : Option StoredSafeZone) :
    wp (Calm persisted) t (store duid record) (fun _ q => Calm persisted (q.push (.finished t)))
      (fun _ q => Calm persisted q) p := by
  have changed := inv.change loaded blank.1 duid record
  have length := inv.1.length
  unfold store asyncSave
  rw [wp_bind,wp_modify,wp_bind,wp_emit,wp_bind,wp_bind]
  refine ⟨changed.push (.waiting t .save) trivial,fun q inv later answer => ?_⟩
  have covered : Covered t p.state.versions.length q.history := by
    have stable := Stable.of_history (t := t) (A := Covered t p.state.versions.length) fun _ _ foreign held => held.foreign foreign
    refine stable _ q ?_ later
    rw [length]
    exact ⟨Storage.Covers.full,le_refl _⟩
  have resumed := inv.push (.resumed t answer) trivial
  cases answer with
  | error fault => exact resumed
  | ok reply =>
    have taken : p.state.versions.length ≤ (q.state.write p.state.versions.length).written := by
      have inside : p.state.versions.length < q.state.versions.length := by
        rw [inv.1.length]
        exact Nat.lt_succ_of_le covered.2
      rw [ZoneStore.write,if_pos inside]
      exact Nat.le_max_right _ _
    have updated := (resumed.write p.state.versions.length).push (.event t (.updated duid)) trivial
    exact updated.finished covered taken

theorem Blank.begun {t : ℕ} {history : List (Item Zones)} (empty : own t history = []) :
    Blank t history ∧ t ∉ doneLoads history := by
  refine of_unowned (A := fun history => Blank t history ∧ t ∉ doneLoads history) empty ?_ ?_
  · exact ⟨⟨rfl,by simp [stores]⟩,by simp [doneLoads]⟩
  · exact fun item past foreign both => ⟨both.1.foreign foreign,doneLoads_foreign foreign both.2⟩

theorem keeps_write {persisted : PyDict RecordData} {t : ℕ} {p : Point Zones} (inv : Calm persisted p)
    (blank : Blank t p.history) (fresh : t ∉ doneLoads p.history)
    (free : throughout calm p.history = true → begunLoads p.history = [] ∨ doneLoads p.history ≠ [])
    (duid : String) (record : Option StoredSafeZone) :
    wp (Calm persisted) t (asyncLoad >>= fun _ => store duid record) (fun _ q => Calm persisted (q.push (.finished t)))
      (fun error q => Calm persisted (q.push (.failed t error))) p := by
  rw [wp_bind]
  refine wp_mono (wp_asyncLoad True inv blank fresh fun _ => free) ?_ (fun _ q inv => inv.push _ trivial)
  rintro _ q ⟨inv,blank,loaded⟩
  exact wp_mono (wp_store inv blank (loaded trivial) duid record) (fun _ _ ended => ended) (fun _ q inv => inv.push _ trivial)

theorem calm_keeps (persisted : PyDict RecordData) : Preserves program (Calm persisted) where
  outside input p inv := inv.move input
  dropped t p inv _ := inv.push _ trivial
  body call t p inv empty _ := by
    have begun := inv.push (.started t call) trivial
    obtain ⟨blank,fresh⟩ := Blank.begun empty
    have blank : Blank t (p.push (.started t call)).history := blank
    have fresh : t ∉ doneLoads (p.push (.started t call)).history := fresh
    have free (writes : call.writes = true) (calm : throughout Zones.calm (p.push (.started t call)).history = true) :
        begunLoads (p.push (.started t call)).history = [] ∨ doneLoads (p.push (.started t call)).history ≠ [] := by
      have spared := ((throughout_cons _ _ _).mp calm).1
      change begunLoads p.history = [] ∨ doneLoads p.history ≠ []
      simpa [Zones.calm,writes] using spared
    have reads := wp_asyncLoad False begun blank fresh fun never => never.elim
    cases call with
    | asyncLoad => exact wp_mono reads (fun _ q held => held.1.finished_blank held.2.1) (fun _ q inv => inv.push _ trivial)
    | asyncGet duid =>
      change wp (Calm persisted) t (asyncGet duid) _ _ _
      unfold asyncGet
      rw [wp_bind]
      refine wp_mono reads ?_ (fun _ q inv => inv.push _ trivial)
      rintro _ q ⟨inv,blank,_⟩
      exact (inv.answered duid).finished_blank blank
    | asyncSet duid zone updatedAt => exact keeps_write begun blank fresh (free rfl) duid _
    | asyncClear duid => exact keeps_write begun blank fresh (free rfl) duid _

theorem calm_init (persisted : PyDict RecordData) : Calm persisted ⟨{versions := [persisted]},[]⟩ := by
  refine ⟨⟨rfl,Nat.zero_lt_one,by simp⟩,fun _ => ⟨⟨Or.inl ⟨rfl,rfl,rfl⟩,fun _ => rfl,fun loaded => absurd rfl loaded,?_,?_⟩,rfl⟩⟩
  · intro k raw found duid
    obtain ⟨rfl,rfl⟩ : k = 0 ∧ persisted = raw := by simpa [List.getElem?_singleton] using found
    rfl
  · intro w older suffix
    simp [stores] at suffix

/-- Over every order of loads, reads, sets and clears: nothing that is set or cleared is lost,
and no other record with it, where no load fails and none of them begins during a load. -/
theorem zones_kept (persisted : PyDict RecordData) (schedule : List (Label Zones))
    (calm : throughout calm (run persisted schedule).history = true) : Reliable persisted (run persisted schedule) := by
  have inv : Calm persisted (run persisted schedule) := (calm_keeps persisted).exec _ (calm_init persisted) schedule
  obtain ⟨linked,held⟩ := inv
  obtain ⟨held,answers⟩ := held calm
  refine ⟨fun duid => ?_,fun duid => held.getLoaded_holds,answers⟩
  have inside : (run persisted schedule).state.written ≤ (stores (run persisted schedule).history).length := by
    have written := linked.written
    rw [linked.length] at written
    exact Nat.le_of_lt_succ written
  rw [held.versions _ _ linked.disk duid]
  exact Storage.admits_version inside held.acknowledged

def firstZone : Zone := ⟨24997,26069,27123,28764⟩

def oneRecord : PyDict RecordData := [("first",(⟨"first",firstZone,"2026-10-08"⟩ : StoredSafeZone).asDict)]

/-- Both robots in turn, once the store is loaded. -/
def inTurn : List (Label Zones) :=
  [.call .asyncLoad,.resume 0 (.ok ()),.call (.asyncSet "second" firstZone "2026-10-09"),.call (.asyncClear "first"),
    .resume 2 (.ok ()),.call (.asyncGet "second"),.resume 1 (.ok ())]

theorem zones_kept_in_turn : throughout calm (run oneRecord inTurn).history = true ∧ Reliable oneRecord (run oneRecord inTurn) :=
  have calm : throughout calm (run oneRecord inTurn).history = true := by decide +kernel
  ⟨calm,zones_kept oneRecord inTurn calm⟩

/-- The second robot's zone is set before the load of the first caller has its answer. -/
def duringLoad : List (Label Zones) :=
  [.call .asyncLoad,.outside (.read 0),.call (.asyncSet "second" firstZone "2026-10-09"),.resume 1 (.ok ()),.resume 0 (.ok ())]

def failedLoad : List (Label Zones) := [.call .asyncLoad,.resume 0 (.error (.other "I/O")),.call (.asyncGet "first")]

example : (run oneRecord inTurn).state.disk.map (·.1) = ["second"] := by decide +kernel

/-- A zone set during a load is forgotten, the file loses the other robot's, and a failed load
leaves an empty store that is never loaded again. -/
theorem zones_lost :
    (¬Reliable oneRecord (run oneRecord duringLoad) ∧
      (run oneRecord duringLoad).state.getLoaded "second" = none ∧
      (run oneRecord duringLoad).state.disk.lookup "first" = none) ∧
    ¬Reliable oneRecord (run oneRecord failedLoad) ∧ (run oneRecord failedLoad).state.loaded = true := by
  have forgotten : holds oneRecord (run oneRecord duringLoad).history "first"
      ((run oneRecord duringLoad).state.disk.lookup "first") = false := by decide +kernel
  have raised : throughout (answersWell oneRecord) (run oneRecord failedLoad).history = false := by decide +kernel
  refine ⟨⟨fun reliable => ?_,by decide +kernel,by decide +kernel⟩,fun reliable => ?_,by decide +kernel⟩
  · exact Bool.false_ne_true (forgotten.symm.trans (reliable.file "first"))
  · exact Bool.false_ne_true (raised.symm.trans reliable.answers)

end Zones

end RoborockPlus
