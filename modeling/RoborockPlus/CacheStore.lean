import RoborockPlus.ZoneStore
import RoborockPlus.Async.Ledger

/-! The cache that the device manager and its devices share. What it holds is an object, and whoever
has got it may change it in place; the first reads load it from a file, several at a time. -/
namespace RoborockPlus
open Async

inductive CacheFault
  | store | valueError | cancelled
deriving DecidableEq

/-- The library's cached data, and the dictionaries of values `V` it is saved as; and the store, of a version and
with a migration, on a file. -/
structure CacheLib (Data V File : Type) where
  cacheData : Data
  asDict : Data → PyDict V
  fromDict : PyDict V → Option Data
  asyncLoad : ℕ → (ℕ → ℕ → PyDict V → PyDict V) → File → Except CacheFault (Option (PyDict V))

/-- A cached object is known by its number, and `fresh` is above all that were ever mentioned. -/
structure CacheStore (Data : Type) where
  cacheData : Option ℕ := none
  objects : ℕ → Data
  fresh : ℕ

inductive CacheEvent (Data V : Type)
  | loading
  | loaded (object : ℕ) (value : Data)
  | set (object : ℕ)
  | answered (object : ℕ)
  | saving (object : ℕ) (document : PyDict V)
  | flushed

inductive CacheRequest (V : Type)
  | load
  | save (document : PyDict V)
  | remove

inductive CacheCall
  | get
  | set (object : ℕ)
  | flush
  | asyncRemove

/-- An object is made, or changed by one who has it. -/
inductive CacheStimulus (Data : Type)
  | wrote (object : ℕ) (value : Data)

/-- The reply to a load is the file that the store finds. -/
abbrev Caches (Data V File : Type) : Signature where
  State := CacheStore Data
  Event := CacheEvent Data V
  Exn := CacheFault
  Request := CacheRequest V
  Reply := File
  Call := CacheCall
  Stimulus := CacheStimulus Data

def cacheVersion : ℕ := 2

/-- Wipes out what was kept in the old format. -/
def asyncMigrateFunc {V : Type} (oldMajorVersion _oldMinorVersion : ℕ) (oldData : PyDict V) : PyDict V :=
  if oldMajorVersion = 1 then [] else oldData

namespace CacheStore
variable {Data V : Type} (s : CacheStore Data)

def wrote (object : ℕ) (value : Data) : CacheStore Data :=
  {s with objects := Function.update s.objects object value, fresh := max s.fresh (object+1)}

def observe : CacheStimulus Data → CacheStore Data → CacheStore Data
  | .wrote object value, s => s.wrote object value

/-- A new object is made of what was read. -/
def install (value : Data) : CacheStore Data := {s.wrote s.fresh value with cacheData := some s.fresh}

def put (object : ℕ) : CacheStore Data := {s with cacheData := some object, fresh := max s.fresh (object+1)}

end CacheStore

namespace Caches
variable {Data V File : Type} (lib : CacheLib Data V File)

/-- The library may refuse a document that is not one of its own. -/
def readDocument : Option (PyDict V) → Except CacheFault Data
  | none | some [] => .ok lib.cacheData
  | some document => (lib.fromDict document).elim (.error .valueError) .ok

def readFile (file : File) : Except CacheFault Data := lib.asyncLoad cacheVersion asyncMigrateFunc file >>= readDocument lib

def load : Co (Caches Data V File) Unit := do
  .record id fun _ => .loading
  let file ← .await .load
  match readFile lib file with
  | .error fault => .throw fault
  | .ok value => .record (CacheStore.install · value) fun s => .loaded (s.cacheData.getD 0) value

def get : Co (Caches Data V File) Unit := do
  let s ← .get
  .when s.cacheData.isNone (load lib)
  let s ← .get
  match s.cacheData with
  | none => pure ()
  | some object => .record id fun _ => .answered object

def set (object : ℕ) : Co (Caches Data V File) Unit := .record (CacheStore.put · object) fun _ => .set object

def flush : Co (Caches Data V File) Unit := do
  let s ← .get
  match s.cacheData with
  | none => pure ()
  | some object => do
    let document := lib.asDict (s.objects object)
    .record id fun _ => .saving object document
    let _ ← .await (.save document)
    .record id fun _ => .flushed

def program : Program (Caches Data V File) where
  body := fun
    | .get => get lib
    | .set object => set object
    | .flush => flush lib
    | .asyncRemove => do
      let _ ← .await .remove
      pure ()
  entry _ := true
  outside := CacheStore.observe
  cancelledError := .cancelled

/-- A store that was just made, among objects of which some are there. -/
def run (objects : ℕ → Data) (fresh : ℕ) (schedule : List (Label (Caches Data V File))) : Point (Caches Data V File) :=
  ((Loop.init (L := Caches Data V File) ⟨none,objects,fresh⟩).exec (program lib) schedule).conf.toPoint

section Effects
variable {Data V File : Type} (lib : CacheLib Data V File)

inductive Effect (t : ℕ) (p : Point (Caches Data V File)) : CacheEvent Data V → CacheStore Data → Prop
  | loading (unset : p.state.cacheData = none) : Effect t p .loading p.state
  | loaded (value : Data) (begun : .event t .loading ∈ p.history) : Effect t p (.loaded p.state.fresh value) (p.state.install value)
  | set (object : ℕ) : Effect t p (.set object) (p.state.put object)
  | answered (object : ℕ) (held : p.state.cacheData = some object) : Effect t p (.answered object) p.state
  | saving (object : ℕ) (held : p.state.cacheData = some object) :
    Effect t p (.saving object (lib.asDict (p.state.objects object))) p.state
  | flushed : Effect t p .flushed p.state

/-- The points of the runs of one store. -/
abbrev Cached (start : CacheStore Data) : Point (Caches Data V File) → Prop := Chain (program lib) (Effect lib) start

variable {lib} {start : CacheStore Data} {p q : Point (Caches Data V File)} {t : ℕ}

theorem leads_load (cached : Cached lib start p) (unset : p.state.cacheData = none) : Leads (Cached lib start) t p (load lib) fun _ _ => True := by
  unfold load
  refine (cached.record (f := id) (.loading unset)).bind ?_
  rintro _ q cached - rfl
  refine (cached.await _).bind fun file r cached grown _ => ?_
  split
  next fault _ => exact .throw cached
  next value _ => exact (cached.record (.loaded value (grown.subset List.mem_cons_self))).mono fun _ _ _ _ _ => trivial

theorem leads_get (cached : Cached lib start p) : Leads (Cached lib start) t p (get lib) fun _ _ => True := by
  unfold get
  refine (Leads.get cached).bind ?_
  rintro _ q - - ⟨rfl,rfl⟩
  have loads : Leads (Cached lib start) t q (.when q.state.cacheData.isNone (load lib)) fun _ _ => True :=
    .when cached fun unset => leads_load cached (Option.isNone_iff_eq_none.mp unset)
  refine loads.bind fun _ r cached _ _ => (Leads.get cached).bind ?_
  rintro _ r - - ⟨rfl,rfl⟩
  split
  next => exact .pure cached trivial
  next object held => exact (cached.record (f := id) (.answered object held)).mono fun _ _ _ _ _ => trivial

theorem leads_flush (cached : Cached lib start p) : Leads (Cached lib start) t p (flush lib) fun _ _ => True := by
  unfold flush
  refine (Leads.get cached).bind ?_
  rintro _ q - - ⟨rfl,rfl⟩
  split
  next => exact .pure cached trivial
  next object held =>
    refine (cached.record (f := id) (.saving object held)).bind fun _ r cached _ _ => ?_
    refine (cached.await _).bind fun _ r cached _ _ => ?_
    exact (cached.record (f := id) .flushed).mono fun _ _ _ _ _ => trivial

theorem run_cached (lib : CacheLib Data V File) (objects : ℕ → Data) (fresh : ℕ) (schedule : List (Label (Caches Data V File))) :
    Cached lib ⟨none,objects,fresh⟩ (run lib objects fresh schedule) := by
  refine Chain.run (fun call t p cached => ?_) schedule
  cases call with
  | get => exact leads_get cached
  | set object => exact (cached.record (.set object)).mono fun _ _ _ _ _ => trivial
  | flush => exact leads_flush cached
  | asyncRemove => exact (cached.await _).bind fun _ _ cached _ _ => .pure cached trivial

end Effects

section Answers
variable {Data V File : Type} {lib : CacheLib Data V File} {start : CacheStore Data} {p : Point (Caches Data V File)} {t u : ℕ}

/-- The object that the store holds from then on. -/
def installs : CacheEvent Data V → Option ℕ
  | .loaded object _ => some object
  | .set object => some object
  | _ => none

def sets : Item (Caches Data V File) → Bool
  | .event _ (.set _) => true
  | _ => false

/-- The object that the store holds at this moment, as a caller gets it or puts it there. -/
def holds : CacheEvent Data V → Option ℕ
  | .answered object => some object
  | .set object => some object
  | _ => none

theorem installed (cached : Cached lib start p) (unset : start.cacheData = none) : Notes installs CacheStore.cacheData p :=
  cached.notes unset (fun _ _ => rfl) fun _ _ _ _ made => by cases made <;> rfl

theorem Effect.held {event : CacheEvent Data V} {s : CacheStore Data} {object : ℕ} (made : Effect lib t p event s)
    (holding : holds event = some object) : s.cacheData = some object := by
  cases made with
  | set => exact holding
  | answered other held => exact held.trans holding
  | _ => exact nomatch holding

/-- Without a set, what is installed has been loaded. -/
theorem loaded_of_picked {later past : List (Item (Caches Data V File))} {object answer : ℕ} (kept : later.any sets = false)
    (before : (picked installs past).head? = some object) (now : (picked installs (later++past)).head? = some answer) (apart : answer ≠ object) :
    ∃ v value newer older, later = newer++.event v (.loaded answer value) :: older := by
  induction later with
  | nil => exact absurd (Option.some.inj (now.symm.trans before)) apart
  | cons item later ih =>
    rw [List.any_cons,Bool.or_eq_false_iff] at kept
    have skipped (same : picked installs (item :: (later++past)) = picked installs (later++past)) :
        ∃ v value newer older, item :: later = newer++.event v (.loaded answer value) :: older := by
      obtain ⟨v,value,newer,older,rfl⟩ := ih kept.2 (same ▸ now)
      exact ⟨v,value,item :: newer,older,rfl⟩
    rcases item with _ | _ | _ | ⟨v,event⟩ | _ | _ | _ | _
    case event =>
      cases event with
      | loaded object value =>
        obtain rfl : object = answer := Option.some.inj now
        exact ⟨v,value,[],later,rfl⟩
      | set => exact nomatch kept.1
      | _ => exact skipped rfl
    all_goals exact skipped rfl

/-- Whoever loads has begun before the store held anything. -/
theorem loading_first (cached : Cached lib start p) (unset : start.cacheData = none) {later past : List (Item (Caches Data V File))}
    {object : ℕ} {value : Data} (happened : p.history = later++.event t (.loaded object value) :: past) :
    ∃ between before, past = between++.event t CacheEvent.loading :: before ∧ picked installs before = [] := by
  obtain ⟨q,_,begun,rfl,made,_⟩ := cached.event_at happened
  cases made with
  | loaded _ inside =>
    obtain ⟨between,before,split⟩ := List.append_of_mem inside
    obtain ⟨r,_,first,rfl,made,_⟩ := begun.event_at split
    cases made with
    | loading empty => exact ⟨between,r.history,split,(installed first unset).none_iff.mp empty⟩

/-- In every run: a caller is given what an earlier one was given, or has set, unless something was set in between or a
load has replaced it that was begun before the store held anything. -/
theorem cache_kept (lib : CacheLib Data V File) (objects : ℕ → Data) (fresh : ℕ) (schedule : List (Label (Caches Data V File))) (t u : ℕ)
    (newest later past : List (Item (Caches Data V File))) (event : CacheEvent Data V) (object answer : ℕ)
    (happened : (run lib objects fresh schedule).history = newest++.event t (.answered answer) :: later++.event u event :: past)
    (holding : holds event = some object) (unset : later.any sets = false) :
    answer = object ∨ ∃ v value between before, .event v (.loaded answer value) ∈ later ∧
      past = between++.event v CacheEvent.loading :: before ∧ picked installs before = [] := by
  have cached := run_cached lib objects fresh schedule
  by_cases same : answer = object
  · exact Or.inl same
  rw [List.append_assoc,List.cons_append] at happened
  obtain ⟨q,_,answering,grown,made,_⟩ := cached.event_at happened
  obtain ⟨_,_,_,_,noted,holder⟩ := answering.event_at grown
  have before : (picked installs (.event u event :: past)).head? = some object := (installed holder rfl).symm.trans (noted.held holding)
  have now : (picked installs q.history).head? = some answer := by
    cases made with
    | answered _ held => exact (installed answering rfl).symm.trans held
  rw [grown] at now
  obtain ⟨v,value,newer,older,rfl⟩ := loaded_of_picked unset before now same
  rw [List.append_assoc,List.cons_append] at grown
  obtain ⟨between,first,split,empty⟩ := loading_first answering rfl grown
  have apart : (.event v CacheEvent.loading : Item (Caches Data V File)) ≠ .event u event := by
    rintro equal
    obtain ⟨rfl,rfl⟩ := Item.event.inj equal
    exact nomatch holding
  have noticed : picked installs (.event u event :: past) ≠ [] := by
    intro nothing
    rw [nothing] at before
    exact nomatch before
  obtain ⟨since,rfl⟩ := older_of_picked split apart noticed empty
  exact Or.inr ⟨v,value,since,first,by simp,rfl,empty⟩

/-- A file of a version and a document, or none; an older one is migrated. -/
def versioned (version : ℕ) (migrate : ℕ → ℕ → PyDict ℕ → PyDict ℕ) :
    Option (ℕ × ℕ × PyDict ℕ) → Except CacheFault (Option (PyDict ℕ))
  | none => .ok none
  | some (major,minor,document) =>
    if version < major then .error .store else .ok (some (if major = version then document else migrate major minor document))

/-- Two reads that overlap, of a cache that was kept in the old format. -/
def twoReads : List (Label (Caches ℕ ℕ (Option (ℕ × ℕ × PyDict ℕ)))) :=
  [.call .get,.call .get,.resume 0 (.ok (some (1,1,[("old",4)]))),.resume 1 (.ok (some (1,1,[("old",4)])))]

def emptyCache : CacheLib ℕ ℕ (Option (ℕ × ℕ × PyDict ℕ)) := ⟨0,fun value => [("value",value)],fun _ => none,versioned⟩

/-- The second of them replaces what the first one was given. -/
theorem cache_kept_twice : ∃ later past,
    (run emptyCache (fun _ => 0) 7 twoReads).history = [.finished 1]++.event 1 (.answered 8) :: later++.event 0 (.answered 7) :: past ∧
    (8 = 7 ∨ ∃ v value between before, .event v (.loaded 8 value) ∈ later ∧
      past = between++.event v CacheEvent.loading :: before ∧ picked installs before = []) := by
  with_unfolding_all
    exact ⟨[.event 1 (.loaded 8 0),.resumed 1 (.ok (some (1,1,[("old",4)]))),.finished 0],_,rfl,
      cache_kept emptyCache (fun _ => 0) 7 twoReads 1 0 [.finished 1] _ _ (.answered 7) 7 8 rfl rfl rfl⟩

end Answers

section Flushes
variable {Data V File : Type} {lib : CacheLib Data V File} {start : CacheStore Data} {p : Point (Caches Data V File)}

/-- What an object holds, with all that was changed in it. -/
def content (objects : ℕ → Data) (object : ℕ) : List (Item (Caches Data V File)) → Data
  | [] => objects object
  | .outside (.wrote other value) :: past => if object = other then value else content objects object past
  | .event _ (.loaded other value) :: past => if object = other then value else content objects object past
  | _ :: past => content objects object past

theorem cached_content (cached : Cached lib start p) (object : ℕ) : p.state.objects object = content start.objects object p.history := by
  induction cached with
  | init => rfl
  | outside input before ih =>
    obtain ⟨other,value⟩ := input
    exact (Function.update_apply _ other value object).trans (by rw [content,ih])
  | silent silent before ih =>
    rename_i item
    cases item with
    | outside input => exact nomatch silent.owned
    | event u event => exact absurd rfl (silent.quiet u event)
    | _ => exact ih
  | effect made before ih =>
    cases made with
    | loaded value begun => exact (Function.update_apply _ _ value object).trans (by rw [content,ih])
    | _ => exact ih

/-- In every run: what is saved is the object the store holds, with every change that was made in it; and nothing is
saved while it holds none. -/
theorem flush_saves (lib : CacheLib Data V File) (objects : ℕ → Data) (fresh : ℕ) (schedule : List (Label (Caches Data V File))) (t : ℕ)
    (later past : List (Item (Caches Data V File))) (object : ℕ) (document : PyDict V)
    (happened : (run lib objects fresh schedule).history = later++.event t (.saving object document) :: past) :
    (picked installs past).head? = some object ∧ document = lib.asDict (content objects object past) := by
  obtain ⟨q,_,saving,rfl,made,_⟩ := (run_cached lib objects fresh schedule).event_at happened
  cases made with
  | saving _ held => exact ⟨(installed saving rfl).symm.trans held,congrArg lib.asDict (cached_content saving object)⟩

/-- A value that its holder has changed since it was set. -/
def changedLater : List (Label (Caches ℕ ℕ (Option (ℕ × ℕ × PyDict ℕ)))) := [.outside (.wrote 3 5),.call (.set 3),.outside (.wrote 3 6),.call .flush]

theorem flush_saves_changed : ∃ past,
    (run emptyCache (fun _ => 0) 1 changedLater).history =
      [.waiting 1 (.save [("value",6)])]++.event 1 (.saving 3 [("value",6)]) :: past ∧
    (picked installs past).head? = some 3 ∧ [("value",6)] = [("value",content (V := ℕ) (fun _ => 0) 3 past)] := by
  with_unfolding_all
    exact ⟨_,rfl,flush_saves emptyCache (fun _ => 0) 1 changedLater 1 [.waiting 1 (.save [("value",6)])] _ 3 _ rfl⟩

end Flushes

end Caches

end RoborockPlus
