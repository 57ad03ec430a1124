import RoborockPlus.GarageConfig
import RoborockPlus.Async.History

/-! The set-up of garages over one run of the home, with whatever entries are set up,
unloaded and changed in whatever order. The registry of covers is only ever written to. -/
namespace RoborockPlus
open Async

/-- What is found where a mapping belongs. -/
inductive Stored (α : Type)
  | mapping (value : α)
  | other (value : PyValue)

structure Options where
  garageBindings : Stored (List (String × Stored Binding)) := .mapping []
  garageControlVersion : PyValue := .none

namespace GarageConfig

def resolveBinding (options : Options) (duid : String) : Except GarageConfigError (Option Binding) :=
  match options.garageBindings with
  | .other _ => .error ⟨.invalidBinding,none⟩
  | .mapping bindings =>
    match bindings.lookup duid with
    | none | some (.other .none) => .ok none
    | some (.other _) => .error ⟨.invalidBinding,none⟩
    | some (.mapping binding) => do
      let validated ← validateBinding binding true
      if (validated.get .enabled).truthy = false then pure none
      else if options.garageControlVersion ≠ .int 1 then .error ⟨.unsupportedConfigurationVersion,none⟩
      else pure (some validated)

def claims (cover : PyValue) : Stored Binding → Bool
  | .mapping binding => binding.get .enabled == .bool true && binding.get .coverEntityId == cover
  | .other _ => false

/-- The entries come with their ids; only the robot's own binding in its own entry is passed over. -/
def validateBindingOwnership (binding : Binding) (duid entryId : String) (entries : List (String × Options)) : Check :=
  if binding.get .enabled ≠ .bool true then .ok ()
  else entries.forM fun entry =>
    match entry.2.garageBindings with
    | .other _ => .error ⟨.invalidBinding,none⟩
    | .mapping others => others.forM fun other =>
      ensure (decide (entry.1 = entryId ∧ other.1 = duid) || !claims (binding.get .coverEntityId) other.2)
        .duplicateBinding (some .coverEntityId)

end GarageConfig

open GarageConfig

def configured (options : Options) (duid : String) : Bool :=
  match options.garageBindings with
  | .mapping bindings =>
    match bindings.lookup duid with
    | some (.mapping binding) => binding.get .enabled == .bool true
    | _ => false
  | .other _ => false

/-- A coordinator of one robot; every set-up of an entry makes new ones. -/
structure V1Coordinator where
  id : ℕ
  configEntry : String
  duid : String

/-- A runtime, as the home has it. Whether its start failed is not recorded in the source. -/
structure Steward where
  binding : Binding
  closed : Bool := false
  failed : Bool := false

namespace Steward

def cover (r : Steward) : PyValue := r.binding.get .coverEntityId

def retired (r : Steward) : Bool := r.closed || r.failed

end Steward

inductive SetupError
  | rejected (reason : ConfigReason)
  | failed (reason : String)

structure Hass where
  entries : List String
  options : String → Options
  v1 : String → Option (List V1Coordinator) := fun _ => none
  onUnload : String → List ℕ := fun _ => []
  nextCoordinator : ℕ := 0
  garageRuntime : ℕ → Option ℕ := fun _ => none
  garageSetupError : ℕ → Option SetupError := fun _ => none
  runtimes : List Steward := []
  owners : PyValue → Option ℕ := fun _ => none

namespace Hass
variable (s : Hass)

def runtime (i : ℕ) : Option Steward := s.runtimes[i]?

/-- `runtime_data`, with a coordinator for each robot. -/
def setRuntimeData (entry : String) (duids : List String) : Hass := {s with
  v1 := Function.update s.v1 entry (some (duids.mapIdx fun i duid => ⟨s.nextCoordinator+i,entry,duid⟩))
  nextCoordinator := s.nextCoordinator+duids.length}

def clear (c : V1Coordinator) : Hass := {s with
  garageRuntime := Function.update s.garageRuntime c.id none
  garageSetupError := Function.update s.garageSetupError c.id none}

def setSetupError (c : V1Coordinator) (error : SetupError) : Hass :=
  {s with garageSetupError := Function.update s.garageSetupError c.id (some error)}

/-- What `async_setup_garages` raises for, up to the construction of the runtime. -/
def resolve (entry : String) (entries : List (String × Options)) (duid : String) : Except ConfigReason Binding :=
  match resolveBinding (s.options entry) duid with
  | .error error => .error error.reason
  | .ok none => .error .missingSafetyConfiguration
  | .ok (some binding) =>
    match validateBindingOwnership binding duid entry entries with
    | .error error => .error error.reason
    | .ok _ => if (s.owners (binding.get .coverEntityId)).isSome then .error .duplicateBinding else .ok binding

def install (c : V1Coordinator) (entry : String) (binding : Binding) : ℕ × Hass :=
  let runtime := s.runtimes.length
  (runtime,{s with
    runtimes := s.runtimes ++ [⟨binding,false,false⟩]
    owners := Function.update s.owners (binding.get .coverEntityId) (some runtime)
    garageRuntime := Function.update s.garageRuntime c.id (some runtime)
    onUnload := Function.update s.onUnload entry (runtime :: s.onUnload entry)})

def fail (runtime : ℕ) : Hass := {s with runtimes := s.runtimes.modify runtime fun r => {r with failed := true}}

/-- Everything the entry has left for its unloading runs, `shutdown` of each runtime among it. -/
def unload (entry : String) : Hass := {s with
  runtimes := s.runtimes.mapIdx fun i r => if i ∈ s.onUnload entry then {r with closed := true} else r
  onUnload := Function.update s.onUnload entry []
  v1 := Function.update s.v1 entry none}

/-- Another binding of this run claims the cover. -/
def claimed (entry duid : String) (cover : PyValue) : Bool :=
  s.entries.any fun other =>
    match (s.options other).garageBindings with
    | .mapping others => others.any fun binding => !decide (other = entry ∧ binding.1 = duid) && claims cover binding.2
    | .other _ => false

def driven (cover : PyValue) : Bool := s.runtimes.any fun r => r.cover == cover && !r.retired

end Hass

inductive Fault
  | error (reason : Option String)
  | cancelled

structure Rejection where
  hass : Hass
  entry : String
  duid : String
  reason : ConfigReason

inductive SetupEvent
  | installed (entry : String) (runtime : ℕ)
  | rejected (rejection : Rejection)
  | startFailed (runtime : ℕ)

inductive SetupRequest
  | asyncLoad
  | asyncRefresh (runtime : ℕ)
  | asyncAttach (runtime : ℕ)

inductive SetupCall
  | asyncSetupEntry (entry : String) (duids : List String)

inductive HomeInput
  | added (entry : String) (options : Options)
  | removed (entry : String)
  | optionsUpdated (entry : String) (options : Options)
  | unloaded (entry : String)

abbrev Setup : Signature where
  State := Hass
  Event := SetupEvent
  Exn := Fault
  Request := SetupRequest
  Reply := Unit
  Call := SetupCall
  Stimulus := HomeInput

namespace Setup

/-- `async_start`. What follows the refresh suspends nowhere, and may raise as well. -/
def asyncStart (runtime : ℕ) : Co Setup Unit := do
  .await (.asyncRefresh runtime)
  .await (.asyncAttach runtime)

def startFailed (c : V1Coordinator) (runtime : ℕ) (fault : Fault) : Co Setup Unit := do
  .modify fun s => s.fail runtime
  .emit (.startFailed runtime)
  match fault with
  | .cancelled => .throw .cancelled
  | .error reason => .modify fun s => s.setSetupError c (.failed (if reason.getD "" = "" then "garage_setup_failed" else reason.getD ""))

def setupGarage (entry : String) (entries : List (String × Options)) (c : V1Coordinator) : Co Setup Unit := do
  .modify fun s => s.clear c
  let s ← .get
  if configured (s.options c.configEntry) c.duid = false then pure ()
  else match s.resolve entry entries c.duid with
  | .error reason => do
    .emit (.rejected ⟨s,entry,c.duid,reason⟩)
    .modify fun s => s.setSetupError c (.rejected reason)
  | .ok binding => do
    let runtime ← .act fun s => s.install c entry binding
    .emit (.installed entry runtime)
    .attempt (asyncStart runtime) (startFailed c runtime)

/-- The entries are listed once, before the first of the coordinators. -/
def asyncSetupGarages (entry : String) : Co Setup Unit := do
  .await .asyncLoad
  let s ← .get
  match s.v1 entry with
  | none => .throw (.error none)
  | some coordinators => coordinators.forM (setupGarage entry (s.entries.map fun id => (id,s.options id)))

/-- What of `async_setup_entry` concerns the garages. -/
def asyncSetupEntry (entry : String) (duids : List String) : Co Setup Unit := do
  .modify fun s => s.setRuntimeData entry duids
  asyncSetupGarages entry

def apply : HomeInput → Hass → Hass
  | .added entry options, s =>
    if entry ∈ s.entries then s else {s with entries := s.entries ++ [entry], options := Function.update s.options entry options}
  | .removed entry, s => {s with entries := s.entries.filter (· != entry)}
  | .optionsUpdated entry options, s => {s with options := Function.update s.options entry options}
  | .unloaded entry, s => s.unload entry

def program : Program Setup where
  body := fun | .asyncSetupEntry entry duids => asyncSetupEntry entry duids
  entry _ := true
  outside := apply
  cancelledError := .cancelled

/-- One run of the home, which begins with an empty registry. -/
def run (entries : List String) (options : String → Options) (schedule : List (Label Setup)) : Point Setup :=
  ((Loop.init (L := Setup) ({entries, options} : Hass)).exec program schedule).conf.toPoint

end Setup

/-- A valid enabled binding that is turned away as a duplicate is claimed by another, or its cover is `found`. -/
def Rejection.finds (r : Rejection) (found : PyValue → Bool) : Bool :=
  match resolveBinding (r.hass.options r.entry) r.duid with
  | .ok (some binding) =>
    let cover := binding.get .coverEntityId
    r.reason != .duplicateBinding || r.hass.claimed r.entry r.duid cover || found cover
  | _ => true

def justified : SetupEvent → Bool
  | .rejected r => r.finds r.hass.driven
  | _ => true

def justifies : List (Item Setup) → Item Setup → Bool := atEvents fun _ _ => justified

def installs (entry : String) : Item Setup → Bool
  | .event _ (.installed other _) => other == entry
  | _ => false

/-- No entry is unloaded once it has brought up a garage, no start fails, and a binding that is
still enabled, or the registry, stands behind a rejection. -/
def sparesGarages : List (Item Setup) → Item Setup → Bool
  | past, .outside (.unloaded entry) => !past.any (installs entry)
  | _, .event _ (.startFailed _) => false
  | _, .event _ (.rejected r) => r.finds fun cover => (r.hass.owners cover).isSome
  | _, _ => true

namespace Hass

/-- No two runtimes that have not been shut down share a cover. -/
def Exclusive (s : Hass) : Prop :=
  ∀ i j r r', s.runtime i = some r → s.runtime j = some r' → r.closed = false → r'.closed = false →
    r.cover = r'.cover → i = j

/-- A runtime that was shut down or failed to start claims no cover, and no coordinator has it. -/
def Relinquished (s : Hass) : Prop :=
  ∀ i r, s.runtime i = some r → r.retired = true → (∀ cover, s.owners cover ≠ some i) ∧ ∀ c, s.garageRuntime c ≠ some i

structure Registered (s : Hass) : Prop where
  owned : ∀ i r, s.runtime i = some r → s.owners r.cover = some i
  known : ∀ cover i, s.owners cover = some i → ∃ r, s.runtime i = some r ∧ r.cover = cover

def SameGarages (s s' : Hass) : Prop := s'.runtimes = s.runtimes ∧ s'.owners = s.owners ∧ s'.onUnload = s.onUnload

section
variable {s : Hass} {i : ℕ} {r : Steward} {entry : String}

theorem Registered.exclusive (registered : s.Registered) : s.Exclusive := by
  intro i j r r' first second _ _ same
  have one := registered.owned i r first
  have other := registered.owned j r' second
  rw [same,other] at one
  exact (Option.some.inj one).symm

theorem Registered.relinquished (registered : s.Registered) :
    s.Relinquished ↔ ∀ i r, s.runtime i = some r → r.retired = false := by
  constructor
  · intro left i r found
    by_contra retired
    exact (left i r found ((Bool.not_eq_false _).mp retired)).1 r.cover (registered.owned i r found)
  · intro live i r found retired
    exact absurd ((live i r found).symm.trans retired) (by simp)

theorem Registered.driven_iff (registered : s.Registered) (live : ∀ i r, s.runtime i = some r → r.retired = false)
    (cover : PyValue) : s.driven cover = (s.owners cover).isSome := by
  rw [Bool.eq_iff_iff,Hass.driven,List.any_eq_true]
  constructor
  · rintro ⟨r,member,driven⟩
    obtain ⟨i,found⟩ := List.getElem?_of_mem member
    obtain ⟨same,_⟩ := Bool.and_eq_true_iff.mp driven
    rw [← eq_of_beq same,registered.owned i r found]
    rfl
  · intro some
    obtain ⟨i,owned⟩ := Option.isSome_iff_exists.mp some
    obtain ⟨r,found,same⟩ := registered.known cover i owned
    exact ⟨r,List.mem_of_getElem? found,by simp [same,live i r found]⟩

theorem Registered.covers {s' : Hass} (registered : s.Registered) (owners : s'.owners = s.owners)
    (covers : ∀ i, (s'.runtime i).map Steward.cover = (s.runtime i).map Steward.cover) : s'.Registered := by
  constructor
  · intro i r found
    have same := covers i
    rw [found] at same
    obtain ⟨r',before,cover⟩ := Option.map_eq_some_iff.mp same.symm
    rw [owners,← cover]
    exact registered.owned i r' before
  · intro cover i owned
    rw [owners] at owned
    obtain ⟨r,found,named⟩ := registered.known cover i owned
    have same := covers i
    rw [found] at same
    obtain ⟨r',after,cover⟩ := Option.map_eq_some_iff.mp same
    exact ⟨r',after,cover.trans named⟩

theorem Registered.same {s' : Hass} (registered : s.Registered) (same : SameGarages s s') : s'.Registered :=
  registered.covers same.2.1 fun i => by rw [Hass.runtime,Hass.runtime,same.1]

theorem runtime_fail (i j : ℕ) : (s.fail i).runtime j =
    (s.runtime j).map fun r => if j = i then {r with failed := true} else r := by
  unfold runtime fail
  rw [List.getElem?_modify]
  by_cases same : i = j
  · simp [same]
  · simp [same,Ne.symm same]

theorem runtime_unload (entry : String) (j : ℕ) : (s.unload entry).runtime j =
    (s.runtime j).map fun r => if j ∈ s.onUnload entry then {r with closed := true} else r := by
  unfold runtime unload
  rw [List.getElem?_mapIdx]

theorem Registered.fail (registered : s.Registered) (runtime : ℕ) : (s.fail runtime).Registered := by
  refine registered.covers rfl fun j => ?_
  rw [runtime_fail,Option.map_map]
  congr 1
  funext r
  simp only [Function.comp_apply]
  split <;> rfl

theorem Registered.unload (registered : s.Registered) (entry : String) : (s.unload entry).Registered := by
  refine registered.covers rfl fun j => ?_
  rw [runtime_unload,Option.map_map]
  congr 1
  funext r
  simp only [Function.comp_apply]
  split <;> rfl

theorem runtime_install (c : V1Coordinator) (entry : String) (binding : Binding) (j : ℕ) :
    (s.install c entry binding).2.runtime j =
      if j = s.runtimes.length then some ⟨binding,false,false⟩ else s.runtime j := by
  unfold runtime install
  dsimp only
  rw [List.getElem?_append]
  by_cases below : j < s.runtimes.length
  · rw [if_pos below,if_neg (Nat.ne_of_lt below)]
  · rw [if_neg below,List.getElem?_eq_none (Nat.not_lt.mp below)]
    by_cases same : j = s.runtimes.length
    · simp [same]
    · have above : j-s.runtimes.length ≠ 0 := by omega
      simp [same,above]

theorem Registered.install (registered : s.Registered) {binding : Binding} (free : s.owners (binding.get .coverEntityId) = none)
    (c : V1Coordinator) (entry : String) : (s.install c entry binding).2.Registered := by
  have owners (cover : PyValue) : (s.install c entry binding).2.owners cover =
      if cover = binding.get .coverEntityId then some s.runtimes.length else s.owners cover := by
    simp [Hass.install,Function.update_apply]
  constructor
  · intro i r found
    rw [runtime_install] at found
    rw [owners]
    by_cases last : i = s.runtimes.length
    · rw [if_pos last] at found
      obtain rfl := Option.some.inj found
      rw [last]
      exact if_pos rfl
    · rw [if_neg last] at found
      have owned := registered.owned i r found
      have other : r.cover ≠ binding.get .coverEntityId := by
        intro same
        rw [same,free] at owned
        simp at owned
      rw [if_neg other,owned]
  · intro cover i owned
    rw [owners] at owned
    rw [runtime_install]
    by_cases same : cover = binding.get .coverEntityId
    · rw [if_pos same] at owned
      exact ⟨_,if_pos (Option.some.inj owned).symm,same.symm⟩
    · rw [if_neg same] at owned
      obtain ⟨r,found,named⟩ := registered.known cover i owned
      have before : i < s.runtimes.length := (List.getElem?_eq_some_iff.mp found).1
      exact ⟨r,by rw [if_neg (Nat.ne_of_lt before),found],named⟩

theorem resolve_free {entries : List (String × Options)} {duid : String} {binding : Binding}
    (resolved : s.resolve entry entries duid = .ok binding) : s.owners (binding.get .coverEntityId) = none := by
  unfold resolve at resolved
  split at resolved
  · simp at resolved
  · simp at resolved
  · split at resolved
    · simp at resolved
    · split_ifs at resolved with owned
      obtain rfl := Except.ok.inj resolved
      simpa using owned

end

end Hass

/-- What the registry, the callbacks and the history of a run have to do with each other. -/
structure Kept (p : Point Setup) : Prop where
  registered : p.state.Registered
  unloads : ∀ entry, ∀ i ∈ p.state.onUnload entry, p.history.any (installs entry) = true
  installed : ∀ t entry i, .event t (.installed entry i) ∈ p.history →
    ∃ r, p.state.runtime i = some r ∧ (r.closed = true ∨ i ∈ p.state.onUnload entry)
  exact : throughout sparesGarages p.history = true ↔
    throughout justifies p.history = true ∧ ∀ i r, p.state.runtime i = some r → r.retired = false

/-- Nothing of this entry concerns the garages. -/
def Plain : Item Setup → Prop
  | .outside (.unloaded _) | .event _ _ => False
  | _ => True

section Kept
variable {p : Point Setup} {t : ℕ}

theorem Kept.still {item : Item Setup} {entry : String} {i : ℕ} (kept : Kept p) (listed : i ∈ p.state.onUnload entry) :
    (item :: p.history).any (installs entry) = true := by
  rw [List.any_cons,kept.unloads entry i listed,Bool.or_true]

theorem Kept.push {item : Item Setup} {s : Hass} (kept : Kept p) (same : p.state.SameGarages s) (plain : Plain item) :
    Kept ⟨s,item :: p.history⟩ := by
  have spared (past : List (Item Setup)) : sparesGarages past item = true := by
    rcases item with (_ | _ | _ | _) | _ | _ | _ | _ | _ | _ | _ <;> first | rfl | exact plain.elim
  have just (past : List (Item Setup)) : justifies past item = true := by
    rcases item with _ | _ | _ | _ | _ | _ | _ | _ <;> first | rfl | exact plain.elim
  have other (u : ℕ) (entry : String) (i : ℕ) : item ≠ .event u (.installed entry i) := by
    rintro rfl
    exact plain
  have runtime (i : ℕ) : s.runtime i = p.state.runtime i := by rw [Hass.runtime,Hass.runtime,same.1]
  refine ⟨kept.registered.same same,fun entry i listed => ?_,fun u entry i member => ?_,?_⟩
  · rw [same.2.2] at listed
    exact kept.still listed
  · rcases List.mem_cons.mp member with found | old
    · exact absurd found.symm (other u entry i)
    · simpa only [runtime,same.2.2] using kept.installed u entry i old
  · simpa only [throughout_cons,spared,just,true_and,runtime] using kept.exact

theorem Kept.moved {s : Hass} (kept : Kept p) (same : p.state.SameGarages s) : Kept {p with state := s} := by
  have runtime (i : ℕ) : s.runtime i = p.state.runtime i := by rw [Hass.runtime,Hass.runtime,same.1]
  refine ⟨kept.registered.same same,fun entry i listed => ?_,fun u entry i member => ?_,?_⟩
  · rw [same.2.2] at listed
    exact kept.unloads entry i listed
  · simpa only [runtime,same.2.2] using kept.installed u entry i member
  · simpa only [runtime] using kept.exact

theorem Kept.rejected (kept : Kept p) {r : Rejection} (here : r.hass.SameGarages p.state) :
    Kept (p.push (.event t (.rejected r))) := by
  have runtime (i : ℕ) : r.hass.runtime i = p.state.runtime i := by rw [Hass.runtime,Hass.runtime,here.1]
  refine ⟨kept.registered,fun entry i listed => ?_,fun u entry i member => ?_,?_⟩
  · exact kept.still listed
  · rcases List.mem_cons.mp member with found | old
    · simp at found
    · exact kept.installed u entry i old
  · have agree (live : ∀ i r, p.state.runtime i = some r → r.retired = false) :
        sparesGarages p.history (.event t (.rejected r)) = justifies p.history (.event t (.rejected r)) := by
      have registered : r.hass.Registered := kept.registered.same ⟨here.1.symm,here.2.1.symm,here.2.2.symm⟩
      have same : r.hass.driven = fun cover => (r.hass.owners cover).isSome :=
        funext fun cover => registered.driven_iff (by simpa only [runtime] using live) cover
      change r.finds (fun cover => (r.hass.owners cover).isSome) = r.finds r.hass.driven
      rw [same]
    rw [Point.push_history,throughout_cons,throughout_cons,kept.exact]
    constructor
    · rintro ⟨spared,just,live⟩
      exact ⟨⟨(agree live).symm.trans spared,just⟩,live⟩
    · rintro ⟨⟨here,just⟩,live⟩
      exact ⟨(agree live).trans here,just,live⟩

theorem Kept.started (kept : Kept p) {entry : String} {binding : Binding} {c : V1Coordinator}
    (free : p.state.owners (binding.get .coverEntityId) = none) :
    Kept (Point.push (L := Setup) ⟨(p.state.install c entry binding).2,p.history⟩ (.event t (.installed entry p.state.runtimes.length))) := by
  have old {i : ℕ} {r : Steward} (found : p.state.runtime i = some r) : (p.state.install c entry binding).2.runtime i = some r := by
    have before : i < p.state.runtimes.length := (List.getElem?_eq_some_iff.mp found).1
    rw [Hass.runtime_install,if_neg (Nat.ne_of_lt before),found]
  have listed (other : String) (i : ℕ) : i ∈ (p.state.install c entry binding).2.onUnload other ↔
      other = entry ∧ i = p.state.runtimes.length ∨ i ∈ p.state.onUnload other := by
    by_cases same : other = entry
    · subst same
      simp [Hass.install]
    · simp [Hass.install,same]
  refine ⟨kept.registered.install free c entry,fun other i member => ?_,fun u other i member => ?_,?_⟩
  · rcases (listed other i).mp member with ⟨rfl,_⟩ | before
    · simp [installs]
    · exact kept.still before
  · rcases List.mem_cons.mp member with found | before
    · obtain ⟨-,rfl,rfl⟩ : u = t ∧ other = entry ∧ i = p.state.runtimes.length := by simpa using found
      exact ⟨_,(Hass.runtime_install ..).trans (if_pos rfl),Or.inr ((listed _ _).mpr (Or.inl ⟨rfl,rfl⟩))⟩
    · obtain ⟨r,found,known⟩ := kept.installed u other i before
      exact ⟨r,old found,known.imp_right fun member => (listed _ _).mpr (Or.inr member)⟩
  · rw [Point.push_history,throughout_cons,throughout_cons,kept.exact]
    have live : (∀ i r, (p.state.install c entry binding).2.runtime i = some r → r.retired = false) ↔
        ∀ i r, p.state.runtime i = some r → r.retired = false := by
      constructor
      · exact fun live i r found => live i r (old found)
      · intro live i r found
        rw [Hass.runtime_install] at found
        by_cases last : i = p.state.runtimes.length
        · rw [if_pos last] at found
          obtain rfl := Option.some.inj found
          rfl
        · rw [if_neg last] at found
          exact live i r found
    constructor
    · exact fun ⟨_,just,alive⟩ => ⟨⟨rfl,just⟩,live.mpr alive⟩
    · exact fun ⟨⟨_,just⟩,alive⟩ => ⟨rfl,just,live.mp alive⟩

theorem Kept.failed (kept : Kept p) {entry : String} {i u : ℕ} (installed : .event u (.installed entry i) ∈ p.history) :
    Kept (Point.push (L := Setup) ⟨p.state.fail i,p.history⟩ (.event t (.startFailed i))) := by
  obtain ⟨r,found,_⟩ := kept.installed u entry i installed
  refine ⟨kept.registered.fail i,fun other j listed => ?_,fun v other j member => ?_,?_⟩
  · exact kept.still listed
  · rcases List.mem_cons.mp member with same | old
    · simp at same
    · obtain ⟨r',before,known⟩ := kept.installed v other j old
      refine ⟨_,(Hass.runtime_fail i j).trans (congrArg _ before),known.imp_left fun closed => ?_⟩
      split <;> exact closed
  · rw [Point.push_history,throughout_cons,throughout_cons]
    constructor
    · rintro ⟨spared,_⟩
      simp [sparesGarages] at spared
    · rintro ⟨_,live⟩
      have retired := live i _ ((Hass.runtime_fail i i).trans (congrArg _ found))
      simp [Steward.retired] at retired

theorem Kept.unloaded (kept : Kept p) (entry : String) : Kept ⟨p.state.unload entry,.outside (.unloaded entry) :: p.history⟩ := by
  have listed (other : String) (i : ℕ) : i ∈ (p.state.unload entry).onUnload other ↔
      other ≠ entry ∧ i ∈ p.state.onUnload other := by
    by_cases same : other = entry
    · subst same
      simp [Hass.unload]
    · simp [Hass.unload,same]
  refine ⟨kept.registered.unload entry,fun other i member => ?_,fun u other i member => ?_,?_⟩
  · exact kept.still ((listed other i).mp member).2
  · rcases List.mem_cons.mp member with same | old
    · simp at same
    · obtain ⟨r,before,known⟩ := kept.installed u other i old
      refine ⟨_,(Hass.runtime_unload entry i).trans (congrArg _ before),?_⟩
      by_cases pending : i ∈ p.state.onUnload entry
      · exact Or.inl (by simp [pending])
      · refine known.imp (fun closed => by simp [pending,closed]) fun listing => (listed other i).mpr ⟨?_,listing⟩
        rintro rfl
        exact pending listing
  · rw [throughout_cons,throughout_cons]
    cases brought : p.history.any (installs entry) with
    | true =>
      constructor
      · rintro ⟨spared,_⟩
        simp [sparesGarages,brought] at spared
      · rintro ⟨_,live⟩
        obtain ⟨item,member,installs⟩ := List.any_eq_true.mp brought
        obtain ⟨u,i,rfl⟩ : ∃ u i, item = .event u (.installed entry i) := by
          rcases item with _ | _ | _ | ⟨u,e⟩ | _ | _ | _ | _
          case event =>
            cases e with
            | installed other i => exact ⟨u,i,by rw [eq_of_beq installs]⟩
            | _ => simp [RoborockPlus.installs] at installs
          all_goals simp [RoborockPlus.installs] at installs
        obtain ⟨r,found,known⟩ := kept.installed u entry i member
        have alive := live i _ ((Hass.runtime_unload entry i).trans (congrArg _ found))
        rcases known with closed | pending
        · split at alive <;> simp [Steward.retired,closed] at alive
        · simp [Steward.retired,pending] at alive
    | false =>
      have none (i : ℕ) : i ∉ p.state.onUnload entry := fun pending =>
        absurd ((kept.unloads entry i pending).symm.trans brought) (by simp)
      have runtime (i : ℕ) : (p.state.unload entry).runtime i = p.state.runtime i := by
        simp [Hass.runtime_unload,none]
      simpa [sparesGarages,brought,justifies,atEvents,runtime] using kept.exact

theorem keeps_start (entry : String) (c : V1Coordinator) (runtime : ℕ) :
    ∀ p : Point Setup, Kept p → .event t (.installed entry runtime) ∈ p.history →
      wp Kept t (.attempt (Setup.asyncStart runtime) (Setup.startFailed c runtime))
        (fun _ q => Kept q ∧ True) (fun _ q => Kept q ∧ True) p := by
  intro p kept installed
  have grows (p q : Point Setup) (suffix : p.history <:+ q.history)
      (installed : .event t (.installed entry runtime) ∈ p.history) : .event t (.installed entry runtime) ∈ q.history :=
    suffix.subset installed
  have blind : Ignores Kept t (fun _ _ => False) (fun _ => False) :=
    ⟨fun _ _ _ never => never.elim,fun _ _ _ never => never.elim,fun _ _ _ kept => kept.push ⟨rfl,rfl,rfl⟩ trivial,
      fun _ _ kept => kept.push ⟨rfl,rfl,rfl⟩ trivial,fun _ _ kept => kept.push ⟨rfl,rfl,rfl⟩ trivial⟩
  have waits : (Setup.asyncStart runtime).Within (fun _ _ => False) (fun _ => False) := ⟨trivial,fun _ => trivial⟩
  have starts := waits.carries blind (.growing grows) (.growing grows)
  rw [wp_attempt]
  refine wp_mono (starts p kept installed) (fun _ q both => ⟨both.1,trivial⟩) fun fault q ⟨kept,installed⟩ => ?_
  unfold Setup.startFailed
  rw [wp_bind,wp_modify,wp_bind,wp_emit]
  have failed := kept.failed (t := t) installed
  cases fault with
  | cancelled => exact ⟨failed,trivial⟩
  | error reason => exact ⟨failed.moved ⟨rfl,rfl,rfl⟩,trivial⟩

theorem keeps_setupGarage (entry : String) (entries : List (String × Options)) (c : V1Coordinator) :
    Carries Kept (fun _ => True) t (Setup.setupGarage entry entries c) := by
  intro p kept _
  unfold Setup.setupGarage
  rw [wp_bind,wp_modify,wp_bind,wp_get,wp_ite]
  have cleared : Kept {p with state := p.state.clear c} := kept.moved ⟨rfl,rfl,rfl⟩
  split
  · exact ⟨cleared,trivial⟩
  split
  next reason found =>
    rw [wp_bind,wp_emit,wp_modify]
    exact ⟨(cleared.rejected ⟨rfl,rfl,rfl⟩).moved ⟨rfl,rfl,rfl⟩,trivial⟩
  next binding found =>
    have free : (p.state.clear c).owners (binding.get .coverEntityId) = none := Hass.resolve_free found
    let started : Point Setup := Point.push ⟨((p.state.clear c).install c entry binding).2,p.history⟩
      (.event t (.installed entry (p.state.clear c).runtimes.length))
    have kept : Kept started := cleared.started free
    change wp Kept t (.attempt (Setup.asyncStart (p.state.clear c).runtimes.length)
      (Setup.startFailed c (p.state.clear c).runtimes.length)) _ _ started
    exact keeps_start entry c _ _ kept List.mem_cons_self

theorem keeps_asyncSetupEntry (entry : String) (duids : List String) :
    Carries Kept (fun _ => True) t (Setup.asyncSetupEntry entry duids) := by
  intro p kept _
  unfold Setup.asyncSetupEntry Setup.asyncSetupGarages
  rw [wp_bind,wp_modify,wp_bind]
  refine ⟨(kept.moved ⟨rfl,rfl,rfl⟩).push ⟨rfl,rfl,rfl⟩ trivial,fun q kept later answer => ?_⟩
  have kept : Kept (q.push (.resumed t answer)) := kept.push ⟨rfl,rfl,rfl⟩ trivial
  cases answer with
  | error fault => exact ⟨kept,trivial⟩
  | ok reply =>
    rw [answered,wp_bind,wp_get]
    split
    · exact ⟨kept,trivial⟩
    · exact Carries.forM (fun c => keeps_setupGarage entry _ c) _ kept trivial

theorem kept_keeps : Preserves Setup.program Kept where
  outside input p kept := by
    cases input with
    | unloaded entry => exact kept.unloaded entry
    | added entry options =>
      refine kept.push ?_ trivial
      change p.state.SameGarages (if entry ∈ p.state.entries then p.state else _)
      split <;> exact ⟨rfl,rfl,rfl⟩
    | removed entry => exact kept.push ⟨rfl,rfl,rfl⟩ trivial
    | optionsUpdated entry options => exact kept.push ⟨rfl,rfl,rfl⟩ trivial
  dropped t p kept _ := kept.push ⟨rfl,rfl,rfl⟩ trivial
  body call t p kept _ _ := by
    obtain ⟨entry,duids⟩ := call
    have begun : Kept (p.push (.started t (.asyncSetupEntry entry duids))) :=
      kept.push ⟨rfl,rfl,rfl⟩ trivial
    refine wp_mono ((keeps_asyncSetupEntry entry duids).plain begun trivial) ?_ ?_
    · exact fun _ q kept => kept.push ⟨rfl,rfl,rfl⟩ trivial
    · exact fun _ q kept => kept.push ⟨rfl,rfl,rfl⟩ trivial

theorem kept_init (entries : List String) (options : String → Options) : Kept ⟨{entries, options},[]⟩ := by
  refine ⟨⟨?_,?_⟩,?_,?_,?_⟩
  · simp [Hass.runtime]
  · simp
  · simp
  · simp
  · simp [throughout,Hass.runtime]

end Kept

/-- The covers over one run of the home: whatever is set up, unloaded and reloaded, no two
live runtimes share one, and the claims to them are all good just while no garage is given up. -/
theorem covers_claimed (entries : List String) (options : String → Options) (schedule : List (Label Setup)) :
    (Setup.run entries options schedule).state.Exclusive ∧
      (throughout justifies (Setup.run entries options schedule).history = true ∧
          (Setup.run entries options schedule).state.Relinquished ↔
        throughout sparesGarages (Setup.run entries options schedule).history = true) := by
  have kept : Kept (Setup.run entries options schedule) := kept_keeps.exec _ (kept_init entries options) schedule
  exact ⟨kept.registered.exclusive,by rw [kept.exact,kept.registered.relinquished]⟩

def reloads : List (Label Setup) :=
  [.call (.asyncSetupEntry "entry" ["robot"]),.resume 0 (.ok ()),.resume 0 (.ok ()),.resume 0 (.ok ()),
    .outside (.unloaded "entry"),.call (.asyncSetupEntry "entry" ["robot"]),.resume 1 (.ok ())]

def oneGarage (_ : String) : Options where
  garageBindings := .mapping [("robot",.mapping (enabledBinding "after_exit"))]
  garageControlVersion := .int 1

/-- A reload finds the cover claimed by the runtime that it has just shut down. -/
theorem reload_turned_away :
    throughout justifies (Setup.run ["entry"] oneGarage reloads).history = false ∧
      (Setup.run ["entry"] oneGarage (reloads.take 4)).history.any (installs "entry") = true ∧
      (Setup.run ["entry"] oneGarage reloads).state.garageRuntime 1 = none := by
  decide +kernel

example : throughout sparesGarages (Setup.run ["entry"] oneGarage reloads).history = false := by decide +kernel

end RoborockPlus
