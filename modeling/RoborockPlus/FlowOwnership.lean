import RoborockPlus.ConfigFlow

/-! Any number of options flows over any number of entries. A flow copies the options of its
entry when it opens, and what it saves replaces them as a whole. -/
namespace RoborockPlus
open GarageConfig

namespace ConfigFlow

/-- The entries with their options, and the flows in the order of their opening. A flow that
has saved is gone. -/
structure Household where
  entries : List String
  options : String → Options
  flows : List (Option OptionsFlow) := []

inductive Action
  | opens (entry : String)
  | selects (flow : ℕ) (duid : String)
  | submits (flow : ℕ) (step : GarageStep) (input : Binding) (devices : List String) (states : String → Option (String × PyValue))
  | draws (flow : ℕ)

/-- New options of an entry, and the robot whose binding they are saved for. -/
structure Save where
  entry : String
  robot : Option String
  options : Options

namespace Household
variable (s : Household)

def flow (i : ℕ) : Option OptionsFlow := s.flows[i]?.bind id

def setFlow (i : ℕ) (flow : Option OptionsFlow) : Household := {s with flows := s.flows.set i flow}

def surroundings (devices : List String) (states : String → Option (String × PyValue)) : Surroundings :=
  ⟨devices,s.entries.map fun entry => (entry,s.options entry),states⟩

def reply (flow : OptionsFlow) (duid : String) (values : Binding) (step : GarageStep) (around : Surroundings) : Reply :=
  match step with
  | .garage => asyncStepGarage around flow duid values
  | .feedback => asyncStepGarageFeedback values
  | .timing => asyncStepGarageTiming around flow duid values

/-- What an action saves, if it saves. -/
def saves : Action → Option Save
  | .submits i step input devices states => do
    let flow ← s.flow i
    let duid ← flow.garageDuid
    let draft ← flow.garageValues duid
    match reply flow duid (updated draft input) step (s.surroundings devices states) with
    | .creates options => options.map fun options => ⟨flow.entry,some duid,options⟩
    | .shows _ => none
  -- the form of the map options puts nothing into the bindings
  | .draws i => (s.flow i).map fun flow => ⟨flow.entry,none,flow.options⟩
  | _ => none

/-- An action that saves nothing: a flow opens, a robot is selected or a form is filled in. -/
def moves : Action → Household
  | .opens entry => if entry ∈ s.entries then {s with flows := s.flows ++ [some {entry := entry, options := s.options entry}]} else s
  | .selects i duid =>
    match s.flow i with
    | some flow => s.setFlow i (some {flow with garageDuid := some duid, garageDraft := none})
    | none => s
  | .submits i _ input _ _ =>
    match s.flow i with
    | some flow =>
      s.setFlow i (some {flow with garageDraft := do
        let duid ← flow.garageDuid
        let draft ← flow.garageValues duid
        return updated draft input})
    | none => s
  | .draws _ => s

def closes : Action → ℕ
  | .submits i _ _ _ _ | .draws i | .selects i _ => i
  | .opens _ => 0

def step (action : Action) : Household :=
  match s.saves action with
  | some save => {s.setFlow (closes action) none with options := Function.update s.options save.entry save.options}
  | none => s.moves action

end Household

/-- The binding of a robot in the options of an entry. -/
def stored (options : Options) (duid : String) : Option (Stored Binding) :=
  match options.garageBindings with
  | .mapping bindings => bindings.lookup duid
  | .other _ => none

/-- No two enabled bindings name the same cover. -/
def Exclusive (s : Household) : Prop :=
  ∀ one ∈ s.entries, ∀ other ∈ s.entries, ∀ duid robot : String, (one,duid) ≠ (other,robot) →
    ∀ first second, stored (s.options one) duid = some (.mapping first) → stored (s.options other) robot = some (.mapping second) →
      first.get .enabled = .bool true → second.get .enabled = .bool true → first.get .coverEntityId ≠ second.get .coverEntityId

/-- What every save owes: no cover is shared after it, and no other robot has lost its binding to it. -/
def Sound (s : Household) (action : Action) : Prop :=
  ∀ save ∈ s.saves action, Exclusive (s.step action) ∧ ∀ entry duid, (entry,some duid) ≠ (save.entry,save.robot) →
    stored ((s.step action).options entry) duid = stored (s.options entry) duid

/-- The copy that a saving flow works on still has the bindings of the other robots as they are stored. -/
def Current (s : Household) (action : Action) : Prop :=
  ∀ save ∈ s.saves action, ∀ flow ∈ s.flow (Household.closes action), ∀ duid, save.robot ≠ some duid →
    stored flow.options duid = stored (s.options flow.entry) duid

/-- The household before each of the actions, with the action. -/
def course (s : Household) : List Action → List (Household × Action)
  | [] => []
  | action :: rest => (s,action) :: course (s.step action) rest

section Saving
variable {s : Household} {action : Action} {around : Surroundings} {flow : OptionsFlow} {duid : String} {values binding : Binding}
  {options : Options}

theorem stored_storeBinding (put : storeBinding flow.options duid binding = some options) (robot : String) :
    stored options robot = if duid = robot then some (.mapping binding) else stored flow.options robot := by
  unfold storeBinding at put
  cases held : flow.options.garageBindings with
  | other value =>
    rw [held] at put
    exact nomatch put
  | mapping bindings =>
    rw [held] at put
    obtain rfl := Option.some.inj put
    simp only [stored,held]
    exact PyDict.lookup_set _ _ _ _

/-- The binding that a save puts in has passed the check of its owner. -/
structure Put (around : Surroundings) (flow : OptionsFlow) (duid : String) (binding : Binding) (options : Options) : Prop where
  store : storeBinding flow.options duid binding = some options
  owned : binding.get .enabled = .bool true →
    validateBindingOwnership binding duid flow.entry (garageOwnershipEntries around flow) = .ok ()

theorem saveGarageBinding_puts (saved : saveGarageBinding around flow duid values = .ok (some options)) :
    ∃ binding, Put around flow duid binding options := by
  obtain ⟨binding,_,rest⟩ := bind_accepts.mp saved
  refine ⟨binding,?_⟩
  split at rest
  next on =>
    obtain ⟨_,_,rest⟩ := bind_accepts.mp rest
    obtain ⟨_,owned,rest⟩ := bind_accepts.mp rest
    exact ⟨Except.ok.inj rest,fun _ => owned⟩
  next off => exact ⟨Except.ok.inj rest,fun on => absurd (congrArg PyValue.truthy on) off⟩

theorem reply_puts {step : GarageStep} (replied : Household.reply flow duid values step around = .creates (some options)) :
    ∃ binding, Put around flow duid binding options := by
  cases step with
  | garage =>
    change asyncStepGarage around flow duid values = .creates (some options) at replied
    unfold asyncStepGarage at replied
    split at replied
    next => exact nomatch replied
    next saved stepped =>
      obtain rfl := Reply.creates.inj replied
      obtain ⟨_,_,rest⟩ := bind_accepts.mp stepped
      obtain ⟨_,_,rest⟩ := bind_accepts.mp rest
      split at rest
      next =>
        obtain ⟨written,kept,same⟩ := bind_accepts.mp rest
        obtain rfl := Option.some.inj (Except.ok.inj same)
        exact saveGarageBinding_puts kept
      next =>
        obtain ⟨_,_,rest⟩ := bind_accepts.mp rest
        obtain ⟨_,_,rest⟩ := bind_accepts.mp rest
        obtain ⟨_,_,rest⟩ := bind_accepts.mp rest
        obtain ⟨_,_,rest⟩ := bind_accepts.mp rest
        exact nomatch Except.ok.inj rest
    next => exact nomatch replied
  | feedback =>
    change asyncStepGarageFeedback values = .creates (some options) at replied
    unfold asyncStepGarageFeedback at replied
    split at replied
    next => exact nomatch replied
    next => exact nomatch replied
  | timing =>
    change asyncStepGarageTiming around flow duid values = .creates (some options) at replied
    unfold asyncStepGarageTiming at replied
    split at replied
    next => exact nomatch replied
    next saved kept =>
      obtain rfl := Reply.creates.inj replied
      exact saveGarageBinding_puts kept

theorem saves_cases {save : Save} (saved : s.saves action = some save) : ∃ flow, s.flow (Household.closes action) = some flow ∧
    save.entry = flow.entry ∧ (save.robot = none ∧ save.options = flow.options ∨
      ∃ duid binding devices states, save.robot = some duid ∧ Put (s.surroundings devices states) flow duid binding save.options) := by
  cases action with
  | opens entry => exact nomatch saved
  | selects i duid => exact nomatch saved
  | draws i =>
    obtain ⟨flow,here,rfl⟩ := Option.map_eq_some_iff.mp saved
    exact ⟨flow,here,rfl,Or.inl ⟨rfl,rfl⟩⟩
  | submits i step input devices states =>
    simp only [Household.saves,Option.bind_eq_bind,Option.bind_eq_some_iff] at saved
    obtain ⟨flow,here,duid,selected,draft,loaded,saved⟩ := saved
    split at saved
    next options replied =>
      obtain ⟨written,rfl,rfl⟩ := Option.map_eq_some_iff.mp saved
      obtain ⟨binding,put⟩ := reply_puts replied
      exact ⟨flow,here,rfl,Or.inr ⟨duid,binding,devices,states,rfl,put⟩⟩
    next => exact nomatch saved

theorem owned_alone (owned : validateBindingOwnership binding duid flow.entry (garageOwnershipEntries around flow) = .ok ())
    (enabled : binding.get .enabled = .bool true) {entry robot : String} {other : Options} (listed : (entry,other) ∈ around.entries)
    (apart : (entry,robot) ≠ (flow.entry,duid)) {second : Binding}
    (here : stored (if entry = flow.entry then flow.options else other) robot = some (.mapping second))
    (on : second.get .enabled = .bool true) : second.get .coverEntityId ≠ binding.get .coverEntityId := by
  unfold validateBindingOwnership at owned
  rw [if_neg (by simp [enabled])] at owned
  have each := forM_accepts.mp owned _ (List.mem_map_of_mem listed)
  dsimp only at each
  unfold stored at here
  generalize (if entry = flow.entry then flow.options else other) = options at each here
  cases held : options.garageBindings with
  | other value =>
    rw [held] at here
    exact nomatch here
  | mapping others =>
    simp only [held] at each here
    obtain ⟨before,after,parts,_⟩ := List.lookup_eq_some_iff.mp here
    have member : (robot,Stored.mapping second) ∈ others := by simp [parts]
    have passed := ensure_accepts.mp (forM_accepts.mp each _ member)
    intro same
    have alone : ¬ (entry = flow.entry ∧ robot = duid) := fun both => apart (Prod.ext both.1 both.2)
    simp [alone,claims,on,same] at passed

theorem step_saved {save : Save} (saved : s.saves action = some save) :
    (s.step action).entries = s.entries ∧ (s.step action).options = Function.update s.options save.entry save.options := by
  unfold Household.step
  rw [saved]
  exact ⟨rfl,rfl⟩

theorem step_unsaved (unsaved : s.saves action = none) : (s.step action).entries = s.entries ∧ (s.step action).options = s.options := by
  unfold Household.step
  rw [unsaved]
  unfold Household.moves
  cases action with
  | opens entry =>
    dsimp only
    split_ifs <;> exact ⟨rfl,rfl⟩
  | selects i duid =>
    dsimp only
    split <;> exact ⟨rfl,rfl⟩
  | submits i step input devices states =>
    dsimp only
    split <;> exact ⟨rfl,rfl⟩
  | draws i => exact ⟨rfl,rfl⟩

theorem saved_others {save : Save} {flow : OptionsFlow} {duid : String} (saved : s.saves action = some save)
    (here : s.flow (Household.closes action) = some flow) (other : save.robot ≠ some duid) :
    save.entry = flow.entry ∧ stored save.options duid = stored flow.options duid := by
  obtain ⟨flow',here',same,kind⟩ := saves_cases saved
  obtain rfl : flow = flow' := Option.some.inj (here.symm.trans here')
  refine ⟨same,?_⟩
  rcases kind with ⟨_,copy⟩ | ⟨robot,binding,devices,states,named,put⟩
  · rw [copy]
  · have another : robot ≠ duid := fun equal => other (named.trans (congrArg some equal))
    rw [stored_storeBinding put.store,if_neg another]

/-- What is stored after a save from a copy that is current: one binding at most is another. -/
theorem stored_current {save : Save} (saved : s.saves action = some save) (current : Current s action) :
    (∀ entry duid, (entry,some duid) ≠ (save.entry,save.robot) →
      stored ((s.step action).options entry) duid = stored (s.options entry) duid) := by
  obtain ⟨flow,here,_⟩ := saves_cases saved
  intro entry duid apart
  rw [(step_saved saved).2]
  by_cases own : entry = save.entry
  · subst own
    have other : save.robot ≠ some duid := fun robot => apart (Prod.ext rfl robot.symm)
    obtain ⟨same,written⟩ := saved_others saved here other
    rw [Function.update_self,written,same,current save saved flow here duid other]
  · rw [Function.update_of_ne own]

theorem saved_alone {save : Save} (saved : s.saves action = some save) (current : Current s action) {robot : String}
    (named : save.robot = some robot) {first second : Binding} {entry duid : String} (listed : entry ∈ s.entries)
    (apart : (entry,duid) ≠ (save.entry,robot)) (here : stored ((s.step action).options save.entry) robot = some (.mapping first))
    (there : stored ((s.step action).options entry) duid = some (.mapping second)) (one : first.get .enabled = .bool true)
    (other : second.get .enabled = .bool true) : second.get .coverEntityId ≠ first.get .coverEntityId := by
  obtain ⟨flow,shown,same,kind⟩ := saves_cases saved
  obtain ⟨duid',binding,devices,states,named',put⟩ := kind.resolve_left (fun plain => nomatch named.symm.trans plain.1)
  obtain rfl : robot = duid' := Option.some.inj (named.symm.trans named')
  have apart' : (entry,some duid) ≠ (save.entry,save.robot) := by
    intro equal
    rw [named] at equal
    obtain ⟨place,same⟩ := Prod.mk.inj equal
    exact apart (Prod.ext place (Option.some.inj same))
  rw [(step_saved saved).2,Function.update_self,stored_storeBinding put.store,if_pos rfl] at here
  obtain rfl := Stored.mapping.inj (Option.some.inj here)
  rw [stored_current saved current entry duid apart'] at there
  refine owned_alone (put.owned one) one (List.mem_map_of_mem listed) (fun equal => apart (same ▸ equal)) ?_ other
  by_cases own : entry = flow.entry
  · subst own
    have unsaved : save.robot ≠ some duid := fun robot => apart' (Prod.ext same.symm robot.symm)
    rw [if_pos rfl,current save saved flow shown duid unsaved,there]
  · rw [if_neg own,there]

theorem exclusive_step (exclusive : Exclusive s) (current : Current s action) : Exclusive (s.step action) := by
  cases saved : s.saves action with
  | none =>
    obtain ⟨entries,options⟩ := step_unsaved saved
    unfold Exclusive
    rw [entries,options]
    exact exclusive
  | some save =>
    intro one hone other hother duid robot apart first second here there on on'
    rw [(step_saved saved).1] at hone hother
    by_cases own : (one,some duid) = (save.entry,save.robot)
    · obtain rfl : one = save.entry := congrArg Prod.fst own
      have named : save.robot = some duid := (congrArg Prod.snd own).symm
      exact (saved_alone saved current named hother (Ne.symm apart) here there on on').symm
    · by_cases own' : (other,some robot) = (save.entry,save.robot)
      · obtain rfl : other = save.entry := congrArg Prod.fst own'
        have named : save.robot = some robot := (congrArg Prod.snd own').symm
        exact saved_alone saved current named hone apart there here on' on
      · rw [stored_current saved current one duid own] at here
        rw [stored_current saved current other robot own'] at there
        exact exclusive one hone other hother duid robot apart first second here there on on'

/-- A save that keeps the bindings of the other robots has worked on a current copy. -/
theorem current_of_sound (sound : Sound s action) : Current s action := by
  intro save saved flow here duid other
  obtain ⟨same,written⟩ := saved_others saved here other
  have kept := (sound save saved).2 save.entry duid (fun equal => other (congrArg Prod.snd equal).symm)
  rw [(step_saved saved).2,Function.update_self,same] at kept
  rw [← kept,written]

/-- Over any course of flows: every save leaves the covers apart and the other robots alone exactly
when every save is made on a current copy. -/
theorem saves_sound_iff_current (exclusive : Exclusive s) (actions : List Action) :
    (∀ point ∈ course s actions, Sound point.1 point.2) ↔ ∀ point ∈ course s actions, Current point.1 point.2 := by
  constructor
  · exact fun sound point here => current_of_sound (sound point here)
  · intro current
    induction actions generalizing s with
    | nil => exact fun point here => nomatch here
    | cons action rest ih =>
      obtain ⟨now,later⟩ := List.forall_mem_cons.mp current
      have kept := exclusive_step exclusive now
      refine List.forall_mem_cons.mpr ⟨fun save saved => ⟨kept,?_⟩,ih kept later⟩
      exact stored_current saved now

def noInput : Binding := fun _ => none

def unknownState : String → Option (String × PyValue) := fun _ => none

/-- An enabled binding in one of two entries. -/
def twoEntries : Household where
  entries := ["first","second"]
  options entry := if entry = "first" then ⟨.mapping [("a",.mapping (enabledBinding "hold_open"))],.int 1⟩ else {}

theorem twoEntries_exclusive : Exclusive twoEntries := by
  intro one _ other _ duid robot apart first second here there
  have only {entry duid : String} {binding : Binding} (held : stored (twoEntries.options entry) duid = some (.mapping binding)) :
      entry = "first" ∧ duid = "a" := by
    unfold twoEntries at held
    dsimp only at held
    split_ifs at held with own
    · simp only [stored,PyDict.lookup_cons,List.lookup_nil] at held
      split_ifs at held with same
      exact ⟨own,same.symm⟩
    · exact nomatch held
  obtain ⟨rfl,rfl⟩ := only here
  obtain ⟨rfl,rfl⟩ := only there
  exact absurd rfl apart

/-- The two flows of one entry are opened before either saves; the robot of the first is switched off in
between, and the cover goes to a robot of the other entry. -/
def overlapping : List Action :=
  [.opens "first",.opens "first",.selects 1 "a",.submits 1 .garage (Binding.ofList [(.enabled,.bool false)]) ["a"] unknownState,
    .opens "second",.selects 2 "b",.submits 2 .garage (enabledBinding "hold_open") ["b"] unknownState,
    .submits 2 .feedback noInput ["b"] unknownState,.submits 2 .timing noInput ["b"] unknownState,
    .selects 0 "c"]

def staleSave : Action := .submits 0 .garage noInput ["c"] unknownState

theorem twoEntries_saves : (∀ point ∈ course twoEntries (overlapping ++ [staleSave]), Sound point.1 point.2) ↔
    ∀ point ∈ course twoEntries (overlapping ++ [staleSave]), Current point.1 point.2 :=
  saves_sound_iff_current twoEntries_exclusive _

def enabledCover (options : Options) (duid : String) : Option PyValue :=
  match stored options duid with
  | some (.mapping binding) => if binding.get .enabled = .bool true then some (binding.get .coverEntityId) else none
  | _ => none

theorem enabledCover_some {cover : PyValue} (named : enabledCover options duid = some cover) : ∃ binding,
    stored options duid = some (.mapping binding) ∧ binding.get .enabled = .bool true ∧ binding.get .coverEntityId = cover := by
  unfold enabledCover at named
  split at named
  next binding held =>
    split_ifs at named with on
    exact ⟨binding,held,on,Option.some.inj named⟩
  next => exact nomatch named

theorem mem_course (before after : List Action) : (before.foldl Household.step s,action) ∈ course s (before ++ action :: after) := by
  induction before generalizing s with
  | nil => exact List.mem_cons_self
  | cons first rest ih => exact List.mem_cons_of_mem _ ih

theorem exclusive_of_sound {before : List Action} (sound : ∀ point ∈ course s (before ++ [action]), Sound point.1 point.2)
    (saves : ((before.foldl Household.step s).saves action).isSome) : Exclusive ((before.foldl Household.step s).step action) := by
  obtain ⟨save,saved⟩ := Option.isSome_iff_exists.mp saves
  exact (sound _ (mem_course before []) save saved).1

/-- The last save switches the robot of the first entry on again, which another flow had switched off,
and with it a cover that belongs to the robot of the second entry by then. -/
theorem stale_copy_shares_cover : Exclusive twoEntries ∧
    enabledCover (((overlapping.take 4).foldl Household.step twoEntries).options "first") "a" = none ∧
    enabledCover (((overlapping.foldl Household.step twoEntries).step staleSave).options "first") "a" = some (.str "cover.garage") ∧
    enabledCover (((overlapping.foldl Household.step twoEntries).step staleSave).options "second") "b" = some (.str "cover.garage") ∧
    ¬ ∀ point ∈ course twoEntries (overlapping ++ [staleSave]), Sound point.1 point.2 := by
  have first : enabledCover (((overlapping.foldl Household.step twoEntries).step staleSave).options "first") "a" =
      some (.str "cover.garage") := by decide +kernel
  have second : enabledCover (((overlapping.foldl Household.step twoEntries).step staleSave).options "second") "b" =
      some (.str "cover.garage") := by decide +kernel
  refine ⟨twoEntries_exclusive,by decide +kernel,first,second,fun sound => ?_⟩
  have apart := exclusive_of_sound sound (by decide +kernel)
  obtain ⟨one,here,on,named⟩ := enabledCover_some first
  obtain ⟨other,there,on',named'⟩ := enabledCover_some second
  exact apart "first" (by decide +kernel) "second" (by decide +kernel) "a" "b" (by decide) one other here there on on'
    (named.trans named'.symm)

end Saving

end ConfigFlow

end RoborockPlus
