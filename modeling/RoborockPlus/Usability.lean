import RoborockPlus.Confirming

/-! A run for every binding that can be used. The door shows itself through the cover and
the contacts of its binding, stands where it is told to, and comes to rest there. -/
namespace RoborockPlus
open Async GarageController GarageRuntime GarageConfig

section Entities
variable {domains : List String} {value : PyValue} {text domain : String}

theorem isEntity_text (accepted : isEntity domains value = true) :
    ∃ text domain, value = .str text ∧ entityDomain text = some domain ∧ domain ∈ domains := by
  cases value with
  | str text =>
    rcases found : entityDomain text with _ | domain
    · simp [isEntity,found] at accepted
    · exact ⟨text,domain,rfl,found,by simpa [isEntity,found] using accepted⟩
  | _ => simp [isEntity] at accepted

theorem entityDomain_startsWith (found : entityDomain text = some domain) : text.startsWith (domain ++ ".") = true := by
  unfold entityDomain at found
  rw [List.span_eq_takeWhile_dropWhile] at found
  split at found
  next before name same =>
    split_ifs at found
    obtain rfl := Option.some.inj found
    obtain ⟨first,rest⟩ := Prod.mk.inj same
    rw [String.startsWith_string_iff]
    refine ⟨name,?_⟩
    have whole := List.takeWhile_append_dropWhile (p := entityChar) (l := text.toList)
    rw [first,rest] at whole
    simpa using whole
  · simp at found

end Entities

/-- Where the door stands, and whether the permission is given just now. -/
structure Stage where
  reached : Direction → Bool
  position : ℚ
  permitted : Bool := false

namespace Stage
variable (binding : Binding) (stage : Stage)

def contactText (d : Direction) : String := if (binding.get (.contactState d) == .str "on") = stage.reached d then "on" else "off"

/-- A permission that is one of the contacts shows the permission. -/
def states (id : String) : Option EntityState :=
  if binding .coverEntityId = some (.str id) then
    some {state := if stage.reached .toClose then "closed" else "open", currentPosition := .float (.finite stage.position)}
  else if stage.permitted = true ∧ binding .closePermissionEntity = some (.str id) then some {state := "on"}
  else if binding (.contact .toOpen) = some (.str id) then some {state := stage.contactText binding .toOpen}
  else if binding (.contact .toClose) = some (.str id) then some {state := stage.contactText binding .toClose}
  else none

def ids : List String :=
  [.coverEntityId,.closePermissionEntity,.contact .toOpen,.contact .toClose].filterMap fun key =>
    match binding key with
    | some (.str id) => some id
    | _ => none

def inputs : List Stimulus := (ids binding).map fun id => .entity id (stage.states binding id)

theorem mem_ids {key : BindingKey} {id : String} (listed : key ∈ [.coverEntityId,.closePermissionEntity,.contact .toOpen,.contact .toClose])
    (found : binding key = some (.str id)) : id ∈ ids binding :=
  List.mem_filterMap.mpr ⟨key,listed,by rw [found]⟩

theorem states_other {id : String} (other : id ∉ ids binding) : stage.states binding id = none := by
  have absent {key : BindingKey} (listed : key ∈ [.coverEntityId,.closePermissionEntity,.contact .toOpen,.contact .toClose]) :
      binding key ≠ some (.str id) := fun found => other (mem_ids binding listed found)
  unfold states
  rw [if_neg (absent (by simp)),if_neg (fun both => absent (by simp) both.2),if_neg (absent (by simp)),if_neg (absent (by simp))]

end Stage

section Observed
variable {P : Program Garage} (outside : P.outside = GarageRuntime.apply)
include outside

theorem observe_entities (shown : String → Option EntityState) (ids : List String) (p : Point Garage) :
    (P.observe (ids.map fun id => .entity id (shown id)) p).state =
      {p.state with world := {p.state.world with
        states := fun id => if id ∈ ids then shown id else p.state.world.states id}} := by
  induction ids generalizing p with
  | nil => simp [Program.observe]
  | cons first rest ih =>
    change (P.observe (rest.map fun id => .entity id (shown id)) ⟨P.outside (.entity first (shown first)) p.state,_⟩).state = _
    rw [ih,outside]
    simp only [GarageRuntime.apply,World.apply]
    congr 2
    funext id
    by_cases later : id ∈ rest
    · simp [later]
    · by_cases same : id = first
      · simp [same]
      · simp [later,same]

theorem observe_stage {binding : Binding} {before after : Stage} {p : Point Garage}
    (shown : p.state.world.states = before.states binding) :
    (P.observe (after.inputs binding) p).state = {p.state with world := {p.state.world with states := after.states binding}} := by
  have same : (fun id => if id ∈ Stage.ids binding then after.states binding id else p.state.world.states id) = after.states binding := by
    funext id
    split
    · rfl
    next other => rw [shown,before.states_other binding other,after.states_other binding other]
  unfold Stage.inputs
  rw [observe_entities outside,same]

end Observed

def level (binding : Binding) (d : Direction) : ℚ :=
  match GarageConfig.number binding (.threshold d) with
  | .ok percent => percent
  | .error _ => 0

def settleSeconds (binding : Binding) : ℚ :=
  match GarageConfig.number binding .positionSettleSeconds with
  | .ok seconds => seconds
  | .error _ => 0

namespace Stage
variable (binding : Binding) (stage : Stage)

def overridden (d : Direction) : Bool := stage.permitted && binding .closePermissionEntity == binding (.contact d)

def text (d : Direction) : String := if stage.overridden binding d then "on" else stage.contactText binding d

def shows (d : Direction) : Bool := binding.get (.contactState d) == .str (stage.text binding d)

/-- What the source of an endpoint sees, once it has settled. -/
def ends (d : Direction) : Bool :=
  if binding.get (.source d) = .str "contact" then stage.shows binding d
  else DoorEvidence.positionReached d (level binding .toOpen) (level binding .toClose) stage.position

theorem shows_reached {d : Direction} (polar : binding.get (.contactState d) ∈ contactStates)
    (own : stage.overridden binding d = false) : stage.shows binding d = stage.reached d := by
  unfold shows text contactText
  rw [own]
  rcases List.mem_cons.mp polar with on | last
  · rw [on]
    cases stage.reached d <;> rfl
  · rw [List.mem_singleton.mp last]
    cases stage.reached d <;> rfl

end Stage

section Readings
variable {binding : Binding} {stage : Stage} {d : Direction} {w : World}

theorem get_str {key : BindingKey} {text : String} (found : binding.get key = .str text) : binding key = some (.str text) := by
  unfold Binding.get at found
  rcases given : binding key with _ | value
  · simp [given] at found
  · simpa [given] using found

variable (accepted : GarageConfig.Accepted binding)
include accepted

theorem cover_assigned : ∃ id, binding .coverEntityId = some (.str id) ∧ entityDomain id = some "cover" := by
  obtain ⟨id,domain,found,named,member⟩ := isEntity_text accepted.cover
  exact ⟨id,get_str found,(List.mem_singleton.mp member) ▸ named⟩

theorem contact_assigned (source : binding.get (.source d) = .str "contact") :
    ∃ id, binding (.contact d) = some (.str id) ∧ entityDomain id = some "binary_sensor" := by
  obtain ⟨id,domain,found,named,member⟩ := isEntity_text (accepted.contact d source).2
  exact ⟨id,get_str found,(List.mem_singleton.mp member) ▸ named⟩

theorem contact_shown (shown : w.states = stage.states binding) (source : binding.get (.source d) = .str "contact") :
    DoorEvidence.contactReached binding d (contactState binding w d) = some (stage.shows binding d) := by
  obtain ⟨id,assigned,named⟩ := contact_assigned accepted source
  obtain ⟨cover,covers,covered⟩ := cover_assigned accepted
  have polar := (accepted.contact d source).1
  have apart : id ≠ cover := by
    rintro rfl
    simp [named] at covered
  have state : stage.states binding id = some {state := stage.text binding d} := by
    unfold Stage.states Stage.text
    rw [if_neg (by simpa [covers] using apart.symm)]
    by_cases permitted : stage.permitted = true ∧ binding .closePermissionEntity = some (.str id)
    · have given : stage.overridden binding d = true := by simp [Stage.overridden,assigned,permitted]
      rw [if_pos permitted,if_pos given]
    · have withheld : stage.overridden binding d = false := by simpa [Stage.overridden,assigned] using permitted
      rw [if_neg permitted,withheld]
      cases d with
      | toOpen =>
        rw [if_pos assigned]
        rfl
      | toClose =>
        have other : binding (.contact .toOpen) ≠ some (.str id) := by
          intro same
          have present : (binding.get (.contact .toOpen)).truthy = true := by
            simp only [Binding.get,same,Option.getD_some,PyValue.truthy,bne_iff_ne,ne_eq]
            rintro rfl
            simp [entityDomain] at named
          exact accepted.distinct present (by rw [Binding.get,Binding.get,same,assigned])
        rw [if_neg other,if_pos assigned]
        rfl
  have text : contactState binding w d = some (stage.text binding d) := by
    unfold contactState World.entity
    rw [assigned,shown]
    simp [state,PyValue.truthy]
  have written : stage.text binding d ∈ ["on","off"] := by
    unfold Stage.text Stage.contactText
    split_ifs <;> simp
  have prefixed : id.startsWith "binary_sensor." = true := entityDomain_startsWith named
  unfold DoorEvidence.contactReached Stage.shows
  rw [if_neg (not_not.mpr source),text]
  have given : binding.get (.contact d) = .str id := by rw [Binding.get,assigned]; rfl
  rcases List.mem_cons.mp polar with on | last
  · rw [given,on]
    simp [prefixed,written,eq_comm]
  · rw [given,List.mem_singleton.mp last]
    simp [prefixed,written,eq_comm]

omit accepted in
theorem number_range {value : PyValue} {low high n : ℚ} (read : RoborockPlus.number value low (some high) = some n) :
    low ≤ n ∧ n ≤ high ∧ pyFloat value = some (.finite n) := by
  unfold RoborockPlus.number at read
  split at read
  pick_goal 3
  · simp at read
  all_goals
    split at read
    next m same =>
      split_ifs at read with range
      obtain rfl := Option.some.inj read
      exact ⟨range.1,by simpa using range.2,same⟩
    · simp at read

omit accepted in
theorem number_finite {n low high : ℚ} (above : low ≤ n) (below : n ≤ high) :
    RoborockPlus.number (.float (.finite n)) low (some high) = some n := by
  have float : pyFloat (.float (.finite n)) = some (.finite n) := rfl
  unfold RoborockPlus.number
  simp only [float]
  simp [above,below]

theorem level_given (used : uses binding "position" = true) (d : Direction) :
    RoborockPlus.number (binding.get (.threshold d)) 0 (some 100) = some (level binding d) := by
  obtain ⟨_,closed,opened,low,high,_⟩ := accepted.position used
  cases d with
  | toOpen =>
    rw [level,high]
    exact number_given high
  | toClose =>
    rw [level,low]
    exact number_given low

theorem level_apart (used : uses binding "position" = true) : level binding .toClose < level binding .toOpen := by
  obtain ⟨_,closed,opened,low,high,apart⟩ := accepted.position used
  rw [level,level,low,high]
  exact apart

theorem settleSeconds_given (used : uses binding "position" = true) :
    RoborockPlus.number (binding.get .positionSettleSeconds) 0 (some 60) = some (settleSeconds binding) := by
  have required : .positionSettleSeconds ∈ requiredTimingFields binding :=
    List.mem_filter.mpr ⟨by simp [numericKeys],used⟩
  obtain ⟨seconds,found⟩ := accepted.timing _ required
  rw [settleSeconds,found]
  exact number_given found

/-- A stage with a percentage for its position, and not at both ends. -/
structure Possible (binding : Binding) (stage : Stage) : Prop where
  low : 0 ≤ stage.position
  high : stage.position ≤ 100
  apart : stage.ends binding .toOpen = true → stage.ends binding .toClose = false

structure Showing (binding : Binding) (stage : Stage) (seen : DoorObservation) : Prop where
  available : seen.coverAvailable = true
  live : seen.restored = false
  position : seen.position = .float (.finite stage.position)
  contacts : ∀ d, binding.get (.source d) = .str "contact" →
    DoorEvidence.contactReached binding d (seen.contact d) = some (stage.shows binding d)

/-- What a reading of one endpoint gives, and since when its position has been stable. -/
structure Reading (binding : Binding) (stage : Stage) (d : Direction) (now : ℚ) (since : Option ℚ)
    (read : EndpointEvidence × Option ℚ) : Prop where
  reason : read.1.reason ∈ [none,some .endpointUnsettled]
  reached : read.1.reached = some true → stage.ends binding d = true
  settles : stage.ends binding d = true → settleSeconds binding ≤ now-since.getD now →
    read.1.quality = .confirmed ∧ read.1.reached = some true
  stable : stage.ends binding d = true → read.1.quality = .confirmed ∧ read.1.reached = some true ∨ read.2 = some (since.getD now)

theorem read_contact {e : DoorEvidence} {seen : DoorObservation} {now : ℚ} (tracked : e.binding = binding)
    (source : binding.get (.source d) = .str "contact")
    (shown : DoorEvidence.contactReached binding d (seen.contact d) = some (stage.shows binding d)) :
    Reading binding stage d now (e.stableSince d) (e.read d now seen) := by
  have polar := (accepted.contact d source).1
  obtain ⟨id,assigned,named⟩ := contact_assigned accepted source
  have ends : stage.ends binding d = stage.shows binding d := if_pos source
  have present : (binding.get (.contact d)).truthy = true := by
    rw [Binding.get,assigned]
    simp only [Option.getD_some,PyValue.truthy,bne_iff_ne,ne_eq]
    rintro rfl
    simp [entityDomain] at named
  have read : e.read d now seen = (⟨some (stage.shows binding d),.confirmed,"contact",none⟩,
      if stage.shows binding d then e.stableSince d else none) := by
    unfold DoorEvidence.read DoorEvidence.endpoint
    rw [tracked]
    simp only [source]
    unfold DoorEvidence.contactEndpoint
    have known : binding.get (.contactState d) ∈ [.str "on",.str "off"] := polar
    rw [if_neg (by simp only [present,known,not_true_eq_false,Bool.true_eq_false,or_self,not_false_iff]),shown]
    cases stage.shows binding d <;> rfl
  rw [read]
  cases seen : stage.shows binding d with
  | true => exact ⟨by simp,fun _ => ends.trans seen,fun _ _ => ⟨rfl,rfl⟩,fun _ => Or.inl ⟨rfl,rfl⟩⟩
  | false => exact ⟨by simp,by simp,fun here => absurd (ends.symm.trans here) (by simp [seen]),
      fun here => absurd (ends.symm.trans here) (by simp [seen])⟩

theorem read_position {e : DoorEvidence} {seen : DoorObservation} {now : ℚ} (tracked : e.binding = binding)
    (source : binding.get (.source d) = .str "position") (kind : binding.get .positionKind = .str "measured")
    (shown : seen.position = .float (.finite stage.position)) (low : 0 ≤ stage.position) (high : stage.position ≤ 100) :
    Reading binding stage d now (e.stableSince d) (e.read d now seen) := by
  have used := uses_source source
  have ends : stage.ends binding d = DoorEvidence.positionReached d (level binding .toOpen) (level binding .toClose) stage.position := by
    rw [Stage.ends,if_neg (by simp [source])]
  have given : RoborockPlus.number (.float (.finite stage.position)) 0 (some 100) = some stage.position :=
    number_finite low high
  have read : e.read d now seen =
      if stage.ends binding d = false then (⟨some false,.confirmed,"position",none⟩,none)
      else if settleSeconds binding ≤ now-(e.stableSince d).getD now then
        (⟨some true,.confirmed,"position",none⟩,some ((e.stableSince d).getD now))
      else (⟨none,.unknown,"position",some .endpointUnsettled⟩,some ((e.stableSince d).getD now)) := by
    unfold DoorEvidence.read DoorEvidence.endpoint
    rw [tracked]
    simp only [source]
    unfold DoorEvidence.positionEndpoint
    rw [level_given accepted used,level_given accepted used,settleSeconds_given accepted used,kind,shown,given,ends]
    dsimp only
    rw [if_neg (by simpa using level_apart accepted used)]
    cases DoorEvidence.positionReached d (level binding .toOpen) (level binding .toClose) stage.position with
    | false => simp
    | true =>
      unfold DoorEvidence.settled
      simp only [Bool.true_eq_false,if_false,decide_eq_false_iff_not]
      split_ifs <;> simp_all
  rw [read]
  split
  next away => exact ⟨by simp,by simp,fun here => absurd (away.symm.trans here) (by simp),
      fun here => absurd (away.symm.trans here) (by simp)⟩
  next here =>
  have here : stage.ends binding d = true := (Bool.not_eq_false _).mp here
  split
  · exact ⟨by simp,fun _ => here,fun _ _ => ⟨rfl,rfl⟩,fun _ => Or.inr rfl⟩
  next early => exact ⟨by simp,by simp,fun _ settled => absurd settled early,fun _ => Or.inr rfl⟩

variable (sources : ∀ d, confirms binding d = true) (possible : Possible binding stage)
include sources possible

theorem read_shown {e : DoorEvidence} {seen : DoorObservation} (showing : Showing binding stage seen) (now : ℚ)
    (tracked : e.binding = binding) (d : Direction) : Reading binding stage d now (e.stableSince d) (e.read d now seen) := by
  have source := sources d
  simp only [confirms,Bool.or_eq_true,Bool.and_eq_true,beq_iff_eq] at source
  rcases source with contact | ⟨position,kind⟩
  · exact read_contact accepted tracked contact (showing.contacts d contact)
  · exact read_position accepted tracked position kind showing.position possible.low possible.high

theorem observe_shown {e : DoorEvidence} {seen : DoorObservation} (showing : Showing binding stage seen) {now : ℚ} (valid : 0 ≤ now)
    (tracked : e.binding = binding) (idle : e.command = none) (last : ∀ n ∈ e.lastNow, n ≤ now) :
    (e.observe (.float (.finite now)) seen).1.blockedReason = none ∧
      (∀ d, (e.observe (.float (.finite now)) seen).1.endpoint d = (e.read d now seen).1) ∧
      (e.observe (.float (.finite now)) seen).2 = {e with lastNow := some now, stableSince := fun d => (e.read d now seen).2} := by
  have reading (d : Direction) := read_shown accepted sources possible showing now tracked d
  have clocked : e.clock (.float (.finite now)) = (some now,{e with lastNow := some now}) := by
    have given : RoborockPlus.number (.float (.finite now)) 0 none = some now := by
      have float : pyFloat (.float (.finite now)) = some (.finite now) := rfl
      unfold RoborockPlus.number
      simp only [float]
      simp [valid]
    have forward : e.lastNow.any (now < ·) = false := by
      cases stamp : e.lastNow with
      | none => rfl
      | some n => simpa using last n stamp
    unfold DoorEvidence.clock
    rw [given]
    simp [forward]
  have contacts : ({e with lastNow := some now} : DoorEvidence).bothContacts seen = false := by
    by_contra both
    have both : DoorEvidence.contactReached e.binding .toOpen seen.openContact = some true ∧
        DoorEvidence.contactReached e.binding .toClose seen.closeContact = some true := by
      simpa [DoorEvidence.bothContacts] using both
    have ends (d : Direction) (reached : DoorEvidence.contactReached binding d (seen.contact d) = some true) :
        stage.ends binding d = true := by
      have contact : binding.get (.source d) = .str "contact" := by
        by_contra other
        simp [DoorEvidence.contactReached,other] at reached
      rw [Stage.ends,if_pos contact]
      exact Option.some.inj ((showing.contacts d contact).symm.trans reached)
    rw [tracked] at both
    exact absurd ((possible.apart (ends .toOpen both.1)).symm.trans (ends .toClose both.2)) (by simp)
  have found : ({e with lastNow := some now} : DoorEvidence).sourceLost seen = false := by simp [DoorEvidence.sourceLost,idle]
  have ended : ¬((e.read .toOpen now seen).1.reached = some true ∧ (e.read .toClose now seen).1.reached = some true) := fun both =>
    absurd ((possible.apart ((reading .toOpen).reached both.1)).symm.trans ((reading .toClose).reached both.2)) (by simp)
  have settled : e.observe (.float (.finite now)) seen = ({e with lastNow := some now} : DoorEvidence).settle now seen := by
    unfold DoorEvidence.observe
    rw [clocked]
    dsimp only
    unfold DoorEvidence.observeAt
    rw [if_neg (by simp [showing.available]),if_neg (by simp [showing.live]),if_neg (by simp [contacts]),if_neg (by simp [found])]
  have read : ({e with lastNow := some now} : DoorEvidence).settle now seen =
      ({opened := (e.read .toOpen now seen).1, closed := (e.read .toClose now seen).1, coverAvailable := true,
        direction := e.command.map (·.direction), operationId := e.command.map (·.operationId),
        allowEstimated := e.binding.get .allowEstimated == .bool true},
        {e with lastNow := some now, stableSince := fun d => (e.read d now seen).2}) := by
    unfold DoorEvidence.settle
    exact if_neg ended
  rw [settled,read]
  refine ⟨?_,fun d => by cases d <;> rfl,rfl⟩
  have harmless (d : Direction) (reason : Reason)
      (blocking : reason ∈ [.endpointConflict,.feedbackUnavailable,.restoredSnapshot,.invalidConfiguration,.invalidClock]) :
      (e.read d now seen).1.reason ≠ some reason := by
    intro same
    have known := (reading d).reason
    rw [same] at known
    rcases List.mem_cons.mp known with never | last
    · simp at never
    · obtain rfl := Option.some.inj (List.mem_singleton.mp last)
      simp at blocking
  unfold DoorState.blockedReason
  rw [if_neg (by simp),List.find?_eq_none]
  intro reason blocking
  simp [harmless .toOpen reason blocking,harmless .toClose reason blocking]

end Readings

theorem may_refresh {P : Program Garage} {t : ℕ} {place : Place} {Q : Unit → Point Garage → Prop} {p : Point Garage} :
    may P t (GarageController.refresh place) Q p = Q () (reread t place p) := rfl

/-- A runtime that watches the door on a stage, and nothing else. -/
structure Ready (binding : Binding) (stage : Stage) (s : GarageRuntime) : Prop where
  bound : s.binding = binding
  tracked : s.controller.evidence.binding = binding
  idle : s.controller.evidence.command = none
  last : ∀ n ∈ s.controller.evidence.lastNow, n ≤ s.world.clock
  clock : 0 ≤ s.world.clock
  states : s.world.states = stage.states binding
  stale : s.world.coordinator.lastUpdateSuccess = false
  quiet : s.listeners = []

section Runs
variable {binding : Binding} {stage : Stage} {d : Direction} {s : GarageRuntime} (accepted : GarageConfig.Accepted binding)
include accepted

theorem showing_stage {w : World} (shown : w.states = stage.states binding) (phase : Option Phase) (contexts : List ℕ) :
    Showing binding stage (observeDoor binding w phase contexts) := by
  obtain ⟨id,assigned,_⟩ := cover_assigned accepted
  have cover : w.entity binding .coverEntityId =
      some {state := if stage.reached .toClose then "closed" else "open", currentPosition := .float (.finite stage.position)} := by
    unfold World.entity
    rw [assigned,shown]
    exact if_pos assigned
  refine ⟨?_,?_,?_,fun d source => ?_⟩
  · by_cases closed : stage.reached .toClose = true
    · simp [observeDoor,cover,accepted.handover,closed]
    · simp [observeDoor,cover,accepted.handover,closed]
  · simp [observeDoor,cover]
  · simp [observeDoor,cover]
  · cases d <;> exact contact_shown accepted shown source

theorem showing_ready (ready : Ready binding stage s) : Showing binding stage s.doorObservation := by
  unfold GarageRuntime.doorObservation
  rw [ready.bound]
  exact showing_stage accepted ready.states _ _

variable (sources : ∀ d, confirms binding d = true) (possible : Possible binding stage)
include sources possible

theorem refresh_ready (ready : Ready binding stage s) : Ready binding stage s.refresh := by
  obtain ⟨_,_,evidence⟩ := observe_shown accepted sources possible (showing_ready accepted ready) ready.clock
    ready.tracked ready.idle ready.last
  have evidence : s.refresh.controller.evidence = _ := evidence
  refine ⟨ready.bound,?_,?_,?_,ready.clock,ready.states,ready.stale,ready.quiet⟩
  · rw [evidence]
    exact ready.tracked
  · rw [evidence]
    exact ready.idle
  · rw [evidence]
    rintro n ⟨⟩
    exact le_refl _

theorem refresh_readable (ready : Ready binding stage s) : s.refresh.controller.doorBlockedReason = none :=
  (observe_shown accepted sources possible (showing_ready accepted ready) ready.clock ready.tracked ready.idle ready.last).1

theorem refresh_reading (ready : Ready binding stage s) (d : Direction) :
    (s.refresh.controller.confirmed d = true → stage.ends binding d = true) ∧
      (stage.ends binding d = true → settleSeconds binding ≤ s.world.clock-(s.controller.evidence.stableSince d).getD s.world.clock →
        s.refresh.controller.confirmed d = true) ∧
      (stage.ends binding d = true → s.refresh.controller.confirmed d = true ∨
        s.refresh.controller.evidence.stableSince d = some ((s.controller.evidence.stableSince d).getD s.world.clock)) := by
  obtain ⟨_,endpoints,evidence⟩ := observe_shown accepted sources possible (showing_ready accepted ready) ready.clock
    ready.tracked ready.idle ready.last
  have reading := read_shown accepted sources possible (showing_ready accepted ready) s.world.clock ready.tracked d
  have evidence : s.refresh.controller.evidence = _ := evidence
  have endpoint : s.refresh.controller.state.endpoint d = _ := endpoints d
  rw [confirmed_iff,endpoint,evidence]
  exact ⟨fun both => reading.reached both.2,reading.settles,reading.stable⟩

omit sources possible in
theorem timeout_given :
    ∃ timeout, 0 < timeout ∧ pyFloat ((binding .operationTimeoutSeconds).getD (.int 90)) = some (.finite timeout) := by
  obtain ⟨_,timeout,_,found,_⟩ := accepted.timeout
  obtain ⟨value,given,read⟩ := number_accepts found
  obtain ⟨above,_,float⟩ := number_range read
  refine ⟨timeout,lt_of_lt_of_le (by norm_num [numericRange]) above,?_⟩
  rw [given]
  exact float

variable {P : Program Garage} (outside : P.outside = GarageRuntime.apply) {t : ℕ} {p : Point Garage} {cause : Cause}
include outside

omit accepted sources possible outside in
theorem may_pollEndpoint {start : ℚ} {timeout : PyFloat} {Q : Option Unit → Point Garage → Prop}
    (found : p.state.refresh.controller.confirmed d = true → Q (some ()) (reread t (.waited d cause) p))
    (going : ¬p.state.refresh.controller.confirmed d = true →
      elapsed start timeout p.state.world.clock = false ∧ Q none (reread t (.waited d cause) p)) :
    may P t (pollEndpoint d cause start timeout) Q p := by
  change (may P t (if p.state.refresh.controller.confirmed d then pure (some ())
    else if elapsed start timeout p.state.world.clock then .throw (.control (notConfirmed d))
    else pure none : Co Garage (Option Unit)) Q (reread t (.waited d cause) p))
  rw [may_ite]
  split
  next confirmed => exact found confirmed
  next unsettled =>
    obtain ⟨running,next⟩ := going unsettled
    rw [running]
    exact next

theorem may_waitFor (ready : Ready binding stage p.state) (here : stage.ends binding d = true)
    (fresh : p.state.controller.evidence.stableSince d = none) :
    may P t (waitFor d cause) (fun _ q => q.state.listeners = [] ∧ p.history <:+ q.history) p := by
  obtain ⟨timeout,positive,given⟩ := timeout_given accepted
  have first := refresh_ready accepted sources possible ready
  obtain ⟨_,_,stable⟩ := refresh_reading accepted sources possible ready d
  let now := max p.state.world.clock (p.state.world.clock+settleSeconds binding)
  let later : GarageRuntime := {p.state.refresh with world := {p.state.world with clock := now}}
  have waited : P.outside (.time (p.state.world.clock+settleSeconds binding) p.state.world.utc) p.state.refresh = later := by
    rw [outside]
    rfl
  have rested : Ready binding stage later :=
    ⟨first.bound,first.tracked,first.idle,fun n stamp => (first.last n stamp).trans (le_max_left _ _),
      ready.clock.trans (le_max_left _ _),first.states,first.stale,first.quiet⟩
  have settled (unsettled : ¬p.state.refresh.controller.confirmed d = true) : later.refresh.controller.confirmed d = true := by
    have since : later.controller.evidence.stableSince d = some p.state.world.clock := by
      refine ((stable here).resolve_left unsettled).trans ?_
      rw [fresh]
      rfl
    have long := le_max_right p.state.world.clock (p.state.world.clock+settleSeconds binding)
    refine (refresh_reading accepted sources possible rested d).2.1 here ?_
    rw [since,Option.getD_some]
    linarith
  unfold waitFor
  rw [may_bind,may_get,ready.bound,given]
  refine may_poll_twice (may_pollEndpoint (fun _ => ⟨ready.quiet,List.suffix_cons _ _⟩) fun unsettled => ⟨?_,?_⟩)
  · simpa [elapsed] using positive
  refine ⟨[.time (p.state.world.clock+settleSeconds binding) p.state.world.utc],(),?_⟩
  change may P t _ _ ⟨P.outside _ p.state.refresh,_⟩
  rw [waited]
  refine may_pollEndpoint (fun _ => ⟨(),rfl,rested.quiet,⟨[_,_,_,_,_],rfl⟩⟩) fun still => absurd (settled unsettled) still

theorem may_operate {before : Stage} {done : GarageRuntime → GarageRuntime} (ready : Ready binding before p.state)
    (here : stage.ends binding d = true) (quiet : ∀ s, (done s).listeners = s.listeners) :
    may P t (operate d cause done) (fun _ q => q.state.listeners = [] ∧
      ∃ past, q.history = .event t (.succeeded d cause) :: past ∧ .event t (.cover d cause) ∈ past) p := by
  obtain ⟨id,assigned,_⟩ := cover_assigned accepted
  have present : ((makeContext p.state.invalidateEvidence).binding .coverEntityId).isNone = false := by
    change (p.state.binding .coverEntityId).isNone = false
    rw [ready.bound,assigned]
    rfl
  have shown : (makeContext p.state.invalidateEvidence).world.states = before.states binding := ready.states
  unfold operate moveDoor
  rw [may_attempt,may_bind,may_modify,may_bind,may_bind,may_modify,may_bind,may_get,may_ite,present,if_neg (by simp),may_bind,
    may_emit,may_bind,may_await]
  refine ⟨stage.inputs binding,(),?_⟩
  let q := P.observe (stage.inputs binding) (Point.push (L := Garage) ⟨makeContext p.state.invalidateEvidence,
    .event t (.cover d cause) :: p.history⟩ (.waiting t (.cover d)))
  have state : q.state = _ := observe_stage outside shown
  have moved : Ready binding stage q.state := by
    rw [state]
    exact ⟨ready.bound,ready.tracked,rfl,ready.last,ready.clock,rfl,ready.stale,ready.quiet⟩
  have commanded : .event t (.cover d cause) ∈ q.history :=
    (P.observe_suffix _ _).subset (List.mem_cons_of_mem _ List.mem_cons_self)
  change may P t (do
    waitFor d cause
    .modify done
    .emit (.succeeded d cause) : Action) _ (q.push (.resumed t (.ok ())))
  rw [may_bind]
  refine may_mono (may_waitFor accepted sources possible outside moved here ?_) ?_
  · change q.state.controller.evidence.stableSince d = none
    rw [state]
    rfl
  · rintro _ r ⟨listeners,suffix⟩
    refine ⟨(quiet r.state).trans listeners,r.history,rfl,suffix.subset (List.mem_cons_of_mem _ commanded)⟩

end Runs

def endpointStage (binding : Binding) (d : Direction) : Stage where
  reached := fun e => e == d
  position := level binding d

/-- The door halfway, where only a permission that is a contact of its own shows an endpoint. -/
def askedStage (binding : Binding) : Stage where
  reached := fun _ => false
  position := (level binding .toOpen+level binding .toClose)/2
  permitted := true

section Stages
variable {binding : Binding} {d e : Direction} (accepted : GarageConfig.Accepted binding)

theorem level_range (binding : Binding) (d : Direction) : 0 ≤ level binding d ∧ level binding d ≤ 100 := by
  unfold level
  split
  next percent found =>
    obtain ⟨low,high,_⟩ := number_range (number_given found)
    exact ⟨low,high⟩
  · norm_num

theorem askedStage_range (binding : Binding) : 0 ≤ (askedStage binding).position ∧ (askedStage binding).position ≤ 100 := by
  have opened := level_range binding .toOpen
  have closed := level_range binding .toClose
  constructor
  · have total := add_nonneg opened.1 closed.1
    simp only [askedStage]
    linarith
  · have total := add_le_add opened.2 closed.2
    simp only [askedStage]
    linarith

include accepted

theorem endpointStage_ends (source : confirms binding e = true) : (endpointStage binding d).ends binding e = (e == d) := by
  simp only [confirms,Bool.or_eq_true,Bool.and_eq_true,beq_iff_eq] at source
  rcases source with contact | ⟨position,_⟩
  · rw [Stage.ends,if_pos contact]
    exact Stage.shows_reached binding _ (accepted.contact e contact).1 rfl
  · have apart := level_apart accepted (uses_source position)
    rw [Stage.ends,if_neg (by simp [position])]
    cases d <;> cases e
    · exact decide_eq_true (le_refl _)
    · exact decide_eq_false (not_le.mpr apart)
    · exact decide_eq_false (not_le.mpr apart)
    · exact decide_eq_true (le_refl _)

theorem askedStage_apart (sources : ∀ d, confirms binding d = true) (opened : (askedStage binding).ends binding .toOpen = true) :
    (askedStage binding).ends binding .toClose = false := by
  have contact (d : Direction) (ends : (askedStage binding).ends binding d = true) :
      binding.get (.source d) = .str "contact" ∧ binding .closePermissionEntity = binding (.contact d) := by
    have source := sources d
    simp only [confirms,Bool.or_eq_true,Bool.and_eq_true,beq_iff_eq] at source
    rcases source with contact | ⟨position,_⟩
    · refine ⟨contact,?_⟩
      rw [Stage.ends,if_pos contact] at ends
      by_contra other
      have own : (askedStage binding).overridden binding d = false := by simp [Stage.overridden,other]
      rw [Stage.shows_reached binding _ (accepted.contact d contact).1 own] at ends
      simp [askedStage] at ends
    · have apart := level_apart accepted (uses_source position)
      rw [Stage.ends,if_neg (by simp [position])] at ends
      cases d with
      | toOpen =>
        have above : level binding .toOpen ≤ (level binding .toOpen+level binding .toClose)/2 := of_decide_eq_true ends
        linarith
      | toClose =>
        have below : (level binding .toOpen+level binding .toClose)/2 ≤ level binding .toClose := of_decide_eq_true ends
        linarith
  by_contra closed
  obtain ⟨opens,first⟩ := contact .toOpen opened
  obtain ⟨_,second⟩ := contact .toClose ((Bool.not_eq_false _).mp closed)
  obtain ⟨id,assigned,named⟩ := contact_assigned accepted opens
  refine accepted.distinct ?_ (by rw [Binding.get,Binding.get,← first,← second])
  simp only [Binding.get,assigned,Option.getD_some,PyValue.truthy,bne_iff_ne,ne_eq]
  rintro rfl
  simp [entityDomain] at named

theorem askedStage_permits {s : GarageRuntime} (ready : Ready binding (askedStage binding) s) : s.closeAllowed = true := by
  unfold GarageRuntime.closeAllowed
  rw [ready.bound]
  rcases accepted.permission with empty | entity
  · have member : binding.get .closePermissionEntity ∈ [.none,.str ""] := of_decide_eq_true empty
    have untrue : (binding.get .closePermissionEntity).truthy = false := by
      rcases List.mem_cons.mp member with same | last
      · rw [same]
        rfl
      · rw [List.mem_singleton.mp last]
        rfl
    rw [if_pos untrue]
  · obtain ⟨id,domain,given,named,member⟩ := isEntity_text entity
    obtain ⟨cover,covers,covered⟩ := cover_assigned accepted
    have other : binding .coverEntityId ≠ some (.str id) := by
      intro same
      obtain rfl : cover = id := by simpa [covers] using same
      obtain rfl : "cover" = domain := by simpa [covered] using named
      simp [permissionDomains] at member
    have state : s.world.entity binding .closePermissionEntity = some {state := "on"} := by
      unfold World.entity
      rw [get_str given,ready.states]
      exact (if_neg other).trans (if_pos ⟨rfl,get_str given⟩)
    rw [state]
    split
    · rfl
    · simp [PyValue.truthy]

end Stages

def closedWorld (binding : Binding) : World where
  clock := 0
  utc := 0
  states := (endpointStage binding .toClose).states binding
  coordinator := {
    garageStatusSample := none, lastUpdateSuccess := false, updateInterval := none, liveStatus := ⟨.unknown,.none,.none⟩,
    mapData := none, lastMapPositionUpdate := none, pollInterval := .none, isOfficialCloud := false}
  zone := none

section Usable
variable {binding : Binding} (accepted : GarageConfig.Accepted binding) (sources : ∀ d, confirms binding d = true)
include accepted sources

theorem endpointStage_possible (d : Direction) : Possible binding (endpointStage binding d) := by
  obtain ⟨low,high⟩ := level_range binding d
  refine ⟨low,high,fun opened => ?_⟩
  rw [endpointStage_ends accepted (sources _)] at opened ⊢
  rw [← eq_of_beq opened]
  rfl

theorem askedStage_possible : Possible binding (askedStage binding) :=
  ⟨(askedStage_range binding).1,(askedStage_range binding).2,askedStage_apart accepted sources⟩

theorem closedWorld_shut : shut binding (closedWorld binding) = true := by
  have showing := showing_stage accepted (w := closedWorld binding) rfl none []
  obtain ⟨id,assigned,_⟩ := cover_assigned accepted
  have cover : (closedWorld binding).entity binding .coverEntityId =
      some {state := "closed", currentPosition := .float (.finite (level binding .toClose))} := by
    unfold World.entity
    rw [assigned]
    exact if_pos assigned
  have contact (d : Direction) : (binding.get (.source d) != .str "contact" || DoorEvidence.contactReached binding d
      ((observeDoor binding (closedWorld binding) none []).contact d) == some (d == .toClose)) = true := by
    by_cases source : binding.get (.source d) = .str "contact"
    · have shown := endpointStage_ends (d := .toClose) accepted (sources d)
      rw [Stage.ends,if_pos source] at shown
      rw [showing.contacts d source,shown]
      simp
    · simp [source]
  have position : (!uses binding "position" ||
      standsClosed binding (observeDoor binding (closedWorld binding) none []).position) = true := by
    cases used : uses binding "position" with
    | false => rfl
    | true =>
      obtain ⟨_,closed,_,low,_⟩ := accepted.position used
      have stands : (endpointStage binding .toClose).position = closed := by simp [endpointStage,level,low]
      have range : 0 ≤ closed ∧ closed ≤ 100 := by
        rw [← stands]
        exact level_range binding .toClose
      unfold standsClosed
      rw [low,showing.position,stands,number_finite range.1 range.2]
      simp
  unfold shut
  dsimp only
  rw [cover,position]
  simp only [Option.any_some,beq_self_eq_true,Bool.true_and,Bool.and_true,Bool.and_eq_true]
  exact ⟨contact .toOpen,contact .toClose⟩

theorem init_ready : Ready binding (endpointStage binding .toClose) (GarageRuntime.init binding (closedWorld binding)) := by
  have showing := showing_stage accepted (w := closedWorld binding) rfl none []
  obtain ⟨_,_,evidence⟩ := observe_shown (e := {binding}) accepted sources (endpointStage_possible accepted sources .toClose) showing
    (le_refl 0) rfl rfl (by simp)
  have evidence : (GarageRuntime.init binding (closedWorld binding)).controller.evidence = _ := evidence
  refine ⟨rfl,?_,?_,?_,le_refl 0,rfl,rfl,rfl⟩
  · rw [evidence]
  · rw [evidence]
  · rw [evidence]
    rintro n ⟨⟩
    exact le_refl _

variable {P : Program Garage} (outside : P.outside = GarageRuntime.apply) {t : ℕ} {p : Point Garage} {cause : Cause}
include outside

theorem may_openDoor (ready : Ready binding (endpointStage binding .toClose) p.state) :
    may P t (openDoor cause) (fun _ q => q.state.listeners = [] ∧
      ∃ past, q.history = .event t (.succeeded .toOpen cause) :: past ∧ .event t (.cover .toOpen cause) ∈ past) p := by
  have possible := endpointStage_possible accepted sources
  have seen := refresh_ready accepted sources (possible .toClose) ready
  have readable := refresh_readable accepted sources (possible .toClose) ready
  have shut : ¬p.state.refresh.controller.openConfirmed = true := fun opened => by
    have ends := (refresh_reading accepted sources (possible .toClose) ready .toOpen).1 opened
    rw [endpointStage_ends accepted (sources _)] at ends
    simp at ends
  have here : (endpointStage binding .toOpen).ends binding .toOpen = true := endpointStage_ends accepted (sources _)
  unfold openDoor
  rw [may_bind,may_refresh,may_bind,may_get]
  split
  next reason blocked => exact absurd (readable.symm.trans blocked) (by simp)
  have shut : ¬(reread t (.asked .toOpen cause) p).state.controller.openConfirmed = true := shut
  rw [may_ite,if_neg shut,may_bind,may_modify]
  have waiting : Ready binding (endpointStage binding .toClose) (p.state.refresh.setPhase .opening) :=
    ⟨seen.bound,seen.tracked,seen.idle,seen.last,seen.clock,seen.states,seen.stale,seen.quiet⟩
  exact may_operate accepted sources (possible .toOpen) outside waiting here fun _ => rfl

theorem may_closeDoor (ready : Ready binding (askedStage binding) p.state) :
    may P t (closeDoor cause) (fun _ q => q.state.listeners = [] ∧
      ∃ past, q.history = .event t (.succeeded .toClose cause) :: past) p := by
  have possible := askedStage_possible accepted sources
  have seen := refresh_ready accepted sources possible ready
  have readable := refresh_readable accepted sources possible ready
  have allowed : p.state.refresh.closeAllowed = true := askedStage_permits accepted seen
  have here : (endpointStage binding .toClose).ends binding .toClose = true := endpointStage_ends accepted (sources _)
  unfold closeDoor
  rw [may_bind,may_refresh,may_bind,may_get]
  split
  next reason blocked => exact absurd (readable.symm.trans blocked) (by simp)
  rw [may_ite,if_neg (by simp [reread,allowed]),may_ite]
  split
  · exact ⟨ready.quiet,_,rfl⟩
  rw [may_bind,may_modify]
  have waiting : Ready binding (askedStage binding) (p.state.refresh.setPhase .closing) :=
    ⟨seen.bound,seen.tracked,seen.idle,seen.last,seen.clock,seen.states,seen.stale,seen.quiet⟩
  refine may_mono (may_operate accepted sources (endpointStage_possible accepted sources .toClose)
    outside waiting here fun _ => rfl) ?_
  rintro _ q ⟨listeners,past,history,_⟩
  exact ⟨listeners,past,history⟩

omit accepted sources outside in
theorem may_publish {Q : Unit → Point Garage → Prop} (quiet : p.state.listeners = []) (held : Q () p) : may P t publish Q p := by
  unfold publish
  rw [may_bind,may_get,quiet]
  exact held

omit outside in
theorem usable_opens :
    ∃ schedule, opensByCommand (requestHistory binding (closedWorld binding) .toOpen schedule) = true := by
  have opens : may (operating .toOpen) 0 ((operating .toOpen).body .asyncRequestOpen) (fun _ q => opensByCommand q.history = true)
      (((operating .toOpen).observe [] ⟨GarageRuntime.init binding (closedWorld binding),[]⟩).push (.started 0 .asyncRequestOpen)) := by
    change may _ 0 (do openDoor .request; publish) _ _
    rw [may_bind]
    refine may_mono (may_openDoor accepted sources (P := operating .toOpen) rfl (init_ready accepted sources)) ?_
    rintro _ q ⟨listeners,past,history,commanded⟩
    refine may_publish listeners ?_
    have found : past.any (commands 0) = true := List.any_eq_true.mpr ⟨_,commanded,by simp [commands]⟩
    rw [history]
    simp [opensByCommand,found]
  have requested : (operating .toOpen).entry .asyncRequestOpen = true := rfl
  obtain ⟨schedule,q,opened,reached⟩ := exec_may requested [] opens
  refine ⟨schedule,?_⟩
  unfold requestHistory
  rw [congrArg Point.history reached]
  exact opened

omit outside in
theorem usable_closes :
    ∃ schedule, (requestHistory binding (closedWorld binding) .toClose schedule).any endsClose = true := by
  have initial := init_ready accepted sources
  let start : Point Garage := ⟨GarageRuntime.init binding (closedWorld binding),[]⟩
  let asked := (operating .toClose).observe ((askedStage binding).inputs binding) start
  have state : asked.state = _ := observe_stage (P := operating .toClose) rfl (p := start) initial.states
  have ready : Ready binding (askedStage binding) asked.state := by
    rw [state]
    exact ⟨initial.bound,initial.tracked,initial.idle,initial.last,initial.clock,rfl,initial.stale,initial.quiet⟩
  have closes : may (operating .toClose) 0 ((operating .toClose).body .asyncRequestClose)
      (fun _ q => q.history.any endsClose = true) (asked.push (.started 0 .asyncRequestClose)) := by
    have seen := refresh_ready accepted sources (askedStage_possible accepted sources) ready
    have away : ¬robotInside asked.state.refresh.controller = true := by
      have unknown : asked.state.refresh.controller.robot.fresh = false := by
        change asked.state.world.fresh = false
        simp [World.fresh,ready.stale]
      simp [robotInside,unknown]
    change may _ 0 (if robotInside asked.state.refresh.controller then .throw (.control .robotInTheWay) else do
      closeDoor .request
      publish : Action) _ (reread 0 .closeRequest (asked.push (.started 0 .asyncRequestClose)))
    rw [may_ite,if_neg away,may_bind]
    refine may_mono (may_closeDoor accepted sources (P := operating .toClose) rfl seen) ?_
    rintro _ q ⟨listeners,past,history⟩
    refine may_publish listeners ?_
    rw [history]
    rfl
  have requested : (operating .toClose).entry .asyncRequestClose = true := rfl
  obtain ⟨schedule,q,closed,reached⟩ := exec_may requested _ closes
  refine ⟨schedule,?_⟩
  unfold requestHistory
  rw [congrArg Point.history reached]
  exact closed

end Usable

/-- An enabled binding is usable just if both its endpoints are contacts or measured positions. -/
theorem enabled_binding_usable {raw binding : Binding} {supported : Bool} (accepted : validateBinding raw supported = .ok binding)
    (enabled : (binding.get .enabled).truthy = true) : Usable binding ↔ ∀ d, confirms binding d = true := by
  have checked := (validateBinding_accepts accepted enabled).2
  refine ⟨Usable.confirms,fun sources => ?_⟩
  obtain ⟨opening,opens⟩ := usable_opens checked sources
  obtain ⟨closing,closes⟩ := usable_closes checked sources
  exact ⟨⟨_,opening,closedWorld_shut checked sources,opens⟩,⟨_,closing,closedWorld_shut checked sources,closes⟩⟩

def positionBinding (kind : String) : Binding := Binding.ofList
  [(.enabled,.bool true),(.handoverConfirmed,.bool true),(.taskDoorMode,.str "after_exit"),(.coverEntityId,.str "cover.garage"),
    (.source .toOpen,.str "position"),(.threshold .toOpen,.int 95),(.travelSeconds .toOpen,.int 20),
    (.source .toClose,.str "position"),(.threshold .toClose,.int 5),(.travelSeconds .toClose,.int 20),
    (.positionKind,.str kind),(.positionSettleSeconds,.int 1),(.travelMarginSeconds,.int 2),(.allowEstimated,.bool true),
    (.operationTimeoutSeconds,.int 90),(.dockSettleSeconds,.int 5)]

theorem enabled_binding_usable_measured : Usable (positionBinding "measured") := by
  have accepted : validateBinding (positionBinding "measured") true = .ok (positionBinding "measured") :=
    validateBinding_passes (by decide) (by decide) (by decide) (by decide +kernel) (by decide +kernel)
  exact (enabled_binding_usable accepted (by decide)).mpr fun d => by cases d <;> decide

/-- An estimate is accepted when it is allowed, and confirms nothing. -/
theorem estimated_binding_unusable :
    validateBinding (positionBinding "estimated") true = .ok (positionBinding "estimated") ∧
      ((positionBinding "estimated").get .enabled).truthy = true ∧ ¬Usable (positionBinding "estimated") :=
  ⟨validateBinding_passes (by decide) (by decide) (by decide) (by decide +kernel) (by decide +kernel),by decide,
    fun usable => absurd (usable.confirms .toOpen) (by decide)⟩

end RoborockPlus
