import RoborockPlus.GarageConfig

/-! Histories of one door tracker: any calls in any order, and what an observation after
them owes to the calls before it. -/
namespace RoborockPlus
open GarageConfig (evidenceSources contactStates positionKinds travels uses requiredTimingFields)

inductive DoorCall
  | noteCommand (direction : Option Direction) (now operationId : PyValue)
  | invalidate
  | observe (now : PyValue) (seen : DoorObservation)

def DoorState.endpoint (s : DoorState) : Direction → EndpointEvidence
  | .toOpen => s.opened
  | .toClose => s.closed

/-- Wherever a conflict is detected, it is the reason of both endpoints. -/
def DoorState.conflicted (s : DoorState) : Bool := s.opened.reason == some .endpointConflict

namespace DoorEvidence

def call (e : DoorEvidence) : DoorCall → DoorEvidence
  | .noteCommand direction now operationId => e.noteCommand direction now operationId
  | .invalidate => e.invalidate
  | .observe now seen => (e.observe now seen).2

def after (binding : Binding) (history : List DoorCall) : DoorEvidence := history.foldl call {binding}

/-- The clock takes this reading: a number, and none before the one it took last. -/
def accepts (e : DoorEvidence) (now : PyValue) (t : ℚ) : Prop :=
  number now 0 none = some t ∧ ∀ last, e.lastNow = some last → last ≤ t

/-- Nothing here makes an observation unknown as a whole. -/
structure Clear (e : DoorEvidence) (now : PyValue) (seen : DoorObservation) (t : ℚ) : Prop where
  clock : e.accepts now t
  available : seen.coverAvailable = true
  live : seen.restored = false
  apart : (e.observe now seen).1.conflicted = false

/-- The tracker that reads its endpoints at this time, its command dropped if its source is lost. -/
def hears (e : DoorEvidence) (t : ℚ) (seen : DoorObservation) : DoorEvidence :=
  if e.sourceLost seen then {e.invalidate with lastNow := some t} else {e with lastNow := some t}

def readable (binding : Binding) (d : Direction) (seen : DoorObservation) : Bool :=
  match binding.get (.source d) with
  | .str "position" => (number seen.position 0 (some 100)).isSome
  | .str "contact" => (contactReached binding d (seen.contact d)).isSome
  | _ => true

/-- Every call of the list is made on a tracker of which this holds. -/
def Throughout (P : DoorEvidence → DoorCall → Prop) : DoorEvidence → List DoorCall → Prop
  | _, [] => True
  | e, made :: rest => P e made ∧ Throughout P (e.call made) rest

theorem throughout_append {P : DoorEvidence → DoorCall → Prop} {e : DoorEvidence} {first second : List DoorCall} :
    Throughout P e (first ++ second) ↔ Throughout P e first ∧ Throughout P (first.foldl call e) second := by
  induction first generalizing e with
  | nil => simp [Throughout]
  | cons made rest ih => simp [Throughout,ih,and_assoc]

section Calls
variable (binding : Binding)

@[simp] theorem after_nil : after binding [] = {binding} := rfl

@[simp] theorem after_append (history rest : List DoorCall) :
    after binding (history ++ rest) = rest.foldl call (after binding history) := List.foldl_append

theorem clock_binding (e : DoorEvidence) (now : PyValue) : (e.clock now).2.binding = e.binding := by
  unfold clock
  split
  · rfl
  · split_ifs <;> rfl

theorem unknownState_endpoint (e : DoorEvidence) (reason : Reason) (available : Bool) (d : Direction) :
    ((e.unknownState reason available).1.endpoint d).quality = .unknown := by
  cases d <;> rfl

theorem settle_endpoint (e : DoorEvidence) (now : ℚ) (seen : DoorObservation) (d : Direction) :
    ((e.settle now seen).1.endpoint d).quality = .unknown ∨ (e.settle now seen).1.endpoint d = (e.read d now seen).1 := by
  unfold settle
  dsimp only
  split_ifs
  · exact Or.inl (unknownState_endpoint _ _ _ d)
  · cases d <;> exact Or.inr rfl

theorem settle_binding (e : DoorEvidence) (now : ℚ) (seen : DoorObservation) : (e.settle now seen).2.binding = e.binding := by
  unfold settle
  dsimp only
  split_ifs <;> rfl

theorem observe_binding (e : DoorEvidence) (now : PyValue) (seen : DoorObservation) : (e.observe now seen).2.binding = e.binding := by
  have clocked := clock_binding e now
  unfold observe
  split
  next f stopped => exact (congrArg (fun read => read.2.binding) stopped).symm.trans clocked
  next valid f read =>
    have same : f.binding = e.binding := (congrArg (fun read => read.2.binding) read).symm.trans clocked
    unfold observeAt
    split_ifs
    · exact same
    · exact same
    · exact same
    · exact (settle_binding _ _ _).trans same
    · exact (settle_binding _ _ _).trans same

theorem call_binding (e : DoorEvidence) (made : DoorCall) : (e.call made).binding = e.binding := by
  cases made with
  | noteCommand direction now operationId =>
    have clocked := clock_binding e now
    rw [call,noteCommand]
    split
    next f stopped => exact (congrArg (fun read => read.2.binding) stopped).symm.trans clocked
    next valid f read =>
      have same : f.binding = e.binding := (congrArg (fun read => read.2.binding) read).symm.trans clocked
      split <;> exact same
  | invalidate => rfl
  | observe now seen => exact observe_binding e now seen

theorem after_binding (history : List DoorCall) : (after binding history).binding = binding := by
  induction history using List.reverseRecOn with
  | nil => rfl
  | append_singleton history made ih =>
    rw [after_append]
    exact (call_binding _ made).trans ih

end Calls

theorem clock_cases (e : DoorEvidence) (now : PyValue) :
    (∃ t, e.accepts now t ∧ e.clock now = (some t,{e with lastNow := some t})) ∨
      (∀ t, ¬e.accepts now t) ∧ e.clock now = (none,{e.invalidate with lastNow := none}) := by
  unfold clock accepts
  rcases number now 0 none with _ | t
  · exact Or.inr ⟨by simp,rfl⟩
  rcases e.lastNow with _ | last
  · exact Or.inl ⟨t,by simp,rfl⟩
  by_cases backwards : t < last
  · exact Or.inr ⟨by simpa using backwards,by simp [backwards]⟩
  · exact Or.inl ⟨t,by simpa using backwards,by simp [backwards]⟩

theorem noteCommand_cases (e : DoorEvidence) (direction : Option Direction) (now operationId : PyValue) :
    (∃ d t id, direction = some d ∧ operationId = .int id ∧ e.accepts now t ∧
      (e.noteCommand direction now operationId).command = some ⟨d,t,id⟩) ∨
      (e.noteCommand direction now operationId).command = none := by
  rcases clock_cases e now with ⟨t,accepted,clocked⟩ | ⟨_,clocked⟩
  · rw [noteCommand,clocked]
    dsimp only
    split
    next d id => exact Or.inl ⟨d,t,id,rfl,rfl,accepted,rfl⟩
    · exact Or.inr rfl
  · rw [noteCommand,clocked]
    exact Or.inr rfl

theorem noteCommand_unstable (e : DoorEvidence) (direction : Option Direction) (now operationId : PyValue) :
    (e.noteCommand direction now operationId).stableSince = fun _ => none := by
  rcases clock_cases e now with ⟨t,_,clocked⟩ | ⟨_,clocked⟩
  · rw [noteCommand,clocked]
    dsimp only
    split <;> rfl
  · rw [noteCommand,clocked]
    rfl

section Reasons
variable {binding : Binding} {d : Direction} {command : Option Command} {now : ℚ} {since : Option ℚ}

/-- The fields this endpoint reads are there, each in the range it is read in. -/
structure Configured (binding : Binding) (d : Direction) : Prop where
  source : binding.get (.source d) ∈ evidenceSources
  contact : binding.get (.source d) = .str "contact" →
    (binding.get (.contact d)).truthy = true ∧ binding.get (.contactState d) ∈ contactStates
  position : binding.get (.source d) = .str "position" → binding.get .positionKind ∈ positionKinds ∧
    ∃ opened closed settle, number (binding.get (.threshold .toOpen)) 0 (some 100) = some opened ∧
      number (binding.get (.threshold .toClose)) 0 (some 100) = some closed ∧
      number (binding.get .positionSettleSeconds) 0 (some 60) = some settle ∧ closed < opened
  travel : travels binding d = true → ∃ travel margin, number (binding.get (.travelSeconds d)) 1 (some 600) = some travel ∧
    number (binding.get .travelMarginSeconds) 0 (some 120) = some margin

/-- Only a field that cannot be read makes an endpoint speak of its configuration. -/
def Explained (binding : Binding) (d : Direction) (reason : Option Reason) : Prop :=
  reason ∈ [none,some .feedbackUnavailable,some .endpointUnsettled,some .unverifiedPosition,some .commandRequired,
    some .travelInProgress] ∨ reason = some .invalidConfiguration ∧ ¬Configured binding d

theorem estimate_unconfirmed {command : Option Command} {source : String} {now : ℚ} {since : Option ℚ} {evidence : EndpointEvidence}
    (found : (estimate binding command d source now since).1 = some evidence) : evidence.quality = .unknown := by
  unfold estimate at found
  split at found
  · split at found
    · split_ifs at found
      obtain rfl := Option.some.inj found
      rfl
    · obtain rfl := Option.some.inj found
      rfl
  · obtain rfl := Option.some.inj found
    rfl

theorem unknown_invalid (missing : ¬Configured binding d) : Explained binding d (unknown binding d .invalidConfiguration).1.reason :=
  Or.inr ⟨rfl,missing⟩

theorem estimate_explained {source : String} {evidence : EndpointEvidence} (used : travels binding d = true)
    (found : (estimate binding command d source now since).1 = some evidence) : Explained binding d evidence.reason := by
  unfold estimate at found
  split at found
  · split at found
    · split_ifs at found
      obtain rfl := Option.some.inj found
      exact Or.inl (by simp)
    · obtain rfl := Option.some.inj found
      exact Or.inl (by simp [unknown])
  next missing =>
    obtain rfl := Option.some.inj found
    refine unknown_invalid fun configured => ?_
    obtain ⟨travel,margin,full,spare⟩ := configured.travel used
    exact missing travel margin full spare

theorem contactEndpoint_explained (contact : Option String) (source : binding.get (.source d) = .str "contact") :
    Explained binding d (contactEndpoint binding d contact since).1.reason := by
  unfold contactEndpoint
  split_ifs with missing
  · refine unknown_invalid fun configured => ?_
    obtain ⟨present,polarity⟩ := configured.contact source
    rcases missing with absent | other
    · simp [present] at absent
    · exact other polarity
  · split
    · exact Or.inl (by simp [unknown])
    · exact Or.inl (by simp)
    · exact Or.inl (by simp)

theorem positionEndpoint_explained (position : PyValue) (source : binding.get (.source d) = .str "position") :
    Explained binding d (positionEndpoint binding command d now position since).1.reason := by
  unfold positionEndpoint
  dsimp only
  split
  next opened closed settle high low wait =>
    split
    next invalid =>
      refine unknown_invalid fun configured => ?_
      obtain ⟨kind,opened',closed',_,high',low',_,apart⟩ := configured.position source
      obtain rfl := Option.some.inj (high.symm.trans high')
      obtain rfl := Option.some.inj (low.symm.trans low')
      rcases invalid with other | crossed
      · exact other kind
      · exact absurd apart (not_lt.mpr crossed)
    split
    · exact Or.inl (by simp [unknown])
    by_cases kind : binding.get .positionKind = .str "estimated"
    · rw [if_pos kind]
      split
      next evidence since found =>
        exact estimate_explained (by simp [travels,source,kind]) (congrArg Prod.fst found)
      · split_ifs <;> exact Or.inl (by simp)
    · rw [if_neg kind]
      split_ifs <;> exact Or.inl (by simp)
  next missing =>
    refine unknown_invalid fun configured => ?_
    obtain ⟨_,opened,closed,settle,high,low,wait,_⟩ := configured.position source
    exact missing opened closed settle high low wait

theorem endpoint_explained (seen : DoorObservation) : Explained binding d (endpoint binding command d now seen since).1.reason := by
  unfold endpoint
  split
  next contact => exact contactEndpoint_explained _ contact
  next position => exact positionEndpoint_explained _ position
  next timed =>
    split
    next evidence since found => exact estimate_explained (by simp [travels,timed]) (congrArg Prod.fst found)
    · exact Or.inl (by simp)
  next contact position timed =>
    refine unknown_invalid fun configured => ?_
    have known := configured.source
    simp only [evidenceSources,List.mem_cons,List.not_mem_nil,or_false] at known
    rcases known with contacts | positions | times
    · exact contact contacts
    · exact position positions
    · exact timed times

end Reasons

section Observed
variable (e : DoorEvidence) (now : PyValue) (seen : DoorObservation)

theorem hears_binding (t : ℚ) : (e.hears t seen).binding = e.binding := by
  unfold hears
  split_ifs <;> rfl

theorem unconflicted {e : DoorEvidence} {t : ℚ} (seen : DoorObservation) : (e.read .toOpen t seen).1.reason ≠ some .endpointConflict := by
  intro conflict
  have explained : Explained e.binding .toOpen (e.read .toOpen t seen).1.reason := endpoint_explained seen
  rw [conflict] at explained
  rcases explained with listed | ⟨other,_⟩
  · simp at listed
  · simp at other

/-- The observation was answered with unknown for both endpoints, and the command and
every stable reading are forgotten. -/
structure Revoked : Prop where
  unclear : ∀ t, ¬e.Clear now seen t
  forgot : ∃ (f : DoorEvidence) (reason : Reason) (available : Bool), e.observe now seen = f.invalidate.unknownState reason available ∧
    f.binding = e.binding ∧ reason ≠ .invalidConfiguration

/-- Everything an observation can do: read both endpoints from the tracker as it then is,
or be revoked as a whole. -/
theorem observe_cases : e.Revoked now seen ∨ ∃ t, e.Clear now seen t ∧
    ¬(((e.hears t seen).read .toOpen t seen).1.reached = some true ∧ ((e.hears t seen).read .toClose t seen).1.reached = some true) ∧
    e.observe now seen = (e.hears t seen).settle t seen := by
  rcases clock_cases e now with ⟨t,accepted,clocked⟩ | ⟨refused,clocked⟩
  pick_goal 2
  · refine Or.inl ⟨fun t clear => refused t clear.clock,{e with lastNow := none},.invalidClock,seen.coverAvailable,?_,rfl,by simp⟩
    rw [observe,clocked]
    rfl
  have heard : e.observe now seen = ({e with lastNow := some t} : DoorEvidence).observeAt t seen := by rw [observe,clocked]
  by_cases available : seen.coverAvailable = false
  · refine Or.inl ⟨fun t clear => absurd clear.available (by simp [available]),{e with lastNow := some t},.feedbackUnavailable,false,?_,rfl,by simp⟩
    rw [heard,observeAt,if_pos available]
  by_cases live : seen.restored
  · refine Or.inl ⟨fun t clear => absurd clear.live (by simp [live]),{e with lastNow := some t},.restoredSnapshot,true,?_,rfl,by simp⟩
    rw [heard,observeAt,if_neg available,if_pos live]
  by_cases contacts : e.bothContacts seen
  · have conflict : e.observe now seen = ({e with lastNow := some t} : DoorEvidence).invalidate.unknownState .endpointConflict true := by
      rw [heard,observeAt,if_neg available,if_neg live]
      exact if_pos contacts
    exact Or.inl ⟨fun t clear => by simpa [conflict,unknownState,unknown,DoorState.conflicted] using clear.apart,_,_,_,conflict,rfl,by simp⟩
  have settled : e.observe now seen = (e.hears t seen).settle t seen := by
    rw [heard,observeAt,if_neg available,if_neg live]
    refine (if_neg contacts).trans ?_
    unfold hears
    by_cases lost : e.sourceLost seen
    · exact (if_pos lost).trans (by rw [if_pos lost]; rfl)
    · exact (if_neg lost).trans (by rw [if_neg lost])
  by_cases both : ((e.hears t seen).read .toOpen t seen).1.reached = some true ∧ ((e.hears t seen).read .toClose t seen).1.reached = some true
  · have conflict : e.observe now seen = (e.hears t seen).invalidate.unknownState .endpointConflict true := by
      rw [settled,settle]
      exact if_pos both
    exact Or.inl ⟨fun t clear => by simpa [conflict,unknownState,unknown,DoorState.conflicted] using clear.apart,_,_,_,conflict,
      hears_binding e seen t,by simp⟩
  · refine Or.inr ⟨t,⟨accepted,by simpa using available,by simpa using live,?_⟩,both,settled⟩
    rw [settled,settle,if_neg both]
    simpa [DoorState.conflicted] using unconflicted seen

variable {e now seen}

theorem Revoked.command (revoked : e.Revoked now seen) : (e.observe now seen).2.command = none := by
  obtain ⟨f,reason,available,same,_,_⟩ := revoked.forgot
  rw [same]
  rfl

theorem Revoked.stableSince (revoked : e.Revoked now seen) (d : Direction) : (e.observe now seen).2.stableSince d = none := by
  obtain ⟨f,reason,available,same,_,_⟩ := revoked.forgot
  rw [same]
  rfl

theorem Revoked.endpoint (revoked : e.Revoked now seen) (d : Direction) :
    ((e.observe now seen).1.endpoint d).reached = none ∧ ((e.observe now seen).1.endpoint d).quality = .unknown ∧
      ((e.observe now seen).1.endpoint d).reason ≠ some .invalidConfiguration := by
  obtain ⟨f,reason,available,same,_,plain⟩ := revoked.forgot
  rw [same]
  cases d <;> simpa [unknownState,unknown,DoorState.endpoint] using plain

end Observed

section Coherence
variable {binding : Binding} {d : Direction} {command : Option Command} {now : ℚ} {since : Option ℚ}

def active (e : DoorEvidence) : Option Direction := e.command.map (·.direction)

/-- The endpoints exclude each other, and only a readable open endpoint grants passage. -/
structure Coherent (state : DoorState) (tracker : DoorEvidence) : Prop where
  apart : ¬(state.opened.reached = some true ∧ state.closed.reached = some true)
  unambiguous : ¬(state.openConfirmed = some true ∧ state.closedConfirmed = some true)
  passage : state.passageAllowed = some true → state.coverAvailable = true ∧ tracker.active ≠ some .toClose ∧
    state.opened.reached = some true ∧ (state.opened.quality = .confirmed ∨
      tracker.binding.get .allowEstimated = .bool true ∧ state.opened.quality = .estimated)
  estimated : state.opened.quality = .estimated → tracker.active = some .toOpen

theorem estimate_elapsed {source : String} {left : Option ℚ} (passed : estimate binding command d source now since = (none,left)) :
    ∃ c travel margin, command = some c ∧ c.direction = d ∧ left = since ∧
      number (binding.get (.travelSeconds d)) 1 (some 600) = some travel ∧
      number (binding.get .travelMarginSeconds) 0 (some 120) = some margin ∧ travel+margin ≤ now-c.startedAt := by
  unfold estimate at passed
  split at passed
  next travel margin full spare =>
    split at passed
    next c found =>
      obtain ⟨given,same⟩ := Option.filter_eq_some_iff.mp found
      split_ifs at passed with early
      · simp at passed
      · exact ⟨c,travel,margin,given,of_decide_eq_true same,(congrArg Prod.snd passed).symm,full,spare,not_lt.mp early⟩
    · simp at passed
  · simp at passed

theorem endpoint_estimated {seen : DoorObservation} (estimated : (endpoint binding command d now seen since).1.quality = .estimated) :
    ∃ c travel margin, command = some c ∧ c.direction = d ∧ number (binding.get (.travelSeconds d)) 1 (some 600) = some travel ∧
      number (binding.get .travelMarginSeconds) 0 (some 120) = some margin ∧ travel+margin ≤ now-c.startedAt := by
  unfold endpoint at estimated
  split at estimated
  · unfold contactEndpoint at estimated
    split at estimated
    · simp [unknown] at estimated
    · split at estimated <;> simp [unknown] at estimated
  · unfold positionEndpoint at estimated
    dsimp only at estimated
    split at estimated
    · split at estimated
      · simp [unknown] at estimated
      split at estimated
      · simp [unknown] at estimated
      split at estimated
      · split at estimated
        next evidence left found =>
          rw [estimate_unconfirmed (congrArg Prod.fst found)] at estimated
          simp at estimated
        next left passed =>
          obtain ⟨c,travel,margin,given,same,_,times⟩ := estimate_elapsed passed
          exact ⟨c,travel,margin,given,same,times⟩
      · split_ifs at estimated
    · simp [unknown] at estimated
  · split at estimated
    next evidence left found =>
      rw [estimate_unconfirmed (congrArg Prod.fst found)] at estimated
      simp at estimated
    next left passed =>
      obtain ⟨c,travel,margin,given,same,_,times⟩ := estimate_elapsed passed
      exact ⟨c,travel,margin,given,same,times⟩
  · simp [unknown] at estimated

theorem openConfirmed_reached {s : DoorState} (confirmed : s.openConfirmed = some true) : s.opened.reached = some true := by
  unfold DoorState.openConfirmed at confirmed
  split_ifs at confirmed
  exact confirmed

theorem closedConfirmed_reached {s : DoorState} (confirmed : s.closedConfirmed = some true) : s.closed.reached = some true := by
  unfold DoorState.closedConfirmed at confirmed
  split_ifs at confirmed
  exact confirmed

theorem passage_reached {s : DoorState} (passage : s.passageAllowed = some true) :
    s.coverAvailable = true ∧ s.direction ≠ some .toClose ∧ s.opened.reached = some true ∧
      (s.opened.quality = .confirmed ∨ s.allowEstimated = true ∧ s.opened.quality = .estimated) := by
  unfold DoorState.passageAllowed at passage
  split_ifs at passage with away closing
  · simp at passage
  refine ⟨by simpa using away,closing,?_⟩
  split at passage
  · simp at passage
  · simp at passage
  next reached quality => exact ⟨reached,Or.inl quality⟩
  next reached quality => exact ⟨reached,Or.inr ⟨Option.some.inj passage,quality⟩⟩
  · simp at passage

theorem observe_coherent (e : DoorEvidence) (now : PyValue) (seen : DoorObservation) :
    Coherent (e.observe now seen).1 (e.observe now seen).2 := by
  have apart := observe_apart e now seen
  have unambiguous : ¬((e.observe now seen).1.openConfirmed = some true ∧ (e.observe now seen).1.closedConfirmed = some true) :=
    fun both => apart ⟨openConfirmed_reached both.1,closedConfirmed_reached both.2⟩
  rcases observe_cases e now seen with revoked | ⟨t,clear,unreached,settled⟩
  · obtain ⟨unreached,unknown,_⟩ := revoked.endpoint .toOpen
    refine ⟨apart,unambiguous,fun passage => ?_,fun estimated => ?_⟩
    · obtain ⟨_,_,reached,_⟩ := passage_reached passage
      exact absurd (unreached.symm.trans reached) (by simp)
    · exact absurd (unknown.symm.trans estimated) (by simp)
  · refine ⟨apart,unambiguous,fun passage => ?_,fun estimated => ?_⟩
    · obtain ⟨available,unclosed,reached,quality⟩ := passage_reached passage
      rw [settled,settle,if_neg unreached] at available unclosed reached quality ⊢
      refine ⟨available,unclosed,reached,quality.imp id fun both => ⟨by simpa using both.1,both.2⟩⟩
    · rw [settled,settle,if_neg unreached] at estimated ⊢
      obtain ⟨c,_,_,given,same,_⟩ := endpoint_estimated estimated
      simp [active,given,same]

end Coherence

/-- Whatever was noted, revoked and observed before, an observation is coherent. -/
theorem history_coherent (binding : Binding) (history : List DoorCall) (now : PyValue) (seen : DoorObservation) :
    Coherent ((after binding history).observe now seen).1 ((after binding history).observe now seen).2 :=
  observe_coherent _ now seen

section Validated
variable {binding raw : Binding} {supported : Bool}

theorem accepted_configured (accepted : GarageConfig.Accepted binding) (d : Direction) : Configured binding d := by
  refine ⟨accepted.source d,fun contact => ?_,fun position => ?_,fun travel => ?_⟩
  · obtain ⟨polarity,reference⟩ := accepted.contact d contact
    refine ⟨?_,polarity⟩
    cases given : binding.get (.contact d) with
    | str id =>
      rw [given] at reference
      have named : id ≠ "" := by
        rintro rfl
        simp [GarageConfig.isEntity,GarageConfig.entityDomain] at reference
      simpa [PyValue.truthy] using named
    | _ => simp [given,GarageConfig.isEntity] at reference
  · have used := GarageConfig.uses_source position
    obtain ⟨kind,closed,opened,low,high,apart⟩ := accepted.position used
    obtain ⟨settle,wait⟩ := accepted.timing .positionSettleSeconds (List.mem_filter.mpr ⟨by simp [GarageConfig.numericKeys],used⟩)
    exact ⟨kind,opened,closed,settle,GarageConfig.number_given high,GarageConfig.number_given low,
      GarageConfig.number_given wait,apart⟩
  · obtain ⟨seconds,full⟩ := accepted.timing (.travelSeconds d)
      (List.mem_filter.mpr ⟨by cases d <;> simp [GarageConfig.numericKeys],travel⟩)
    obtain ⟨margin,spare⟩ := accepted.timing .travelMarginSeconds
      (List.mem_filter.mpr ⟨by simp [GarageConfig.numericKeys],by cases d <;> simp [travel]⟩)
    exact ⟨seconds,margin,GarageConfig.number_given full,GarageConfig.number_given spare⟩

theorem observe_configured {e : DoorEvidence} (now : PyValue) (seen : DoorObservation) (d : Direction)
    (configured : ∀ d, Configured e.binding d) : ((e.observe now seen).1.endpoint d).reason ≠ some .invalidConfiguration := by
  rcases observe_cases e now seen with revoked | ⟨t,clear,unreached,settled⟩
  · exact (revoked.endpoint d).2.2
  · intro invalid
    have read : (e.observe now seen).1.endpoint d = ((e.hears t seen).read d t seen).1 := by
      rw [settled,settle,if_neg unreached]
      cases d <;> rfl
    have explained : Explained (e.hears t seen).binding d ((e.hears t seen).read d t seen).1.reason := endpoint_explained seen
    rw [← read,invalid,hears_binding] at explained
    rcases explained with listed | ⟨_,missing⟩
    · simp at listed
    · exact missing (configured d)

/-- A binding that passed validation never makes a door unreadable for its configuration. -/
theorem accepted_never_invalid (accepted : GarageConfig.validateBinding raw supported = .ok binding)
    (enabled : (binding.get .enabled).truthy = true) (history : List DoorCall) (now : PyValue) (seen : DoorObservation)
    (d : Direction) : (((after binding history).observe now seen).1.endpoint d).reason ≠ some .invalidConfiguration := by
  refine observe_configured now seen d fun d => ?_
  rw [after_binding]
  exact accepted_configured (GarageConfig.validateBinding_accepts accepted enabled).2 d

end Validated

def mixedBinding : Binding := Binding.ofList
  [(.enabled,.bool true),(.handoverConfirmed,.bool true),(.taskDoorMode,.str "hold_open"),(.coverEntityId,.str "cover.garage"),
    (.source .toOpen,.str "position"),(.positionKind,.str "measured"),(.threshold .toOpen,.int 90),(.threshold .toClose,.int 10),
    (.positionSettleSeconds,.int 2),(.source .toClose,.str "contact"),(.contact .toClose,.str "binary_sensor.closed"),
    (.contactState .toClose,.str "on"),(.contactSettleSeconds,.int 0),(.operationTimeoutSeconds,.int 90),(.dockSettleSeconds,.int 5)]

theorem mixedBinding_accepted : GarageConfig.validateBinding mixedBinding true = .ok mixedBinding :=
  GarageConfig.validateBinding_passes (by decide) (by decide) (by decide) (by decide +kernel) (by decide +kernel)

def positionedAt (percent : ℤ) (closeContact : Option String) : DoorObservation :=
  ⟨true,.int percent,none,closeContact,false⟩

theorem mixed_never_invalid :
    (((after mixedBinding [.noteCommand (some .toClose) (.int 0) (.int 1)]).observe (.int 5) (positionedAt 95 none)).1.endpoint
      .toClose).reason ≠ some .invalidConfiguration :=
  accepted_never_invalid mixedBinding_accepted (by decide) _ _ _ _

end DoorEvidence

end RoborockPlus
