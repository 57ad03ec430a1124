import RoborockPlus.Python
import Mathlib.Tactic

/-! Door endpoint facts and passage policy. `observe` consumes one reading of the
cover and its contacts; the tracker keeps the active command and how long each
endpoint has been stable. -/
namespace RoborockPlus

inductive Quality
  | confirmed
  | estimated
  | unknown
deriving DecidableEq

structure EndpointEvidence where
  reached : Option Bool
  quality : Quality
  source : String
  reason : Option Reason := none
deriving DecidableEq

structure DoorState where
  opened : EndpointEvidence
  closed : EndpointEvidence
  coverAvailable : Bool
  direction : Option Direction := none
  operationId : Option ℤ := none
  allowEstimated : Bool := false
deriving DecidableEq

namespace DoorState

def openConfirmed (s : DoorState) : Option Bool :=
  if s.opened.quality = .confirmed then s.opened.reached else none

def closedConfirmed (s : DoorState) : Option Bool :=
  if s.closed.quality = .confirmed then s.closed.reached else none

def passageAllowed (s : DoorState) : Option Bool :=
  if s.coverAvailable = false then none
  else if s.direction = some .toClose then some false
  else match s.opened.reached, s.opened.quality with
    | none, _ => none
    | some false, _ => some false
    | some true, .confirmed => some true
    | some true, .estimated => some s.allowEstimated
    | some true, .unknown => none

def blockedReason (s : DoorState) : Option Reason :=
  if s.coverAvailable = false then some .feedbackUnavailable
  else [.endpointConflict,.feedbackUnavailable,.restoredSnapshot,.invalidConfiguration,.invalidClock].find?
    fun reason => s.opened.reason == some reason || s.closed.reason == some reason

def revoked (s : DoorState) : Bool :=
  s.opened.quality == .unknown && s.closed.quality == .unknown && s.blockedReason.isSome

theorem revoked_of_readable {s : DoorState} (readable : s.blockedReason = none) : s.revoked = false := by
  simp [revoked,readable]

theorem revoked_of_opened {s : DoorState} (opened : s.openConfirmed = some true) : s.revoked = false := by
  unfold openConfirmed at opened
  split_ifs at opened with confirmed
  simp [revoked,confirmed]

end DoorState

structure Command where
  direction : Direction
  startedAt : ℚ
  operationId : ℤ
deriving DecidableEq

/-- `_number`: rejects strings, booleans and non-finite values, without clamping. -/
def number (value : PyValue) (minimum : ℚ) (maximum : Option ℚ) : Option ℚ :=
  match value with
  | .int _ | .float _ =>
    match pyFloat value with
    | some (.finite n) => if minimum ≤ n ∧ maximum.all (n ≤ ·) then some n else none
    | _ => none
  | _ => none

structure DoorObservation where
  coverAvailable : Bool
  position : PyValue
  openContact : Option String
  closeContact : Option String
  restored : Bool

def DoorObservation.contact (seen : DoorObservation) : Direction → Option String
  | .toOpen => seen.openContact
  | .toClose => seen.closeContact

structure DoorEvidence where
  binding : Binding
  command : Option Command := none
  stableSince : Direction → Option ℚ := fun _ => none
  lastNow : Option ℚ := none

namespace DoorEvidence

/-- Revoke estimates and stable facts. The reason is the caller's to keep. -/
def invalidate (e : DoorEvidence) : DoorEvidence := {e with command := none, stableSince := fun _ => none}

def clock (e : DoorEvidence) (now : PyValue) : Option ℚ × DoorEvidence :=
  match number now 0 none with
  | none => (none,{e.invalidate with lastNow := none})
  | some valid =>
    if e.lastNow.any (valid < ·) then (none,{e.invalidate with lastNow := none})
    else (some valid,{e with lastNow := some valid})

/-- A direction that is neither word, or an id that is no integer, revokes instead. -/
def noteCommand (e : DoorEvidence) (direction : Option Direction) (now operationId : PyValue) : DoorEvidence :=
  match e.clock now with
  | (none,e) => e
  | (some valid,e) =>
    match direction, operationId with
    | some d, .int id => {e with stableSince := fun _ => none, command := some ⟨d,valid,id⟩}
    | _, _ => e.invalidate

section Endpoint
variable (binding : Binding) (command : Option Command) (d : Direction)

/-! The methods below read and write `_stable_since` at their own direction only:
they take that entry as `since` and return the entry they leave behind. -/

def unknown (reason : Reason) : EndpointEvidence × Option ℚ :=
  (⟨none,.unknown,match binding.get (.source d) with | .str s => s | _ => "unconfigured",some reason⟩,none)

def contactReached (value : Option String) : Option Bool :=
  if binding.get (.source d) ≠ .str "contact" then none
  else match binding.get (.contact d), binding.get (.contactState d), value with
    | .str entity, .str polarity, some value =>
      if entity.startsWith "binary_sensor." = false then none
      else if polarity ∉ ["on","off"] then none
      else if value ∉ ["on","off"] then none
      else some (value == polarity)
    | _, _, _ => none

def settled (reached : Bool) (now seconds : ℚ) (since : Option ℚ) : Bool × Option ℚ :=
  if reached = false then (false,none) else (decide (seconds ≤ now-since.getD now),some (since.getD now))

/-- A rejection, or nothing once the full travel of this direction has elapsed. -/
def estimate (source : String) (now : ℚ) (since : Option ℚ) : Option EndpointEvidence × Option ℚ :=
  match number (binding.get (.travelSeconds d)) 1 (some 600),
      number (binding.get .travelMarginSeconds) 0 (some 120) with
  | some travel, some margin =>
    match command.filter (·.direction = d) with
    | some command =>
      if now-command.startedAt < travel+margin then
        (some ⟨none,.unknown,source,some .travelInProgress⟩,since)
      else (none,since)
    | none => ((unknown binding d .commandRequired).1,none)
  | _, _ => ((unknown binding d .invalidConfiguration).1,none)

def contactEndpoint (contact : Option String) (since : Option ℚ) : EndpointEvidence × Option ℚ :=
  if (binding.get (.contact d)).truthy = false ∨
      binding.get (.contactState d) ∉ [.str "on",.str "off"] then unknown binding d .invalidConfiguration
  else match contactReached binding d contact with
    | none => unknown binding d .feedbackUnavailable
    | some false => (⟨some false,.confirmed,"contact",none⟩,none)
    -- the settle window is not applied: a magnetic contact is a latched switch
    | some true => (⟨some true,.confirmed,"contact",none⟩,since)

def positionReached (opened closed value : ℚ) : Bool :=
  match d with
  | .toOpen => opened ≤ value
  | .toClose => value ≤ closed

def positionEndpoint (now : ℚ) (position : PyValue) (since : Option ℚ) : EndpointEvidence × Option ℚ :=
  let kind := binding.get .positionKind
  match number (binding.get (.threshold .toOpen)) 0 (some 100),
      number (binding.get (.threshold .toClose)) 0 (some 100),
      number (binding.get .positionSettleSeconds) 0 (some 60) with
  | some opened, some closed, some settle =>
    if kind ∉ [.str "measured",.str "estimated"] ∨ opened ≤ closed then unknown binding d .invalidConfiguration
    else match number position 0 (some 100) with
      | none => unknown binding d .feedbackUnavailable
      | some value =>
        let reached := positionReached d opened closed value
        let (settled,since) := settled reached now settle since
        if kind = .str "estimated" then
          match estimate binding command d "position" now since with
          | (some evidence,since) => (evidence,since)
          | (none,since) =>
            if reached = false then (⟨some false,.estimated,"position",some .unverifiedPosition⟩,none)
            else if settled = false then (⟨none,.unknown,"position",some .endpointUnsettled⟩,since)
            else (⟨some true,.estimated,"position",some .unverifiedPosition⟩,since)
        else if reached = false then (⟨some false,.confirmed,"position",none⟩,none)
        else if settled = false then (⟨none,.unknown,"position",some .endpointUnsettled⟩,since)
        else (⟨some true,.confirmed,"position",none⟩,since)
  | _, _, _ => unknown binding d .invalidConfiguration

def endpoint (now : ℚ) (seen : DoorObservation) (since : Option ℚ) : EndpointEvidence × Option ℚ :=
  match binding.get (.source d) with
  | .str "contact" => contactEndpoint binding d (seen.contact d) since
  | .str "position" => positionEndpoint binding command d now seen.position since
  | .str "timed" =>
    match estimate binding command d "timed" now since with
    | (some evidence,since) => (evidence,since)
    | (none,since) => (⟨some true,.estimated,"timed",some .unverifiedPosition⟩,since)
  | _ => unknown binding d .invalidConfiguration

end Endpoint

def unknownState (e : DoorEvidence) (reason : Reason) (coverAvailable : Bool) : DoorState × DoorEvidence :=
  ({opened := (unknown e.binding .toOpen reason).1, closed := (unknown e.binding .toClose reason).1,
    coverAvailable},{e with stableSince := fun _ => none})

def read (e : DoorEvidence) (d : Direction) (now : ℚ) (seen : DoorObservation) :
    EndpointEvidence × Option ℚ :=
  endpoint e.binding e.command d now seen (e.stableSince d)

def sourceLost (e : DoorEvidence) (seen : DoorObservation) : Bool :=
  match e.command with
  | none => false
  | some command =>
    match e.binding.get (.source command.direction) with
    | .str "position" => (number seen.position 0 (some 100)).isNone
    | .str "contact" =>
      (contactReached e.binding command.direction (seen.contact command.direction)).isNone
    | _ => false

def bothContacts (e : DoorEvidence) (seen : DoorObservation) : Bool :=
  contactReached e.binding .toOpen seen.openContact == some true &&
    contactReached e.binding .toClose seen.closeContact == some true

def settle (e : DoorEvidence) (now : ℚ) (seen : DoorObservation) : DoorState × DoorEvidence :=
  let opened := e.read .toOpen now seen
  let closed := e.read .toClose now seen
  if opened.1.reached = some true ∧ closed.1.reached = some true then
    e.invalidate.unknownState .endpointConflict true
  else
    ({opened := opened.1, closed := closed.1, coverAvailable := true,
      direction := e.command.map (·.direction), operationId := e.command.map (·.operationId),
      allowEstimated := e.binding.get .allowEstimated == .bool true},
      {e with stableSince := fun d => (e.read d now seen).2})

def observeAt (e : DoorEvidence) (now : ℚ) (seen : DoorObservation) : DoorState × DoorEvidence :=
  if seen.coverAvailable = false then e.invalidate.unknownState .feedbackUnavailable false
  else if seen.restored then e.invalidate.unknownState .restoredSnapshot true
  else if e.bothContacts seen then e.invalidate.unknownState .endpointConflict true
  -- a lost source cancels its active estimate
  else if e.sourceLost seen then e.invalidate.settle now seen
  else e.settle now seen

def observe (e : DoorEvidence) (now : PyValue) (seen : DoorObservation) : DoorState × DoorEvidence :=
  match e.clock now with
  | (none,e) => e.unknownState .invalidClock seen.coverAvailable
  | (some now,e) => e.observeAt now seen

section Again
variable {binding : Binding} {command : Option Command} {d : Direction} {now : ℚ} (since : Option ℚ)

theorem contactEndpoint_again (contact : Option String) :
    contactEndpoint binding d contact (contactEndpoint binding d contact since).2 =
      contactEndpoint binding d contact since := by
  unfold contactEndpoint
  split
  · rfl
  · rcases contactReached binding d contact with _ | _ | _ <;> rfl

theorem estimate_cases (source : String) :
    (∃ evidence, ∀ since, estimate binding command d source now since = (some evidence,none)) ∨
      ∃ evidence, ∀ since, estimate binding command d source now since = (evidence,since) := by
  unfold estimate
  rcases number (binding.get (.travelSeconds d)) 1 (some 600) with _ | travel
  · exact Or.inl ⟨_,fun _ => rfl⟩
  rcases number (binding.get .travelMarginSeconds) 0 (some 120) with _ | margin
  · exact Or.inl ⟨_,fun _ => rfl⟩
  dsimp only
  generalize Option.filter (fun x => decide (x.direction = d)) command = active
  rcases active with _ | active
  · exact Or.inl ⟨_,fun _ => rfl⟩
  · by_cases early : now-active.startedAt < travel+margin
    · exact Or.inr ⟨_,fun _ => by simp only [early,if_true]; rfl⟩
    · exact Or.inr ⟨_,fun _ => by simp only [early,if_false]; rfl⟩

theorem positionEndpoint_again (position : PyValue) :
    positionEndpoint binding command d now position (positionEndpoint binding command d now position since).2 =
      positionEndpoint binding command d now position since := by
  unfold positionEndpoint
  dsimp only
  rcases number (binding.get (.threshold .toOpen)) 0 (some 100) with _ | opened
  · rfl
  rcases number (binding.get (.threshold .toClose)) 0 (some 100) with _ | closed
  · rfl
  rcases number (binding.get .positionSettleSeconds) 0 (some 60) with _ | settle
  · rfl
  dsimp only
  by_cases invalid : binding.get .positionKind ∉ [.str "measured",.str "estimated"] ∨ opened ≤ closed
  · simp only [invalid,if_true]
  simp only [invalid,if_false]
  rcases number position 0 (some 100) with _ | value
  · rfl
  dsimp only
  rcases @estimate_cases binding command d now "position" with ⟨evidence,same⟩ | ⟨_ | evidence,same⟩
  all_goals
    simp only [same]
    cases positionReached d opened closed value
    · split_ifs <;> simp_all [settled]
    · split_ifs <;> simp_all [settled]
theorem endpoint_again (seen : DoorObservation) :
    endpoint binding command d now seen (endpoint binding command d now seen since).2 =
      endpoint binding command d now seen since := by
  unfold endpoint
  split
  · exact contactEndpoint_again since _
  · exact positionEndpoint_again since _
  · rcases @estimate_cases binding command d now "timed" with ⟨evidence,same⟩ | ⟨_ | evidence,same⟩ <;> simp only [same]
  · rfl

end Again

theorem settle_again (e : DoorEvidence) (now : ℚ) (seen : DoorObservation)
    (apart : ¬((e.read .toOpen now seen).1.reached = some true ∧ (e.read .toClose now seen).1.reached = some true)) :
    (e.settle now seen).2.settle now seen = e.settle now seen := by
  have kept : (e.settle now seen).2 = {e with stableSince := fun d => (e.read d now seen).2} := by
    simp only [settle,apart,if_false]
  have same (d : Direction) : (e.settle now seen).2.read d now seen = e.read d now seen := by
    rw [kept]
    exact endpoint_again _ _
  rw [settle]
  simp only [same,apart,if_false]
  rw [kept]
  simp only [settle,apart,if_false]

theorem unknownState_revoked (e : DoorEvidence) (reason : Reason) (coverAvailable : Bool)
    (known : reason ∈ [.endpointConflict,.feedbackUnavailable,.restoredSnapshot,.invalidConfiguration,.invalidClock]) :
    (e.unknownState reason coverAvailable).1.revoked = true := by
  have blocked : (e.unknownState reason coverAvailable).1.blockedReason ≠ none := by
    unfold unknownState unknown DoorState.blockedReason
    cases coverAvailable
    · simp
    · simp only [Bool.true_eq_false,if_false,ne_eq,List.find?_eq_none,not_forall]
      exact ⟨reason,known,by simp⟩
  unfold DoorState.revoked
  rw [Option.ne_none_iff_isSome.mp blocked]
  rfl

theorem settle_apart {e : DoorEvidence} {now : ℚ} {seen : DoorObservation}
    (held : (e.settle now seen).1.revoked = false) :
    ¬((e.read .toOpen now seen).1.reached = some true ∧ (e.read .toClose now seen).1.reached = some true) := by
  intro both
  simp only [settle,both,and_self,if_true] at held
  rw [unknownState_revoked _ _ _ (by simp)] at held
  exact absurd held (by simp)

/-- What an observation that is not revoked settles: the tracker may have dropped its
command first, but its clock and binding are the old ones. -/
theorem observeAt_settles {e : DoorEvidence} {now : ℚ} {seen : DoorObservation}
    (held : (e.observeAt now seen).1.revoked = false) :
    ∃ f : DoorEvidence, f.binding = e.binding ∧ f.lastNow = e.lastNow ∧ f.sourceLost seen = false ∧
      seen.coverAvailable ≠ false ∧ ¬seen.restored ∧ ¬e.bothContacts seen ∧
      e.observeAt now seen = f.settle now seen := by
  by_cases available : seen.coverAvailable = false
  · rw [observeAt,if_pos available,unknownState_revoked _ _ _ (by simp)] at held
    exact absurd held (by simp)
  by_cases live : seen.restored
  · rw [observeAt,if_neg available,if_pos live,unknownState_revoked _ _ _ (by simp)] at held
    exact absurd held (by simp)
  by_cases contacts : e.bothContacts seen
  · rw [observeAt,if_neg available,if_neg live,if_pos contacts,unknownState_revoked _ _ _ (by simp)] at held
    exact absurd held (by simp)
  by_cases lost : e.sourceLost seen
  · exact ⟨e.invalidate,rfl,rfl,rfl,available,live,contacts,
      by rw [observeAt,if_neg available,if_neg live,if_neg contacts,if_pos lost]⟩
  · exact ⟨e,rfl,rfl,by simpa using lost,available,live,contacts,
      by rw [observeAt,if_neg available,if_neg live,if_neg contacts,if_neg lost]⟩

theorem observeAt_again {e : DoorEvidence} {now : ℚ} {seen : DoorObservation}
    (held : (e.observeAt now seen).1.revoked = false) :
    (e.observeAt now seen).2.lastNow = e.lastNow ∧
      (e.observeAt now seen).2.observeAt now seen = e.observeAt now seen := by
  obtain ⟨f,same,stamp,found,available,live,contacts,settled⟩ := observeAt_settles held
  have apart := settle_apart (settled ▸ held)
  have kept : (f.settle now seen).2 = {f with stableSince := fun d => (f.read d now seen).2} := by
    simp only [settle,apart,if_false]
  rw [settled]
  refine ⟨by rw [kept]; exact stamp,?_⟩
  have contacts : ¬(f.settle now seen).2.bothContacts seen := by
    rw [kept]
    simpa only [bothContacts,same] using contacts
  have source : ¬(f.settle now seen).2.sourceLost seen := by
    rw [kept]
    simpa only [sourceLost,Bool.not_eq_true] using found
  rw [observeAt,if_neg available,if_neg live,if_neg contacts,if_neg source]
  exact settle_again f now seen apart

theorem clock_again {e f : DoorEvidence} {now : PyValue} {valid : ℚ} (read : e.clock now = (some valid,f)) :
    f.lastNow = some valid ∧ ∀ g : DoorEvidence, g.lastNow = some valid → g.clock now = (some valid,g) := by
  unfold clock at read ⊢
  rcases found : number now 0 none with _ | n
  · simp [found] at read
  simp only [found] at read
  by_cases backwards : e.lastNow.any (n < ·)
  · simp [backwards] at read
  · simp only [backwards] at read
    obtain ⟨same,rfl⟩ := Prod.mk.inj read
    obtain rfl := Option.some.inj same
    refine ⟨rfl,fun g held => ?_⟩
    obtain ⟨binding,command,stable,last⟩ := g
    subst held
    simp

theorem observe_settles {e : DoorEvidence} {now : PyValue} {seen : DoorObservation}
    (held : (e.observe now seen).1.revoked = false) :
    ∃ f valid, e.clock now = (some valid,f) ∧ e.observe now seen = f.observeAt valid seen := by
  rcases read : e.clock now with ⟨_ | valid,f⟩
  · rw [observe,read,unknownState_revoked _ _ _ (by simp)] at held
    exact absurd held (by simp)
  · exact ⟨f,valid,rfl,by rw [observe,read]⟩

/-- Reading a door again at once changes neither the state nor the tracker, unless
the first reading was revoked as a whole. -/
theorem observe_again {e : DoorEvidence} {now : PyValue} {seen : DoorObservation}
    (held : (e.observe now seen).1.revoked = false) :
    (e.observe now seen).2.observe now seen = e.observe now seen := by
  obtain ⟨f,valid,read,first⟩ := observe_settles held
  obtain ⟨stamp,accepted⟩ := clock_again read
  rw [first] at held ⊢
  obtain ⟨kept,again⟩ := observeAt_again held
  rw [observe,accepted _ (kept.trans stamp)]
  exact again

theorem observe_apart (e : DoorEvidence) (now : PyValue) (seen : DoorObservation) :
    ¬((e.observe now seen).1.opened.reached = some true ∧ (e.observe now seen).1.closed.reached = some true) := by
  have settled (f : DoorEvidence) (valid : ℚ) :
      ¬((f.settle valid seen).1.opened.reached = some true ∧ (f.settle valid seen).1.closed.reached = some true) := by
    unfold settle
    dsimp only
    split_ifs with both
    · simp [unknownState,unknown]
    · exact both
  unfold observe
  split
  · simp [unknownState,unknown]
  · unfold observeAt
    split_ifs
    · simp [unknownState,unknown]
    · simp [unknownState,unknown]
    · simp [unknownState,unknown]
    · exact settled _ _
    · exact settled _ _

end DoorEvidence

end RoborockPlus
