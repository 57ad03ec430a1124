import RoborockPlus.StuckTracker
import RoborockPlus.Robot

/-! The event of a stuck robot. Each read of the map feeds the tracker; what the coordinator adds is
that it reports a verdict once, and for how long the robot has been in trouble by then. -/
namespace RoborockPlus.Stuck

inductive StuckReason
  | stopped | trapped
deriving DecidableEq

structure StuckEvent where
  state : RobotState
  secondsStuck : Option ℤ
  reason : StuckReason
  entityId : Option String
  entryId : Option String
  x : Option ℚ
  y : Option ℚ
deriving DecidableEq

/-- What one read of the map finds: the time it was stamped with, the position, the state, and the
vacuum's entity as the registry has it. -/
structure StuckReading where
  now : ℚ
  position : Option (ℚ × ℚ)
  state : RobotState
  entityId : Option String

/-- An empty id is left out of the event. -/
def present (id : Option String) : Option String := id.filter fun text => text != ""

namespace StuckTracker

def isBackstopped (t : StuckTracker) : Bool := t.backstopSince.isSome

def secondsStuck (t : StuckTracker) (now : ℚ) : Option ℚ := t.stuckSince.map fun since => now-since

end StuckTracker

/-- `int` cuts the fraction off. -/
def buildStuckEventData (entityId : Option String) (x y : Option ℚ) (state : RobotState) (secondsStuck : Option ℚ)
    (entryId : Option String) (reason : StuckReason) : StuckEvent :=
  ⟨state,secondsStuck.map fun seconds => seconds.num.tdiv seconds.den,reason,present entityId,present entryId,x,y⟩

def shouldAssessMovement (state : RobotState) : Bool := decide (state ∈ RobotState.movementStates)

def StuckReading.observation (r : StuckReading) : Observation :=
  ⟨r.now,some r.now,r.position.map (·.1),r.position.map (·.2),shouldAssessMovement r.state⟩

/-- The payload for a verdict of the tracker. -/
def StuckReading.report (r : StuckReading) (entryId : Option String) (tracker : StuckTracker) : StuckEvent :=
  buildStuckEventData r.entityId (r.position.map (·.1)) (r.position.map (·.2)) r.state (tracker.secondsStuck r.now) entryId
    (if tracker.isBackstopped then .trapped else .stopped)

/-- `_stuck_tracker` and `_stuck_event_sent`. -/
structure StuckWatch where
  tracker : StuckTracker := {}
  eventSent : Bool := false

namespace StuckWatch
variable (options : StuckOptions) (entryId : Option String)

def observeStuckDetection (s : StuckWatch) (r : StuckReading) : StuckWatch × Option StuckEvent :=
  if options.enabled = false then (s,none)
  else
    let wasStuck := s.tracker.isStuck
    let observed := s.tracker.observe options r.observation
    let tracker := observed.1
    if observed.2 = false then (⟨tracker,false⟩,none)
    else if wasStuck ∧ s.eventSent then (⟨tracker,true⟩,none)
    else (⟨tracker,true⟩,some (r.report entryId tracker))

def isStuck (s : StuckWatch) : Bool := options.enabled && s.tracker.isStuck

/-- The watch after the readings, the latest first. -/
def after : List StuckReading → StuckWatch
  | [] => {}
  | r :: past => ((after past).observeStuckDetection options entryId r).1

def eventAt (past : List StuckReading) (r : StuckReading) : Option StuckEvent :=
  ((after options entryId past).observeStuckDetection options entryId r).2

end StuckWatch

section Report
open StuckWatch

variable {options : StuckOptions} {entryId : Option String} {past : List StuckReading} {r : StuckReading} {t : StuckTracker}
  {sample : Anchor} {event : StuckEvent}

/-- Where the flag says what the tracker says, it still does, and the event tells a verdict that is new. -/
theorem observe_report (enabled : options.enabled = true) {s : StuckWatch} (sent : s.eventSent = s.tracker.isStuck) :
    s.observeStuckDetection options entryId r =
      (⟨(s.tracker.observe options r.observation).1,(s.tracker.observe options r.observation).1.isStuck⟩,
        if (s.tracker.observe options r.observation).1.isStuck ∧ s.tracker.isStuck = false then
          some (r.report entryId (s.tracker.observe options r.observation).1)
        else none) := by
  have verdict := @observe_verdict options r.observation s.tracker
  unfold observeStuckDetection
  rw [if_neg (by simp [enabled])]
  dsimp only
  rw [verdict,sent]
  cases (s.tracker.observe options r.observation).1.isStuck with
  | false => simp
  | true => cases s.tracker.isStuck <;> simp

theorem after_enabled (entryId : Option String) (enabled : options.enabled = true) (past : List StuckReading) :
    (after options entryId past).tracker = replay options (past.map StuckReading.observation) ∧
      (after options entryId past).eventSent = (after options entryId past).tracker.isStuck := by
  induction past with
  | nil => exact ⟨rfl,rfl⟩
  | cons r past ih =>
    obtain ⟨same,sent⟩ := ih
    rw [List.map_cons,replay,← same,after,observe_report enabled sent]
    exact ⟨rfl,rfl⟩

/-- Over all readings: an event is sent exactly where the detector is on and the verdict sets in, so once for each time
the robot is stuck, whichever rule has found it and whichever upholds the verdict later. -/
theorem stuck_event_iff (past : List StuckReading) (r : StuckReading) : (eventAt options entryId past r).isSome = true ↔
    isStuck options (after options entryId (r :: past)) = true ∧ isStuck options (after options entryId past) = false := by
  cases enabled : options.enabled with
  | true =>
    obtain ⟨_,sent⟩ := after_enabled entryId enabled past
    simp only [isStuck,enabled,Bool.true_and,eventAt,after,observe_report enabled sent]
    split_ifs with edge
    · exact iff_of_true rfl edge
    · exact iff_of_false (by simp) edge
  | false => simp [eventAt,observeStuckDetection,isStuck,enabled]

/-- As long as the long rule stands, its region has been held for a quarter of an hour, and the verdict with it. -/
def Upheld (t : StuckTracker) (now : ℚ) : Prop :=
  t.backstopSince.isSome = true → t.stuckSince.isSome = true ∧ ∃ anchor ∈ t.backstopAnchor, backstopWindow ≤ now-anchor.since

theorem Upheld.later {now later : ℚ} (upheld : Upheld t now) (passed : now ≤ later) : Upheld t later := by
  intro stands
  obtain ⟨stuck,anchor,held,long⟩ := upheld stands
  exact ⟨stuck,anchor,held,by linarith⟩

theorem Upheld.observeBackstop {now : ℚ} (upheld : t.backstopSince.isSome = true → ∃ anchor ∈ t.backstopAnchor, backstopWindow ≤ now-anchor.since)
    (passed : now ≤ sample.since) : Upheld (t.observeBackstop sample) sample.since := by
  intro stands
  unfold StuckTracker.observeBackstop at stands ⊢
  cases held : t.backstopAnchor with
  | none =>
    simp only [held] at stands
    obtain ⟨anchor,other,_⟩ := upheld stands
    exact nomatch held.symm.trans other
  | some anchor =>
    simp only [held] at stands ⊢
    split_ifs at stands ⊢ with gone long
    · exact nomatch stands
    · exact ⟨rfl,anchor,rfl,long⟩
    · obtain ⟨other,same,before⟩ := upheld stands
      obtain rfl := Option.some.inj (held.symm.trans same)
      exact absurd (by linarith) long

theorem Upheld.judge {now : ℚ} (upheld : Upheld t now) (passed : now ≤ sample.since) : Upheld (t.judge options sample) sample.since := by
  unfold StuckTracker.judge
  cases anchored : t.anchor with
  | none =>
    intro stands
    obtain ⟨stuck,anchor,held,long⟩ := upheld.later passed stands
    exact ⟨stuck,anchor,by simp [Option.mem_def.mp held],long⟩
  | some last =>
    dsimp only
    split_ifs with moved elapsed
    · exact Upheld.observeBackstop (fun stands => (upheld stands).2) passed
    · intro stands
      exact ⟨rfl,((upheld.later passed) stands).2⟩
    · exact Upheld.observeBackstop (fun stands => (upheld stands).2) passed

theorem Upheld.observe {now : ℚ} (upheld : Upheld t now) (passed : now ≤ r.now) : Upheld (t.observe options r.observation).1 r.now := by
  cases moves : r.observation.shouldMove with
  | false =>
    rw [observe_idle moves]
    exact fun stands => nomatch stands
  | true =>
    cases read : r.observation.sample with
    | none =>
      rw [observe_missing moves read]
      exact upheld.later passed
    | some sample =>
      have stamp : sample.since = r.now := observedAt_of_sample read
      by_cases again : t.repeats r.observation
      · rw [observe_repeat moves read again]
        exact upheld.later passed
      · rw [observe_new moves read again,← stamp]
        have upheld : Upheld {t with lastSampleTime := r.observation.sampleTime} now := upheld
        exact upheld.judge (stamp ▸ passed)

theorem upheld_after (entryId : Option String) (enabled : options.enabled = true) (ordered : (r :: past).Pairwise fun later earlier => earlier.now ≤ later.now) :
    Upheld (after options entryId past).tracker r.now := by
  induction past generalizing r with
  | nil => exact fun stands => nomatch stands
  | cons previous past ih =>
    obtain ⟨newest,rest⟩ := List.pairwise_cons.mp ordered
    obtain ⟨_,sent⟩ := after_enabled entryId enabled past
    rw [after,observe_report enabled sent]
    exact (Upheld.observe (ih rest) le_rfl).later (newest previous List.mem_cons_self)

/-- Where the verdict sets in, the rule that has found it has seen the robot in its region for its whole window. -/
structure Found (options : StuckOptions) (t : StuckTracker) (now : ℚ) : Prop where
  since : ∃ since, t.stuckSince = some since ∧ ((if t.isBackstopped then backstopWindow else options.window) : ℚ) ≤ now-since

theorem found_observeBackstop (free : t.stuckSince = none)
    (stuck : (t.observeBackstop sample).isStuck = true) : Found options (t.observeBackstop sample) sample.since := by
  unfold StuckTracker.observeBackstop at stuck ⊢
  cases held : t.backstopAnchor with
  | none => simp [held,StuckTracker.isStuck,free] at stuck
  | some anchor =>
    simp only [held] at stuck ⊢
    split_ifs at stuck ⊢ with gone long
    · simp [StuckTracker.isStuck,free] at stuck
    · exact ⟨anchor.since,by simp [free],by simpa [StuckTracker.isBackstopped] using long⟩
    · simp [StuckTracker.isStuck,free] at stuck

theorem found_judge (free : t.stuckSince = none) (never : t.backstopSince = none) (stuck : (t.judge options sample).isStuck = true) :
    Found options (t.judge options sample) sample.since := by
  unfold StuckTracker.judge at stuck ⊢
  cases anchored : t.anchor with
  | none => simp [anchored,StuckTracker.isStuck,free] at stuck
  | some last =>
    simp only [anchored] at stuck ⊢
    split_ifs at stuck ⊢ with moved elapsed
    · exact found_observeBackstop rfl stuck
    · exact ⟨last.since,by simp [free],by simpa [StuckTracker.isBackstopped,never] using elapsed⟩
    · exact found_observeBackstop free stuck

theorem found_observe {now : ℚ} (upheld : Upheld t now) (free : t.isStuck = false)
    (stuck : (t.observe options r.observation).1.isStuck = true) :
    Found options (t.observe options r.observation).1 r.now ∧ r.position.isSome = true ∧ r.state ∈ RobotState.movementStates := by
  have clear : t.stuckSince = none := by simpa [StuckTracker.isStuck] using free
  have never : t.backstopSince = none := by
    by_contra stands
    have held := (upheld (Option.isSome_iff_ne_none.mpr stands)).1
    simp [clear] at held
  cases moves : r.observation.shouldMove with
  | false => simp [observe_idle moves,StuckTracker.isStuck] at stuck
  | true =>
    cases read : r.observation.sample with
    | none => simp [observe_missing moves read,StuckTracker.isStuck,clear] at stuck
    | some sample =>
      by_cases again : t.repeats r.observation
      · rw [observe_repeat moves read again,free] at stuck
        exact absurd stuck Bool.false_ne_true
      · rw [observe_new moves read again] at stuck ⊢
        have stamp : sample.since = r.now := observedAt_of_sample read
        refine ⟨stamp ▸ found_judge clear never stuck,?_,of_decide_eq_true moves⟩
        cases seen : r.position with
        | none => simp [StuckReading.observation,Observation.sample,seen] at read
        | some position => rfl

theorem le_tdiv {n : ℤ} {q : ℚ} (nonneg : 0 ≤ n) (below : (n : ℚ) ≤ q) : n ≤ q.num.tdiv q.den := by
  have positive : 0 ≤ q.num := Rat.num_nonneg.mpr ((Int.cast_nonneg nonneg).trans below)
  rw [Int.tdiv_eq_ediv_of_nonneg positive,← Rat.floor_def']
  exact Int.le_floor.mpr below

/-- The event tells a robot in motion that was seen in one region for the whole window of the rule that has found it. -/
theorem stuck_event_borne (enabled : options.enabled = true)
    (ordered : (r :: past).Pairwise fun later earlier => earlier.now ≤ later.now) (sent : eventAt options entryId past r = some event) :
    (∃ seconds, event.secondsStuck = some seconds ∧ (if event.reason = .trapped then 900 else options.window) ≤ seconds) ∧
      event.x.isSome = true ∧ event.y.isSome = true ∧ event.state ∈ RobotState.movementStates := by
  have upheld := upheld_after entryId enabled ordered
  obtain ⟨_,flag⟩ := after_enabled entryId enabled past
  rw [eventAt,observe_report enabled flag] at sent
  split_ifs at sent with edge
  obtain rfl := Option.some.inj sent
  obtain ⟨⟨since,held,long⟩,seen,moving⟩ := found_observe upheld edge.2 edge.1
  refine ⟨?_,by simpa [StuckReading.report,buildStuckEventData] using seen,
    by simpa [StuckReading.report,buildStuckEventData] using seen,moving⟩
  refine ⟨(r.now-since).num.tdiv (r.now-since).den,by simp [StuckReading.report,buildStuckEventData,StuckTracker.secondsStuck,held],?_⟩
  have window : 0 ≤ options.window := (by decide : 0 ≤ minWindow).trans options.window_le.1
  cases backstopped : ((after options entryId past).tracker.observe options r.observation).1.isBackstopped with
  | true =>
    simp only [StuckReading.report,buildStuckEventData,backstopped,if_true] at long ⊢
    exact le_tdiv (by decide) (by simpa [backstopWindow] using long)
  | false =>
    simp only [StuckReading.report,buildStuckEventData,backstopped] at long ⊢
    exact le_tdiv window (by simpa using long)

end Report

def atTheDoor (now : ℚ) : StuckReading := ⟨now,some (2500,100),.cleaning,some "vacuum.robot"⟩

def doorEvent : StuckEvent := ⟨.cleaning,some 120,.stopped,some "vacuum.robot",none,some 2500,some 100⟩

theorem stuck_event_borne_door : StuckWatch.eventAt defaultOptions none [atTheDoor 60,atTheDoor 0] (atTheDoor 120) = some doorEvent ∧
    ∃ seconds, doorEvent.secondsStuck = some seconds ∧ (if doorEvent.reason = .trapped then 900 else defaultOptions.window) ≤ seconds := by
  have sent : StuckWatch.eventAt defaultOptions none [atTheDoor 60,atTheDoor 0] (atTheDoor 120) = some doorEvent := by decide +kernel
  exact ⟨sent,(stuck_event_borne rfl (by decide +kernel) sent).1⟩

end RoborockPlus.Stuck
