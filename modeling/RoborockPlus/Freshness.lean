import RoborockPlus.Rules

/-! Stale robot states. Only the departure rule asks for a fresh sample; the return and
the finish rule act on whatever sample is left, and so does a close after a pause. -/
namespace RoborockPlus
open Async GarageController GarageRuntime

def readFresh (past : List (Item Garage)) : Bool := (lastRead past).any (·.controller.robot.fresh)

/-- The sequence closes, or pauses the robot, on a fresh reading. -/
def decidesFresh (_ : ℕ) (past : List (Item Garage)) : Event → Bool
  | .cover .toClose cause => decide (cause ∉ [.departure,.finished]) || readFresh past
  | .robot name cause _ => decide (cause ∉ [.departure,.returning]) || name != "app_pause" || readFresh past
  | _ => true

/-- A stale reading makes no rule act. -/
def staleWaits (_ : ℕ) (_ : List (Item Garage)) : Event → Bool
  | .read .returning seen =>
    seen.controller.robot.fresh || seen.closed || !seen.controller.isReturning || seen.controller.openConfirmed
  | .read .departurePaused seen =>
    seen.controller.robot.fresh || decide (seen.controller.robot.state ≠ .paused) || !closes seen
  | .read .finish seen =>
    seen.controller.robot.fresh || !seen.controller.taskInProgress || seen.controller.taskRunning ||
      !seen.controller.robotDocked || !closes seen
  | _ => true

def deciding : List Kind :=
  [.cover .toClose .departure,.cover .toClose .finished,.robot .departure,.robot .returning]

theorem decidesFresh_quiet {t : ℕ} {past : List (Item Garage)} {e : Event} (other : e.kind ∉ deciding) :
    decidesFresh t past e = true := by
  cases e with
  | cover d cause =>
    cases d with
    | toOpen => rfl
    | toClose => cases cause <;> first | rfl | simp [Event.kind,deciding] at other
  | robot name cause utc => cases cause <;> first | rfl | simp [Event.kind,deciding] at other
  | _ => rfl

abbrev FreshPromise : Point Garage → Prop := Promise (atEvents staleWaits) (atEvents decidesFresh)

theorem freshPromise_blind (t : ℕ) {R : GarageRuntime → GarageRuntime → Prop} {S : Event → Prop}
    (other : ∀ e, S e → e.kind ∉ deciding) : Ignores FreshPromise t R S :=
  Promise.ignores fun _ e inside => decidesFresh_quiet (other e inside)

theorem freshPromise_unmoved (t : ℕ) : Unmoved FreshPromise t :=
  .of_blind (freshPromise_blind t fun _ other => other) (by simp [deciding]) (by simp [deciding])

theorem freshPromise_departure (t : ℕ) (handled : Bool) :
    Carries FreshPromise (fun _ => True) t (handleDeparture handled) := by
  have blind := freshPromise_unmoved t
  refine carries_handleDeparture blind ?_ ?_ ?_ handled
  · intro p read outside s _
    refine (read.event fun _ => ?_).of_same rfl
    have fresh : p.state.refresh.controller.robot.fresh = true := by
      unfold robotOutside at outside
      simp only [Bool.and_eq_true] at outside
      exact outside.1.1.1
    simpa [decidesFresh,readFresh] using fresh
  · exact fun p inv utc => inv.event fun _ => rfl
  intro p s₀ q _ _ _ _ _ still closing asked s _
  refine (asked.event fun condition => ?_).of_same rfl
  have waits : staleWaits t q.history (.read .departurePaused q.state.refresh) = true := throughout_second condition
  simp only [staleWaits,still,closing,ne_eq,not_true_eq_false,decide_false,Bool.not_true,Bool.or_false] at waits
  exact waits

theorem freshPromise_return (t : ℕ) : Carries FreshPromise (fun _ => True) t handleReturn := by
  have blind := freshPromise_unmoved t
  apply carries_handleReturn blind
  · intro p read returning shut running s _
    refine (read.event fun condition => ?_).of_same rfl
    have waits : staleWaits t p.history (.read .returning p.state.refresh) = true :=
      ((throughout_cons _ _ _).mp condition).1
    have running : p.state.refresh.closed = false := running
    simp only [staleWaits,returning,shut,running,Bool.not_true,Bool.or_false] at waits
    exact waits
  · exact fun p s₀ q _ _ _ _ _ _ r s _ _ asked _ => (asked.event fun _ => rfl).of_same rfl
  · exact fun x s place utc _ _ _ inv => (inv.event fun _ => rfl).of_same rfl

theorem freshPromise_finish (t : ℕ) : Carries FreshPromise (fun _ => True) t sequenceFinished := by
  have blind := freshPromise_unmoved t
  apply carries_sequenceFinished blind .top .top
  · exact fun p inv _ => ⟨(inv.event fun _ => rfl).of_same rfl,trivial⟩
  · exact fun p _ asked _ s _ => ⟨(asked.event fun _ => rfl).of_same rfl,trivial⟩
  · intro p asked _ ours idle docked closing s _
    refine ⟨(asked.event fun condition => ?_).of_same rfl,trivial⟩
    have waits : staleWaits t p.history (.read .finish p.state.refresh) = true := throughout_second condition
    have ours : p.state.refresh.controller.taskInProgress = true := ours
    simp only [staleWaits,ours,idle,docked,closing,Bool.not_true,Bool.or_false] at waits
    exact waits

theorem freshPromise_keeps : Preserves program FreshPromise := by
  refine preserves_promise deciding (fun _ _ _ other => decidesFresh_quiet other) (by simp [deciding]) ?_
  intro call t touched
  cases call with
  | finishSequence =>
    exact carries_turns (freshPromise_blind t fun _ other => other) (by simp [deciding])
      (freshPromise_return t) (freshPromise_departure t) (freshPromise_finish t)
  | _ => simp [Call.kinds,openKinds,closeKinds,exitKinds,deciding] at touched

/-- A sequence closes the door, and pauses the robot, on fresh readings only, in every
run in which no stale reading meets the guards of a rule. -/
theorem sequence_decides_fresh (binding : Binding) (world : World) (schedule : List (Label Garage))
    (waits : throughout (atEvents staleWaits) (run binding world schedule).history = true) :
    throughout (atEvents decidesFresh) (run binding world schedule).history = true :=
  promise_run freshPromise_keeps binding world schedule waits

def comesHome (updated : Bool) : List (Label Garage) :=
  [.call (.asyncSend "app_start"),goesOn 0,.start,.outside (.sampled (statusOf .charging false) 130),
    .outside (.updateFinished updated),goesOn 1]

def closesAtHome : List (Label Garage) :=
  comesHome true ++ [goesOn 1,.outside (.entity "binary_sensor.open" (contact false)),
    .outside (.entity "binary_sensor.closed" (contact true)),goesOn 1]

def cleaningInside : World := contactWorld "open" true false (statusOf .cleaning true) 500

def closesFinished : Item Garage → Bool
  | .event _ (.cover .toClose .finished) => true
  | _ => false

theorem sequence_decides_fresh_at_home :
    throughout (atEvents decidesFresh) (run contactBinding cleaningInside (comesHome true)).history = true ∧
      (run contactBinding cleaningInside (comesHome true)).history.any closesFinished = true :=
  ⟨sequence_decides_fresh _ _ _ (by decide +kernel),by decide +kernel⟩

theorem sequence_decides_stale :
    throughout (atEvents decidesFresh) (run contactBinding cleaningInside (comesHome false)).history = false := by
  decide +kernel

end RoborockPlus
