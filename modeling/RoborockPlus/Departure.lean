import RoborockPlus.Rules

/-! The departure rule: when it closes behind a robot that it has paused. The
position is judged before the pause, and not again before the door moves. -/
namespace RoborockPlus
open Async GarageController GarageRuntime

/-- A close decided by position follows a reading that has the robot outside. -/
def closesOutside (_ : ℕ) (past : List (Item Garage)) : Event → Bool
  | .cover .toClose .departure | .cover .toClose .waypoint => (lastRead past).any (·.controller.robotOutside)
  | _ => true

/-- A robot found paused, with a door that is then closed, is still outside. -/
def staysOutside (_ : ℕ) (_ : List (Item Garage)) : Event → Bool
  | .read .departurePaused seen =>
    !(decide (seen.controller.robot.state = .paused) && closes seen) || seen.controller.robotOutside
  | _ => true

theorem closesOutside_quiet {t : ℕ} {past : List (Item Garage)} {e : Event}
    (other : e.kind ∉ [.cover .toClose .departure,.cover .toClose .waypoint]) : closesOutside t past e = true := by
  cases e with
  | cover d cause => cases d <;> cases cause <;> first | rfl | simp [Event.kind] at other
  | _ => rfl

theorem robotOutside_same {c d : GarageController} (same : c.robot = d.robot) : c.robotOutside = d.robotOutside := by
  unfold robotOutside
  rw [same]

abbrev OutsidePromise : Point Garage → Prop := Promise (atEvents staysOutside) (atEvents closesOutside)

theorem outsidePromise_blind (t : ℕ) {R : GarageRuntime → GarageRuntime → Prop} {S : Event → Prop}
    (other : ∀ e, S e → e.kind ∉ [.cover .toClose .departure,.cover .toClose .waypoint]) :
    Ignores OutsidePromise t R S :=
  Promise.ignores fun _ e inside => closesOutside_quiet (other e inside)

theorem outsidePromise_departure (t : ℕ) (handled : Bool) :
    Carries OutsidePromise (fun _ => True) t (handleDeparture handled) := by
  have blind : Unmoved OutsidePromise t :=
    .of_blind (outsidePromise_blind t fun _ other => other) (by simp) (by simp)
  refine carries_handleDeparture blind ?_ ?_ ?_ handled
  · exact fun p read _ s _ => (read.event fun _ => rfl).of_same rfl
  · exact fun p inv utc => inv.event fun _ => rfl
  intro p s₀ q _ _ _ _ _ still closing asked s _
  refine (asked.event fun condition => ?_).of_same rfl
  -- the pause was observed by a reading that the condition is about
  have outside : staysOutside t q.history (.read .departurePaused q.state.refresh) = true := throughout_second condition
  have robot : q.state.refresh.controller.robotOutside = true := by
    simpa only [staysOutside,still,closing,decide_true,Bool.and_self,Bool.not_true,Bool.false_or] using outside
  change q.state.refresh.refresh.controller.robotOutside = true
  exact (robotOutside_same rfl).trans robot

theorem outsidePromise_keeps : Preserves program OutsidePromise := by
  refine preserves_promise _ (fun _ _ _ other => closesOutside_quiet other) (by simp) ?_
  intro call t touched
  have blind : Silent OutsidePromise t := outsidePromise_blind t fun e kind => by simp [kind]
  have plain {α : Type} (kinds : List Kind) {m : Co Garage α} (inside : Emits kinds m)
      (apart : ∀ kind ∈ kinds, kind ∉ [.cover .toClose .departure,.cover .toClose .waypoint]) :
      Carries OutsidePromise (fun _ => True) t m :=
    Emits.carries (outsidePromise_blind t fun _ other => other) .top .top kinds inside apart
  have exit : Carries OutsidePromise (fun _ => True) t runControlledExit :=
    carries_runControlledExit blind .top .top fun _ => carries_leaveForWaypoint blind .top .top
      (plain _ (emits_openDoor (List.Subset.refl _)) (by simp [openKinds]))
      fun _ => plain [.robot .controlledExit] (emits_asyncControlCommand (by simp)) (by simp)
  have sent {command : String} : Carries OutsidePromise (fun _ => True) t (sendCommand (some command)) :=
    plain [.sent] (emits_sendCommand (by simp)) (by simp)
  cases call with
  | asyncSend command =>
    exact carries_asyncSend blind .top .top exit (fun _ => sent) (carries_openAndSend blind .top .top
      (plain _ (emits_openDoor (List.Subset.refl _)) (by simp [openKinds])) sent)
  | asyncStartStage command timeoutMinutes =>
    exact carries_asyncStartStage blind .top .top (carries_asyncSend blind .top .top exit
      (fun _ => plain [] trivial (by simp)) (carries_openAndSend blind .top .top
      (plain _ (emits_openDoor (List.Subset.refl _)) (by simp [openKinds])) (plain [] trivial (by simp))))
  | finishSequence =>
    exact carries_turns (outsidePromise_blind t fun _ other => other) (by simp)
      (plain _ (emits_handleReturn (List.Subset.refl _)) (by simp [returnKinds,openKinds]))
      (outsidePromise_departure t)
      (plain _ (emits_sequenceFinished (List.Subset.refl _)) (by simp [finishKinds,openKinds,closeKinds]))
  | _ => simp [Call.kinds,openKinds,closeKinds] at touched

/-- Behind a departing robot the door closes only on a reading that has it outside,
in every run in which no robot found paused has moved back meanwhile. -/
theorem departure_closes_outside (binding : Binding) (world : World) (schedule : List (Label Garage))
    (stays : throughout (atEvents staysOutside) (run binding world schedule).history = true) :
    throughout (atEvents closesOutside) (run binding world schedule).history = true :=
  promise_run outsidePromise_keeps binding world schedule stays

/-- A clean is started on an open door and seen leaving; once paused, the robot stands at `east`. -/
def departsTo (east : ℚ) : List (Label Garage) :=
  [.call (.asyncSend "app_start"),goesOn 0,.start,goesOn 1,.outside (.sampled (statusOf .paused true) 101),
    .outside (.mapData (some (mapAt east))),.outside .mapStamped,goesOn 1]

/-- The cover's answer is followed by the door shutting and the wait for it ending. -/
def shutsBehind (task : ℕ) : List (Label Garage) :=
  [goesOn task,.outside (.entity "binary_sensor.open" (contact false)),
    .outside (.entity "binary_sensor.closed" (contact true)),goesOn task]

def drivingOut : World := contactWorld "open" true false (statusOf .cleaning true) 5000

def closesBehind : Item Garage → Bool
  | .event _ (.cover .toClose .departure) => true
  | _ => false

def resumesDeparted : Item Garage → Bool
  | .event _ (.robot "app_resume" .departure _) => true
  | _ => false

theorem departure_closes_outside_eastward :
    throughout (atEvents closesOutside) (run contactBinding drivingOut (departsTo 3000)).history = true ∧
      (run contactBinding drivingOut (departsTo 3000)).history.any closesBehind = true :=
  ⟨departure_closes_outside _ _ _ (by decide +kernel),by decide +kernel⟩

theorem departure_closes_upon_robot :
    throughout (atEvents closesOutside) (run contactBinding drivingOut (departsTo 500)).history = false := by
  decide +kernel

end RoborockPlus
