import RoborockPlus.Ending
import RoborockPlus.GarageConfig

/-! The two door modes. With `hold_open` the door is to stay open until the task is
over, with `after_exit` it closes behind the robot as well; no rule reads the mode. -/
namespace RoborockPlus
open Async GarageController GarageRuntime

def afterExit (binding : Binding) : Bool := binding.get .taskDoorMode == .str "after_exit"

def closesFinally (last : Turn) : Bool :=
  !(last.seen.controller.taskInProgress && rested last.seen && ajar last.seen) || decide (.toClose ∈ last.covers)

def finishTurn : Place → Bool
  | .finish => true
  | _ => false

/-- A sequence closes in the middle of a task in the mode `after_exit` only, and at the
end of its own task, where the door lets it, in either. -/
def honoursDoorMode (binding : Binding) (t : ℕ) (past : List (Item Garage)) : Event → Bool
  | .cover .toClose .departure | .cover .toClose .waypoint | .cover .toClose .finished =>
    afterExit binding || (lastRead past).any fun seen => !seen.controller.taskRunning
  | .iterated => (turn finishTurn (own t past)).all closesFinally
  | _ => true

/-- The departure rule finds no robot paused with a door it then closes, but in the mode
`after_exit`. -/
def exitsByMode (binding : Binding) (_ : ℕ) (_ : List (Item Garage)) : Event → Bool
  | .read .departurePaused seen =>
    !(decide (seen.controller.robot.state = .paused) && closes seen) || afterExit binding
  | _ => true

abbrev ModePromise (binding : Binding) : Point Garage → Prop :=
  Promise (atEvents (exitsByMode binding)) (atEvents (honoursDoorMode binding))

def modeKinds : List Kind :=
  [.iterated,.cover .toClose .departure,.cover .toClose .waypoint,.cover .toClose .finished]

abbrev ClosesFinally : ℕ → Point Garage → Prop := LastTurn finishTurn closesFinally

section
variable (binding : Binding)

theorem honoursDoorMode_quiet (t : ℕ) (past : List (Item Garage)) (e : Event) (other : e.kind ∉ modeKinds) :
    honoursDoorMode binding t past e = true := by
  cases e with
  | cover d cause => cases d <;> cases cause <;> first | rfl | simp [Event.kind,modeKinds] at other
  | iterated => simp [Event.kind,modeKinds] at other
  | _ => rfl

theorem modePromise_blind (t : ℕ) {R : GarageRuntime → GarageRuntime → Prop} {S : Event → Prop}
    (other : ∀ e, S e → e.kind ∉ modeKinds) : Ignores (ModePromise binding) t R S :=
  Promise.ignores fun past e inside => honoursDoorMode_quiet binding t past e (other e inside)

theorem modePromise_unmoved (t : ℕ) : Unmoved (ModePromise binding) t :=
  .of_blind (modePromise_blind binding t fun _ other => other) (by simp [modeKinds]) (by simp [modeKinds])

theorem closesFinally_ignores {t : ℕ} {R : GarageRuntime → GarageRuntime → Prop} {S : Event → Prop}
    (apart : ∀ e, S e → e.kind ≠ .finishing) : Ignores (ClosesFinally t) t R S := by
  refine lastTurn_ignores ?_ ?_ fun _ _ known => known
  · intro place seen inside
    cases place <;> first | rfl | exact absurd rfl (apart _ inside)
  · intro last d known
    simp only [closesFinally,Bool.or_eq_true,decide_eq_true_eq] at known ⊢
    exact known.imp id fun member => List.mem_cons_of_mem _ member

theorem closesFinally_unmoved (t : ℕ) : Unmoved (ClosesFinally t) t := by
  refine closesFinally_ignores fun e kind same => ?_
  rw [same] at kind
  simp at kind

theorem closesFinally_stable (t : ℕ) : Stable t (ClosesFinally t) := Owned.stable _ t

theorem modePromise_plain (t : ℕ) {α : Type} {m : Co Garage α} {kinds : List Kind} (inside : Emits kinds m)
    (apart : ∀ kind ∈ kinds, kind ∉ .finishing :: modeKinds) :
    Carries (ModePromise binding) (ClosesFinally t) t m := by
  refine Co.Within.carries (modePromise_blind binding t ?_) (closesFinally_ignores ?_) (closesFinally_stable t) inside
  · exact fun e member other => apart e.kind member (List.mem_cons_of_mem _ other)
  · exact fun e member same => apart e.kind member (by simp [same])

/-- A robot seen paused is in the middle of a task, so a close behind it is one too. -/
theorem modePromise_departure (t : ℕ) (handled : Bool) :
    Carries (ModePromise binding) (fun _ => True) t (handleDeparture handled) := by
  refine carries_handleDeparture (modePromise_unmoved binding t) ?_ ?_ ?_ handled
  · exact fun p read _ s _ => (read.event fun _ => rfl).of_same rfl
  · exact fun p inv utc => inv.event fun _ => rfl
  intro p s₀ q _ _ _ _ _ still closing asked s _
  refine (asked.event fun condition => ?_).of_same rfl
  have here : exitsByMode binding t q.history (.read .departurePaused q.state.refresh) = true :=
    throughout_second condition
  have mode : afterExit binding = true := by
    simpa only [exitsByMode,still,closing,decide_true,Bool.and_self,Bool.not_true,Bool.false_or] using here
  simp [honoursDoorMode,mode]

theorem modePromise_finish (t : ℕ) : Carries (ModePromise binding) (ClosesFinally t) t sequenceFinished := by
  intro p inv _
  have blind := modePromise_unmoved binding t
  have read : ModePromise binding (reread t .finish p) := (inv.event fun _ => rfl).of_same rfl
  unfold sequenceFinished
  rw [wp_bind,wp_refresh]
  by_cases final : p.state.controller.taskInProgress = true ∧ rested p.state.refresh = true
  · obtain ⟨ours,rest⟩ := final
    obtain ⟨idle,docked⟩ := (Bool.and_eq_true _ _).mp rest
    have idle : p.state.refresh.controller.taskRunning = false := by simpa using idle
    have rules := wp_finishRules_atRest blind (closesFinally_unmoved t) (closesFinally_stable t) ours idle docked read ?_ ?_
    · exact wp_mono rules (fun _ _ held => held.1) (fun _ _ held => held)
    · exact fun denied => lastTurn_begun _ rfl (by simp [closesFinally,denied])
    · intro _ asked s _
      have final (past : List (Item Garage)) (seen : lastRead past = some p.state.refresh.refresh) :
          honoursDoorMode binding t past (.cover .toClose .finished) = true := by
        have idle : p.state.refresh.refresh.controller.taskRunning = false := idle
        simp [honoursDoorMode,seen,idle]
      exact ⟨(asked.event fun _ => final _ rfl).of_same rfl,lastTurn_commanded s fun _ => by simp [closesFinally]⟩
  have begun : ClosesFinally t (reread t .finish p) := by
    refine lastTurn_begun _ rfl ?_
    by_cases ours : p.state.controller.taskInProgress = true
    · have moving : rested p.state.refresh = false := (Bool.not_eq_true _).mp fun rest => final ⟨ours,rest⟩
      simp [closesFinally,moving]
    · have foreign : p.state.refresh.controller.taskInProgress = false := (Bool.not_eq_true _).mp ours
      simp [closesFinally,foreign]
  refine carries_finishRules blind (closesFinally_unmoved t) (closesFinally_stable t) read begun ?_ ?_
  · intro _ asked kept s frame
    have later := (closesFinally_ignores (R := Frame) (S := fun e => e.kind = .cover .toOpen .redocked)
      fun e kind => by simp [kind]).event ⟨s,_⟩ (.cover .toOpen .redocked) kept rfl
    exact ⟨(asked.event fun _ => rfl).of_same rfl,later⟩
  · intro _ _ ours idle docked
    exact absurd ⟨ours,by simp [rested,idle,docked]⟩ final

theorem modePromise_exit (t : ℕ) : Carries (ModePromise binding) (fun _ => True) t runControlledExit := by
  have silent := (modePromise_unmoved binding t).silent
  have plain {α : Type} (kinds : List Kind) {m : Co Garage α} (inside : Emits kinds m)
      (apart : ∀ kind ∈ kinds, kind ∉ modeKinds) : Carries (ModePromise binding) (fun _ => True) t m :=
    Emits.carries (modePromise_blind binding t fun _ other => other) .top .top kinds inside apart
  exact carries_runControlledExit silent .top .top fun _ => carries_leaveForWaypoint silent .top .top
    (plain _ (emits_openDoor (List.Subset.refl _)) (by simp [openKinds,modeKinds]))
    fun _ => plain [.robot .controlledExit] (emits_asyncControlCommand (by simp)) (by simp [modeKinds])

theorem modePromise_iterate (t : ℕ) (start : ℚ) (timeout : PyFloat) :
    Carries (ModePromise binding) (ClosesFinally t) t (iterate start timeout) := by
  have blind := modePromise_unmoved binding t
  have framed := closesFinally_unmoved t
  refine carries_iterate blind.silent framed.silent (closesFinally_stable t) ?_ ?_ ?_ ?_ (modePromise_finish binding t) start timeout
  · intro p inv kept
    have lasting : Ignores (ClosesFinally t) t Frame fun e => e.kind = .opening :=
      closesFinally_ignores fun e kind => by simp [kind]
    have moved := lasting.act p p.state.refresh kept (frame_refresh p.state)
    exact ⟨(inv.event fun _ => rfl).of_same rfl,lasting.event ⟨p.state.refresh,p.history⟩ _ moved rfl⟩
  · intro p inv kept
    have lasting : Ignores (ClosesFinally t) t Frame fun e => e.kind = .iterated :=
      closesFinally_ignores fun e kind => by simp [kind]
    exact ⟨inv.event fun _ => kept,lasting.event p .iterated kept rfl⟩
  · exact modePromise_plain binding t (emits_handleReturn (List.Subset.refl _)) (by simp [returnKinds,openKinds,modeKinds])
  · intro handled
    refine (modePromise_departure binding t handled).frame (closesFinally_ignores fun e (kind : e.kind ∈ departureKinds) same => ?_)
      (closesFinally_stable t) (emits_handleDeparture (List.Subset.refl _) handled)
    rw [same] at kind
    simp [departureKinds,closeKinds] at kind

theorem modePromise_keeps : Preserves program (ModePromise binding) := by
  refine preserves_of_begun modeKinds (fun t => modePromise_blind binding t fun _ other => other) ?_ ?_ ?_ ?_ ?_ ?_
  · exact fun input p held => (show ModePromise binding (p.push (.outside input)) from held.push fun _ _ => rfl).of_same rfl
  · exact fun t call p held => held.push fun _ _ => rfl
  · exact fun t p held => held.push fun _ _ => rfl
  · exact fun t error p held => held.push fun _ _ => rfl
  · exact fun t p held => (carries_shutdown (modePromise_blind binding t fun e kind => by simp [kind,modeKinds])).plain held trivial
  intro call t touched _ p inv begun
  have silent := (modePromise_unmoved binding t).silent
  have plain {α : Type} (kinds : List Kind) {m : Co Garage α} (inside : Emits kinds m)
      (apart : ∀ kind ∈ kinds, kind ∉ modeKinds) : Carries (ModePromise binding) (fun _ => True) t m :=
    Emits.carries (modePromise_blind binding t fun _ other => other) .top .top kinds inside apart
  have sent {command : String} : Carries (ModePromise binding) (fun _ => True) t (sendCommand (some command)) :=
    plain [.sent] (emits_sendCommand (by simp)) (by simp [modeKinds])
  cases call with
  | asyncSend command =>
    refine Carries.plain (carries_asyncSend silent .top .top (modePromise_exit binding t) (fun _ => sent)
      (carries_openAndSend silent .top .top ?_ sent)) inv trivial
    exact plain _ (emits_openDoor (List.Subset.refl _)) (by simp [openKinds,modeKinds])
  | asyncStartStage command timeoutMinutes =>
    refine Carries.plain (carries_asyncStartStage silent .top .top (carries_asyncSend silent .top .top (modePromise_exit binding t)
      (fun _ => plain [] trivial (by simp)) (carries_openAndSend silent .top .top ?_ (plain [] trivial (by simp))))) inv trivial
    exact plain _ (emits_openDoor (List.Subset.refl _)) (by simp [openKinds,modeKinds])
  | finishSequence =>
    have start : ClosesFinally t p := lastTurn_iff.mpr fun last found => by simp [begun,turn] at found
    exact (carries_finishSequence silent (closesFinally_unmoved t).silent (closesFinally_stable t)
      (modePromise_iterate binding t)).plain inv start
  | _ => simp [Call.kinds,openKinds,closeKinds,modeKinds] at touched

end

/-- An accepted binding keeps its door mode in every run in which the departure rule
finds no robot paused behind a door it closes, but in the mode `after_exit`. -/
theorem door_mode_honoured {raw binding : Binding} (accepted : GarageConfig.validateBinding raw true = .ok binding)
    (enabled : binding.get .enabled = .bool true) (world : World) (schedule : List (Label Garage))
    (exits : throughout (atEvents (exitsByMode binding)) (run binding world schedule).history = true) :
    (binding.get .taskDoorMode = (raw .taskDoorMode).getD (.str "hold_open") ∧
        binding.get .taskDoorMode ∈ GarageConfig.doorModes) ∧
      throughout (atEvents (honoursDoorMode binding)) (run binding world schedule).history = true := by
  obtain ⟨same,checked⟩ := GarageConfig.validateBinding_accepts accepted (by rw [enabled]; rfl)
  refine ⟨⟨?_,checked.doorMode⟩,promise_run (modePromise_keeps binding) binding world schedule exits⟩
  rw [same]
  simp [Binding.get,GarageConfig.setDefault_get]

theorem enabledBinding_accepted : GarageConfig.validateBinding (enabledBinding "hold_open") true =
    .ok (enabledBinding "hold_open") :=
  GarageConfig.validateBinding_passes (by decide) (by decide) (by decide) (by decide +kernel) (by decide +kernel)

theorem door_mode_honoured_at_home :
    throughout (atEvents (honoursDoorMode (enabledBinding "hold_open")))
        (run (enabledBinding "hold_open") cleaningInside (comesHome true)).history = true ∧
      (run (enabledBinding "hold_open") cleaningInside (comesHome true)).history.any closesFinished = true :=
  ⟨(door_mode_honoured enabledBinding_accepted (by decide) _ _ (by decide +kernel)).2,by decide +kernel⟩

/-- Nothing keeps a door open that the binding says to hold. -/
theorem hold_open_closed_mid_task :
    GarageConfig.validateBinding (enabledBinding "hold_open") true = .ok (enabledBinding "hold_open") ∧
      throughout (atEvents (honoursDoorMode (enabledBinding "hold_open")))
        (run (enabledBinding "hold_open") drivingOut (departsTo 3000)).history = false :=
  ⟨enabledBinding_accepted,by decide +kernel⟩

end RoborockPlus
