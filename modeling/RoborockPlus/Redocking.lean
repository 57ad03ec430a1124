import RoborockPlus.Freshness
import RoborockPlus.Turn

/-! A robot that is back on its dock with its task unfinished. The finish rule opens for
it as long as the task flag stands and the state is one of the two it knows as docked. -/
namespace RoborockPlus
open Async GarageController GarageRuntime

/-- On the dock with a task running, behind a readable door that is not confirmed open. -/
def leftInside (seen : GarageRuntime) : Bool :=
  seen.controller.taskRunning && decide (seen.controller.robot.state ∈ RobotState.dockedStateNames) &&
    seen.controller.doorBlockedReason.isNone && !seen.controller.openConfirmed

def letsOut (turn : Turn) : Bool := !leftInside turn.seen || decide (.toOpen ∈ turn.covers)

/-- A turn that finds the robot left inside, as it begins or at its finish rule, commands
the door open. -/
def opensForDocked (t : ℕ) (past : List (Item Garage)) : Event → Bool
  | .read .finish seen => leftInside seen || (turn decidesTurn (own t past)).all letsOut
  | .iterated => (turn decidesTurn (own t past)).all letsOut
  | _ => true

/-- No turn finds the robot left inside once the task flag is cleared, or in a state that
does not count as docked for the controller. -/
def keepsTask (_ : ℕ) (_ : List (Item Garage)) : Event → Bool
  | .read place seen =>
    !decidesTurn place || !leftInside seen || (seen.controller.taskInProgress && seen.controller.robotDocked)
  | _ => true

abbrev DockedPromise : Point Garage → Prop := Promise (atEvents keepsTask) (atEvents opensForDocked)

section
variable {t : ℕ} {p q : Point Garage}

theorem opensForDocked_quiet (t : ℕ) (past : List (Item Garage)) (e : Event)
    (other : e.kind ∉ [.iterated,.finishing]) : opensForDocked t past e = true := by
  cases e with
  | read place seen => cases place <;> first | rfl | simp [Event.kind] at other
  | iterated => simp [Event.kind] at other
  | _ => rfl

theorem dockedPromise_blind (t : ℕ) {R : GarageRuntime → GarageRuntime → Prop} {S : Event → Prop}
    (other : ∀ e, S e → e.kind ∉ [.iterated,.finishing]) : Ignores DockedPromise t R S :=
  Promise.ignores fun past e inside => opensForDocked_quiet t past e (other e inside)

theorem dockedPromise_unmoved (t : ℕ) : Unmoved DockedPromise t :=
  .of_blind (dockedPromise_blind t fun _ other => other) (by simp) (by simp)

abbrev LetsOut (t : ℕ) (p : Point Garage) : Prop :=
  throughout (atEvents keepsTask) p.history = true → LastTurn decidesTurn letsOut t p

theorem letsOut_stable (t : ℕ) : Stable t (LetsOut t) := (Owned.stable _ t).under _

theorem letsOut_blind (t : ℕ) {R : GarageRuntime → GarageRuntime → Prop} {S : Event → Prop}
    (apart : ∀ e, S e → e.kind ∉ [.opening,.finishing]) : Ignores (LetsOut t) t R S := by
  refine (lastTurn_ignores ?_ ?_ ?_).under _
  · intro place seen inside
    cases place <;> first | rfl | exact absurd (by simp [Event.kind]) (apart _ inside)
  · intro turn d passes
    simp only [letsOut,Bool.or_eq_true,decide_eq_true_eq] at passes ⊢
    exact passes.imp id fun member => List.mem_cons_of_mem _ member
  · exact fun _ _ passes => passes

theorem letsOut_unmoved (t : ℕ) : Unmoved (LetsOut t) t :=
  .of_blind (letsOut_blind t fun _ other => other) (by simp) (by simp)

theorem letsOut_commanded (s : GarageRuntime) (cause : Cause) (past : List (Item Garage)) :
    LetsOut t ⟨s,.event t (.cover .toOpen cause) :: past⟩ :=
  fun _ => lastTurn_commanded s fun _ => by simp [letsOut]

theorem dockedPromise_plain {α : Type} (kinds : List Kind) {m : Co Garage α} (inside : Emits kinds m)
    (apart : ∀ kind ∈ kinds, kind ∉ [.iterated,.opening,.finishing]) : Carries DockedPromise (LetsOut t) t m :=
  Emits.carries (dockedPromise_blind t fun e other => by simp_all) (letsOut_blind t fun e other => by simp_all)
    (letsOut_stable t) kinds inside apart

theorem dockedPromise_opens (inv : DockedPromise (reread t .finish q)) (left : leftInside q.state.refresh = true)
    (ours : q.state.refresh.controller.taskInProgress = true) (docked : q.state.refresh.controller.robotDocked = true) :
    wp DockedPromise t finishRules (fun _ q => DockedPromise q ∧ LetsOut t q)
      (fun _ q => DockedPromise q ∧ LetsOut t q) (reread t .finish q) := by
  have blind := dockedPromise_unmoved t
  have framed := letsOut_unmoved t
  have silent := blind.silent
  simp only [leftInside,Bool.and_eq_true,Bool.not_eq_true',Option.isNone_iff_eq_none] at left
  obtain ⟨⟨⟨running,_⟩,readable⟩,shut⟩ := left
  have again : q.state.refresh.refresh = q.state.refresh := refresh_again _ (refresh_not_revoked readable)
  have asked : DockedPromise (reread t (.asked .toOpen .redocked) (reread t .finish q)) := silent.reread (by simp) inv
  unfold finishRules
  rw [wp_bind,wp_get]
  change wp _ _ (if q.state.refresh.controller.taskInProgress = false then _ else _) _ _ _
  rw [wp_ite,if_neg (by simp [ours])]
  change wp _ _ (if q.state.refresh.controller.taskRunning = true then _ else _) _ _ _
  rw [wp_ite,if_pos running]
  change wp _ _ (if q.state.refresh.controller.robotDocked = true ∧ q.state.refresh.controller.openConfirmed = false
    then _ else _) _ _ _
  rw [wp_ite,if_pos ⟨docked,shut⟩]
  change wp _ _ (if q.state.refresh.controller.doorBlockedReason.isSome = true then _ else _) _ _ _
  rw [wp_ite,if_neg (by simp [readable]),wp_attempt,wp_bind]
  have failed (error : Exc) (q : Point Garage) (inv : DockedPromise q) (lets : LetsOut t q) :
      wp DockedPromise t (noted false id error : Co Garage Bool) (fun _ q => DockedPromise q ∧ LetsOut t q)
        (fun _ q => DockedPromise q ∧ LetsOut t q) q :=
    silent.emits framed.silent (letsOut_stable t) (emits_noted Frame.refl error) q inv lets
  apply wp_openDoor silent framed.silent (letsOut_stable t)
  · intro _ _ blocked
    change q.state.refresh.refresh.controller.doorBlockedReason ≠ none at blocked
    rw [again] at blocked
    exact absurd readable blocked
  · intro _ confirmed
    change q.state.refresh.refresh.controller.openConfirmed = true at confirmed
    rw [again,shut] at confirmed
    exact absurd confirmed (by simp)
  · exact fun _ _ s _ => ⟨(asked.event fun _ => rfl).of_same rfl,letsOut_commanded _ _ _⟩
  · exact fun x inv lets _ => ⟨blind.ended inv ⟨rfl,rfl,rfl⟩ rfl,framed.ended lets ⟨rfl,rfl,rfl⟩ rfl⟩
  · exact fun q s error inv lets frame => failed error _ (blind.ended inv frame rfl) (framed.ended lets frame rfl)

theorem keepsTask_read {place : Place} {seen : GarageRuntime} {past : List (Item Garage)} (decides : decidesTurn place = true)
    (condition : throughout (atEvents keepsTask) (.event t (.read place seen) :: past) = true)
    (left : leftInside seen = true) : seen.controller.taskInProgress = true ∧ seen.controller.robotDocked = true := by
  have kept : keepsTask t past (.read place seen) = true := ((throughout_cons _ _ _).mp condition).1
  simpa only [keepsTask,decides,left,Bool.not_true,Bool.false_or,Bool.and_eq_true] using kept

theorem letsOut_begun {place : Place} (decides : decidesTurn place = true)
    (free : ¬(throughout (atEvents keepsTask) (reread t place p).history = true ∧ leftInside p.state.refresh = true)) :
    LetsOut t (reread t place p) := by
  intro condition
  have out : leftInside p.state.refresh = false := by
    by_contra inside
    exact free ⟨condition,(Bool.not_eq_false _).mp inside⟩
  exact lastTurn_begun _ decides (by simp [letsOut,out])

theorem dockedPromise_finish (inv : DockedPromise q) (opened : leftInside q.state.refresh = true ∨ LetsOut t q) :
    wp DockedPromise t sequenceFinished (fun _ q => DockedPromise q ∧ LetsOut t q)
      (fun _ q => DockedPromise q ∧ LetsOut t q) q := by
  have found (condition : throughout (atEvents keepsTask) q.history = true) :
      opensForDocked t q.history (.read .finish q.state.refresh) = true := by
    simp only [opensForDocked,Bool.or_eq_true]
    exact opened.imp id fun lets => lets condition
  have read : DockedPromise (reread t .finish q) := (inv.event found).of_same rfl
  unfold sequenceFinished
  rw [wp_bind,wp_refresh]
  by_cases left : throughout (atEvents keepsTask) (reread t .finish q).history = true ∧ leftInside q.state.refresh = true
  · obtain ⟨ours,docked⟩ := keepsTask_read rfl left.1 left.2
    exact dockedPromise_opens read left.2 ours docked
  · exact dockedPromise_plain _ (emits_finishRules (List.Subset.refl _)) (by simp [openKinds,closeKinds])
      _ read (letsOut_begun rfl left)

theorem dockedPromise_rules (inv : DockedPromise p) :
    wp DockedPromise t applyRules (fun _ q => DockedPromise q ∧ LetsOut t q) (fun _ q => DockedPromise q ∧ LetsOut t q) p := by
  have silent := (dockedPromise_unmoved t).silent
  have begun : DockedPromise (reread t .iteration p) := (inv.event fun _ => rfl).of_same rfl
  unfold applyRules
  rw [wp_bind,wp_refresh]
  by_cases left : throughout (atEvents keepsTask) (reread t .iteration p).history = true ∧
      leftInside p.state.refresh = true
  · obtain ⟨condition,left⟩ := left
    obtain ⟨_,docked⟩ := keepsTask_read rfl condition left
    have readable : p.state.refresh.controller.doorBlockedReason = none := by
      simp only [leftInside,Bool.and_eq_true,Option.isNone_iff_eq_none] at left
      exact left.1.2
    have again : p.state.refresh.refresh = p.state.refresh := refresh_again _ (refresh_not_revoked readable)
    refine wp_front (G := fun q => DockedPromise q ∧ q.state = p.state.refresh) ?_ ?_ ?_ ⟨begun,rfl⟩
    · intro q known
      rw [known.2,again]
      exact docked
    · intro place q ordinary known
      refine ⟨silent.reread ordinary known.1,?_⟩
      change q.state.refresh = p.state.refresh
      rw [known.2,again]
    · intro q known
      apply dockedPromise_finish known.1
      rw [known.2,again]
      exact Or.inl left
  have lets : LetsOut t (reread t .iteration p) := letsOut_begun rfl left
  rw [wp_bind]
  refine wp_mono (dockedPromise_plain returnKinds (emits_handleReturn (List.Subset.refl _)) (by simp [returnKinds,openKinds])
    _ begun lets) ?_ (fun _ _ both => both)
  intro handled q both
  rw [wp_bind]
  refine wp_mono (dockedPromise_plain departureKinds (emits_handleDeparture (List.Subset.refl _) handled)
    (by simp [departureKinds,closeKinds]) q both.1 both.2) ?_ (fun _ _ both => both)
  intro _ q both
  rw [wp_bind]
  refine wp_mono (dockedPromise_plain [.read] (emits_publish (by simp)) (by simp) q both.1 both.2) ?_ (fun _ _ both => both)
  exact fun _ q both => dockedPromise_finish both.1 (Or.inr both.2)

theorem dockedPromise_keeps : Preserves program DockedPromise := by
  refine preserves_promise [.iterated,.finishing] (fun t past e other => opensForDocked_quiet t past e other) (by simp) ?_
  intro call t touched
  have silent := (dockedPromise_unmoved t).silent
  have ends (q : Point Garage) (both : DockedPromise q ∧ LetsOut t q) :
      DockedPromise (q.push (.event t .iterated)) ∧ True := ⟨both.1.event both.2,trivial⟩
  cases call with
  | finishSequence =>
    refine carries_finishSequence silent .top .top fun start timeout p inv _ => ?_
    refine wp_iterate (fun _ => ⟨inv,trivial⟩) (fun _ => dockedPromise_rules inv) ?_ ?_ ?_
    · exact fun q both => ends q both
    · exact fun _ q both => ends q both
    · exact fun _ q both => ends q both
  | _ => simp [Call.kinds,openKinds,closeKinds,exitKinds] at touched

end

/-- A robot left inside on its dock is let out in the turn that finds it there, in every
run in which each such turn still has its task flag and counts the robot as docked. -/
theorem docked_robot_let_out (binding : Binding) (world : World) (schedule : List (Label Garage))
    (keeps : throughout (atEvents keepsTask) (run binding world schedule).history = true) :
    throughout (atEvents opensForDocked) (run binding world schedule).history = true :=
  promise_run dockedPromise_keeps binding world schedule keeps

/-- A clean is under way with the door open; then the door is shut by hand, and the
robot is on its dock in this state with its task unfinished. Later the door is open. -/
def shutOnDocked (state : RobotState) : List (Label Garage) :=
  [.call (.asyncSend "app_start"),goesOn 0,.start,.outside (.entity "binary_sensor.open" (contact false)),
    .outside (.entity "binary_sensor.closed" (contact true)),.outside (.sampled (statusOf state true) 110),goesOn 1,
    goesOn 1,.outside (.entity "binary_sensor.closed" (contact false)),
    .outside (.entity "binary_sensor.open" (contact true)),goesOn 1]

def commandsRedocked : Item Garage → Bool
  | .event _ (.cover .toOpen .redocked) => true
  | _ => false

theorem docked_robot_let_out_charging :
    throughout (atEvents opensForDocked)
        (run contactBinding cleaningInside (shutOnDocked .charging)).history = true ∧
      (run contactBinding cleaningInside (shutOnDocked .charging)).history.any commandsRedocked = true :=
  ⟨docked_robot_let_out _ _ _ (by decide +kernel),by decide +kernel⟩

theorem docked_robot_left_inside :
    throughout (atEvents opensForDocked)
      (run contactBinding cleaningInside (shutOnDocked .emptyingTheBin)).history = false := by
  decide +kernel

example : throughout (atEvents keepsTask)
    (run contactBinding cleaningInside (shutOnDocked .emptyingTheBin)).history = false := by
  decide +kernel

end RoborockPlus
