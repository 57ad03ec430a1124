import RoborockPlus.Staging

/-! The reactive rules. Each lemma names the moments at which a rule commands the robot
or the door, with what is known there; everything else of the rule is silent. -/
namespace RoborockPlus
open Async GarageController GarageRuntime

/-- `close_door`, entered in this state, passes its guards and commands the cover. -/
def closes (s : GarageRuntime) : Bool :=
  s.refresh.controller.doorBlockedReason.isNone && s.closeAllowed && !s.refresh.controller.closedConfirmed

/-- A reading on which `close_door` would command the cover. -/
def ajar (seen : GarageRuntime) : Bool :=
  seen.controller.doorBlockedReason.isNone && seen.closeAllowed && !seen.controller.closedConfirmed

def opens (s : GarageRuntime) : Bool :=
  s.refresh.controller.doorBlockedReason.isNone && !s.refresh.controller.openConfirmed

section
variable {I : Point Garage → Prop} {t : ℕ} {p : Point Garage}

theorem closes_of_guards {s : GarageRuntime} (readable : s.refresh.controller.doorBlockedReason = none)
    (allowed : s.closeAllowed = true) (ajar : s.refresh.controller.closedConfirmed = false) : closes s = true := by
  unfold closes
  rw [readable,allowed,ajar]
  rfl

theorem opens_of_guards {s : GarageRuntime} (readable : s.refresh.controller.doorBlockedReason = none)
    (shut : s.refresh.controller.openConfirmed = false) : opens s = true := by
  unfold opens
  rw [readable,shut]
  rfl

/-- The release of a held robot, whose fact from here on is the one outside of the hold. -/
theorem wp_releaseHeld {F H : Point Garage → Prop} (blind : Unmoved I t) (framed : Unmoved F t) (stable : Stable t F)
    (holding : Unmoved H t) (refused : p.state.closed = true → F p)
    (resumed : ∀ s, s.closed = false → I ⟨s,p.history⟩ → H ⟨s,p.history⟩ → ∀ utc,
      I ⟨s,.event t (.robot "app_resume" .departure utc) :: p.history⟩ ∧
        F ⟨s,.event t (.robot "app_resume" .departure utc) :: p.history⟩)
    (inv : I p) (fact : H p) :
    wp I t (resumeRobot .departure) (fun _ q => I q ∧ F q) (fun _ q => I q ∧ F q) p := by
  refine wp_command blind.silent framed.silent stable (by simp) (by simp) ?_ ?_ (fun _ _ _ _ inv fact _ => ⟨inv,fact⟩)
    (fun _ _ _ _ _ inv fact _ => ⟨inv,fact⟩)
  · exact fun closed => ⟨inv,refused closed⟩
  · exact fun running s frame => resumed s (frame.closed.trans running) (blind.act p s inv frame) (holding.act p s fact frame) _

/-- Whatever becomes of the close behind a held robot, the robot is released. -/
theorem wp_closeHeld {F H : Point Garage → Prop} (blind : Unmoved I t) (holding : Unmoved H t) (lasting : Stable t H)
    (release : ∀ q, I q → H q → wp I t (resumeRobot .departure) (fun _ q => I q ∧ F q) (fun _ q => I q ∧ F q) q)
    (commanded : p.state.refresh.controller.doorBlockedReason = none → p.state.closeAllowed = true →
      p.state.refresh.controller.closedConfirmed = false → ∀ s, Frame p.state s →
      I ⟨s,.event t (.cover .toClose .departure) :: (reread t (.asked .toClose .departure) p).history⟩ ∧
        H ⟨s,.event t (.cover .toClose .departure) :: (reread t (.asked .toClose .departure) p).history⟩)
    (inv : I p) (fact : H p) :
    wp I t (.guarded (.attempt (do closeDoor .departure; pure true) (noted false id)) (resumeRobot .departure))
      (fun _ q => I q ∧ F q) (fun _ q => I q ∧ F q) p := by
  rw [wp_guarded,wp_attempt,wp_bind]
  refine wp_mono (carries_closeDoor blind holding lasting inv fact commanded) (fun _ q both => release q both.1 both.2) ?_
  intro error q both
  cases error with
  | control reason => exact release _ (blind.act q _ both.1 ⟨rfl,rfl,rfl⟩) (holding.act q _ both.2 ⟨rfl,rfl,rfl⟩)
  | other reason =>
    rw [noted,wp_throw]
    · exact release q both.1 both.2
    · simp
  | cancelled =>
    rw [noted,wp_throw]
    · exact release q both.1 both.2
    · simp

/-- The departure rule between its pause and its release: a fact that holds outside of this
hold, and one that holds within, from the reading that has the robot paused on. -/
theorem carries_hold {F H : Point Garage → Prop} (blind : Unmoved I t) (framed : Unmoved F t) (stable : Stable t F)
    (holding : Unmoved H t) (lasting : Stable t H)
    (paused : ∀ p, I (reread t .departure p) → F (reread t .departure p) →
      p.state.refresh.controller.robotOutside = true → p.state.closed = false → ∀ s, Frame p.state s →
      I ⟨s,.event t (.robot "app_pause" .departure p.state.world.utc) :: (reread t .departure p).history⟩ ∧
        F ⟨s,.event t (.robot "app_pause" .departure p.state.world.utc) :: (reread t .departure p).history⟩)
    (held : ∀ q, I (reread t .departurePaused q) → F (reread t .departurePaused q) →
      q.state.refresh.controller.robot.state = .paused → H (reread t .departurePaused q))
    (commanded : ∀ p s₀ q, I p → p.state.refresh.controller.robotOutside = true → Frame p.state s₀ →
      Idle t ⟨s₀,.event t (.robot "app_pause" .departure p.state.world.utc) :: (reread t .departure p).history⟩ q →
      I q → q.state.refresh.controller.robot.state = .paused → closes q.state.refresh = true →
      I (reread t (.asked .toClose .departure) (reread t .departurePaused q)) →
      H (reread t (.asked .toClose .departure) (reread t .departurePaused q)) → ∀ s, Frame q.state s →
      I ⟨s,.event t (.cover .toClose .departure) ::
        (reread t (.asked .toClose .departure) (reread t .departurePaused q)).history⟩ ∧
      H ⟨s,.event t (.cover .toClose .departure) ::
        (reread t (.asked .toClose .departure) (reread t .departurePaused q)).history⟩)
    (resumed : ∀ p : Point Garage, I p → H p → p.state.closed = false → ∀ utc,
      I (p.push (.event t (.robot "app_resume" .departure utc))) ∧ F (p.push (.event t (.robot "app_resume" .departure utc))))
    (refused : ∀ p : Point Garage, I p → H p → p.state.closed = true → F p)
    (handled : Bool) : Carries I F t (handleDeparture handled) := by
  have silent := blind.silent
  have quiet := framed.silent
  have stays {q : Point Garage} (inv : I q) (fact : F q) {s : GarageRuntime} (frame : Frame q.state s) :
      I ⟨s,q.history⟩ ∧ F ⟨s,q.history⟩ := ⟨blind.act q s inv frame,framed.act q s fact frame⟩
  have release (q : Point Garage) (inv : I q) (fact : H q) :
      wp I t (resumeRobot .departure) (fun _ q => I q ∧ F q) (fun _ q => I q ∧ F q) q :=
    wp_releaseHeld blind framed stable holding (refused q inv fact) (fun s running inv fact => resumed ⟨s,q.history⟩ inv fact running)
      inv fact
  intro p inv fact
  unfold handleDeparture
  rw [wp_ite]
  split
  · exact ⟨inv,fact⟩
  unfold updateAfterDeparture
  rw [wp_bind,wp_refresh,wp_bind,wp_get]
  have read : I (reread t .departure p) := silent.reread (by simp) inv
  have known : F (reread t .departure p) := quiet.reread (by simp) fact
  rw [wp_ite]
  split
  · exact ⟨read,known⟩
  next outside =>
  have outside : p.state.refresh.controller.robotOutside = true := (Bool.not_eq_false _).mp outside
  rw [wp_ite]
  split
  · exact stays read known ⟨rfl,rfl,rfl⟩
  rw [wp_ite]
  split
  · exact stays read known ⟨rfl,rfl,rfl⟩
  rw [wp_bind]
  unfold closeBehind pauseOpenCloseResume
  rw [wp_bind,wp_modify,wp_bind]
  let s₁ := (reread t .departure p).state.setPhase .pausingExit
  obtain ⟨start,begun⟩ : I ⟨s₁,(reread t .departure p).history⟩ ∧ F ⟨s₁,(reread t .departure p).history⟩ :=
    stays read known ⟨rfl,rfl,rfl⟩
  refine wp_command silent quiet stable (by simp) (by simp) (fun _ => ⟨start,begun⟩)
    (fun running s frame => paused p read known outside running s ⟨frame.world,frame.binding,frame.closed⟩) ?_
    (fun _ _ _ _ _ inv fact _ => ⟨inv,fact⟩)
  intro s₀ q _ frame inv₁ fact₁ idle
  have frame : Frame p.state s₀ := ⟨frame.world,frame.binding,frame.closed⟩
  have seen : I (reread t .departurePaused q) := silent.reread (by simp) inv₁
  have known : F (reread t .departurePaused q) := quiet.reread (by simp) fact₁
  rw [wp_bind,wp_refresh,wp_bind,wp_get,wp_ite]
  split
  · exact stays seen known ⟨rfl,rfl,rfl⟩
  next still =>
  have still : q.state.refresh.controller.robot.state = .paused := not_not.mp still
  have within : H (reread t .departurePaused q) := held q seen known still
  have asked : I (reread t (.asked .toClose .departure) (reread t .departurePaused q)) := silent.reread (by simp) seen
  have later : H (reread t (.asked .toClose .departure) (reread t .departurePaused q)) :=
    holding.silent.reread (by simp) within
  have close := wp_closeHeld (p := reread t .departurePaused q) blind holding lasting release
    (fun readable allowed ajar s frame => commanded p s₀ q inv outside ‹_› idle inv₁ still
      (closes_of_guards readable allowed ajar) asked later s ⟨frame.world,frame.binding,frame.closed⟩) seen within
  refine wp_mono close (fun closed r both => ?_) (fun _ _ both => both)
  cases closed <;> exact stays both.1 both.2 ⟨rfl,rfl,rfl⟩

/-- Where the departure rule pauses the robot, and where it closes. -/
theorem carries_handleDeparture (blind : Unmoved I t)
    (paused : ∀ p, I (reread t .departure p) → p.state.refresh.controller.robotOutside = true → ∀ s, Frame p.state s →
      I ⟨s,.event t (.robot "app_pause" .departure p.state.world.utc) :: (reread t .departure p).history⟩)
    (resumed : ∀ p : Point Garage, I p → ∀ utc, I (p.push (.event t (.robot "app_resume" .departure utc))))
    (commanded : ∀ p s₀ q, I p → p.state.refresh.controller.robotOutside = true → Frame p.state s₀ →
      Idle t ⟨s₀,.event t (.robot "app_pause" .departure p.state.world.utc) :: (reread t .departure p).history⟩ q →
      I q → q.state.refresh.controller.robot.state = .paused → closes q.state.refresh = true →
      I (reread t (.asked .toClose .departure) (reread t .departurePaused q)) →
      ∀ s, Frame q.state s → I ⟨s,.event t (.cover .toClose .departure) ::
        (reread t (.asked .toClose .departure) (reread t .departurePaused q)).history⟩)
    (handled : Bool) : Carries I (fun _ => True) t (handleDeparture handled) :=
  carries_hold (F := fun _ => True) (H := fun _ => True) blind .top .top .top .top
    (fun p read _ outside _ s frame => ⟨paused p read outside s frame,trivial⟩) (fun _ _ _ _ => trivial)
    (fun p s₀ q inv outside frame idle held still closing asked _ s moved =>
      ⟨commanded p s₀ q inv outside frame idle held still closing asked s moved,trivial⟩)
    (fun p inv _ _ utc => ⟨resumed p inv utc,trivial⟩) (fun _ _ _ _ => trivial) handled

/-- Where the return rule pauses the robot, where it opens, and what it has seen when
it lets the robot go on. -/
theorem carries_handleReturn (blind : Unmoved I t)
    (paused : ∀ p, I (reread t .returning p) → p.state.refresh.controller.isReturning = true →
      p.state.refresh.controller.openConfirmed = false → p.state.closed = false → ∀ s, Frame p.state s →
      I ⟨s,.event t (.robot "app_pause" .returning p.state.world.utc) :: (reread t .returning p).history⟩)
    (commanded : ∀ p s₀ q, I p → p.state.refresh.controller.isReturning = true → Frame p.state s₀ →
      Idle t ⟨s₀,.event t (.robot "app_pause" .returning p.state.world.utc) :: (reread t .returning p).history⟩ q →
      I q → q.state.refresh.controller.robot.state = .paused → ∀ r s, r.history = (reread t .returnPaused q).history →
      opens r.state = true → I (reread t (.asked .toOpen .returning) r) → Frame r.state s →
      I ⟨s,.event t (.cover .toOpen .returning) :: (reread t (.asked .toOpen .returning) r).history⟩)
    (resumed : ∀ x s place utc, place = .asked .toOpen .returning ∨ place = .waited .toOpen .returning →
      x.state.refresh.controller.openConfirmed = true → s.closed = false →
      I ⟨s,.event t (.succeeded .toOpen .returning) :: (reread t place x).history⟩ →
      I ⟨s,.event t (.robot "app_resume" .returning utc) ::
        .event t (.succeeded .toOpen .returning) :: (reread t place x).history⟩) :
    Carries I (fun _ => True) t handleReturn := by
  have silent := blind.silent
  have stays {q : Point Garage} (inv : I q) {s : GarageRuntime} (frame : Frame q.state s) :
      I ⟨s,q.history⟩ ∧ True := ⟨blind.act q s inv frame,trivial⟩
  refine .bind (silent.emits .top .top (emits_refresh (by simp) (by simp))) fun _ =>
    .bind (silent.emits .top .top emits_get) fun s => .ite (fun _ => silent.emits .top .top trivial) fun _ =>
    .bind (.attempt ?_ ?_) fun _ => .bind (silent.emits .top .top (emits_publish (by simp))) fun _ =>
    silent.emits .top .top trivial
  · intro p inv _
    unfold updateReturning
    rw [wp_bind,wp_refresh,wp_bind,wp_get]
    have read : I (reread t .returning p) := silent.reread (by simp) inv
    rw [wp_ite]
    split
    · exact ⟨read,trivial⟩
    next returning =>
    have returning : p.state.refresh.controller.isReturning = true := (Bool.not_eq_false _).mp returning
    rw [wp_ite]
    split
    · exact ⟨read,trivial⟩
    next shut =>
    have shut : p.state.refresh.controller.openConfirmed = false := (Bool.not_eq_true _).mp shut
    rw [wp_bind,wp_modify,wp_bind]
    let s₁ := (reread t .returning p).state.setPhase .pausingReturn
    have start : I ⟨s₁,(reread t .returning p).history⟩ := blind.act _ s₁ read ⟨rfl,rfl,rfl⟩
    refine wp_pauseRobot silent (fun _ => ⟨start,trivial⟩)
      (fun running s frame => paused p read returning shut running s ⟨frame.world,frame.binding,frame.closed⟩) ?_
      (fun _ _ _ _ _ inv _ => ⟨inv,trivial⟩)
    intro s₀ q _ frame held idle
    have frame : Frame p.state s₀ := ⟨frame.world,frame.binding,frame.closed⟩
    have seen : I (reread t .returnPaused q) := silent.reread (by simp) held
    rw [wp_bind,wp_refresh,wp_bind,wp_get,wp_ite]
    split
    · exact stays seen ⟨rfl,rfl,rfl⟩
    next still =>
    have still : q.state.refresh.controller.robot.state = .paused := not_not.mp still
    rw [wp_bind,wp_modify,wp_bind]
    let r : Point Garage := ⟨(reread t .returnPaused q).state.setPhase .opening,(reread t .returnPaused q).history⟩
    have ready : I r := blind.act _ r.state seen ⟨rfl,rfl,rfl⟩
    have asked : I (reread t (.asked .toOpen .returning) r) := silent.reread (by simp) ready
    have onward (x : Point Garage) (place : Place)
        (known : place = .asked .toOpen .returning ∨ place = .waited .toOpen .returning)
        (confirmed : x.state.refresh.controller.openConfirmed = true) (s : GarageRuntime)
        (inv : I ⟨s,.event t (.succeeded .toOpen .returning) :: (reread t place x).history⟩) :
        wp I t (do
          .modify (GarageRuntime.setPhase .resumingReturn)
          resumeRobot .returning
          .modify (GarageRuntime.setPhase .outside) : Action) (fun _ q => I q ∧ True) (fun _ q => I q ∧ True)
          ⟨s,.event t (.succeeded .toOpen .returning) :: (reread t place x).history⟩ := by
      rw [wp_bind,wp_modify,wp_bind]
      have going := blind.act _ (s.setPhase .resumingReturn) inv ⟨rfl,rfl,rfl⟩
      refine wp_resumeRobot silent (fun _ => ⟨going,trivial⟩) ?_ ?_ (fun _ _ _ _ _ inv _ => ⟨inv,trivial⟩)
      · exact fun running s' frame => resumed x s' place _ known confirmed (frame.closed.trans running) (blind.act _ s' going frame)
      · exact fun _ q _ _ inv _ => stays inv ⟨rfl,rfl,rfl⟩
    apply wp_openDoor (F := fun _ => True) silent .top .top
    · exact fun s _ _ frame => stays asked ⟨frame.world,frame.binding,frame.closed⟩
    · exact fun _ confirmed => onward r _ (Or.inl rfl) confirmed _ (blind.ended asked ⟨rfl,rfl,rfl⟩ rfl)
    · exact fun readable shut s frame' => ⟨commanded p s₀ q inv returning frame idle held still r s rfl
        (opens_of_guards readable shut) asked ⟨frame'.world,frame'.binding,frame'.closed⟩,trivial⟩
    · exact fun x read _ confirmed => onward x _ (Or.inr rfl) confirmed _ (blind.ended read ⟨rfl,rfl,rfl⟩ rfl)
    · exact fun q s _ inv _ frame => ⟨blind.ended inv frame rfl,trivial⟩
  · intro error
    cases error with
    | control reason => exact silent.emits .top .top trivial
    | other reason => exact silent.emits .top .top trivial
    | cancelled => exact silent.emits .top .top trivial

/-- Where the finish rule, from this reading on, opens for a robot mid-task, and where it
closes at the end. -/
theorem carries_finishRules {F : Point Garage → Prop} (blind : Unmoved I t) (framed : Unmoved F t)
    (stable : Stable t F) (read : I (reread t .finish p)) (kept : F (reread t .finish p))
    (reopened : opens p.state.refresh = true → I (reread t (.asked .toOpen .redocked) (reread t .finish p)) →
      F (reread t (.asked .toOpen .redocked) (reread t .finish p)) → ∀ s, Frame p.state s →
      I ⟨s,.event t (.cover .toOpen .redocked) :: (reread t (.asked .toOpen .redocked) (reread t .finish p)).history⟩ ∧
      F ⟨s,.event t (.cover .toOpen .redocked) :: (reread t (.asked .toOpen .redocked) (reread t .finish p)).history⟩)
    (closed : I (reread t (.asked .toClose .finished) (reread t .finish p)) →
      F (reread t (.asked .toClose .finished) (reread t .finish p)) → p.state.controller.taskInProgress = true →
      p.state.refresh.controller.taskRunning = false → p.state.refresh.controller.robotDocked = true →
      closes p.state.refresh = true → ∀ s, Frame p.state s →
      I ⟨s,.event t (.cover .toClose .finished) :: (reread t (.asked .toClose .finished) (reread t .finish p)).history⟩ ∧
      F ⟨s,.event t (.cover .toClose .finished) :: (reread t (.asked .toClose .finished) (reread t .finish p)).history⟩) :
    wp I t finishRules (fun _ q => I q ∧ F q) (fun _ q => I q ∧ F q) (reread t .finish p) := by
  have silent := blind.silent
  have quiet := framed.silent
  have stays {q : Point Garage} (inv : I q) (fact : F q) {s : GarageRuntime} (frame : Frame q.state s) :
      I ⟨s,q.history⟩ ∧ F ⟨s,q.history⟩ := ⟨blind.act q s inv frame,framed.act q s fact frame⟩
  have noted {value : Bool} {after : GarageRuntime → GarageRuntime} (frame : ∀ s, Frame s (after s)) (error : Exc)
      (q : Point Garage) (both : I q ∧ F q) :
      wp I t (GarageController.noted value after error) (fun _ q => I q ∧ F q) (fun _ q => I q ∧ F q) q :=
    silent.emits quiet stable (emits_noted frame error) q both.1 both.2
  unfold finishRules
  rw [wp_bind,wp_get,wp_ite]
  split
  · exact ⟨read,kept⟩
  next ours =>
  have ours : p.state.controller.taskInProgress = true := (Bool.not_eq_false _).mp ours
  rw [wp_ite]
  split
  · rw [wp_ite]
    split
    · rw [wp_ite]
      split
      · exact stays read kept ⟨rfl,rfl,rfl⟩
      rw [wp_attempt,wp_bind]
      have opening : wp I t (openDoor .redocked) (fun _ q => I q ∧ F q) (fun _ q => I q ∧ F q) (reread t .finish p) :=
        carries_openDoor blind framed stable read kept (fun readable shut s frame =>
          reopened (opens_of_guards readable shut) (silent.reread (by simp) read) (quiet.reread (by simp) kept) s ⟨frame.world,frame.binding,frame.closed⟩)
      exact wp_mono opening (fun _ _ both => both) (noted Frame.refl)
    · exact ⟨read,kept⟩
  next idle =>
  have idle : p.state.refresh.controller.taskRunning = false := (Bool.not_eq_true _).mp idle
  rw [wp_ite]
  split
  · exact ⟨read,kept⟩
  next docked =>
  have docked : p.state.refresh.controller.robotDocked = true := (Bool.not_eq_false _).mp docked
  rw [wp_ite]
  split
  · exact stays read kept ⟨rfl,rfl,rfl⟩
  rw [wp_ite]
  split
  · exact stays read kept ⟨rfl,rfl,rfl⟩
  rw [wp_attempt,wp_bind]
  have closing : wp I t (closeDoor .finished) (fun _ q => I q ∧ F q) (fun _ q => I q ∧ F q) (reread t .finish p) :=
    carries_closeDoor blind framed stable read kept (fun readable allowed ajar s frame =>
      closed (silent.reread (by simp) read) (quiet.reread (by simp) kept) ours idle docked
        (closes_of_guards readable allowed ajar) s ⟨frame.world,frame.binding,frame.closed⟩)
  refine wp_mono closing ?_ (noted fun _ => ⟨rfl,rfl,rfl⟩)
  exact fun _ q both => stays both.1 both.2 ⟨rfl,rfl,rfl⟩

theorem carries_sequenceFinished {F : Point Garage → Prop} (blind : Unmoved I t) (framed : Unmoved F t)
    (stable : Stable t F)
    (reading : ∀ p, I p → F p → I (reread t .finish p) ∧ F (reread t .finish p))
    (reopened : ∀ p, opens p.state.refresh = true → I (reread t (.asked .toOpen .redocked) (reread t .finish p)) →
      F (reread t (.asked .toOpen .redocked) (reread t .finish p)) → ∀ s, Frame p.state s → I ⟨s,.event t (.cover .toOpen .redocked) ::
      (reread t (.asked .toOpen .redocked) (reread t .finish p)).history⟩ ∧
      F ⟨s,.event t (.cover .toOpen .redocked) ::
        (reread t (.asked .toOpen .redocked) (reread t .finish p)).history⟩)
    (closed : ∀ p, I (reread t (.asked .toClose .finished) (reread t .finish p)) →
      F (reread t (.asked .toClose .finished) (reread t .finish p)) → p.state.controller.taskInProgress = true →
      p.state.refresh.controller.taskRunning = false → p.state.refresh.controller.robotDocked = true →
      closes p.state.refresh = true → ∀ s, Frame p.state s → I ⟨s,.event t (.cover .toClose .finished) ::
        (reread t (.asked .toClose .finished) (reread t .finish p)).history⟩ ∧
      F ⟨s,.event t (.cover .toClose .finished) ::
        (reread t (.asked .toClose .finished) (reread t .finish p)).history⟩) :
    Carries I F t sequenceFinished := by
  intro p inv fact
  unfold sequenceFinished
  rw [wp_bind,wp_refresh]
  obtain ⟨read,kept⟩ := reading p inv fact
  exact carries_finishRules blind framed stable read kept (reopened p) (closed p)

/-- An own task that is over on the dock ends the sequence, with a close if the door lets it. -/
theorem wp_finishRules_atRest {F : Point Garage → Prop} (blind : Unmoved I t) (framed : Unmoved F t)
    (stable : Stable t F) (ours : p.state.controller.taskInProgress = true)
    (idle : p.state.refresh.controller.taskRunning = false) (docked : p.state.refresh.controller.robotDocked = true)
    (read : I (reread t .finish p)) (shut : ajar p.state.refresh = false → F (reread t .finish p))
    (commanded : ajar p.state.refresh = true → I (reread t (.asked .toClose .finished) (reread t .finish p)) →
      ∀ s, Frame p.state s → I ⟨s,.event t (.cover .toClose .finished) ::
        (reread t (.asked .toClose .finished) (reread t .finish p)).history⟩ ∧
      F ⟨s,.event t (.cover .toClose .finished) ::
        (reread t (.asked .toClose .finished) (reread t .finish p)).history⟩) :
    wp I t finishRules (fun ended q => (I q ∧ F q) ∧ ended = true) (fun _ q => I q ∧ F q) (reread t .finish p) := by
  have ours : (reread t .finish p).state.controller.taskInProgress = true := ours
  have idle : (reread t .finish p).state.controller.taskRunning = false := idle
  have docked : (reread t .finish p).state.controller.robotDocked = true := docked
  have rests (denied : ajar p.state.refresh = false) {s : GarageRuntime} (frame : Frame (reread t .finish p).state s) :
      I ⟨s,(reread t .finish p).history⟩ ∧ F ⟨s,(reread t .finish p).history⟩ :=
    ⟨blind.act _ s read frame,framed.act _ s (shut denied) frame⟩
  unfold finishRules
  rw [wp_bind,wp_get,wp_ite,if_neg (by simp [ours]),wp_ite,if_neg (by simp [idle]),wp_ite,if_neg (by simp [docked]),wp_ite]
  split
  next closed =>
    have closed : p.state.refresh.controller.closedConfirmed = true := closed
    exact ⟨rests (by simp [ajar,closed]) ⟨rfl,rfl,rfl⟩,rfl⟩
  next away =>
  rw [wp_ite]
  split
  next blocked =>
    have unreadable : p.state.refresh.controller.doorBlockedReason.isNone = false := by
      rw [Option.isNone_eq_false_iff]
      exact blocked
    exact ⟨rests (by simp [ajar,unreadable]) ⟨rfl,rfl,rfl⟩,rfl⟩
  next readable =>
  have readable : p.state.refresh.controller.doorBlockedReason = none := Option.not_isSome_iff_eq_none.mp readable
  have away : p.state.refresh.controller.closedConfirmed = false := (Bool.not_eq_true _).mp away
  -- the door was not revoked, so `close_door` reads the same again
  have again : p.state.refresh.refresh = p.state.refresh := refresh_again _ (refresh_not_revoked readable)
  have noted (error : Exc) (q : Point Garage) (inv : I q) (kept : F q) :
      wp I t (noted true (GarageRuntime.setTaskInProgress false) error)
        (fun ended q => (I q ∧ F q) ∧ ended = true) (fun _ q => I q ∧ F q) q := by
    cases error with
    | control reason => exact ⟨⟨blind.act q _ inv ⟨rfl,rfl,rfl⟩,framed.act q _ kept ⟨rfl,rfl,rfl⟩⟩,rfl⟩
    | other reason => exact ⟨inv,kept⟩
    | cancelled => exact ⟨inv,kept⟩
  have asked : I (reread t (.asked .toClose .finished) (reread t .finish p)) := blind.silent.reread (by simp) read
  rw [wp_attempt,wp_bind]
  apply wp_closeDoor blind.silent framed.silent stable
  · intro s reason refusal frame
    have denied : ajar p.state.refresh = false := by
      rcases refusal with blocked | denied
      · change p.state.refresh.refresh.controller.doorBlockedReason ≠ none at blocked
        rw [again] at blocked
        exact absurd readable blocked
      · have denied : p.state.refresh.closeAllowed = false := denied
        simp [ajar,denied]
    have kept : F (reread t (.asked .toClose .finished) (reread t .finish p)) :=
      framed.silent.reread (by simp) (shut denied)
    have frame : Frame (reread t (.asked .toClose .finished) (reread t .finish p)).state s :=
      ⟨frame.world,frame.binding,frame.closed⟩
    exact noted (.control reason) _ (blind.act _ s asked frame) (framed.act _ s kept frame)
  · intro _ _ closed
    change p.state.refresh.refresh.controller.closedConfirmed = true at closed
    rw [again] at closed
    exact absurd (away.symm.trans closed) (by simp)
  · intro _ allowed _ s frame
    have allowed : p.state.refresh.closeAllowed = true := allowed
    refine commanded ?_ asked s ⟨frame.world,frame.binding,frame.closed⟩
    unfold ajar
    rw [readable,allowed,away]
    rfl
  · intro x s inv kept _ frame
    have frame : Frame (reread t (.waited .toClose .finished) x).state s := ⟨frame.world,frame.binding,frame.closed⟩
    let done : Point Garage := ⟨s,.event t (.succeeded .toClose .finished) :: (reread t (.waited .toClose .finished) x).history⟩
    have inv : I done := blind.ended inv frame rfl
    have kept : F done := framed.ended kept frame rfl
    exact ⟨⟨blind.act _ _ inv ⟨rfl,rfl,rfl⟩,framed.act _ _ kept ⟨rfl,rfl,rfl⟩⟩,rfl⟩
  · exact fun q s error _ inv kept frame => noted error _ (blind.ended inv frame rfl) (framed.ended kept frame rfl)

end

end RoborockPlus
