import RoborockPlus.Departure

/-! The household's permission to close. It is asked for where the door is about to be
moved, and the departure rule has paused the robot by then. -/
namespace RoborockPlus
open Async GarageController GarageRuntime

/-- Every reading finds the permission withheld. -/
def withheld (_ : ℕ) (_ : List (Item Garage)) : Event → Bool
  | .read _ seen => !seen.closeAllowed
  | _ => true

def departureLeavesDoor (_ : ℕ) (_ : List (Item Garage)) : Event → Bool
  | .cover _ .departure => false
  | _ => true

/-- The departure rule sends nothing, neither to the robot nor to the door. -/
def departureSendsNothing (_ : ℕ) (_ : List (Item Garage)) : Event → Bool
  | .cover _ .departure | .robot _ .departure _ => false
  | _ => true

/-- A reading on which the departure rule turns to the robot, permission or not. -/
def behindRobot (seen : GarageRuntime) : Bool :=
  seen.controller.robotOutside && !seen.controller.closedConfirmed && seen.controller.doorBlockedReason.isNone && !seen.closed

def departureFindsNothing (_ : ℕ) (_ : List (Item Garage)) : Event → Bool
  | .read .departure seen => !behindRobot seen
  | _ => true

abbrev WithheldPromise : Point Garage → Prop := Promise (atEvents withheld) (atEvents departureLeavesDoor)

abbrev SilencePromise : Point Garage → Prop := Promise (atEvents departureFindsNothing) (atEvents departureSendsNothing)

def departureDoors : List Kind := [.cover .toOpen .departure,.cover .toClose .departure]

def departureSends : List Kind := .robot .departure :: departureDoors

section
variable {t : ℕ} {p : Point Garage}

theorem departureLeavesDoor_quiet (t : ℕ) (past : List (Item Garage)) (e : Event) (other : e.kind ∉ departureDoors) :
    departureLeavesDoor t past e = true := by
  cases e with
  | cover d cause => cases d <;> cases cause <;> first | rfl | simp [Event.kind,departureDoors] at other
  | _ => rfl

theorem departureSendsNothing_quiet (t : ℕ) (past : List (Item Garage)) (e : Event) (other : e.kind ∉ departureSends) :
    departureSendsNothing t past e = true := by
  cases e with
  | cover d cause => cases d <;> cases cause <;> first | rfl | simp [Event.kind,departureSends,departureDoors] at other
  | robot name cause utc => cases cause <;> first | rfl | simp [Event.kind,departureSends] at other
  | _ => rfl

theorem withheldPromise_departure (t : ℕ) (handled : Bool) :
    Carries WithheldPromise (fun _ => True) t (handleDeparture handled) := by
  have blind : Unmoved WithheldPromise t :=
    .of_blind (Promise.ignores fun past e => departureLeavesDoor_quiet t past e) (by simp [departureDoors]) (by simp [departureDoors])
  refine carries_handleDeparture blind ?_ ?_ ?_ handled
  · exact fun p read _ s _ => (read.event fun _ => rfl).of_same rfl
  · exact fun p inv utc => inv.event fun _ => rfl
  intro p s₀ q _ _ _ _ _ _ closing asked s _
  refine (asked.event fun condition => ?_).of_same rfl
  have here : withheld t (reread t .departurePaused q).history (.read (.asked .toClose .departure) q.state.refresh.refresh) = true :=
    ((throughout_cons _ _ _).mp condition).1
  have denied : q.state.refresh.closeAllowed = false := (Bool.not_eq_true' _).mp here
  simp [closes,denied] at closing

/-- Once the condition has failed nothing is promised. -/
def Foregone (p : Point Garage) : Prop := throughout (atEvents departureFindsNothing) p.history = false

theorem Foregone.promise (foregone : Foregone p) : SilencePromise p :=
  fun condition => absurd (condition.symm.trans foregone) (by simp)

theorem foregone_grows (p q : Point Garage) (later : p.history <:+ q.history) (foregone : Foregone p) : Foregone q := by
  by_contra holds
  have all := throughout_suffix ((Bool.not_eq_false _).mp holds) later
  exact absurd (all.symm.trans foregone) (by simp)

theorem foregone_carries {α : Type} {m : Co Garage α} (inside : Emits departureKinds m) : Carries SilencePromise Foregone t m := by
  refine inside.carries_both (.growing fun p q later both => ?_) (.growing foregone_grows)
  have foregone := foregone_grows p q later both.2
  exact ⟨foregone.promise,foregone⟩

theorem emits_heldClose : Emits departureKinds (do
    GarageController.refresh .departurePaused
    let s ← .get
    if s.controller.robot.state ≠ .paused then do
      .modify fun s => (s.setPhase .blocked).setLastError (some .pauseNotObserved)
      pure false
    else .guarded (.attempt (do closeDoor .departure; pure true) (noted false id)) (resumeRobot .departure) : Co Garage Bool) := by
  have closes : closeKinds .departure ⊆ departureKinds := List.subset_cons_self _ _
  refine ⟨emits_refresh (by simp) (by simp [departureKinds,closeKinds]),fun _ => ⟨emits_get,fun s => ?_⟩⟩
  dsimp only
  rw [within_ite]
  refine ⟨fun _ => ⟨emits_modify fun _ => ⟨rfl,rfl,rfl⟩,fun _ => trivial⟩,fun _ => within_guarded ?_ ?_⟩
  · exact ⟨⟨emits_closeDoor closes,fun _ => trivial⟩,emits_noted Frame.refl⟩
  · exact emits_asyncControlCommand (by simp [departureKinds])

theorem silencePromise_departure (t : ℕ) (handled : Bool) :
    Carries SilencePromise (fun _ => True) t (handleDeparture handled) := by
  have blind : Unmoved SilencePromise t :=
    .of_blind (Promise.ignores fun past e => departureSendsNothing_quiet t past e) (by simp [departureSends,departureDoors])
      (by simp [departureSends,departureDoors])
  have silent := blind.silent
  have stays {q : Point Garage} (inv : SilencePromise q) {s : GarageRuntime} (frame : Frame q.state s) :
      SilencePromise ⟨s,q.history⟩ ∧ True := ⟨blind.act q s inv frame,trivial⟩
  intro p inv _
  unfold handleDeparture
  rw [wp_ite]
  split
  · exact ⟨inv,trivial⟩
  unfold updateAfterDeparture
  rw [wp_bind,wp_refresh,wp_bind,wp_get]
  have read : SilencePromise (reread t .departure p) := silent.reread (by simp) inv
  rw [wp_ite]
  split
  · exact ⟨read,trivial⟩
  next outside =>
  rw [wp_ite]
  split
  · exact stays read ⟨rfl,rfl,rfl⟩
  next ajar =>
  rw [wp_ite]
  split
  · exact stays read ⟨rfl,rfl,rfl⟩
  next readable =>
  rw [wp_bind]
  unfold closeBehind pauseOpenCloseResume
  rw [wp_bind,wp_modify,wp_bind]
  have start := (stays read (s := (reread t .departure p).state.setPhase .pausingExit) ⟨rfl,rfl,rfl⟩).1
  -- the reading that the pause follows fails the condition, and all that comes of it is foregone
  have gone (running : p.state.closed = false) : Foregone (reread t .departure p) := by
    have outside : p.state.refresh.controller.robotOutside = true := (Bool.not_eq_false _).mp outside
    have ajar : p.state.refresh.controller.closedConfirmed = false := (Bool.not_eq_true _).mp ajar
    have readable : p.state.refresh.controller.doorBlockedReason.isNone = true := by
      rw [Option.isNone_iff_eq_none]
      exact Option.not_isSome_iff_eq_none.mp readable
    have found : departureFindsNothing t p.history (.read .departure p.state.refresh) = false := by
      simp [departureFindsNothing,behindRobot,outside,ajar,readable,running]
    have here : atEvents departureFindsNothing p.history (.event t (.read .departure p.state.refresh)) = false := found
    rw [Foregone,reread,throughout,here,Bool.false_and]
  refine wp_command (F := Foregone) silent (.growing foregone_grows) (.growing foregone_grows) (by simp) (by simp) (fun _ => ⟨start,trivial⟩) ?_ ?_ ?_
  · intro running s frame
    have foregone := foregone_grows _ ⟨s,.event t (.robot "app_pause" .departure p.state.world.utc) :: (reread t .departure p).history⟩
      (List.suffix_cons _ _) (gone running)
    exact ⟨foregone.promise,foregone⟩
  · intro s₀ q _ _ inv foregone _
    refine wp_mono (foregone_carries emits_heldClose q inv foregone) (fun closed r both => ?_) (fun _ _ both => ⟨both.1,trivial⟩)
    cases closed <;> exact stays both.1 ⟨rfl,rfl,rfl⟩
  · exact fun _ _ _ _ _ inv _ _ => ⟨inv,trivial⟩

theorem withheldPromise_keeps : Preserves program WithheldPromise := by
  refine preserves_promise departureDoors departureLeavesDoor_quiet (by simp [departureDoors]) ?_
  intro call t touched
  have blind : Ignores WithheldPromise t SameWorld fun (e : Event) => e.kind ∉ departureDoors :=
    Promise.ignores fun past e => departureLeavesDoor_quiet t past e
  cases call with
  | finishSequence =>
    refine carries_turns (blind.mono (fun _ _ frame => ⟨frame.world,frame.binding⟩) fun _ other => other) (by simp [departureDoors])
      ?_ (withheldPromise_departure t) ?_
    · exact Emits.carries blind .top .top _ (emits_handleReturn (List.Subset.refl _)) (by simp [returnKinds,openKinds,departureDoors])
    · exact Emits.carries blind .top .top _ (emits_sequenceFinished (List.Subset.refl _))
        (by simp [finishKinds,openKinds,closeKinds,departureDoors])
  | _ => simp [Call.kinds,openKinds,closeKinds,exitKinds,departureDoors] at touched

theorem silencePromise_keeps : Preserves program SilencePromise := by
  refine preserves_promise departureSends departureSendsNothing_quiet (by simp [departureSends,departureDoors]) ?_
  intro call t touched
  have blind : Ignores SilencePromise t SameWorld fun (e : Event) => e.kind ∉ departureSends :=
    Promise.ignores fun past e => departureSendsNothing_quiet t past e
  cases call with
  | finishSequence =>
    refine carries_turns (blind.mono (fun _ _ frame => ⟨frame.world,frame.binding⟩) fun _ other => other)
      (by simp [departureSends,departureDoors]) ?_ (silencePromise_departure t) ?_
    · exact Emits.carries blind .top .top _ (emits_handleReturn (List.Subset.refl _))
        (by simp [returnKinds,openKinds,departureSends,departureDoors])
    · exact Emits.carries blind .top .top _ (emits_sequenceFinished (List.Subset.refl _))
        (by simp [finishKinds,openKinds,closeKinds,departureSends,departureDoors])
  | _ => simp [Call.kinds,openKinds,closeKinds,exitKinds,departureSends,departureDoors] at touched

end

/-- Where the permission is withheld the departure rule never moves the door, and it leaves the
robot alone in every run in which it finds no loaded control with the robot outside of a door that
it can read and that is not closed. -/
theorem departure_silent_withheld (binding : Binding) (world : World) (schedule : List (Label Garage))
    (denied : throughout (atEvents withheld) (run binding world schedule).history = true) :
    throughout (atEvents departureLeavesDoor) (run binding world schedule).history = true ∧
      (throughout (atEvents departureFindsNothing) (run binding world schedule).history = true →
        throughout (atEvents departureSendsNothing) (run binding world schedule).history = true) :=
  ⟨promise_run withheldPromise_keeps binding world schedule denied,promise_run silencePromise_keeps binding world schedule⟩

def permissionBinding : Binding := Function.update contactBinding .closePermissionEntity (some (.str "input_boolean.close"))

/-- The family has switched automatic closing off. -/
def manualClosing (east : ℚ) : World :=
  let w := contactWorld "open" true false (statusOf .cleaning true) east
  {w with states := Function.update w.states "input_boolean.close" (some {state := "off"})}

theorem departure_silent_inside :
    throughout (atEvents departureLeavesDoor) (run permissionBinding (manualClosing 500) (departsTo 500)).history = true ∧
      (throughout (atEvents departureFindsNothing) (run permissionBinding (manualClosing 500) (departsTo 500)).history = true →
        throughout (atEvents departureSendsNothing) (run permissionBinding (manualClosing 500) (departsTo 500)).history = true) ∧
      throughout (atEvents departureFindsNothing) (run permissionBinding (manualClosing 500) (departsTo 500)).history = true := by
  have silent := departure_silent_withheld permissionBinding (manualClosing 500) (departsTo 500) (by decide +kernel)
  exact ⟨silent.1,silent.2,by decide +kernel⟩

def pausesDeparting : Item Garage → Bool
  | .event _ (.robot "app_pause" .departure _) => true
  | _ => false

/-- The robot is paused for a close that is not allowed, and sent on. -/
theorem departure_pauses_withheld :
    let history := (run permissionBinding (manualClosing 5000) (departsTo 3000)).history
    throughout (atEvents withheld) history = true ∧ history.any pausesDeparting = true ∧ history.any resumesDeparted = true ∧
      throughout (atEvents departureSendsNothing) history = false := by
  decide +kernel

end RoborockPlus
