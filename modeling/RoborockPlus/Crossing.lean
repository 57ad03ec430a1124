import RoborockPlus.Release

/-! A clean that crosses a close. The close suspends while the door still stands on its
open contact, and nothing keeps another call from taking that contact for an open door. -/
namespace RoborockPlus
open Async GarageController GarageRuntime

/-- Some operation this way is under way: its command is out, it has not ended, and no
reading since `settles` it. `ended` are the tasks met whose last operation has ended. -/
def underWay (d : Direction) (settles : GarageRuntime → Bool) (ended : List ℕ) : List (Item Garage) → Bool
  | [] => false
  | .event u (.cover e _) :: past => decide (e = d ∧ u ∉ ended) || underWay d settles ended past
  | .event u (.succeeded _ _) :: past | .event u (.gaveUp _ _) :: past => underWay d settles (u :: ended) past
  | .event _ (.read _ seen) :: past => !settles seen && underWay d settles ended past
  | _ :: past => underWay d settles ended past

def closeUnresolved : List (Item Garage) → Bool := underWay .toClose (·.controller.closedConfirmed) []

def releasesResolved (_ : ℕ) (past : List (Item Garage)) : Event → Bool
  | .sent command => !releasing command || !closeUnresolved past
  | _ => true

/-- No call that will release the robot finds the door open while a close is unresolved. -/
def opensResolved (_ : ℕ) (past : List (Item Garage)) : Event → Bool
  | .read place seen => !endsOpen [.clean,.routine] seen place || !closeUnresolved past
  | _ => true

section
variable {t : ℕ} {p q : Point Garage} {cause : Cause}

theorem underWay_mono {d : Direction} {settles : GarageRuntime → Bool} {ended more : List ℕ}
    {past : List (Item Garage)} (subset : ended ⊆ more) (none : underWay d settles ended past = false) :
    underWay d settles more past = false := by
  induction past generalizing ended more with
  | nil => rfl
  | cons item past ih =>
    rcases item with _ | _ | _ | ⟨u,e⟩ | _ | _ | _ | _
    case event =>
      cases e with
      | cover e cause =>
        simp only [underWay,Bool.or_eq_false_iff,decide_eq_false_iff_not,not_and,not_not] at none ⊢
        exact ⟨fun same => subset (none.1 same),ih subset none.2⟩
      | succeeded e cause => exact ih (List.cons_subset_cons u subset) none
      | gaveUp e cause => exact ih (List.cons_subset_cons u subset) none
      | read place seen =>
        simp only [underWay,Bool.and_eq_false_iff] at none ⊢
        exact none.imp id (ih subset)
      | _ => exact ih subset none
    all_goals exact ih subset none

theorem closeUnresolved_read {place : Place} {seen : GarageRuntime} {past : List (Item Garage)}
    (resolved : closeUnresolved past = false) : closeUnresolved (.event t (.read place seen) :: past) = false := by
  unfold closeUnresolved at resolved ⊢
  simp [underWay,resolved]

abbrev CrossingPromise : Point Garage → Prop := Promise (atEvents opensResolved) (atEvents releasesResolved)

theorem releasesResolved_quiet {past : List (Item Garage)} {e : Event} (other : e.kind ∉ [.sent]) :
    releasesResolved t past e = true := by
  cases e <;> first | rfl | simp [Event.kind] at other

theorem crossingPromise_blind (t : ℕ) {R : GarageRuntime → GarageRuntime → Prop} {S : Event → Prop}
    (other : ∀ e, S e → e.kind ∉ [.sent]) : Ignores CrossingPromise t R S :=
  Promise.ignores fun _ e inside => releasesResolved_quiet (other e inside)

theorem crossingPromise_unmoved (t : ℕ) : Unmoved CrossingPromise t :=
  .of_blind (crossingPromise_blind t fun _ other => other) (by simp) (by simp)

structure Cleared (p : Point Garage) : Prop where
  promise : CrossingPromise p
  resolved : throughout (atEvents opensResolved) p.history = true → closeUnresolved p.history = false

theorem cleared_opened {x : Point Garage} {place : Place} (s : GarageRuntime) (member : cause ∈ [.clean,.routine])
    (ends : endsOpen [cause] x.state.refresh place = true) (inv : CrossingPromise (reread t place x)) :
    Cleared ⟨s,.event t (.succeeded .toOpen cause) :: (reread t place x).history⟩ := by
  refine ⟨(inv.event fun _ => rfl).of_same rfl,fun condition => ?_⟩
  have here : opensResolved t x.history (.read place x.state.refresh) = true :=
    ((throughout_cons _ _ _).mp (throughout_suffix condition (List.suffix_cons _ _))).1
  have goes : endsOpen [.clean,.routine] x.state.refresh place = true := endsOpen_mono (by simpa using member) ends
  simp only [opensResolved,goes,Bool.not_true,Bool.false_or,Bool.not_eq_true'] at here
  have read : closeUnresolved (reread t place x).history = false := closeUnresolved_read here
  change underWay .toClose (·.controller.closedConfirmed) [t] (reread t place x).history = false
  exact underWay_mono (List.nil_subset [t]) read

theorem cleared_publish {X : Exc → Point Garage → Prop} (cleared : Cleared p) :
    wp CrossingPromise t publish (fun _ => Cleared) X p := by
  refine wp_publish (fun _ q ready => ?_) cleared
  refine ⟨(crossingPromise_unmoved t).silent.reread (by simp) ready.promise,fun condition => ?_⟩
  exact closeUnresolved_read (ready.resolved ((throughout_cons _ _ _).mp condition).2)

theorem cleared_sent {command : Option String} (cleared : Cleared p) :
    wp CrossingPromise t (sendCommand command) (fun _ q => CrossingPromise q ∧ True)
      (fun _ q => CrossingPromise q ∧ True) p := by
  refine wp_sendCommand (crossingPromise_unmoved t) (cleared.promise.event fun condition => ?_)
  simp only [releasesResolved,cleared.resolved condition,Bool.not_false,Bool.or_true]

theorem crossingPromise_commanded (p : Point Garage) (inv : CrossingPromise p) (s : GarageRuntime) :
    CrossingPromise ⟨s,.event t (.cover .toOpen cause) :: (reread t (.asked .toOpen cause) p).history⟩ := by
  have read : CrossingPromise (reread t (.asked .toOpen cause) p) :=
    (crossingPromise_unmoved t).silent.reread (by simp) inv
  exact (read.event fun _ => rfl).of_same rfl

theorem crossingPromise_keeps : Preserves program CrossingPromise := by
  apply preserves_promise [.sent] (fun _ _ _ other => releasesResolved_quiet other) (by simp)
  intro call t touched
  have blind := crossingPromise_unmoved t
  have silent := blind.silent
  have exit : Carries CrossingPromise (fun _ => True) t runControlledExit :=
    Emits.carries (crossingPromise_blind t fun _ other => other) .top .top exitKinds
      (emits_runControlledExit (List.Subset.refl _)) (by simp [exitKinds,openKinds,closeKinds])
  cases call with
  | asyncSend command =>
    apply carries_asyncSend silent .top .top exit
    · intro harmless p inv _
      exact wp_sendCommand blind (inv.event fun _ => by simp [releasesResolved,harmless])
    · exact carries_sends blind (fun p inv _ s _ => crossingPromise_commanded p inv s)
        (fun x place ends read => cleared_opened _ (by simp) ends read)
        (fun _ cleared => cleared_publish cleared) (fun _ cleared => cleared_sent cleared)
  | asyncRoutine =>
    refine carries_opened blind (fun p inv _ s _ => crossingPromise_commanded p inv s)
      (fun x place ends read => cleared_opened _ (by simp) ends read)
      (fun _ cleared => cleared_publish cleared) fun q cleared => ?_
    have writes : Carries CrossingPromise (fun _ => True) t publish := silent.emits .top .top (emits_publish (by simp))
    rw [wp_guarded]
    apply wp_mono (cleared_sent cleared)
    · exact fun _ q both => writes q both.1 trivial
    · exact fun _ q both => writes q both.1 trivial
  | _ => simp [Call.kinds,openKinds,closeKinds,exitKinds,sequenceKinds,returnKinds,departureKinds,finishKinds] at touched

end

/-- A robot is released while no close command is unresolved, in every run in which no
call that releases one has found the door open during such a close. -/
theorem robot_released_resolved (binding : Binding) (world : World) (schedule : List (Label Garage))
    (resolved : throughout (atEvents opensResolved) (run binding world schedule).history = true) :
    throughout (atEvents releasesResolved) (run binding world schedule).history = true :=
  promise_run crossingPromise_keeps binding world schedule resolved

def closesThenCleans : List (Label Garage) :=
  [.call .asyncRequestClose,goesOn 0,.outside (.entity "binary_sensor.open" (contact false)),
    .outside (.entity "binary_sensor.closed" (contact true)),goesOn 0,.call (.asyncSend "app_start"),goesOn 1,
    .outside (.entity "binary_sensor.closed" (contact false)),.outside (.entity "binary_sensor.open" (contact true)),
    goesOn 1]

theorem robot_released_resolved_after_close :
    throughout (atEvents releasesResolved) (run contactBinding dockedBehindOpen closesThenCleans).history = true ∧
      (run contactBinding dockedBehindOpen closesThenCleans).history.any sendsClean = true :=
  ⟨robot_released_resolved _ _ _ (by decide +kernel),by decide +kernel⟩

theorem robot_released_during_close :
    throughout (atEvents releasesResolved)
      (run contactBinding dockedBehindOpen [.call .asyncRequestClose,.call (.asyncSend "app_start")]).history = false := by
  decide +kernel

example : throughout (atEvents opensResolved)
    (run contactBinding dockedBehindOpen [.call .asyncRequestClose,.call (.asyncSend "app_start")]).history = false := by
  decide +kernel

end RoborockPlus
