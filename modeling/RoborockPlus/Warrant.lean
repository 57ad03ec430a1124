import RoborockPlus.Exclusion

/-! What every command rests on, whoever asks for it. The door moves on a reading made for the
purpose, the robot is sent on by the task that has paused it, and a runtime that was shut down
leaves it alone. -/
namespace RoborockPlus
open Async GarageController GarageRuntime

section Doors
variable {t : ℕ} {p : Point Garage} {d : Direction} {cause : Cause}

/-- A reading on which the door may be sent this way. -/
def movable (d : Direction) (seen : GarageRuntime) : Bool :=
  seen.controller.doorBlockedReason.isNone && !seen.controller.confirmed d && (d == .toOpen || seen.closeAllowed)

/-- The entry before a door command is its task's own reading that allows it, and the entry before a success its task's
own reading that confirms it. -/
def movesOnReading (t : ℕ) (past : List (Item Garage)) : Event → Bool
  | .cover d cause => match past with
    | .event u (.read place seen) :: _ => u == t && place == .asked d cause && movable d seen
    | _ => false
  | .succeeded d cause => match past with
    | .event u (.read place seen) :: _ =>
      u == t && (place == .asked d cause || place == .waited d cause) && seen.controller.confirmed d
    | _ => false
  | _ => true

abbrev DoorPromise : Point Garage → Prop := Promise anything (atEvents movesOnReading)

theorem doorPromise_resting (t : ℕ) : Resting DoorPromise t := by
  refine Promise.ignores fun past e resting => ?_
  cases e with
  | cover d cause => exact absurd rfl (resting d cause).1
  | succeeded d cause => exact absurd rfl (resting d cause).2
  | _ => rfl

theorem DoorPromise.commanded {s : GarageRuntime} (read : DoorPromise (reread t (.asked d cause) p)) (may : movable d p.state.refresh = true) :
    DoorPromise ⟨s,.event t (.cover d cause) :: (reread t (.asked d cause) p).history⟩ := by
  refine (read.event fun _ => ?_).of_same rfl
  simp [movesOnReading,reread,may]

theorem DoorPromise.succeeded {place : Place} {s : GarageRuntime} (read : DoorPromise (reread t place p))
    (own : place = .asked d cause ∨ place = .waited d cause) (confirmed : p.state.refresh.controller.confirmed d = true) :
    DoorPromise ⟨s,.event t (.succeeded d cause) :: (reread t place p).history⟩ := by
  refine (read.event fun _ => ?_).of_same rfl
  simp [movesOnReading,reread,own,confirmed]

theorem doorPromise_openDoor (t : ℕ) (cause : Cause) : Carries DoorPromise (fun _ => True) t (openDoor cause) := by
  intro p inv _
  have silent := (doorPromise_resting t).silent
  have read : DoorPromise (reread t (.asked .toOpen cause) p) := silent.reread (by simp) inv
  apply wp_openDoor (F := fun _ => True) silent .top .top
  · exact fun s _ _ frame => ⟨silent.act _ s read ⟨frame.world,frame.binding,frame.closed⟩,trivial⟩
  · exact fun _ confirmed => ⟨read.succeeded (Or.inl rfl) confirmed,trivial⟩
  · exact fun readable shut s _ => ⟨read.commanded (by simp [movable,readable,confirmed,shut]),trivial⟩
  · exact fun x read _ confirmed => ⟨read.succeeded (Or.inr rfl) confirmed,trivial⟩
  · exact fun q s _ inv _ _ => ⟨(inv.event fun _ => rfl).of_same rfl,trivial⟩

theorem doorPromise_closeDoor (t : ℕ) (cause : Cause) : Carries DoorPromise (fun _ => True) t (closeDoor cause) := by
  intro p inv _
  have silent := (doorPromise_resting t).silent
  have read : DoorPromise (reread t (.asked .toClose cause) p) := silent.reread (by simp) inv
  apply wp_closeDoor (F := fun _ => True) silent .top .top
  · exact fun s _ _ frame => ⟨silent.act _ s read ⟨frame.world,frame.binding,frame.closed⟩,trivial⟩
  · exact fun _ _ confirmed s _ => ⟨read.succeeded (Or.inl rfl) confirmed,trivial⟩
  · exact fun readable allowed ajar s _ => ⟨read.commanded (by simp [movable,readable,confirmed,ajar,allowed]),trivial⟩
  · exact fun x s read _ confirmed _ => ⟨read.succeeded (Or.inr rfl) confirmed,trivial⟩
  · exact fun q s _ _ inv _ _ => ⟨(inv.event fun _ => rfl).of_same rfl,trivial⟩

theorem doorPromise_keeps : Preserves program DoorPromise := by
  refine Preserves.of_bodies ?_ ?_ ?_ ?_ fun call t p inv _ =>
    (carries_body (doorPromise_resting t) (doorPromise_openDoor t) (doorPromise_closeDoor t) call).plain inv trivial
  · exact fun input p held => (held.push fun _ _ => rfl).of_same rfl
  · exact fun t call p held => held.push fun _ _ => rfl
  · exact fun t p held => held.push fun _ _ => rfl
  · exact fun t error p held => held.push fun _ _ => rfl

/-- In every run the door is commanded only on a reading of the same task that finds it readable, not yet there and, for a
close, allowed; and nothing is reported as done but on a reading that confirms it. -/
theorem door_moves_on_reading (binding : Binding) (world : World) (schedule : List (Label Garage)) :
    throughout (atEvents movesOnReading) (run binding world schedule).history = true :=
  doorPromise_keeps.exec _ (fun _ => rfl) schedule (throughout_anything _)

end Doors

section Request
variable {t : ℕ}

/-- A close that was asked for is commanded on a reading that does not have the robot in the doorway. -/
def requestSparesRobot (_ : ℕ) (past : List (Item Garage)) : Event → Bool
  | .cover .toClose .request => match past with
    | .event _ (.read _ seen) :: _ => !robotInside seen.controller
    | _ => false
  | _ => true

theorem requestSparesRobot_quiet (t : ℕ) (past : List (Item Garage)) (e : Event) (other : e.kind ∉ [.cover .toClose .request]) :
    requestSparesRobot t past e = true := by
  cases e with
  | cover d cause => cases d <;> cases cause <;> first | rfl | simp [Event.kind] at other
  | _ => rfl

theorem request_keeps : Preserves program (Promise anything (atEvents requestSparesRobot)) := by
  refine preserves_promise [.cover .toClose .request] requestSparesRobot_quiet (by simp) ?_
  intro call t touched
  have blind : Unmoved (Promise anything (atEvents requestSparesRobot)) t :=
    .of_blind (Promise.ignores fun past e => requestSparesRobot_quiet t past e) (by simp) (by simp)
  have silent := blind.silent
  cases call with
  | asyncRequestClose =>
    intro p inv _
    have read : Promise anything (atEvents requestSparesRobot) (reread t .closeRequest p) := silent.reread (by simp) inv
    unfold body asyncRequestClose
    rw [wp_bind,wp_refresh,wp_bind,wp_get,wp_ite]
    split
    · exact ⟨read,trivial⟩
    next away =>
    rw [wp_bind]
    have apart : robotInside p.state.refresh.refresh.controller = false := (Bool.not_eq_true _).mp away
    have close : wp (Promise anything (atEvents requestSparesRobot)) t (closeDoor .request) _ _ (reread t .closeRequest p) :=
      carries_closeDoor (F := fun _ => True) blind .top .top read trivial fun _ _ _ s _ => by
        have asked : Promise anything (atEvents requestSparesRobot) (reread t (.asked .toClose .request) (reread t .closeRequest p)) :=
          silent.reread (by simp) read
        refine ⟨(asked.event fun _ => ?_).of_same rfl,trivial⟩
        change (!robotInside p.state.refresh.refresh.controller) = true
        rw [apart]
        rfl
    exact wp_mono close (fun _ q both => silent.emits .top .top (emits_publish (by simp)) q both.1 trivial) (fun _ _ both => both)
  | _ => simp [Call.kinds,openKinds,closeKinds,exitKinds,sequenceKinds,returnKinds,departureKinds,finishKinds] at touched

/-- In every run an explicit close is commanded on a reading that does not have the robot inside the zone, off its dock. -/
theorem request_spares_robot (binding : Binding) (world : World) (schedule : List (Label Garage)) :
    throughout (atEvents requestSparesRobot) (run binding world schedule).history = true :=
  promise_run request_keeps binding world schedule (throughout_anything _)

end Request

section Unloaded
variable {t : ℕ} {p : Point Garage}

/-- The task was begun while control was loaded. -/
def begunLoaded (t : ℕ) : List (Item Garage) → Bool
  | [] => false
  | .started u _ :: past => if u = t then !past.any unloads else begunLoaded t past
  | _ :: past => begunLoaded t past

/-- After a shutdown the robot gets no command, and a call begun after it sends nothing that could move it. -/
def staysSilent (t : ℕ) (past : List (Item Garage)) : Event → Bool
  | .robot _ _ _ => !past.any unloads
  | .sent (some name) => decide (name ∈ safeDirectCommands) || begunLoaded t past
  | _ => true

abbrev SilentPromise : Point Garage → Prop := LoadedPromise anything (atEvents staysSilent)

abbrev BegunLoaded (t : ℕ) (p : Point Garage) : Prop := begunLoaded t p.history = true

def robots : List Kind :=
  [Cause.clean,.stage,.routine,.request,.controlledExit,.waypoint,.returning,.redocked,.departure,.finished].map .robot

theorem begunLoaded_own {history : List (Item Garage)} {call : Call} (running : history.any unloads = false)
    (begun : own t history = [.started t call]) : begunLoaded t history = true := by
  induction history with
  | nil => simp [own] at begun
  | cons item past ih =>
    rw [List.any_cons,Bool.or_eq_false_iff] at running
    by_cases owned : item.owner = some t
    · rw [own_cons_self _ owned] at begun
      obtain ⟨rfl,_⟩ := List.cons.inj begun
      rw [begunLoaded,if_pos rfl,running.2]
      rfl
    · rw [own_cons_other _ owned] at begun
      rcases item with _ | ⟨u,_⟩ | _ | _ | _ | _ | _ | _
      case started =>
        have other : u ≠ t := fun same => owned (congrArg some same)
        rw [begunLoaded,if_neg other]
        exact ih running.2 begun
      all_goals exact ih running.2 begun

theorem begunLoaded_step {item : Item Garage} {past : List (Item Garage)} (other : ∀ call, item ≠ .started t call)
    (begun : begunLoaded t past = true) : begunLoaded t (item :: past) = true := by
  rcases item with _ | ⟨u,call⟩ | _ | _ | _ | _ | _ | _
  case started =>
    have other : u ≠ t := fun same => other call (congrArg (Item.started · call) same)
    rwa [begunLoaded,if_neg other]
  all_goals exact begun

theorem begunLoaded_stable (t : ℕ) : Stable t (BegunLoaded t) := by
  refine Stable.of_history (A := fun history => begunLoaded t history = true) fun item past foreign begun => begunLoaded_step ?_ begun
  rintro call rfl
  exact foreign rfl

theorem begunLoaded_ignores {R : GarageRuntime → GarageRuntime → Prop} {S : Event → Prop} : Ignores (BegunLoaded t) t R S := by
  refine Ignores.of_history (A := fun history => begunLoaded t history = true) fun item past _ inside begun => begunLoaded_step ?_ begun
  rintro call rfl
  exact inside

theorem silentPromise_ignores (t : ℕ) : Ignores SilentPromise t Frame fun (e : Event) => e.kind ∉ .shutdown :: .sent :: robots := by
  refine LoadedPromise.blind t ?_ ?_ ?_
  · intro past item inside
    rcases item with _ | _ | _ | ⟨u,e⟩ | _ | _ | _ | _
    case event => exact inside.elim
    all_goals rfl
  · intro past e other
    cases e with
    | robot name cause utc => cases cause <;> simp [Event.kind,robots] at other
    | sent command => simp [Event.kind] at other
    | _ => rfl
  · exact fun e other shut => other (shut ▸ List.mem_cons_self)

theorem silentPromise_unmoved (t : ℕ) : Unmoved SilentPromise t :=
  .of_blind (silentPromise_ignores t) (by simp [robots]) (by simp [robots])

theorem SilentPromise.commanded (inv : SilentPromise p) (running : p.state.closed = false) {s : GarageRuntime} (same : s.closed = p.state.closed)
    (name : String) (cause : Cause) (utc : ℚ) : SilentPromise ⟨s,.event t (.robot name cause utc) :: p.history⟩ := by
  refine inv.push same (fun _ _ => ?_) rfl
  simp [atEvents,staysSilent,inv.unloaded.symm.trans running]

theorem silentPromise_emits {α : Type} {m : Co Garage α} {kinds : List Kind} (inside : Emits kinds m)
    (apart : ∀ kind ∈ kinds, kind ∉ .shutdown :: .sent :: robots) : Carries SilentPromise (fun _ => True) t m :=
  Co.Within.carries (silentPromise_ignores t) .top .top (inside.mono (fun _ _ frame => frame) fun e member => apart e.kind member)

theorem silentPromise_robot (t : ℕ) (name : String) (params : List PyValue) (cause : Cause) :
    Carries SilentPromise (fun _ => True) t (asyncControlCommand name params cause) :=
  carries_command (silentPromise_unmoved t).silent .top .top fun _ inv _ running _ frame => ⟨inv.commanded running frame.closed _ _ _,trivial⟩

theorem silentPromise_sends {name : String} (harmless : name ∈ safeDirectCommands ∨ BegunLoaded t p) (inv : SilentPromise p) :
    wp SilentPromise t (sendCommand (some name)) (fun _ q => SilentPromise q ∧ True) (fun _ q => SilentPromise q ∧ True) p := by
  refine wp_sendCommand (silentPromise_unmoved t) (inv.push rfl (fun _ _ => ?_) rfl)
  simpa [atEvents,staysSilent] using harmless

theorem silentPromise_opens (t : ℕ) (cause : Cause) : Carries SilentPromise (fun _ => True) t (openDoor cause) :=
  silentPromise_emits (emits_openDoor (List.Subset.refl _)) (by simp [openKinds,robots])

theorem silentPromise_exit (t : ℕ) : Carries SilentPromise (fun _ => True) t runControlledExit := by
  have silent := (silentPromise_unmoved t).silent
  exact carries_runControlledExit silent .top .top fun _ => carries_leaveForWaypoint silent .top .top (silentPromise_opens t _)
    fun params => silentPromise_robot t _ params _

/-- A call that finds control unloaded sends harmless commands alone. -/
theorem silentPromise_asyncSend {command : String} (begun : p.state.closed = false → BegunLoaded t p) (inv : SilentPromise p) :
    wp SilentPromise t (asyncSend command .clean (sendCommand (some command))) (fun _ => SilentPromise) (fun _ => SilentPromise) p := by
  have silent := (silentPromise_unmoved t).silent
  have framed : Silent (BegunLoaded t) t := begunLoaded_ignores
  have joined {α : Type} {m : Co Garage α} {kinds : List Kind} (carries : Carries SilentPromise (fun _ => True) t m)
      (inside : Emits kinds m) : Carries SilentPromise (BegunLoaded t) t m :=
    carries.frame begunLoaded_ignores (begunLoaded_stable t) inside
  have sends : Carries SilentPromise (BegunLoaded t) t (sendCommand (some command)) := by
    intro q inv begun
    have inside : Emits [.sent] (sendCommand (some command)) := emits_sendCommand (by simp)
    have both := inside.frame begunLoaded_ignores (begunLoaded_stable t) (silentPromise_sends (Or.inr begun) inv) begun
    exact wp_mono both (fun _ _ held => ⟨held.1.1,held.2⟩) (fun _ _ held => ⟨held.1.1,held.2⟩)
  by_cases loaded : p.state.closed = false
  · refine (carries_asyncSend silent framed (begunLoaded_stable t) ?_ (fun _ => sends) ?_).plain inv (begun loaded)
    · exact joined (silentPromise_exit t) (emits_runControlledExit (List.Subset.refl _))
    · exact carries_openAndSend silent framed (begunLoaded_stable t)
        (joined (silentPromise_opens t _) (emits_openDoor (List.Subset.refl _))) sends
  · unfold asyncSend
    rw [wp_bind,wp_get,(Bool.not_eq_false _).mp loaded,wp_ite]
    split
    · exact inv
    rw [wp_ite]
    split
    next harmless => exact wp_mono (silentPromise_sends (Or.inl harmless) inv) (fun _ _ both => both.1) (fun _ _ both => both.1)
    · exact inv

theorem silentPromise_sequence (t : ℕ) : Carries SilentPromise (fun _ => True) t finishSequence := by
  have blind := silentPromise_unmoved t
  refine carries_turns (silentPromise_ignores t) (by simp [robots]) ?_ ?_ ?_
  · refine carries_handleReturn blind ?_ ?_ ?_
    · exact fun p read _ _ running s frame => SilentPromise.commanded read running frame.closed _ _ _
    · exact fun p s₀ q _ _ _ _ _ _ r s _ _ asked frame => asked.push frame.closed (fun _ _ => rfl) rfl
    · exact fun x s place utc _ _ running inv => SilentPromise.commanded inv running rfl _ _ _
  · refine fun handled => carries_hold (F := fun _ => True) (H := fun _ => True) blind .top .top .top .top
      ?_ (fun _ _ _ _ => trivial) ?_ ?_ (fun _ _ _ _ => trivial) handled
    · exact fun p read _ _ running s frame => ⟨SilentPromise.commanded read running frame.closed _ _ _,trivial⟩
    · exact fun p s₀ q _ _ _ _ _ _ _ asked _ s frame => ⟨asked.push frame.closed (fun _ _ => rfl) rfl,trivial⟩
    · exact fun p inv _ running utc => ⟨SilentPromise.commanded inv running rfl _ _ _,trivial⟩
  · exact silentPromise_emits (emits_sequenceFinished (List.Subset.refl _)) (by simp [finishKinds,openKinds,closeKinds,robots])

theorem silentPromise_keeps : Preserves program SilentPromise := by
  refine preserves_of_begun (.shutdown :: .sent :: robots) silentPromise_ignores ?_ ?_ ?_ ?_ ?_ ?_
  · exact fun input p inv => inv.outside input fun past item inside => by
      rcases item with _ | _ | _ | _ | _ | _ | _ | _
      case event => exact inside.elim
      all_goals rfl
  · exact fun t call p inv => inv.push rfl (fun _ _ => rfl) rfl
  · exact fun t p inv => inv.push rfl (fun _ _ => rfl) rfl
  · exact fun t error p inv => inv.push rfl (fun _ _ => rfl) rfl
  · intro t p inv
    exact wp_mono (inv.shutdown fun _ _ => rfl) (fun _ _ both => both.1) (fun _ _ both => both.1)
  intro call t touched entry p inv begun
  have silent := (silentPromise_unmoved t).silent
  have plain {α : Type} {m : Co Garage α} (inside : Emits [] m) : Carries SilentPromise (fun _ => True) t m :=
    silentPromise_emits inside (by simp)
  cases call with
  | asyncSend command =>
    exact silentPromise_asyncSend (fun loaded => begunLoaded_own (inv.unloaded.symm.trans loaded) begun) inv
  | asyncStartStage command timeoutMinutes =>
    exact (carries_asyncStartStage silent .top .top (carries_asyncSend silent .top .top (silentPromise_exit t) (fun _ => plain trivial)
      (carries_openAndSend silent .top .top (silentPromise_opens t .stage) (plain trivial)))).plain inv trivial
  | asyncRoutine =>
    have published : Carries SilentPromise (fun _ => True) t publish := silent.emits .top .top (emits_publish (by simp))
    have sends : Carries SilentPromise (fun _ => True) t (sendCommand none) := fun p inv _ =>
      wp_sendCommand (silentPromise_unmoved t) (inv.push rfl (fun _ _ => rfl) rfl)
    exact (Carries.bind (silentPromise_opens t .routine) fun _ => .bind published fun _ => .guarded sends published).plain inv trivial
  | finishSequence => exact (silentPromise_sequence t).plain inv trivial
  | shutdown => exact absurd rfl entry
  | _ => simp [Call.kinds,openKinds,closeKinds,robots] at touched

/-- In every run: once control has been unloaded the robot gets no command of the controller, and a clean that is ordered
after that is not passed on. -/
theorem unloaded_stays_silent (binding : Binding) (world : World) (schedule : List (Label Garage)) :
    throughout (atEvents staysSilent) (run binding world schedule).history = true :=
  LoadedPromise.holds silentPromise_keeps schedule (throughout_anything _)

end Unloaded

section Pauses
variable {t : ℕ} {p : Point Garage} {cause : Cause}

def lastCommand : List (Item Garage) → Option (String × Cause)
  | [] => none
  | .event _ (.robot name cause _) :: _ => some (name,cause)
  | _ :: past => lastCommand past

/-- The last robot command before a resume is the same task's pause, on behalf of the same rule. -/
def resumesOwnPause (t : ℕ) (past : List (Item Garage)) : Event → Bool
  | .robot name cause _ => name != "app_resume" || lastCommand (own t past) == some ("app_pause",cause)
  | _ => true

abbrev HoldPromise : Point Garage → Prop := Promise anything (atEvents resumesOwnPause)

abbrev Holds (cause : Cause) (t : ℕ) : Point Garage → Prop :=
  Owned (fun entries => lastCommand entries = some ("app_pause",cause)) t

theorem resumesOwnPause_quiet (t : ℕ) (past : List (Item Garage)) (e : Event) (other : e.kind ∉ robots) : resumesOwnPause t past e = true := by
  cases e with
  | robot name cause utc => cases cause <;> simp [Event.kind,robots] at other
  | _ => rfl

theorem holdPromise_ignores (t : ℕ) : Ignores HoldPromise t SameWorld fun (e : Event) => e.kind ∉ robots :=
  Promise.ignores fun past e => resumesOwnPause_quiet t past e

theorem holds_ignores {R : GarageRuntime → GarageRuntime → Prop} : Ignores (Holds cause t) t R fun (e : Event) => e.kind ∉ robots := by
  refine Owned.ignores fun item past _ inside held => ?_
  rcases item with _ | _ | _ | ⟨u,e⟩ | _ | _ | _ | _
  case event =>
    cases e with
    | robot name cause utc => cases cause <;> simp [Item.Inside,Event.kind,robots] at inside
    | _ => exact held
  all_goals exact held

theorem holdPromise_silent (t : ℕ) : Silent HoldPromise t :=
  (holdPromise_ignores t).mono (fun _ _ frame => ⟨frame.world,frame.binding⟩) fun e kind => by simp [kind,robots]

theorem holds_silent : Silent (Holds cause t) t := holds_ignores.mono (fun _ _ frame => frame) fun e kind => by simp [kind,robots]

theorem holdPromise_emits {F : Point Garage → Prop} {α : Type} {m : Co Garage α} {kinds : List Kind}
    (framed : Ignores F t SameWorld fun (e : Event) => e.kind ∉ robots) (stable : Stable t F) (inside : Emits kinds m)
    (apart : ∀ kind ∈ kinds, kind ∉ robots) : Carries HoldPromise F t m :=
  Emits.carries (holdPromise_ignores t) framed stable kinds inside apart

theorem holdPromise_pause (inv : HoldPromise p) :
    wp HoldPromise t (pauseRobot cause) (fun _ q => HoldPromise q ∧ Holds cause t q) (fun _ => HoldPromise) p := by
  refine wp_command (F := Holds cause t) (holdPromise_silent t) holds_silent (Owned.stable _ t) (by simp) (by simp) (fun _ => inv)
    ?_ (fun _ _ _ _ inv held _ => ⟨inv,held⟩) (fun _ _ _ _ _ inv _ _ => inv)
  intro _ s _
  refine ⟨(inv.event fun _ => by simp [resumesOwnPause]).of_same rfl,?_⟩
  unfold Holds Owned
  rw [own_cons_self _ rfl]
  rfl

theorem holdPromise_resume (t : ℕ) (cause : Cause) : Spends HoldPromise (Holds cause t) t (resumeRobot cause) := by
  intro p inv held
  refine wp_resumeRobot (holdPromise_silent t) (fun _ => inv) (fun _ s _ => ?_) (fun _ _ _ _ inv _ => inv) (fun _ _ _ _ _ inv _ => inv)
  refine (inv.event fun _ => ?_).of_same rfl
  have held : lastCommand (own t p.history) = some ("app_pause",cause) := held
  simp [resumesOwnPause,held]

/-- A pause, and what uses it up. -/
theorem holdPromise_held {α : Type} {next : Unit → Co Garage α} (spends : Spends HoldPromise (Holds cause t) t (next ())) :
    Carries HoldPromise (fun _ => True) t (pauseRobot cause >>= next) := by
  intro p inv _
  rw [wp_bind]
  refine wp_mono (holdPromise_pause inv) (fun _ q both => ?_) (fun _ _ inv => ⟨inv,trivial⟩)
  exact wp_mono (spends q both.1 both.2) (fun _ _ inv => ⟨inv,trivial⟩) (fun _ _ inv => ⟨inv,trivial⟩)

theorem holdPromise_return (t : ℕ) : Carries HoldPromise (fun _ => True) t handleReturn := by
  have plain {α : Type} {m : Co Garage α} (inside : Emits [.read] m) : Carries HoldPromise (fun _ => True) t m :=
    holdPromise_emits .top .top inside (by simp [robots])
  have held {α : Type} {m : Co Garage α} (inside : Emits (openKinds .returning) m) : Carries HoldPromise (Holds .returning t) t m :=
    holdPromise_emits holds_ignores (Owned.stable _ t) inside (by simp [openKinds,robots])
  refine .bind (plain (emits_refresh (by simp) (by simp))) fun _ => .bind (plain emits_get) fun s => .ite (fun _ => plain trivial) fun _ =>
    .bind (.attempt ?_ ?_) fun _ => .bind (plain (emits_publish (by simp))) fun _ => plain trivial
  · refine .bind (plain (emits_refresh (by simp) (by simp))) fun _ => .bind (plain emits_get) fun s => .ite (fun _ => plain trivial) fun _ =>
      .ite (fun _ => plain trivial) fun _ => .bind (plain (emits_modify fun _ => ⟨rfl,rfl,rfl⟩)) fun _ => holdPromise_held ?_
    refine .bind (held (emits_refresh (by simp) (by simp [openKinds]))) fun _ => .bind (held emits_get) fun s => .ite ?_ ?_
    · exact .of_carries (held ⟨emits_modify fun _ => ⟨rfl,rfl,rfl⟩,fun _ => trivial⟩)
    · refine .bind (held (emits_modify fun _ => ⟨rfl,rfl,rfl⟩)) fun _ => .bind (held (emits_openDoor (List.Subset.refl _))) fun _ =>
        .bind (held (emits_modify fun _ => ⟨rfl,rfl,rfl⟩)) fun _ => .last (holdPromise_resume t .returning) fun _ => ?_
      exact plain (emits_modify fun _ => ⟨rfl,rfl,rfl⟩)
  · intro error
    cases error <;> exact plain trivial

theorem holdPromise_departure (t : ℕ) (handled : Bool) : Carries HoldPromise (fun _ => True) t (handleDeparture handled) := by
  have plain {α : Type} {m : Co Garage α} (inside : Emits [.read] m) : Carries HoldPromise (fun _ => True) t m :=
    holdPromise_emits .top .top inside (by simp [robots])
  have held {α : Type} {m : Co Garage α} (inside : Emits (closeKinds .departure) m) : Carries HoldPromise (Holds .departure t) t m :=
    holdPromise_emits holds_ignores (Owned.stable _ t) inside (by simp [closeKinds,robots])
  have behind : Carries HoldPromise (fun _ => True) t (closeBehind (some (pauseRobot .departure,resumeRobot .departure))) := by
    refine .bind (plain (emits_modify fun _ => ⟨rfl,rfl,rfl⟩)) fun _ => holdPromise_held ?_
    refine .bind (held (emits_refresh (by simp) (by simp [closeKinds]))) fun _ => .bind (held emits_get) fun s => .ite ?_ ?_
    · exact .of_carries (held ⟨emits_modify fun _ => ⟨rfl,rfl,rfl⟩,fun _ => trivial⟩)
    · refine .guarded (held ?_) (holdPromise_resume t .departure)
      exact ⟨⟨emits_closeDoor (List.Subset.refl _),fun _ => trivial⟩,emits_noted Frame.refl⟩
  refine .ite (fun _ => plain trivial) fun _ => .bind (plain (emits_refresh (by simp) (by simp))) fun _ => .bind (plain emits_get) fun s =>
    .ite (fun _ => plain trivial) fun _ => .ite (fun _ => ?_) fun _ => .ite (fun _ => ?_) fun _ => ?_
  · exact plain ⟨emits_modify fun _ => ⟨rfl,rfl,rfl⟩,fun _ => trivial⟩
  · exact plain ⟨emits_modify fun _ => ⟨rfl,rfl,rfl⟩,fun _ => trivial⟩
  · refine .bind behind fun closed => plain ⟨emits_modify fun s => ?_,fun _ => trivial⟩
    cases closed <;> exact ⟨rfl,rfl,rfl⟩

theorem holdPromise_keeps : Preserves program HoldPromise := by
  refine preserves_promise robots resumesOwnPause_quiet (by simp [robots]) ?_
  intro call t touched
  have silent := holdPromise_silent t
  have plain {α : Type} {m : Co Garage α} {kinds : List Kind} (inside : Emits kinds m) (apart : ∀ kind ∈ kinds, kind ∉ robots) :
      Carries HoldPromise (fun _ => True) t m := holdPromise_emits .top .top inside apart
  have opens (cause : Cause) : Carries HoldPromise (fun _ => True) t (openDoor cause) :=
    plain (emits_openDoor (List.Subset.refl _)) (by simp [openKinds,robots])
  have exit : Carries HoldPromise (fun _ => True) t runControlledExit :=
    carries_runControlledExit silent .top .top fun _ => carries_leaveForWaypoint silent .top .top (opens _) fun _ =>
      carries_command silent .top .top fun p inv _ _ s _ => ⟨(inv.event fun _ => by simp [resumesOwnPause]).of_same rfl,trivial⟩
  have sends (command : Option String) : Carries HoldPromise (fun _ => True) t (sendCommand command) :=
    plain (show Emits [.sent] _ from emits_sendCommand (by simp)) (by simp [robots])
  cases call with
  | asyncSend command =>
    exact carries_asyncSend silent .top .top exit (fun _ => sends _) (carries_openAndSend silent .top .top (opens _) (sends _))
  | asyncStartStage command timeoutMinutes =>
    exact carries_asyncStartStage silent .top .top (carries_asyncSend silent .top .top exit (fun _ => plain (show Emits [] _ from trivial) (by simp))
      (carries_openAndSend silent .top .top (opens _) (plain (show Emits [] _ from trivial) (by simp))))
  | finishSequence =>
    refine carries_turns ((holdPromise_ignores t).mono (fun _ _ frame => ⟨frame.world,frame.binding⟩) fun _ other => other)
      (by simp [robots]) (holdPromise_return t) (holdPromise_departure t) ?_
    exact plain (emits_sequenceFinished (List.Subset.refl _)) (by simp [finishKinds,openKinds,closeKinds,robots])
  | _ => simp [Call.kinds,openKinds,closeKinds,robots] at touched

/-- In every run each resume ends a pause of its own: the task has paused the robot for the same rule, and commanded nothing
of it since. -/
theorem resumes_own_pause (binding : Binding) (world : World) (schedule : List (Label Garage)) :
    throughout (atEvents resumesOwnPause) (run binding world schedule).history = true :=
  promise_run holdPromise_keeps binding world schedule (throughout_anything _)

end Pauses

end RoborockPlus
