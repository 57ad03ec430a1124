import RoborockPlus.Crossing

/-! Door operations that exclude each other. Openings and closes of all calls run over
one cover without a lock; each is let in by a reading of the door alone. -/
namespace RoborockPlus
open Async GarageController GarageRuntime

section Doors
variable {I : Point Garage → Prop} {t : ℕ}

def Kind.resting (kind : Kind) : Prop := ∀ d cause, kind ≠ .cover d cause ∧ kind ≠ .outcome d cause

abbrev Resting (I : Point Garage → Prop) (t : ℕ) : Prop := Ignores I t SameWorld fun (e : Event) => e.kind.resting

theorem Resting.silent (blind : Resting I t) : Silent I t :=
  blind.mono (fun _ _ frame => ⟨frame.world,frame.binding⟩) fun e kind => by simp [kind,Kind.resting]

theorem Resting.emits {α : Type} {m : Co Garage α} (blind : Resting I t) (kinds : List Kind) (inside : Emits kinds m)
    (resting : ∀ kind ∈ kinds, kind.resting) : Carries I (fun _ => True) t m :=
  Co.Within.carries blind .top .top
    (inside.mono (fun _ _ frame => ⟨frame.world,frame.binding⟩) fun e member => resting e.kind member)

variable (blind : Resting I t) (opens : ∀ cause, Carries I (fun _ => True) t (openDoor cause))
  (closes : ∀ cause, Carries I (fun _ => True) t (closeDoor cause))
include blind

theorem carries_reads {α : Type} {m : Co Garage α} (inside : Emits [.read] m) : Carries I (fun _ => True) t m :=
  blind.emits [.read] inside (by simp [Kind.resting])

theorem carries_robot (name : String) (params : List PyValue) (cause : Cause) :
    Carries I (fun _ => True) t (asyncControlCommand name params cause) :=
  blind.emits [.robot cause] (emits_asyncControlCommand (by simp)) (by simp [Kind.resting])

theorem carries_noted {α : Type} (value : α) {after : GarageRuntime → GarageRuntime} (frame : ∀ s, Frame s (after s))
    (error : Exc) : Carries I (fun _ => True) t (noted value after error) :=
  carries_reads blind (emits_noted frame error)

include opens

theorem carries_updateReturning :
    Carries I (fun _ => True) t (updateReturning (pauseRobot .returning) (resumeRobot .returning)) := by
  have phase (phase : Phase) : Carries I (fun _ => True) t (.modify (GarageRuntime.setPhase phase)) :=
    carries_reads blind (emits_modify fun _ => ⟨rfl,rfl,rfl⟩)
  refine .bind (carries_reads blind (emits_refresh (by simp) (by simp))) fun _ =>
    .bind (carries_reads blind emits_get) fun s => .ite (fun _ => carries_reads blind trivial) fun _ =>
    .ite (fun _ => carries_reads blind trivial) fun _ => .bind (phase .pausingReturn) fun _ =>
    .bind (carries_robot blind _ _ _) fun _ => .bind (carries_reads blind (emits_refresh (by simp) (by simp))) fun _ =>
    .bind (carries_reads blind emits_get) fun s => .ite (fun _ => ?_) fun _ => ?_
  · exact carries_reads blind ⟨emits_modify fun _ => ⟨rfl,rfl,rfl⟩,fun _ => trivial⟩
  · exact .bind (phase .opening) fun _ => .bind (opens _) fun _ => .bind (phase .resumingReturn) fun _ =>
      .bind (carries_robot blind _ _ _) fun _ => phase .outside

theorem carries_return : Carries I (fun _ => True) t handleReturn := by
  refine .bind (carries_reads blind (emits_refresh (by simp) (by simp))) fun _ =>
    .bind (carries_reads blind emits_get) fun s => .ite (fun _ => carries_reads blind trivial) fun _ =>
    .bind (.attempt (carries_updateReturning blind opens) fun error => ?_) fun _ =>
    .bind (carries_reads blind (emits_publish (by simp))) fun _ => carries_reads blind trivial
  cases error <;> exact carries_reads blind trivial

omit opens
include closes

theorem carries_departure (handled : Bool) : Carries I (fun _ => True) t (handleDeparture handled) := by
  have close : Carries I (fun _ => True) t
      (.attempt (do closeDoor .departure; pure true) (noted false id) : Co Garage Bool) :=
    .attempt (.bind (closes _) fun _ => carries_reads blind trivial) (carries_noted blind false Frame.refl)
  have behind : Carries I (fun _ => True) t (closeBehind (some (pauseRobot .departure,resumeRobot .departure))) := by
    refine .bind (carries_reads blind (emits_modify fun _ => ⟨rfl,rfl,rfl⟩)) fun _ =>
      .bind (carries_robot blind _ _ _) fun _ => .bind (carries_reads blind (emits_refresh (by simp) (by simp))) fun _ =>
      .bind (carries_reads blind emits_get) fun s => .ite (fun _ => ?_) fun _ => ?_
    · exact carries_reads blind ⟨emits_modify fun _ => ⟨rfl,rfl,rfl⟩,fun _ => trivial⟩
    · exact .guarded close (carries_robot blind _ _ _)
  refine .ite (fun _ => carries_reads blind trivial) fun _ =>
    .bind (carries_reads blind (emits_refresh (by simp) (by simp))) fun _ => .bind (carries_reads blind emits_get) fun s =>
    .ite (fun _ => carries_reads blind trivial) fun _ => .ite (fun _ => ?_) fun _ => .ite (fun _ => ?_) fun _ => ?_
  · exact carries_reads blind ⟨emits_modify fun _ => ⟨rfl,rfl,rfl⟩,fun _ => trivial⟩
  · exact carries_reads blind ⟨emits_modify fun _ => ⟨rfl,rfl,rfl⟩,fun _ => trivial⟩
  · refine .bind behind fun closed => carries_reads blind ⟨emits_modify fun s => ?_,fun _ => trivial⟩
    cases closed <;> exact ⟨rfl,rfl,rfl⟩

include opens

theorem carries_finish : Carries I (fun _ => True) t sequenceFinished := by
  have plain {α : Type} {m : Co Garage α} (inside : Emits [.read] m) : Carries I (fun _ => True) t m :=
    carries_reads blind inside
  have reading : Emits [.finishing] (GarageController.refresh .finish) :=
    ⟨emits_modify fun _ => ⟨rfl,rfl,rfl⟩,fun _ => ⟨emits_get,fun _ => by simp [Event.kind]⟩⟩
  refine .bind (blind.emits _ reading (by simp [Kind.resting])) fun _ => .bind (plain emits_get) fun s =>
    .ite (fun _ => plain trivial) fun _ => .ite (fun _ => .ite (fun _ => .ite (fun _ => ?_) fun _ => ?_) fun _ =>
    plain trivial) fun _ => .ite (fun _ => plain trivial) fun _ => .ite (fun _ => ?_) fun _ =>
    .ite (fun _ => ?_) fun _ => ?_
  · exact plain ⟨emits_modify fun _ => ⟨rfl,rfl,rfl⟩,fun _ => trivial⟩
  · exact .attempt (.bind (opens _) fun _ => plain trivial) (carries_noted blind false Frame.refl)
  · exact plain ⟨emits_modify fun _ => ⟨rfl,rfl,rfl⟩,fun _ => trivial⟩
  · exact plain ⟨emits_modify fun _ => ⟨rfl,rfl,rfl⟩,fun _ => trivial⟩
  · exact .attempt (.bind (closes _) fun _ => plain ⟨emits_modify fun _ => ⟨rfl,rfl,rfl⟩,fun _ => trivial⟩)
      (carries_noted blind true fun _ => ⟨rfl,rfl,rfl⟩)

theorem carries_body (call : Call) : Carries I (fun _ => True) t (body call) := by
  have silent : Silent I t := blind.silent
  have sent (command : Option String) : Carries I (fun _ => True) t (sendCommand command) :=
    blind.emits [.sent] (emits_sendCommand (by simp)) (by simp [Kind.resting])
  have published : Carries I (fun _ => True) t publish := carries_reads blind (emits_publish (by simp))
  have exit : Carries I (fun _ => True) t runControlledExit :=
    carries_runControlledExit silent .top .top fun _ =>
      carries_leaveForWaypoint silent .top .top (opens _) fun _ => carries_robot blind _ _ _
  cases call with
  | asyncSend command =>
    exact carries_asyncSend silent .top .top exit (fun _ => sent _)
      (carries_openAndSend silent .top .top (opens _) (sent _))
  | asyncStartStage command timeoutMinutes =>
    exact carries_asyncStartStage silent .top .top (carries_asyncSend silent .top .top exit
      (fun _ => carries_reads blind trivial) (carries_openAndSend silent .top .top (opens _) (carries_reads blind trivial)))
  | asyncRoutine => exact .bind (opens _) fun _ => .bind published fun _ => .guarded (sent _) published
  | asyncRequestOpen => exact .bind (opens _) fun _ => published
  | asyncRequestClose =>
    exact .bind (carries_reads blind (emits_refresh (by simp) (by simp))) fun _ =>
      .bind (carries_reads blind emits_get) fun s => .ite (fun _ => carries_reads blind trivial) fun _ =>
      .bind (closes _) fun _ => published
  | shutdown => exact carries_shutdown (blind.mono (fun _ _ same => same) fun e kind => by simp [kind,Kind.resting])
  | finishSequence =>
    refine carries_finishSequence silent .top .top fun start timeout => carries_iterate silent .top .top ?_ ?_
      (carries_return blind opens) (carries_departure blind closes) (carries_finish blind opens closes) start timeout
    · intro p inv _
      have kept : I ⟨p.state.refresh,p.history⟩ := blind.act p _ inv ⟨rfl,rfl⟩
      exact ⟨blind.event ⟨p.state.refresh,p.history⟩ _ kept (by simp [Event.kind,Kind.resting]),trivial⟩
    · exact fun p inv _ => ⟨blind.event p _ inv (by simp [Event.kind,Kind.resting]),trivial⟩
  | asyncStart => exact blind.emits [.read] (emits_body (by simp) (by simp [Call.kinds])) (by simp [Kind.resting])
  | reset => exact blind.emits [.read] (emits_body (by simp) (by simp [Call.kinds])) (by simp [Kind.resting])
  | onDoorChange => exact blind.emits [.read] (emits_body (by simp) (by simp [Call.kinds])) (by simp [Kind.resting])
  | readEntity entity => exact blind.emits [.read] (emits_body (by simp) (by simp [Call.kinds])) (by simp [Kind.resting])

end Doors

def moving (d : Direction) : List (Item Garage) → Bool := underWay d (fun _ => false) []

/-- No command goes out, and no operation succeeds, while one the other way goes on. -/
def operatesAlone (_ : ℕ) (past : List (Item Garage)) : Event → Bool
  | .cover d _ | .succeeded d _ => !moving d.opposite past
  | _ => true

/-- While an operation goes on, one the other way is refused by the reading it asks for. -/
def refusesOpposed (_ : ℕ) (past : List (Item Garage)) : Event → Bool
  | .read (.asked d _) seen =>
    !moving d.opposite past || seen.controller.doorBlockedReason.isSome || decide (d = .toClose) && !seen.closeAllowed
  | _ => true

/-- The direction of the operation a task is in, by its own entries. -/
def operation : List (Item Garage) → Option Direction
  | [] => none
  | .event _ (.cover d _) :: _ => some d
  | .event _ (.succeeded _ _) :: _ | .event _ (.gaveUp _ _) :: _ => none
  | _ :: past => operation past

section
variable {t : ℕ} {p q : Point Garage} {d : Direction} {cause : Cause}

abbrev Operating (d : Direction) : ℕ → Point Garage → Prop := Owned fun entries => operation entries = some d

theorem operating_silent (d : Direction) (t : ℕ) : Silent (Operating d t) t := by
  refine Owned.ignores fun item past owned inside operating => ?_
  rcases item with _ | _ | _ | ⟨u,e⟩ | _ | _ | _ | _
  case event =>
    cases e with
    | read place seen => exact operating
    | _ => simp [Item.Inside,Event.kind] at inside
  all_goals exact operating

theorem operating_commanded (d : Direction) (t : ℕ) (s : GarageRuntime) (past : List (Item Garage)) :
    Operating d t ⟨s,.event t (.cover d cause) :: past⟩ := by
  unfold Operating Owned
  rw [own_cons_self _ rfl]
  rfl

theorem underWay_operation {ended : List ℕ} {history : List (Item Garage)} (other : t ∉ ended)
    (operating : operation (own t history) = some d) : underWay d (fun _ => false) ended history = true := by
  induction history generalizing ended with
  | nil => simp [operation] at operating
  | cons item past ih =>
    by_cases owned : item.owner = some t
    · rw [own_cons_self _ owned] at operating
      rcases item with _ | _ | _ | ⟨u,e⟩ | _ | _ | _ | _
      case event =>
        obtain rfl : u = t := Option.some.inj owned
        cases e with
        | cover e cause =>
          obtain rfl : e = d := by simpa [operation] using operating
          simp [underWay,other]
        | succeeded e cause => simp [operation] at operating
        | gaveUp e cause => simp [operation] at operating
        | read place seen => simpa [underWay] using ih other operating
        | _ => exact ih other operating
      all_goals exact ih other operating
    · rw [own_cons_other _ owned] at operating
      rcases item with _ | _ | _ | ⟨u,e⟩ | _ | _ | _ | _
      case event =>
        have apart : t ∉ u :: ended := by
          intro member
          rcases List.mem_cons.mp member with rfl | inside
          · exact owned rfl
          · exact other inside
        cases e with
        | cover e cause => simp [underWay,ih other operating]
        | succeeded e cause => exact ih apart operating
        | gaveUp e cause => exact ih apart operating
        | read place seen => simpa [underWay] using ih other operating
        | _ => exact ih other operating
      all_goals exact ih other operating

abbrev Alone (past : List (Item Garage)) : Prop := ∀ d, moving d past = true → moving d.opposite past = false

theorem alone_commanded {past : List (Item Garage)} (clear : moving d.opposite past = false) :
    Alone (.event t (.cover d cause) :: past) := by
  intro e under
  cases d <;> cases e <;> simp_all [moving,underWay,Direction.opposite]

theorem alone_ended {past : List (Item Garage)} (alone : Alone past) {e : Event}
    (outcome : e.kind = .outcome d cause) : Alone (.event t e :: past) := by
  have ended (d : Direction) : moving d (.event t e :: past) = underWay d (fun _ => false) [t] past := by
    cases e <;> first | rfl | simp [Event.kind] at outcome
    · next place seen => cases place <;> simp at outcome
  intro d under
  rw [ended] at under ⊢
  refine underWay_mono (List.nil_subset [t]) (alone d ?_)
  by_contra still
  have none : underWay d (fun _ => false) [t] past = false :=
    underWay_mono (List.nil_subset [t]) (eq_false_of_ne_true still)
  rw [none] at under
  exact absurd under (by simp)

structure ExclusivePromise (p : Point Garage) : Prop where
  promise : Promise (atEvents refusesOpposed) (atEvents operatesAlone) p
  alone : throughout (atEvents refusesOpposed) p.history = true → Alone p.history

theorem ExclusivePromise.push {item : Item Garage} {s : GarageRuntime} (held : ExclusivePromise p)
    (passes : atEvents operatesAlone p.history item = true)
    (same : ∀ d, moving d (item :: p.history) = moving d p.history) : ExclusivePromise ⟨s,item :: p.history⟩ := by
  refine ⟨(held.promise.push fun _ _ => passes).of_same rfl,fun condition d => ?_⟩
  change moving d (item :: p.history) = true → moving d.opposite (item :: p.history) = false
  rw [same,same]
  exact held.alone ((throughout_cons _ _ _).mp condition).2 d

theorem exclusivePromise_resting (t : ℕ) : Resting ExclusivePromise t := by
  refine ⟨fun p s held _ => ⟨held.promise.of_same rfl,held.alone⟩,fun p e held resting => ?_,
    fun p n call held => held.push rfl fun _ => rfl,fun p request held => held.push rfl fun _ => rfl,
    fun p answer held => held.push rfl fun _ => rfl⟩
  cases e with
  | cover d cause => exact absurd rfl (resting d cause).1
  | succeeded d cause => exact absurd rfl (resting d cause).2
  | gaveUp d cause => exact absurd rfl (resting d cause).2
  | read place seen => exact held.push rfl fun d => by simp [moving,underWay]
  | _ => exact held.push rfl fun _ => rfl

theorem ExclusivePromise.commanded {s : GarageRuntime} (held : ExclusivePromise p)
    (clear : throughout (atEvents refusesOpposed) p.history = true → moving d.opposite p.history = false) :
    ExclusivePromise ⟨s,.event t (.cover d cause) :: p.history⟩ := by
  refine ⟨(held.promise.event fun condition => ?_).of_same rfl,fun condition => ?_⟩
  · simp [operatesAlone,clear condition]
  · exact alone_commanded (clear ((throughout_cons _ _ _).mp condition).2)

theorem ExclusivePromise.succeeded {s : GarageRuntime} (held : ExclusivePromise p)
    (clear : throughout (atEvents refusesOpposed) p.history = true → moving d.opposite p.history = false) :
    ExclusivePromise ⟨s,.event t (.succeeded d cause) :: p.history⟩ := by
  refine ⟨(held.promise.event fun condition => ?_).of_same rfl,fun condition => ?_⟩
  · simp [operatesAlone,clear condition]
  · exact alone_ended (held.alone ((throughout_cons _ _ _).mp condition).2) rfl

theorem ExclusivePromise.gaveUp {s : GarageRuntime} (held : ExclusivePromise p) :
    ExclusivePromise ⟨s,.event t (.gaveUp d cause) :: p.history⟩ := by
  refine ⟨(held.promise.event fun _ => rfl).of_same rfl,fun condition => ?_⟩
  exact alone_ended (held.alone ((throughout_cons _ _ _).mp condition).2) rfl

theorem asked_clear (readable : p.state.refresh.controller.doorBlockedReason = none)
    (allowed : d = .toClose → p.state.closeAllowed = true)
    (condition : throughout (atEvents refusesOpposed) (reread t (.asked d cause) p).history = true) :
    moving d.opposite (reread t (.asked d cause) p).history = false := by
  have here : refusesOpposed t p.history (.read (.asked d cause) p.state.refresh) = true :=
    ((throughout_cons _ _ _).mp condition).1
  have granted : (decide (d = .toClose) && !p.state.refresh.closeAllowed) = false := by
    rw [refresh_closeAllowed]
    by_cases close : d = .toClose
    · simp [allowed close]
    · simp [close]
  simp only [refusesOpposed,readable,granted,Option.isSome_none,Bool.or_false,Bool.not_eq_true'] at here
  simpa [moving,underWay,reread] using here

theorem ExclusivePromise.waited (held : ExclusivePromise p) (operating : Operating d t p)
    (condition : throughout (atEvents refusesOpposed) p.history = true) : moving d.opposite p.history = false :=
  held.alone condition d (underWay_operation List.not_mem_nil operating)

theorem exclusivePromise_openDoor (t : ℕ) (cause : Cause) :
    Carries ExclusivePromise (fun _ => True) t (openDoor cause) := by
  intro p inv _
  have silent := (exclusivePromise_resting t).silent
  have read : ExclusivePromise (reread t (.asked .toOpen cause) p) := silent.reread (by simp) inv
  apply wp_openDoor silent (operating_silent .toOpen t) (Owned.stable _ t)
  · exact fun s _ _ frame => ⟨silent.act _ s read ⟨frame.world,frame.binding,frame.closed⟩,trivial⟩
  · exact fun readable _ => ⟨read.succeeded fun condition => asked_clear readable (by simp) condition,trivial⟩
  · exact fun readable _ s _ => ⟨read.commanded fun condition => asked_clear readable (by simp) condition,
      operating_commanded _ _ _ _⟩
  · exact fun x inv operating _ => ⟨inv.succeeded fun condition => inv.waited operating condition,trivial⟩
  · exact fun q s _ inv _ _ => ⟨inv.gaveUp,trivial⟩

theorem exclusivePromise_closeDoor (t : ℕ) (cause : Cause) :
    Carries ExclusivePromise (fun _ => True) t (closeDoor cause) := by
  intro p inv _
  have silent := (exclusivePromise_resting t).silent
  have read : ExclusivePromise (reread t (.asked .toClose cause) p) := silent.reread (by simp) inv
  apply wp_closeDoor silent (operating_silent .toClose t) (Owned.stable _ t)
  · exact fun s _ _ frame => ⟨silent.act _ s read ⟨frame.world,frame.binding,frame.closed⟩,trivial⟩
  · exact fun readable allowed _ s _ =>
      ⟨read.succeeded fun condition => asked_clear readable (fun _ => allowed) condition,trivial⟩
  · exact fun readable allowed _ s _ =>
      ⟨read.commanded fun condition => asked_clear readable (fun _ => allowed) condition,operating_commanded _ _ _ _⟩
  · exact fun x s inv operating _ _ => ⟨inv.succeeded fun condition => inv.waited operating condition,trivial⟩
  · exact fun q s _ _ inv _ _ => ⟨inv.gaveUp,trivial⟩

theorem exclusivePromise_keeps : Preserves program ExclusivePromise := by
  refine Preserves.of_bodies ?_ ?_ ?_ ?_ fun call t p inv _ =>
    (carries_body (exclusivePromise_resting t) (exclusivePromise_openDoor t) (exclusivePromise_closeDoor t) call).plain
      inv trivial
  · exact fun input p held => held.push rfl fun _ => rfl
  · exact fun t call p held => held.push rfl fun _ => rfl
  · exact fun t p held => held.push rfl fun _ => rfl
  · exact fun t error p held => held.push rfl fun _ => rfl

end

/-- Openings and closes exclude each other in every run in which each operation asked
for during one the other way is refused. -/
theorem operations_exclude (binding : Binding) (world : World) (schedule : List (Label Garage))
    (refuses : throughout (atEvents refusesOpposed) (run binding world schedule).history = true) :
    throughout (atEvents operatesAlone) (run binding world schedule).history = true := by
  have start : ExclusivePromise ⟨GarageRuntime.init binding world,[]⟩ :=
    ⟨fun _ => rfl,fun _ d under => by simp [moving,underWay] at under⟩
  exact (exclusivePromise_keeps.exec _ start schedule).promise refuses

def commandsOpen : Item Garage → Bool
  | .event _ (.cover .toOpen _) => true
  | _ => false

theorem operations_exclude_after_close :
    throughout (atEvents operatesAlone) (run contactBinding dockedBehindOpen closesThenCleans).history = true ∧
      (run contactBinding dockedBehindOpen closesThenCleans).history.any commandsOpen = true :=
  ⟨operations_exclude _ _ _ (by decide +kernel),by decide +kernel⟩

def opensDuringClose : List (Label Garage) :=
  [.call .asyncRequestClose,goesOn 0,.outside (.entity "binary_sensor.open" (contact false)),.call .asyncRequestOpen]

theorem operations_collide :
    throughout (atEvents operatesAlone) (run contactBinding dockedBehindOpen opensDuringClose).history = false := by
  decide +kernel

end RoborockPlus
