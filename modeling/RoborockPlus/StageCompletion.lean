import RoborockPlus.StageService

/-! The end of a stage. It is read off the cached status sample, which describes the robot
before the command until the next one is taken. -/
namespace RoborockPlus
open Async GarageController GarageRuntime

/-- A callback that takes the call and sends the stage's command, or does not. -/
def sendsWhere (takes : String → Bool) (command : String) : Action :=
  if takes command then sendCommand (some command) else sendStage

def sentBy (t : ℕ) (past : List (Item Garage)) : Bool :=
  past.any fun | .event u (.sent _) => u == t | _ => false

/-- Since the task's send, a sample showed a task. -/
def taskSeen (t : ℕ) : List (Item Garage) → Bool
  | [] => false
  | .outside (.sampled status _) :: past => (isV1TaskActive status && sentBy t past) || taskSeen t past
  | _ :: past => taskSeen t past

def atHome (status : Status) : Bool :=
  !isV1TaskActive status && decide (status.state ∈ [.charging,.chargingComplete])

/-- And a later one showed none, with the robot docked. -/
def homeSeen (t : ℕ) : List (Item Garage) → Bool
  | [] => false
  | .outside (.sampled status _) :: past => (atHome status && taskSeen t past) || homeSeen t past
  | _ :: past => homeSeen t past

/-- A stage returns, and so has succeeded, for a task that was seen to run and to end. -/
def succeedsHome : List (Item Garage) → Item Garage → Bool
  | past, .finished t => (stageCall t past).isNone || homeSeen t past
  | _, _ => true

/-- A stage that finds its robot docked and idle in the cache has seen its task by then. -/
def pollsLater (t : ℕ) (past : List (Item Garage)) : Event → Bool
  | .read .stage seen => seen.controller.taskRunning || !seen.controller.robotDocked || taskSeen t past
  | _ => true

section
variable {t : ℕ} {initial : Option StatusSample} {item : Item Garage} {past : List (Item Garage)} {p : Point Garage}

theorem homeSeen_grows (item : Item Garage) (seen : homeSeen t past = true) : homeSeen t (item :: past) = true := by
  rcases item with input | _ | _ | _ | _ | _ | _ | _
  · cases input <;> first | exact seen | simpa [homeSeen] using Or.inr seen
  all_goals exact seen

theorem homeSeen_suffix {history : List (Item Garage)} (suffix : past <:+ history) (seen : homeSeen t past = true) :
    homeSeen t history = true := by
  obtain ⟨added,rfl⟩ := suffix
  induction added with
  | nil => exact seen
  | cons item added ih => exact homeSeen_grows item ih

theorem homeSeen_current {sample : StatusSample} (seen : taskSeen t past = true)
    (current : currentSample initial past = some sample) (home : atHome sample.status = true) : homeSeen t past = true := by
  induction past with
  | nil => simp [taskSeen] at seen
  | cons item past ih =>
    by_cases sampled : ∃ status utc, item = .outside (.sampled status utc)
    · obtain ⟨status,utc,rfl⟩ := sampled
      obtain rfl : (⟨utc,status⟩ : StatusSample) = sample := Option.some.inj current
      have idle : isV1TaskActive status = false := by
        simp only [atHome,Bool.and_eq_true,Bool.not_eq_true'] at home
        exact home.1
      have before : taskSeen t past = true := by simpa [taskSeen,idle] using seen
      rw [homeSeen,home,before]
      rfl
    · refine homeSeen_grows item (ih ?_ ?_)
      · rcases item with input | _ | _ | _ | _ | _ | _ | _
        · cases input <;> first | exact seen | exact absurd ⟨_,_,rfl⟩ sampled
        all_goals exact seen
      · rcases item with input | _ | _ | _ | _ | _ | _ | _
        · cases input <;> first | exact current | exact absurd ⟨_,_,rfl⟩ sampled
        all_goals exact current

/-- Where the condition holds, the promise does, and the cached sample is the history's last. -/
structure Awaited (initial : Option StatusSample) (p : Point Garage) : Prop where
  promise : Promise (atEvents pollsLater) succeedsHome p
  sample : p.state.world.coordinator.garageStatusSample = currentSample initial p.history

namespace Awaited

theorem moves (held : Awaited initial p) {s : GarageRuntime} (same : SameWorld p.state s) :
    Awaited initial {p with state := s} := by
  refine ⟨held.promise.of_same rfl,?_⟩
  change s.world.coordinator.garageStatusSample = _
  rw [same.world]
  exact held.sample

theorem push (held : Awaited initial p) (item : Item Garage) (inside : ∀ input, item ≠ .outside input)
    (passes : throughout (atEvents pollsLater) p.history = true → succeedsHome p.history item = true) :
    Awaited initial (p.push item) := by
  refine ⟨held.promise.push fun _ before => passes before,?_⟩
  cases item with
  | outside input => exact absurd rfl (inside input)
  | _ => exact held.sample

theorem outside (held : Awaited initial p) (input : Stimulus) :
    Awaited initial ⟨p.state.apply input,.outside input :: p.history⟩ := by
  refine ⟨(show Promise _ _ (p.push (.outside input)) from held.promise.push fun _ _ => rfl).of_same rfl,?_⟩
  have sample := held.sample
  cases input <;> first | rfl | exact sample

theorem blind (t : ℕ) : Ignores (Awaited initial) t SameWorld fun _ => True := by
  refine .of_push (fun _ _ held same => held.moves same) fun p item owned inside held => ?_
  refine held.push item (fun input same => by simp [same,Item.owner] at owned) fun _ => ?_
  cases item with
  | finished u => exact inside.elim
  | _ => rfl

end Awaited

def Ended (t : ℕ) (p : Point Garage) : Prop :=
  throughout (atEvents pollsLater) p.history = true → homeSeen t p.history = true

theorem ended_grows (p q : Point Garage) (suffix : p.history <:+ q.history) (ended : Ended t p) : Ended t q :=
  fun condition => homeSeen_suffix suffix (ended (throughout_suffix condition suffix))

theorem awaited_carries {F : Point Garage → Prop} {α : Type} {m : Co Garage α}
    (grows : ∀ p q : Point Garage, p.history <:+ q.history → F p → F q) {kinds : List Kind} (inside : Emits kinds m) :
    Carries (Awaited initial) F t m :=
  (inside.mono (fun _ _ frame => ⟨frame.world,frame.binding⟩) fun _ _ => trivial).carries (Awaited.blind t)
    (.growing grows) (.growing grows)

theorem awaited_poll (held : Awaited initial p) (start : ℚ) (timeout : PyFloat) :
    wp (Awaited initial) t (lookForCompletion start timeout)
      (fun found q => Awaited initial q ∧ (found = some () → Ended t q)) (fun _ => Awaited initial) p := by
  unfold lookForCompletion
  rw [wp_bind,wp_get,wp_ite]
  split
  · exact held
  rw [wp_bind,wp_refresh,wp_bind,wp_get,wp_ite]
  have read : Awaited initial (reread t .stage p) :=
    Awaited.push (p := {p with state := p.state.refresh}) (held.moves ⟨rfl,rfl⟩) (.event t (.read .stage p.state.refresh))
      (by simp) fun _ => rfl
  split
  next complete =>
    refine ⟨read,fun _ condition => ?_⟩
    obtain ⟨idle,docked⟩ := complete
    have idle : isV1TaskActive p.state.world.status = false := idle
    have docked : decide (p.state.world.status.state ∈ [RobotState.charging,RobotState.chargingComplete]) = true := docked
    have seen : taskSeen t p.history = true := by
      have later := ((throughout_cons _ _ _).mp condition).1
      change pollsLater t p.history (.read .stage p.state.refresh) = true at later
      have running : p.state.refresh.controller.taskRunning = false := idle
      have parked : p.state.refresh.controller.robotDocked = true := docked
      simpa [pollsLater,running,parked] using later
    cases cached : p.state.world.coordinator.garageStatusSample with
    | none => simp [World.status,cached] at docked
    | some sample =>
      have current : currentSample initial p.history = some sample := held.sample.symm.trans cached
      have status : p.state.world.status = sample.status := by simp [World.status,cached]
      refine homeSeen_current seen current ?_
      rw [atHome,← status,idle,docked]
      rfl
  rw [wp_ite]
  split
  · exact read
  · exact ⟨read,by simp⟩

theorem awaited_stage (takes : String → Bool) {command : String} {timeoutMinutes : Option PyValue} (held : Awaited initial p) :
    wp (Awaited initial) t (startStage (sendsWhere takes command) command timeoutMinutes)
      (fun _ q => Awaited initial q ∧ Ended t q) (fun _ q => Awaited initial q ∧ True) p := by
  have whatever (p q : Point Garage) (_ : p.history <:+ q.history) (fact : True) : True := fact
  have sends : Emits [.sent] (sendsWhere takes command) := by
    unfold sendsWhere
    split
    · exact emits_sendCommand (by simp)
    · trivial
  have notes (result : StageResult) : Emits [] (.modify (noteStage result)) := emits_modify fun _ => ⟨rfl,rfl,rfl⟩
  have published : Emits [.read] publish := emits_publish (by simp)
  refine wp_startStage (K := fun _ => True) (fun _ _ => trivial) ?_ ?_ (fun result => awaited_carries ended_grows (notes result))
    (fun result => awaited_carries whatever (notes result)) (awaited_carries ended_grows published)
    (awaited_carries whatever published) held trivial
  · intro listed
    have clean : Emits (.sent :: exitKinds ++ openKinds .stage) (asyncSend command .stage (sendsWhere takes command)) :=
      emits_asyncSend (by simp) (by simp) (sends.mono (fun _ _ frame => frame) fun e member => by simp_all)
    exact awaited_carries whatever clean p held trivial
  · intro q held _
    unfold awaitStage
    rw [wp_bind,wp_get]
    split
    · exact ⟨held,trivial⟩
    unfold awaitStageCompletion
    rw [wp_bind,wp_get]
    refine wp_poll _ t q (Awaited initial) held fun r held => ?_
    refine wp_mono (awaited_poll held _ _) ?_ (fun _ _ held => ⟨held,trivial⟩)
    intro found q both
    cases found with
    | some _ => exact ⟨both.1,both.2 rfl⟩
    | none =>
      have waits : Emits [] (.await (.sleep 1) : Co Garage Unit) := trivial
      exact Suspends.mono (awaited_carries whatever waits q both.1 trivial) (fun _ _ both => both.1) (fun _ _ both => both)

theorem awaited_keeps (takes : String → Bool) : Preserves (stagedProgram (sendsWhere takes)) (Awaited initial) := by
  refine stagedProgram_keeps (fun input p held => held.outside input) (fun _ _ held same => held.moves same)
    (fun t call p held => held.push _ (by simp) fun _ => rfl) ?_ ?_
  · intro t p item held unstaged owned
    refine held.push item (fun input same => by simp [same,Item.owner] at owned) fun _ => ?_
    cases item with
    | finished u =>
      obtain rfl : u = t := Option.some.inj owned
      simp [succeedsHome,unstaged]
    | _ => rfl
  · intro t p command timeoutMinutes held empty
    have begun := held.push (.started t (.asyncStartStage command timeoutMinutes)) (by simp) fun _ => rfl
    refine wp_mono (awaited_stage takes begun) ?_ (fun error q both => both.1.push _ (by simp) fun _ => rfl)
    rintro _ q ⟨held,ended⟩
    exact held.push _ (by simp) fun condition => by simp [succeedsHome,ended condition]

end

/-- Whatever callback it is given, a stage succeeds for a task that ran and ended on the dock
since its send, in every run in which no stage polls such a cache before it has seen its task. -/
theorem stage_succeeds_home (takes : String → Bool) (binding : Binding) (world : World) (schedule : List (Label Garage))
    (later : throughout (atEvents pollsLater) (stagedRun (sendsWhere takes) binding world schedule).history = true) :
    throughout succeedsHome (stagedRun (sendsWhere takes) binding world schedule).history = true := by
  have start : Awaited world.coordinator.garageStatusSample ⟨GarageRuntime.init binding world,[]⟩ := ⟨fun _ => rfl,rfl⟩
  exact ((awaited_keeps takes).exec _ start schedule).promise later

def stageSampled : List (Label Garage) :=
  [.call (.asyncStartStage "app_segment_clean" none),.outside (.sampled (statusOf .segmentCleaning true) 110),goesOn 0,
    .outside (.sampled (statusOf .charging false) 130),goesOn 0]

theorem stage_succeeds_home_sampled :
    let ended := stagedRun (sendsWhere fun _ => true) contactBinding dockedBehindOpen stageSampled
    throughout succeedsHome ended.history = true ∧ ended.state.stageResult = some .succeeded :=
  ⟨stage_succeeds_home _ _ _ _ (by decide +kernel),by decide +kernel⟩

/-- With the sample from before the command, a stage has succeeded as soon as it was sent. -/
theorem stage_succeeds_unseen :
    throughout succeedsHome (stagedRun (sendsWhere fun _ => true) contactBinding dockedBehindOpen oneStage).history = false ∧
      (stagedRun (sendsWhere fun _ => true) contactBinding dockedBehindOpen oneStage).state.stageResult = some .succeeded := by
  decide +kernel

example : throughout (atEvents pollsLater)
    (stagedRun (sendsWhere fun _ => true) contactBinding dockedBehindOpen oneStage).history = false := by
  decide +kernel

end RoborockPlus
