import RoborockPlus.Sequence

/-! The stages of a script, from the service of the entity down to the runtime, and with any
callback in the place of the one that the entity hands over. -/
namespace RoborockPlus
open Async GarageController GarageRuntime

structure CleaningStage (P : Type) where
  command : String
  params : P
  timeoutMinutes : Option PyValue

section
variable {P : Type}

def CleaningStage.effective (stage : CleaningStage P) (timeoutMinutes : Option PyValue) : CleaningStage P :=
  {stage with timeoutMinutes := timeoutMinutes.or stage.timeoutMinutes}

/-- The clean command that positional arguments make up. -/
def handedOver : List (String ⊕ P) → Option (String × P)
  | [.inl command,.inr params] => some (command,params)
  | _ => none

/-- A callable that passes on what it is called with, or fails for the number of its arguments. -/
def callback (takes : ℕ → Bool) (wire : String × P → String) (args : List (String ⊕ P)) : Action :=
  if takes args.length then sendCommand ((handedOver args).map wire) else .throw (.other none)

namespace GarageRuntime

def noteStage (result : StageResult) (s : GarageRuntime) : GarageRuntime := {s with stageResult := some result}

/-- A cancellation passes by the `except` clause. -/
def blameStage : Exc → Action
  | .cancelled => .throw .cancelled
  | .control reason => do
    .modify (noteStage (.failed reason))
    .throw (.control reason)
  | .other reason => do
    .modify (noteStage (.failed (reason.getD .stageFailed)))
    .throw (.other reason)

/-- `async_start_stage`, with what comes of its call of the callback. -/
def startStage (send : Action) (command : String) (timeoutMinutes : Option PyValue) : Action :=
  if command ∉ controlledExitCommands then .throw (.control .invalidStage)
  else
    .guarded (.attempt (do
        asyncSend command .stage send
        awaitStage timeoutMinutes
        .modify (noteStage .succeeded)) blameStage) publish

def startGarageCleaningStage (wire : String × P → String) (stage : CleaningStage P) (timeoutMinutes : Option PyValue) : Action :=
  let effective := stage.effective timeoutMinutes
  startStage (callback (· == 2) wire []) effective.command effective.timeoutMinutes

def stagedBody (send : String → Action) : Call → Action
  | .asyncStartStage command timeoutMinutes => startStage (send command) command timeoutMinutes
  | call => body call

end GarageRuntime

theorem startStage_sendStage (command : String) (timeoutMinutes : Option PyValue) :
    startStage sendStage command timeoutMinutes = asyncStartStage command timeoutMinutes := by
  unfold startStage asyncStartStage
  congr 3
  funext error
  cases error <;> rfl

theorem startGarageCleaningStage_body (wire : String × P → String) (stage : CleaningStage P) (timeoutMinutes : Option PyValue) :
    startGarageCleaningStage wire stage timeoutMinutes =
      body (.asyncStartStage stage.command (stage.effective timeoutMinutes).timeoutMinutes) :=
  startStage_sendStage _ _

/-- The program, with any callback in the place of the entity's. -/
def stagedProgram (send : String → Action) : Program Garage := {program with body := stagedBody send}

theorem stagedProgram_service : stagedProgram (fun _ => sendStage) = program := by
  have same : stagedBody (fun _ => sendStage) = body := by
    funext call
    cases call with
    | asyncStartStage command timeoutMinutes => exact startStage_sendStage command timeoutMinutes
    | _ => rfl
  rw [stagedProgram,same]
  rfl

def stagedRun (send : String → Action) (binding : Binding) (world : World) (schedule : List (Label Garage)) : Point Garage :=
  ((Loop.init (GarageRuntime.init binding world)).exec (stagedProgram send) schedule).conf.toPoint

theorem stagedRun_service (wire : String × P → String) (binding : Binding) (world : World) (schedule : List (Label Garage)) :
    stagedRun (fun _ => callback (· == 2) wire []) binding world schedule = run binding world schedule := by
  have service : stagedProgram (fun _ => callback (· == 2) wire []) = program := stagedProgram_service
  rw [stagedRun,service,run]

end

section StartStage
variable {I F K D : Point Garage → Prop} {t : ℕ} {p : Point Garage}

theorem wp_startStage {send : Action} {command : String} {timeoutMinutes : Option PyValue} (drop : ∀ q, D q → F q)
    (sends : command ∈ controlledExitCommands →
      wp I t (asyncSend command .stage send) (fun _ q => I q ∧ K q) (fun _ q => I q ∧ F q) p)
    (waits : ∀ q, I q → K q → wp I t (awaitStage timeoutMinutes) (fun _ q => I q ∧ D q) (fun _ q => I q ∧ F q) q)
    (notes : ∀ result, Carries I D t (.modify (noteStage result))) (blames : ∀ result, Carries I F t (.modify (noteStage result)))
    (published : Carries I D t publish) (publishes : Carries I F t publish) (inv : I p) (fact : F p) :
    wp I t (startStage send command timeoutMinutes) (fun _ q => I q ∧ D q) (fun _ q => I q ∧ F q) p := by
  unfold startStage
  rw [wp_ite]
  split
  · exact ⟨inv,fact⟩
  next known =>
  have reports (q : Point Garage) (both : I q ∧ F q) : wp I t publish (fun _ q => I q ∧ F q) (fun _ q => I q ∧ F q) q :=
    publishes q both.1 both.2
  -- the handler only ever raises again, so what comes after a success does not matter here
  have caught {Q : Unit → Point Garage → Prop} (error : Exc) (q : Point Garage) (both : I q ∧ F q) :
      wp I t (blameStage error) Q (fun _ q => wp I t publish (fun _ q => I q ∧ F q) (fun _ q => I q ∧ F q) q) q := by
    cases error with
    | cancelled => exact reports q both
    | control reason => exact reports _ (blames (.failed reason) q both.1 both.2)
    | other reason => exact reports _ (blames (.failed (reason.getD .stageFailed)) q both.1 both.2)
  rw [wp_guarded,wp_attempt,wp_bind]
  refine wp_mono (sends (not_not.mp known)) (fun _ q sent => ?_) caught
  rw [wp_bind]
  refine wp_mono (waits q sent.1 sent.2) (fun _ q done => ?_) caught
  obtain ⟨inv,noted⟩ := notes .succeeded q done.1 done.2
  rw [wp_modify]
  exact wp_mono (published _ inv noted) (fun _ _ both => both) (fun _ q both => ⟨both.1,drop q both.2⟩)

theorem carries_startStage {send : Action} {command : String} {timeoutMinutes : Option PyValue} (silent : Silent I t)
    (framed : Silent F t) (stable : Stable t F) (sends : command ∈ controlledExitCommands → Carries I F t (asyncSend command .stage send)) :
    Carries I F t (startStage send command timeoutMinutes) := by
  have silently {α : Type} {m : Co Garage α} (inside : Emits [.read] m) : Carries I F t m := silent.emits framed stable inside
  have noted (result : StageResult) : Carries I F t (.modify (noteStage result)) := silently (emits_modify fun _ => ⟨rfl,rfl,rfl⟩)
  have published : Carries I F t publish := silently (emits_publish (by simp))
  exact fun p inv fact => wp_startStage (fun _ fact => fact) (fun listed => sends listed p inv fact)
    (fun q inv fact => silently (emits_awaitStage (by simp)) q inv fact) noted noted published published inv fact

theorem carries_asyncStartStage {command : String} {timeoutMinutes : Option PyValue} (silent : Silent I t)
    (framed : Silent F t) (stable : Stable t F) (sends : Carries I F t (asyncSend command .stage sendStage)) :
    Carries I F t (asyncStartStage command timeoutMinutes) := by
  rw [← startStage_sendStage]
  exact carries_startStage silent framed stable fun _ => sends

end StartStage

/-- The stages are all that a callback makes a difference to. -/
theorem stagedProgram_preserves {I : Point Garage → Prop} {send : String → Action} (keeps : Preserves program I)
    (stage : ∀ t command timeoutMinutes, Carries I (fun _ => True) t (startStage (send command) command timeoutMinutes))
    (started : ∀ t call p, I p → I (p.push (.started t call))) (finished : ∀ t p, I p → I (p.push (.finished t)))
    (failed : ∀ t error p, I p → I (p.push (.failed t error))) : Preserves (stagedProgram send) I where
  outside := keeps.outside
  dropped := keeps.dropped
  body call t p inv empty entered := by
    have other := keeps.body call t p inv empty entered
    cases call with
    | asyncStartStage command timeoutMinutes =>
      refine wp_mono (stage t command timeoutMinutes _ (started t _ p inv) trivial) ?_ ?_
      · exact fun _ q both => finished t q both.1
      · exact fun error q both => failed t error q both.1
    | _ => exact other

end RoborockPlus
