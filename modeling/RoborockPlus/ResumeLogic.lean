import RoborockPlus.Robot
import RoborockPlus.GarageCommands
import RoborockPlus.Temporal.Since

/-! Which command goes on with a task that was paused. The status last read decides, and while it
says no more than that the robot is paused, so does what the last pause has remembered. -/
namespace RoborockPlus
open Temporal

/-- `value == n`. -/
def PyValue.equals (n : ℤ) : PyValue → Bool
  | .bool value => decide ((if value then 1 else 0) = n)
  | .int value => decide (value = n)
  | .float (.finite value) => decide (value = n)
  | _ => false

namespace Resume

inductive ResumeCommand
  | appResume
  | appResumeBuildMap
deriving DecidableEq

inductive Command
  | appStart
  | appPause
  | resume (command : ResumeCommand)
deriving DecidableEq

def ResumeCommand.value : ResumeCommand → String
  | .appResume => "app_resume"
  | .appResumeBuildMap => "app_resume_build_map"

def Command.value : Command → String
  | .appStart => "app_start"
  | .appPause => "app_pause"
  | .resume command => command.value

def activeStateResumeCommands : List (RobotState × ResumeCommand) :=
  [(.cleaning,.appResume),(.docking,.appResume),(.goingToWashTheMop,.appResume),(.manualMode,.appResume),
    (.remoteControlActive,.appResume),(.returningHome,.appResume),(.spotCleaning,.appResume),(.starting,.appResume),
    (.zonedCleaning,.appResume),(.segmentCleaning,.appResume)]

def cleanCommandResumeCommands : List (String × ResumeCommand) :=
  [("APP_START",.appResume),("APP_SEGMENT_CLEAN",.appResume),("APP_ZONED_CLEAN",.appResume),
    ("app_start",.appResume),("app_segment_clean",.appResume),("app_zoned_clean",.appResume)]

def selectResumeCommand (inReturning inCleaning : PyValue) (state : RobotState) (fallbackCommand : Option ResumeCommand) :
    Option ResumeCommand :=
  if inReturning.equals 1 then some .appResume
  else if inCleaning.equals 1 then some .appResume
  else if inCleaning.equals 2 then some .appResume
  else if inCleaning.equals 3 then some .appResume
  else if inCleaning.equals 4 then some .appResumeBuildMap
  else if state = .paused then fallbackCommand
  else none

def selectResumeCommandFromStatus (status : Status) : Option ResumeCommand :=
  (selectResumeCommand status.inReturning status.inCleaning .empty none).or (activeStateResumeCommands.lookup status.state)

def selectResumeCommandForCleanCommand (command : Command) : Option ResumeCommand :=
  cleanCommandResumeCommands.lookup command.value

def selectStartOrResumeCommand (status : Status) (fallbackCommand : Option ResumeCommand) : Command :=
  match selectResumeCommand status.inReturning status.inCleaning status.state fallbackCommand with
  | some command => .resume command
  | none => .appStart

/-- What the robot does about the task it has. -/
inductive Activity
  | working
  | paused
deriving DecidableEq

def Command.effect : Command → Activity
  | .appPause => .paused
  | .appStart | .resume _ => .working

/-- The coordinator, the robot, and the commands sent to it. -/
structure Session where
  data : Option Status
  lastResumeCommand : Option ResumeCommand
  robot : Activity
  sent : List Command
deriving DecidableEq

/-- How a command fares: whether the robot takes it, whether the call raises all the same, and what
the refresh behind it brings in. -/
structure Reply where
  taken : Bool
  raised : Bool
  report : Option Status
deriving DecidableEq

namespace Session
variable (s : Session)

/-- Without data every argument is `None`. -/
def status : Status := s.data.getD ⟨.empty,.none,.none⟩

def send (command : Command) (reply : Reply) : Session where
  data := if reply.raised then s.data else reply.report.or s.data
  lastResumeCommand := s.lastResumeCommand
  robot := if reply.taken then command.effect else s.robot
  sent := s.sent ++ [command]

def guardCleanCommand (command : Command) : Session :=
  if shouldGuardCleanCommand command.value then
    match selectResumeCommandForCleanCommand command with
    | some resumeCommand => {s with lastResumeCommand := some resumeCommand}
    | none => s
  else s

def startCommand : Command := selectStartOrResumeCommand s.status s.lastResumeCommand

def asyncStart (reply : Reply) : Session := (s.guardCleanCommand s.startCommand).send s.startCommand reply

def resumeTaskCommand : Option ResumeCommand :=
  selectResumeCommand s.status.inReturning s.status.inCleaning s.status.state s.lastResumeCommand

/-- Without a command the call raises and sends nothing. A refresh while it waits for the robot
finds nothing of the call to change. -/
def asyncResumeTask (reply : Reply) : Session :=
  match s.resumeTaskCommand with
  | none => s
  | some command =>
    let sent := s.send (.resume command) reply
    if reply.raised then sent else {sent with lastResumeCommand := none}

def asyncPause (reply : Reply) : Session :=
  match selectResumeCommandFromStatus s.status with
  | some resumeCommand => {s with lastResumeCommand := some resumeCommand}.send .appPause reply
  | none => s.send .appPause reply

end Session

inductive Event
  | pause (reply : Reply)
  | resumeTask (reply : Reply)
  | start (reply : Reply)
  | refresh (report : Status)
deriving DecidableEq

def step (s : Session) : Event → Session
  | .pause reply => s.asyncPause reply
  | .resumeTask reply => s.asyncResumeTask reply
  | .start reply => s.asyncStart reply
  | .refresh report => {s with data := some report}

/-- A robot with an active task, whatever was last read and remembered of it. -/
def Session.active (data : Option Status) (lastResumeCommand : Option ResumeCommand) : Session := ⟨data,lastResumeCommand,.working,[]⟩

/-- The flags name a task that the robot has, at work or not. -/
def TaskShown (status : Status) : Prop :=
  status.inReturning.equals 1 = true ∨ ∃ n ∈ [1,2,3,4], status.inCleaning.equals n = true

def ActiveShown (status : Status) : Prop := TaskShown status ∨ status.state ∈ activeStateResumeCommands.map Prod.fst

/-- Pressing start sends one command, and it is one that resumes. -/
def Session.Continues (s : Session) : Prop :=
  ∀ reply, ∃ command : ResumeCommand, (s.asyncStart reply).sent = s.sent ++ [.resume command]

/-- A pause that sees the task, or a start that does not, leaves a command to resume with. -/
def Remembers (s : Session) : Event → Prop
  | .pause _ => ActiveShown s.status
  | .start _ => ¬ TaskShown s.status
  | _ => False

/-- A resume that goes through leaves none. -/
def Forgets (s : Session) : Event → Prop
  | .resumeTask reply => reply.raised = false ∧ (TaskShown s.status ∨ s.status.state = .paused)
  | _ => False

/-- What was last read shows the task. Or it shows a pause, and since the last resume that went
through something has left a command to resume with. -/
def Tracked (data : Option Status) (lastResumeCommand : Option ResumeCommand) (events : List Event) : Prop :=
  TaskShown (run step (.active data lastResumeCommand) events).status ∨
    (run step (.active data lastResumeCommand) events).status.state = .paused ∧
      (Since step Remembers Forgets (.active data lastResumeCommand) events ∨
        lastResumeCommand.isSome = true ∧ Never step Forgets (.active data lastResumeCommand) events)

section Choosing
variable {s : Session} {status : Status} {state : RobotState} {inReturning inCleaning : PyValue} {fallback : Option ResumeCommand}

theorem select_isSome : (selectResumeCommand status.inReturning status.inCleaning state fallback).isSome = true ↔
    TaskShown status ∨ state = .paused ∧ fallback.isSome = true := by
  unfold selectResumeCommand TaskShown
  split_ifs <;> simp_all

theorem fromStatus_isSome : (selectResumeCommandFromStatus status).isSome = true ↔ ActiveShown status := by
  have named : (activeStateResumeCommands.lookup status.state).isSome = true ↔ status.state ∈ activeStateResumeCommands.map Prod.fst := by
    simp only [List.lookup_isSome_iff,List.mem_map,beq_iff_eq]
    exact exists_congr fun entry => and_congr_right fun _ => eq_comm
  rw [selectResumeCommandFromStatus,Option.isSome_or,Bool.or_eq_true_iff,select_isSome,named,ActiveShown]
  simp

/-- The guard only ever concerns a start, and a start is resumed by the plain command. -/
theorem guardCleanCommand_eq {command : Command} : s.guardCleanCommand command =
    {s with lastResumeCommand := if command = .appStart then some .appResume else s.lastResumeCommand} := by
  cases command with
  | appStart => rfl
  | appPause => rfl
  | resume command => cases command <;> rfl

theorem sent_asyncStart (reply : Reply) : (s.asyncStart reply).sent = s.sent ++ [s.startCommand] := by
  rw [Session.asyncStart,guardCleanCommand_eq]
  rfl

theorem startCommand_eq : s.startCommand = (s.resumeTaskCommand.map Command.resume).getD .appStart := by
  unfold Session.startCommand selectStartOrResumeCommand Session.resumeTaskCommand
  cases selectResumeCommand s.status.inReturning s.status.inCleaning s.status.state s.lastResumeCommand <;> rfl

theorem startCommand_resume : (∃ command, s.startCommand = .resume command) ↔ s.resumeTaskCommand.isSome = true := by
  rw [startCommand_eq]
  cases s.resumeTaskCommand <;> simp

theorem continues_iff : s.Continues ↔ TaskShown s.status ∨ s.status.state = .paused ∧ s.lastResumeCommand.isSome = true := by
  rw [← select_isSome]
  change s.Continues ↔ s.resumeTaskCommand.isSome = true
  rw [← startCommand_resume]
  constructor
  · intro continues
    obtain ⟨command,sent⟩ := continues ⟨false,false,none⟩
    rw [sent_asyncStart] at sent
    exact ⟨command,by simpa using sent⟩
  · rintro ⟨command,chosen⟩ reply
    exact ⟨command,by rw [sent_asyncStart,chosen]⟩

end Choosing

section Remembering
variable {s : Session} {e : Event}

theorem lastResumeCommand_pause (reply : Reply) : (s.asyncPause reply).lastResumeCommand =
    (selectResumeCommandFromStatus s.status).or s.lastResumeCommand := by
  unfold Session.asyncPause
  cases selectResumeCommandFromStatus s.status <;> rfl

theorem lastResumeCommand_resumeTask (reply : Reply) : (s.asyncResumeTask reply).lastResumeCommand.isSome = true ↔
    s.lastResumeCommand.isSome = true ∧ ¬ (reply.raised = false ∧ s.resumeTaskCommand.isSome = true) := by
  unfold Session.asyncResumeTask
  cases s.resumeTaskCommand with
  | none => simp
  | some command => cases raised : reply.raised <;> simp [Session.send]

theorem lastResumeCommand_start (reply : Reply) : (s.asyncStart reply).lastResumeCommand.isSome = true ↔
    s.resumeTaskCommand.isSome = false ∨ s.lastResumeCommand.isSome = true := by
  have fresh : s.startCommand = .appStart ↔ s.resumeTaskCommand.isSome = false := by
    rw [startCommand_eq]
    cases s.resumeTaskCommand <;> simp
  rw [← fresh,Session.asyncStart,guardCleanCommand_eq]
  by_cases restarts : s.startCommand = .appStart <;> simp [Session.send,restarts]

theorem remembered_step : (step s e).lastResumeCommand.isSome = true ↔
    Remembers s e ∨ s.lastResumeCommand.isSome = true ∧ ¬ Forgets s e := by
  cases e with
  | pause reply =>
    change (s.asyncPause reply).lastResumeCommand.isSome = true ↔ _
    rw [lastResumeCommand_pause,Option.isSome_or,Bool.or_eq_true_iff,fromStatus_isSome]
    simp [Remembers,Forgets]
  | resumeTask reply =>
    change (s.asyncResumeTask reply).lastResumeCommand.isSome = true ↔ _
    rw [lastResumeCommand_resumeTask,Session.resumeTaskCommand,select_isSome]
    simp only [Remembers,Forgets]
    tauto
  | start reply =>
    change (s.asyncStart reply).lastResumeCommand.isSome = true ↔ _
    rw [lastResumeCommand_start,← Bool.not_eq_true,Session.resumeTaskCommand,select_isSome]
    simp only [Remembers,Forgets]
    tauto
  | refresh report => simp [step,Remembers,Forgets]

end Remembering

/-- Pressing start on a paused robot goes on with its task just where the run is tracked. -/
theorem continues_iff_tracked (data : Option Status) (lastResumeCommand : Option ResumeCommand) (events : List Event) :
    (∀ before, before <+: events → (run step (.active data lastResumeCommand) before).robot = .paused →
      (run step (.active data lastResumeCommand) before).Continues) ↔
    ∀ before, before <+: events → (run step (.active data lastResumeCommand) before).robot = .paused →
      Tracked data lastResumeCommand before := by
  refine forall_congr' fun before => forall_congr' fun _ => forall_congr' fun _ => ?_
  have memory := @full_iff_since _ _ step Remembers Forgets (.active data lastResumeCommand) before
    (fun s => s.lastResumeCommand.isSome = true) (fun _ _ => remembered_step)
  rw [continues_iff,memory]
  rfl

/-! ### Careful runs -/

def Telling (status : Status) : Prop := TaskShown status ∨ status.state = .paused

def Reply.Telling (reply : Reply) : Prop := ∀ report ∈ reply.report, Resume.Telling report

/-- A pause that sees the task unless a command is left from before, a resume that the robot takes
if it goes through, and no report but of a task or of a pause. -/
def Careful (s : Session) : Event → Prop
  | .pause reply => (ActiveShown s.status ∨ s.lastResumeCommand.isSome = true) ∧ reply.Telling
  | .resumeTask reply => (reply.taken = true ∨ reply.raised = true) ∧ reply.Telling
  | .start reply => reply.Telling
  | .refresh report => Telling report

structure Ready (s : Session) : Prop where
  remembered : s.robot = .paused → s.lastResumeCommand.isSome = true
  telling : Telling s.status

section Careful
variable {s : Session} {e : Event} {command : Command} {reply : Reply} {data : Option Status}

theorem telling_send (telling : Telling s.status) (told : reply.Telling) : Telling (s.send command reply).status := by
  unfold Session.send Session.status
  dsimp only
  split
  · exact telling
  · cases report : reply.report with
    | none => exact telling
    | some status => exact told status report

theorem paused_of_send (works : command.effect = .working) (paused : (s.send command reply).robot = .paused) : s.robot = .paused := by
  unfold Session.send at paused
  dsimp only at paused
  split_ifs at paused
  · exact absurd (works.symm.trans paused) (by decide)
  · exact paused

theorem startCommand_works : s.startCommand.effect = .working := by
  rw [startCommand_eq]
  cases s.resumeTaskCommand <;> rfl

theorem ready_pause (ready : Ready s) (careful : Careful s (.pause reply)) : Ready (s.asyncPause reply) := by
  obtain ⟨seen,told⟩ := careful
  constructor
  · intro _
    rw [lastResumeCommand_pause,Option.isSome_or,Bool.or_eq_true_iff,fromStatus_isSome]
    exact seen
  · unfold Session.asyncPause
    split
    · exact telling_send ready.telling told
    · exact telling_send ready.telling told

theorem ready_resumeTask (ready : Ready s) (careful : Careful s (.resumeTask reply)) : Ready (s.asyncResumeTask reply) := by
  obtain ⟨acts,told⟩ := careful
  unfold Session.asyncResumeTask
  split
  · exact ready
  · rename_i command _
    have sent : Telling (s.send (.resume command) reply).status := telling_send ready.telling told
    cases raised : reply.raised with
    | true => exact ⟨fun paused => ready.remembered (paused_of_send rfl paused),sent⟩
    | false =>
      have taken : reply.taken = true := acts.resolve_right (by simp [raised])
      refine ⟨fun paused => absurd paused ?_,sent⟩
      simp [Session.send,taken,Command.effect]

theorem ready_start (ready : Ready s) (careful : Careful s (.start reply)) : Ready (s.asyncStart reply) := by
  constructor
  · intro paused
    rw [lastResumeCommand_start]
    rw [Session.asyncStart,guardCleanCommand_eq] at paused
    exact Or.inr (ready.remembered (paused_of_send startCommand_works paused))
  · rw [Session.asyncStart,guardCleanCommand_eq]
    exact telling_send ready.telling careful

theorem ready_step (ready : Ready s) (careful : Careful s e) : Ready (step s e) := by
  cases e with
  | pause reply => exact ready_pause ready careful
  | resumeTask reply => exact ready_resumeTask ready careful
  | start reply => exact ready_start ready careful
  | refresh report => exact ⟨ready.remembered,careful⟩

/-- A careful run never starts over what it has paused. -/
theorem careful_continues {lastResumeCommand : Option ResumeCommand} {events : List Event}
    (telling : Telling (Session.active data lastResumeCommand).status)
    (careful : ∀ before e, before ++ [e] <+: events → Careful (run step (.active data lastResumeCommand) before) e)
    (paused : (run step (.active data lastResumeCommand) events).robot = .paused) :
    (run step (.active data lastResumeCommand) events).Continues := by
  have ready : Ready (run step (.active data lastResumeCommand) events) := by
    clear paused
    induction events using List.reverseRecOn with
    | nil => exact ⟨(nomatch ·),telling⟩
    | append_singleton events e ih =>
      have earlier := ih fun before f inside => careful before f (inside.trans (List.prefix_append _ _))
      rw [run_snoc]
      exact ready_step earlier (careful events e (List.prefix_refl _))
  rw [continues_iff]
  rcases ready.telling with shown | pause
  · exact Or.inl shown
  · exact Or.inr ⟨pause,ready.remembered paused⟩

end Careful

/-- A room is being cleaned; a pause that clears the flags; the same still read after the resume. -/
def roomTask : Status := ⟨.segmentCleaning,.int 3,.int 0⟩

def clearedPause : Status := ⟨.paused,.int 0,.int 0⟩

def quickPauses : List Event :=
  [.pause ⟨true,false,some clearedPause⟩,.resumeTask ⟨true,false,some clearedPause⟩,.pause ⟨true,false,some clearedPause⟩]

/-- Paused, resumed and paused again before the status has caught up, the task starts over. -/
theorem quickPauses_restart :
    (run step (.active (some roomTask) none) quickPauses).robot = .paused ∧
      ((run step (.active (some roomTask) none) quickPauses).asyncStart ⟨true,false,none⟩).sent =
        [.appPause,.resume .appResume,.appPause,.appStart] ∧
      ¬ (run step (.active (some roomTask) none) quickPauses).Continues := by
  have sent : ((run step (.active (some roomTask) none) quickPauses).asyncStart ⟨true,false,none⟩).sent =
      [.appPause,.resume .appResume,.appPause,.appStart] := by decide +kernel
  refine ⟨by decide +kernel,sent,fun continues => ?_⟩
  obtain ⟨command,resumed⟩ := continues ⟨true,false,none⟩
  have before : (run step (.active (some roomTask) none) quickPauses).sent = [.appPause,.resume .appResume,.appPause] := by decide +kernel
  rw [sent,before] at resumed
  simp at resumed

end Resume
end RoborockPlus
