import RoborockPlus.Departure
import RoborockPlus.Release

/-! Unloading and cancellation. A robot command looks at the closed flag and a door
command does not; the release of a paused robot is a robot command. -/
namespace RoborockPlus
open Async GarageController GarageRuntime

/-- How a task's departure rule holds its robot: `pausing` and `releasing` while the command
is on its way, `closing` once the close behind the pause has been commanded. -/
structure Hold where
  paused : Bool := false
  pausing : Bool := false
  releasing : Bool := false
  closing : Bool := false
  cancelled : Bool := false

namespace Hold

/-- A pause that is cut off may have gone out; a release that fails has not. -/
def answer (h : Hold) : Except Exc Unit → Hold
  | .ok _ => {h with paused := h.paused || h.pausing, pausing := false, releasing := false}
  | .error error => {h with
      paused := h.paused || h.releasing || h.pausing && decide (error = .cancelled)
      pausing := false
      releasing := false
      cancelled := h.cancelled || decide (error = .cancelled)}

/-- Any release of the task's own ends its pause. -/
def step (t : ℕ) (item : Item Garage) (h : Hold) : Hold :=
  match item with
  | .event u (.robot name cause _) =>
    if u = t ∧ name = "app_resume" then {h with paused := false, releasing := h.paused, closing := false}
    else if u = t ∧ cause = .departure then {h with pausing := true, closing := false}
    else h
  | .event u (.cover .toClose .departure) => if u = t then {h with closing := h.paused} else h
  | .resumed u reply => if u = t then h.answer reply else h
  | _ => h

end Hold

def hold (t : ℕ) (past : List (Item Garage)) : Hold := past.foldr (Hold.step t) {}

/-- The task leaves its robot paused, though it was cancelled or control unloaded. -/
def strands (t : ℕ) (past : List (Item Garage)) : Bool :=
  (hold t past).paused && ((hold t past).cancelled || past.any unloads)

def movesRobot : Option String → Bool
  | none => true
  | some name => decide (name ∉ safeDirectCommands)

/-- After the shutdown nothing is commanded; and neither does a task end on a robot that
it has paused and never released, nor a shutdown find one that a task has ended on. -/
def leavesSafely (past : List (Item Garage)) : Item Garage → Bool
  | .event _ (.cover _ _) | .event _ (.robot _ _ _) => !past.any unloads
  | .event _ (.sent command) => !(movesRobot command && past.any unloads)
  | .event _ .shutdown => past.all fun
    | .finished u | .failed u _ => !(hold u past).paused
    | _ => true
  | .finished t | .failed t _ => !strands t past
  | _ => true

/-- A door operation goes on from here: to its command, or to the robot that waits for it. -/
def proceeds (seen : GarageRuntime) : Place → Bool
  | .asked .toOpen cause =>
    seen.controller.doorBlockedReason.isNone &&
      (!seen.controller.openConfirmed || decide (cause ∈ [Cause.clean,.routine]))
  | .asked .toClose _ => ajar seen
  | .waited .toOpen cause => decide (cause ∈ [Cause.clean,.routine]) && seen.controller.openConfirmed
  | _ => false

/-- The answer strikes a robot that is held: it cancels a task that has paused its robot, is just doing so
or is just releasing it; or it refuses the release, or takes the pause, of a task that was struck before. -/
def strikes (t : ℕ) (past : List (Item Garage)) : Except Exc Unit → Bool
  | .error .cancelled => (hold t past).paused || (hold t past).pausing || (hold t past).releasing
  | .error _ => (hold t past).releasing && ((hold t past).cancelled || past.any unloads)
  | .ok _ => (hold t past).pausing && ((hold t past).cancelled || past.any unloads)

/-- No shutdown finds a robot paused for its departure; no answer strikes one, unless the close
behind its pause has been commanded; and after the shutdown no door operation goes on. -/
def strikesClear (past : List (Item Garage)) : Item Garage → Bool
  | .event _ .shutdown => past.all fun
    | .event u (.robot _ .departure _) => !(hold u past).paused
    | _ => true
  | .resumed t answer => (hold t past).closing || !strikes t past answer
  | .event _ (.read place seen) => !past.any unloads || !proceeds seen place
  | _ => true

abbrev SafePromise : Point Garage → Prop := LoadedPromise strikesClear leavesSafely

def departing : List Kind := [.cover .toClose .departure]

section
variable {t u : ℕ} {p : Point Garage} {item : Item Garage} {past : List (Item Garage)}

/-- What an entry does to the hold: all but these leave it as it is. -/
theorem hold_step (t : ℕ) (item : Item Garage) (past : List (Item Garage)) :
    (∃ reply, item = .resumed t reply ∧ hold t (item :: past) = (hold t past).answer reply) ∨
    (∃ cause utc, item = .event t (.robot "app_resume" cause utc) ∧
      hold t (item :: past) = {hold t past with paused := false, releasing := (hold t past).paused, closing := false}) ∨
    (∃ name utc, item = .event t (.robot name .departure utc) ∧
      hold t (item :: past) = {hold t past with pausing := true, closing := false}) ∨
    (item = .event t (.cover .toClose .departure) ∧ hold t (item :: past) = {hold t past with closing := (hold t past).paused}) ∨
    hold t (item :: past) = hold t past := by
  have unfolded : hold t (item :: past) = Hold.step t item (hold t past) := rfl
  rw [unfolded]
  rcases item with _ | _ | _ | ⟨u,e⟩ | _ | ⟨u,reply⟩ | _ | _
  case event =>
    cases e with
    | robot name cause utc =>
      simp only [Hold.step]
      split_ifs with resumes departs
      · obtain ⟨rfl,rfl⟩ := resumes
        exact Or.inr (Or.inl ⟨cause,utc,rfl,rfl⟩)
      · obtain ⟨rfl,rfl⟩ := departs
        exact Or.inr (Or.inr (Or.inl ⟨name,utc,rfl,rfl⟩))
      · exact Or.inr (Or.inr (Or.inr (Or.inr rfl)))
    | cover d cause =>
      cases d <;> cases cause <;> try exact Or.inr (Or.inr (Or.inr (Or.inr rfl)))
      simp only [Hold.step]
      split_ifs with mine
      · exact Or.inr (Or.inr (Or.inr (Or.inl ⟨by rw [mine],rfl⟩)))
      · exact Or.inr (Or.inr (Or.inr (Or.inr rfl)))
    | _ => exact Or.inr (Or.inr (Or.inr (Or.inr rfl)))
  case resumed =>
    simp only [Hold.step]
    split_ifs with mine
    · exact Or.inl ⟨reply,by rw [mine],rfl⟩
    · exact Or.inr (Or.inr (Or.inr (Or.inr rfl)))
  all_goals exact Or.inr (Or.inr (Or.inr (Or.inr rfl)))

theorem hold_foreign (foreign : item.owner ≠ some t) : hold t (item :: past) = hold t past := by
  rcases hold_step t item past with ⟨_,rfl,_⟩ | ⟨_,_,rfl,_⟩ | ⟨_,_,rfl,_⟩ | ⟨rfl,_⟩ | same
  · exact absurd rfl foreign
  · exact absurd rfl foreign
  · exact absurd rfl foreign
  · exact absurd rfl foreign
  · exact same

theorem hold_unbegun (begun : own t past = []) : hold t past = {} :=
  of_unowned (A := fun past => hold t past = {}) begun rfl fun _ _ foreign blank => (hold_foreign foreign).trans blank

/-- A close behind a pause finds the robot paused. -/
theorem hold_closing : (hold t past).closing = true → (hold t past).paused = true := by
  induction past with
  | nil => exact fun never => nomatch never
  | cons item past ih =>
    rcases hold_step t item past with ⟨reply,_,same⟩ | ⟨_,_,_,same⟩ | ⟨_,_,_,same⟩ | ⟨_,same⟩ | same <;> rw [same]
    · cases reply with
      | ok reply => exact fun closing => by simp [Hold.answer,ih closing]
      | error error => exact fun closing => by simp [Hold.answer,ih closing]
    · exact fun never => nomatch never
    · exact fun never => nomatch never
    · exact id
    · exact ih

/-- Whatever the hold has of a pause goes back to a command of the departure rule. -/
theorem hold_mem (held : ((hold t past).paused || (hold t past).pausing || (hold t past).releasing) = true) :
    ∃ name utc, .event t (.robot name .departure utc) ∈ past := by
  induction past with
  | nil => exact nomatch held
  | cons item past ih =>
    have older (held : ((hold t past).paused || (hold t past).pausing || (hold t past).releasing) = true) :
        ∃ name utc, .event t (.robot name .departure utc) ∈ item :: past := by
      obtain ⟨name,utc,member⟩ := ih held
      exact ⟨name,utc,List.mem_cons_of_mem _ member⟩
    rcases hold_step t item past with ⟨reply,_,same⟩ | ⟨_,_,_,same⟩ | ⟨name,utc,rfl,_⟩ | ⟨_,same⟩ | same
    · refine older ?_
      rw [same] at held
      cases reply <;> simp only [Hold.answer,Bool.or_eq_true,Bool.and_eq_true] at held ⊢ <;> tauto
    · refine older ?_
      rw [same] at held
      simp only [Bool.or_eq_true,Bool.false_eq_true,false_or] at held ⊢
      tauto
    · exact ⟨name,utc,List.mem_cons_self⟩
    · exact older (by rwa [same] at held)
    · exact older (by rwa [same] at held)

/-- An answer that strikes no robot leaves none stranded. -/
theorem strands_answered {answer : Except Exc Unit} (spared : strikes t past answer = false) (free : strands t past = false) :
    strands t (.resumed t answer :: past) = false := by
  have answered : hold t (.resumed t answer :: past) = (hold t past).answer answer := if_pos rfl
  have loaded : (Item.resumed t answer :: past).any unloads = past.any unloads := rfl
  unfold strands at free ⊢
  rw [answered,loaded]
  cases answer with
  | ok reply =>
    simp only [strikes,Hold.answer,Bool.and_eq_false_iff,Bool.or_eq_false_iff] at spared free ⊢
    tauto
  | error error =>
    cases error with
    | cancelled =>
      simp only [strikes,Bool.or_eq_false_iff] at spared
      simp [Hold.answer,spared]
    | _ =>
      simp only [strikes,Bool.and_eq_false_iff,Bool.or_eq_false_iff] at spared free
      simp only [Hold.answer,reduceCtorEq,decide_false,Bool.and_false,Bool.or_false,Bool.and_eq_false_iff,Bool.or_eq_false_iff]
      tauto

theorem released_shutdown (clear : strikesClear past (.event u .shutdown) = true) (t : ℕ) : (hold t past).paused = false := by
  by_contra held
  have held : (hold t past).paused = true := (Bool.not_eq_false _).mp held
  obtain ⟨name,utc,member⟩ := hold_mem (by rw [held,Bool.true_or,Bool.true_or])
  have released := List.all_eq_true.mp clear _ member
  simp [held] at released

/-- No shutdown finds a robot paused, and no answer leaves one so after it. -/
theorem released_unloaded (clear : throughout strikesClear past = true) (unloaded : past.any unloads = true) (t : ℕ) :
    (hold t past).paused = false := by
  induction past with
  | nil => simp at unloaded
  | cons item past ih =>
    obtain ⟨now,before⟩ := (throughout_cons _ _ _).mp clear
    by_cases shut : ∃ u, item = .event u .shutdown
    · obtain ⟨u,rfl⟩ := shut
      exact released_shutdown now t
    have still : unloads item = false := by
      rcases item with _ | _ | _ | ⟨u,e⟩ | _ | _ | _ | _
      case event => cases e <;> first | rfl | exact absurd ⟨u,rfl⟩ shut
      all_goals rfl
    have released : (hold t past).paused = false := ih before (by simpa [still] using unloaded)
    have open' : (hold t past).closing = false := by
      by_contra closing
      exact absurd (released.symm.trans (hold_closing ((Bool.not_eq_false _).mp closing))) (by simp)
    rcases hold_step t item past with ⟨reply,rfl,_⟩ | ⟨_,_,_,same⟩ | ⟨_,_,_,same⟩ | ⟨_,same⟩ | same
    · have spared : strikes t past reply = false := by simpa [strikesClear,open'] using now
      have unstranded := strands_answered spared (by rw [strands,released,Bool.false_and])
      simpa [strands,unloaded] using unstranded
    · rw [same]
    · exact (congrArg Hold.paused same).trans released
    · exact (congrArg Hold.paused same).trans released
    · exact (congrArg Hold.paused same).trans released

/-- Outside of the departure rule's close, a task that was cancelled has its robot released. -/
def Released (t : ℕ) (past : List (Item Garage)) : Prop :=
  throughout strikesClear past = true → (hold t past).closing = false ∧ ((hold t past).paused = true → (hold t past).cancelled = false)

abbrev Free (t : ℕ) (p : Point Garage) : Prop := Released t p.history

def shuts (t : ℕ) : Item Garage → Bool
  | .event u (.cover .toClose .departure) => u == t
  | _ => false

/-- What is released was not left behind by an unloading either. -/
theorem Released.ends (free : Released t past) (condition : throughout strikesClear past = true) : strands t past = false := by
  obtain ⟨_,spared⟩ := free condition
  unfold strands
  cases unloaded : past.any unloads with
  | true => rw [released_unloaded condition unloaded t,Bool.false_and]
  | false =>
    cases paused : (hold t past).paused with
    | true => simp [spared paused]
    | false => rfl

theorem Released.step (free : Released t past) (other : shuts t item = false) : Released t (item :: past) := by
  intro condition
  obtain ⟨clear,before⟩ := (throughout_cons _ _ _).mp condition
  obtain ⟨open',spared⟩ := free before
  rcases hold_step t item past with ⟨reply,rfl,same⟩ | ⟨_,_,_,same⟩ | ⟨_,_,_,same⟩ | ⟨rfl,_⟩ | same
  · have missed : strikes t past reply = false := by simpa [strikesClear,open'] using clear
    have unstranded := strands_answered missed (free.ends before)
    refine ⟨?_,fun paused => ?_⟩
    · rw [same]
      cases reply <;> exact open'
    · rw [strands,paused,Bool.true_and,Bool.or_eq_false_iff] at unstranded
      exact unstranded.1
  · rw [same]
    exact ⟨rfl,fun never => nomatch never⟩
  · rw [same]
    exact ⟨rfl,spared⟩
  · simp [shuts] at other
  · rw [same]
    exact ⟨open',spared⟩

theorem free_ignores {R : GarageRuntime → GarageRuntime → Prop} {S : Event → Prop}
    (apart : ∀ e, S e → e.kind ∉ departing) : Ignores (Free t) t R S := by
  refine Ignores.of_history (A := Released t) fun item _ _ inside free => free.step ?_
  rcases item with _ | _ | _ | ⟨u,e⟩ | _ | _ | _ | _
  case event =>
    have other := apart e inside
    cases e with
    | cover d cause => cases d <;> cases cause <;> first | rfl | simp [Event.kind,departing] at other
    | _ => rfl
  all_goals rfl

theorem free_stable (t : ℕ) : Stable t (Free t) := by
  refine Stable.of_history (A := Released t) fun item _ foreign free => free.step ?_
  rcases item with _ | _ | _ | ⟨u,e⟩ | _ | _ | _ | _
  case event =>
    have other : u ≠ t := fun same => foreign (congrArg some same)
    cases e with
    | cover d cause => cases d <;> cases cause <;> first | rfl | simp [shuts,other]
    | _ => rfl
  all_goals rfl

theorem free_unmoved (t : ℕ) : Unmoved (Free t) t :=
  .of_blind (free_ignores fun _ other => other) (by simp [departing]) (by simp [departing])

theorem free_begun {s : GarageRuntime} {call : Call} (begun : own t past = []) : Free t ⟨s,.started t call :: past⟩ := by
  have blank : Released t past := fun _ => by simp [hold_unbegun begun]
  exact blank.step rfl

theorem leavesSafely_free (past : List (Item Garage)) (item : Item Garage) (inside : item.Inside fun _ => False) :
    leavesSafely past item = true := by
  rcases item with _ | _ | _ | _ | _ | _ | _ | _ <;> first | rfl | exact inside.elim

theorem safePromise_ignores (t : ℕ) {S : Event → Prop} (quiet : ∀ e, S e → e.kind ≠ .shutdown ∧
    ∀ past, leavesSafely past (.event t e) = true) : Ignores SafePromise t Frame S :=
  LoadedPromise.blind t leavesSafely_free (fun past e inside => (quiet e inside).2 past) fun e inside => (quiet e inside).1

theorem safePromise_unmoved (t : ℕ) : Unmoved SafePromise t := by
  refine safePromise_ignores t fun e kind => ?_
  rcases kind with kind | ⟨d,cause,kind⟩
  · cases e with
    | read place seen => exact ⟨by simp [kind],fun _ => rfl⟩
    | _ => simp [Event.kind] at kind
  · cases e with
    | succeeded d cause => exact ⟨by simp [Event.kind],fun _ => rfl⟩
    | gaveUp d cause => exact ⟨by simp [Event.kind],fun _ => rfl⟩
    | read place seen => cases place <;> simp [Event.kind] at kind
    | _ => simp [Event.kind] at kind

theorem safePromise_event {e : Event} (held : SafePromise p) {s : GarageRuntime} (frame : Frame p.state s)
    (running : e.kind ≠ .shutdown) (passes : throughout strikesClear p.history = true → leavesSafely p.history (.event t e) = true) :
    SafePromise ⟨s,.event t e :: p.history⟩ := by
  refine held.push frame.closed (fun _ before => passes before) ?_
  cases e with
  | shutdown => exact absurd rfl running
  | _ => rfl

theorem safePromise_robot {name : String} {cause : Cause} {utc : ℚ} (held : SafePromise p) (running : p.state.closed = false)
    {s : GarageRuntime} (frame : Frame p.state s) : SafePromise ⟨s,.event t (.robot name cause utc) :: p.history⟩ := by
  refine safePromise_event held frame (by simp [Event.kind]) fun _ => ?_
  have loaded : p.history.any unloads = false := held.unloaded.symm.trans running
  simp [leavesSafely,loaded]

theorem safePromise_cover {d : Direction} {cause : Cause} (held : SafePromise (reread t (.asked d cause) p))
    (going : proceeds p.state.refresh (.asked d cause) = true) {s : GarageRuntime} (frame : Frame p.state s) :
    SafePromise ⟨s,.event t (.cover d cause) :: (reread t (.asked d cause) p).history⟩ := by
  have frame : Frame (reread t (.asked d cause) p).state s := ⟨frame.world,frame.binding,frame.closed⟩
  refine safePromise_event held frame (by simp [Event.kind]) fun condition => ?_
  have clear : strikesClear p.history (.event t (.read (.asked d cause) p.state.refresh)) = true :=
    ((throughout_cons _ _ _).mp condition).1
  have loaded : p.history.any unloads = false := by simpa [strikesClear,going] using clear
  have same : (reread t (.asked d cause) p).history.any unloads = p.history.any unloads := rfl
  simp [leavesSafely,same,loaded]

theorem proceeds_opens {s : GarageRuntime} {cause : Cause} (opening : opens s = true) :
    proceeds s.refresh (.asked .toOpen cause) = true := by
  simp only [opens,Bool.and_eq_true] at opening
  simp [proceeds,opening.1,opening.2]

theorem proceeds_closes {s : GarageRuntime} {cause : Cause} (closing : closes s = true) :
    proceeds s.refresh (.asked .toClose cause) = true := closing

theorem safePromise_opens (t : ℕ) (cause : Cause) : Carries SafePromise (fun _ => True) t (openDoor cause) := by
  intro p inv _
  have read : SafePromise (reread t (.asked .toOpen cause) p) := (safePromise_unmoved t).silent.reread (by simp) inv
  refine carries_openDoor (safePromise_unmoved t) .top .top inv trivial fun readable shut s frame => ⟨?_,trivial⟩
  exact safePromise_cover read (proceeds_opens (opens_of_guards readable shut)) frame

theorem safePromise_closes (t : ℕ) (cause : Cause) : Carries SafePromise (fun _ => True) t (closeDoor cause) := by
  intro p inv _
  have read : SafePromise (reread t (.asked .toClose cause) p) := (safePromise_unmoved t).silent.reread (by simp) inv
  refine carries_closeDoor (safePromise_unmoved t) .top .top inv trivial fun readable allowed ajar s frame => ⟨?_,trivial⟩
  exact safePromise_cover read (proceeds_closes (closes_of_guards readable allowed ajar)) frame

theorem free_resumed {utc : ℚ} {s : GarageRuntime} (past : List (Item Garage)) :
    Free t ⟨s,.event t (.robot "app_resume" .departure utc) :: past⟩ := by
  intro _
  simp [hold,Hold.step]

/-- Where a cancellation finds the robot paused, its close has been commanded; and a release
that is refused finds a robot that is not paused. -/
theorem safePromise_departure (t : ℕ) (handled : Bool) : Carries SafePromise (Free t) t (handleDeparture handled) := by
  refine carries_hold (F := Free t) (H := fun _ => True) (safePromise_unmoved t) (free_unmoved t) (free_stable t) .top .top
    ?_ (fun _ _ _ _ => trivial) ?_ ?_ ?_ handled
  · intro p read free _ running s frame
    exact ⟨safePromise_robot read running ⟨frame.world,frame.binding,frame.closed⟩,Released.step free rfl⟩
  · intro p s₀ q _ _ _ _ _ _ closing asked _ s frame
    exact ⟨safePromise_cover asked (proceeds_closes closing) ⟨frame.world,frame.binding,frame.closed⟩,trivial⟩
  · exact fun p inv _ running utc => ⟨safePromise_robot inv running (Frame.refl _),free_resumed _⟩
  · intro p inv _ closed condition
    have released := released_unloaded condition (inv.unloaded.symm.trans closed) t
    refine ⟨?_,fun paused => absurd (released.symm.trans paused) (by simp)⟩
    by_contra closing
    exact absurd (released.symm.trans (hold_closing ((Bool.not_eq_false _).mp closing))) (by simp)

theorem safePromise_return (t : ℕ) : Carries SafePromise (fun _ => True) t handleReturn := by
  refine carries_handleReturn (safePromise_unmoved t) ?_ ?_ ?_
  · exact fun p read _ _ running s frame => safePromise_robot read running ⟨frame.world,frame.binding,frame.closed⟩
  · intro p s₀ q _ _ _ _ _ _ r s _ opening asked frame
    exact safePromise_cover asked (proceeds_opens opening) frame
  · exact fun x s place utc _ _ running inv => safePromise_robot inv running (Frame.refl _)

theorem safePromise_finish (t : ℕ) : Carries SafePromise (fun _ => True) t sequenceFinished := by
  refine carries_sequenceFinished (safePromise_unmoved t) .top .top ?_ ?_ ?_
  · exact fun p inv _ => ⟨safePromise_event inv (frame_refresh p.state) (by simp [Event.kind]) fun _ => rfl,trivial⟩
  · intro p opening asked _ s frame
    exact ⟨safePromise_cover asked (proceeds_opens opening) ⟨frame.world,frame.binding,frame.closed⟩,trivial⟩
  · intro p asked _ _ _ _ closing s frame
    exact ⟨safePromise_cover asked (proceeds_closes closing) ⟨frame.world,frame.binding,frame.closed⟩,trivial⟩

theorem safePromise_exit (t : ℕ) : Carries SafePromise (fun _ => True) t runControlledExit := by
  have silent := (safePromise_unmoved t).silent
  refine carries_runControlledExit silent .top .top fun _ =>
    carries_leaveForWaypoint silent .top .top (safePromise_opens t _) fun params => ?_
  exact carries_command silent .top .top fun p inv _ running s frame => ⟨safePromise_robot inv running frame,trivial⟩

/-- After an opening on which a call goes on to its robot, control is still loaded. -/
structure Loaded (p : Point Garage) : Prop where
  promise : SafePromise p
  running : throughout strikesClear p.history = true → p.history.any unloads = false

theorem loaded_opened {cause : Cause} {x : Point Garage} {place : Place} {s : GarageRuntime} (member : cause ∈ [.clean,.routine])
    (ends : endsOpen [cause] x.state.refresh place = true) (read : SafePromise (reread t place x)) (frame : Frame x.state s) :
    Loaded ⟨s,.event t (.succeeded .toOpen cause) :: (reread t place x).history⟩ := by
  refine ⟨(safePromise_unmoved t).ended read ⟨frame.world,frame.binding,frame.closed⟩ rfl,fun condition => ?_⟩
  have clear : strikesClear x.history (.event t (.read place x.state.refresh)) = true := throughout_second condition
  have going : proceeds x.state.refresh place = true := by
    cases place with
    | asked d cause => cases d <;> simp_all [endsOpen,proceeds]
    | waited d cause => cases d <;> simp_all [endsOpen,proceeds]
    | _ => simp [endsOpen] at ends
  have loaded : x.history.any unloads = false := by simpa [strikesClear,going] using clear
  exact loaded

theorem loaded_publish {X : Exc → Point Garage → Prop} (loaded : Loaded p) :
    wp SafePromise t publish (fun _ => Loaded) X p := by
  refine wp_publish (fun _ q ready => ⟨(safePromise_unmoved t).silent.reread (by simp) ready.promise,fun condition => ?_⟩) loaded
  exact ready.running ((throughout_cons _ _ _).mp condition).2

theorem loaded_sends {command : Option String} (loaded : Loaded p) :
    wp SafePromise t (sendCommand command) (fun _ q => SafePromise q ∧ True) (fun _ q => SafePromise q ∧ True) p := by
  refine wp_sendCommand (safePromise_unmoved t) (safePromise_event loaded.promise (Frame.refl _) (by simp [Event.kind]) fun condition => ?_)
  simp [leavesSafely,loaded.running condition]

theorem safePromise_calls (t : ℕ) {call : Call} (entry : call ≠ .finishSequence) (running : call ≠ .shutdown) :
    Carries SafePromise (fun _ => True) t (body call) := by
  have blind := safePromise_unmoved t
  have silent := blind.silent
  have published : Carries SafePromise (fun _ => True) t publish := silent.emits .top .top (emits_publish (by simp))
  have plain {α : Type} {m : Co Garage α} (inside : Emits [.read] m) : Carries SafePromise (fun _ => True) t m :=
    silent.emits .top .top inside
  have commanded {cause : Cause} (p : Point Garage) (inv : SafePromise p) (opening : opens p.state = true)
      (s : GarageRuntime) (frame : Frame p.state s) :
      SafePromise ⟨s,.event t (.cover .toOpen cause) :: (reread t (.asked .toOpen cause) p).history⟩ :=
    safePromise_cover (silent.reread (by simp) inv) (proceeds_opens opening) frame
  cases call with
  | asyncSend command =>
    refine carries_asyncSend_loaded silent .top .top (safePromise_exit t) ?_ ?_ ?_
    · intro harmless p inv _
      exact wp_sendCommand blind (safePromise_event inv (Frame.refl _) (by simp [Event.kind]) fun _ => by
        simp [leavesSafely,movesRobot,harmless])
    · intro _ p inv _ loaded
      refine loaded_sends ⟨inv,fun _ => inv.unloaded.symm.trans loaded⟩
    · exact carries_sends (G := Loaded) blind commanded (fun _ _ ends read => loaded_opened (by simp) ends read ⟨rfl,rfl,rfl⟩)
        (fun _ loaded => loaded_publish loaded) fun _ loaded => loaded_sends loaded
  | asyncStartStage command timeoutMinutes =>
    exact carries_asyncStartStage silent .top .top (carries_asyncSend_loaded silent .top .top (safePromise_exit t)
      (fun _ => plain trivial) (fun _ p inv _ _ => ⟨inv,trivial⟩)
      (carries_openAndSend silent .top .top (safePromise_opens t .stage) (plain trivial)))
  | asyncRoutine =>
    refine carries_opened (G := Loaded) blind commanded (fun _ _ ends read => loaded_opened (by simp) ends read ⟨rfl,rfl,rfl⟩)
      (fun _ loaded => loaded_publish loaded) fun q loaded => ?_
    rw [wp_guarded]
    refine wp_mono (loaded_sends loaded) ?_ ?_
    · exact fun _ q both => published q both.1 trivial
    · exact fun _ q both => published q both.1 trivial
  | asyncRequestOpen => exact .bind (safePromise_opens t .request) fun _ => published
  | asyncRequestClose =>
    exact .bind (plain (emits_refresh (by simp) (by simp))) fun _ => .bind (plain emits_get) fun s =>
      .ite (fun _ => plain trivial) fun _ => .bind (safePromise_closes t .request) fun _ => published
  | shutdown => exact absurd rfl running
  | finishSequence => exact absurd rfl entry
  | asyncStart => exact plain (emits_body (by simp) (by simp [Call.kinds]))
  | reset => exact plain (emits_body (by simp) (by simp [Call.kinds]))
  | onDoorChange => exact plain (emits_body (by simp) (by simp [Call.kinds]))
  | readEntity entity => exact plain (emits_body (by simp) (by simp [Call.kinds]))

theorem safePromise_sequence (t : ℕ) : Carries SafePromise (Free t) t finishSequence := by
  have silent := (safePromise_unmoved t).silent
  have framed := (free_unmoved t).silent
  have stable := free_stable t
  have lasting : Ignores (Free t) t Frame fun (e : Event) => e.kind ∉ departing := free_ignores fun _ other => other
  have joined {kinds : List Kind} {α : Type} {m : Co Garage α} (carries : Carries SafePromise (fun _ => True) t m)
      (inside : Emits kinds m) (apart : ∀ kind ∈ kinds, kind ∉ departing) : Carries SafePromise (Free t) t m :=
    carries.frame lasting stable (inside.mono (fun _ _ frame => frame) fun e member => apart e.kind member)
  refine carries_finishSequence silent framed stable fun start timeout =>
    carries_iterate silent framed stable ?_ ?_ ?_ (safePromise_departure t) ?_ start timeout
  · intro p inv free
    have moved := lasting.act p p.state.refresh free (frame_refresh p.state)
    exact ⟨safePromise_event inv (frame_refresh p.state) (by simp [Event.kind]) fun _ => rfl,
      lasting.event ⟨p.state.refresh,p.history⟩ (.read .iteration p.state.refresh) moved (by simp [Event.kind,departing])⟩
  · intro p inv free
    exact ⟨safePromise_event inv (Frame.refl _) (by simp [Event.kind]) fun _ => rfl,
      lasting.event p .iterated free (by simp [Event.kind,departing])⟩
  · exact joined (safePromise_return t) (emits_handleReturn (List.Subset.refl _)) (by simp [returnKinds,openKinds,departing])
  · exact joined (safePromise_finish t) (emits_sequenceFinished (List.Subset.refl _))
      (by simp [finishKinds,openKinds,closeKinds,departing])

theorem safePromise_shutdown (t : ℕ) : Carries SafePromise (Free t) t shutdown := by
  intro p inv free
  have ends := LoadedPromise.shutdown (t := t) inv fun clear _ => by
    simp only [leavesSafely,List.all_eq_true]
    intro item _
    rcases item with _ | _ | _ | _ | _ | _ | _ | _ <;> simp [released_shutdown clear]
  have kept (q : Point Garage) (both : SafePromise q ∧ q.history = .event t .shutdown :: p.history) :
      SafePromise q ∧ Free t q := by
    refine ⟨both.1,?_⟩
    unfold Free
    rw [both.2]
    exact Released.step free rfl
  exact wp_mono ends (fun _ q both => kept q both) (fun _ q both => kept q both)

theorem safePromise_keeps : Preserves program SafePromise := by
  refine Preserves.of_carried (F := fun t => Free t) ?_ ?_ ?_ ?_ ?_ ?_
  · exact fun input p inv => inv.outside input leavesSafely_free
  · exact fun t call p inv begun => ⟨inv.push rfl (fun _ _ => rfl) rfl,free_begun begun⟩
  · intro t p inv begun
    refine inv.push rfl (fun _ condition => ?_) rfl
    simp [leavesSafely,strands,hold_unbegun begun]
  · exact fun t p inv free => inv.push rfl (fun _ condition => by simp [leavesSafely,Released.ends free condition]) rfl
  · exact fun t error p inv free => inv.push rfl (fun _ condition => by simp [leavesSafely,Released.ends free condition]) rfl
  · intro call t
    by_cases sequence : call = .finishSequence
    · subst sequence
      exact safePromise_sequence t
    by_cases unloading : call = .shutdown
    · subst unloading
      exact safePromise_shutdown t
    have apart : ∀ kind ∈ call.kinds, kind ∉ departing := by
      cases call <;> simp [Call.kinds,openKinds,closeKinds,exitKinds,departing] at sequence ⊢
    have lasting : Ignores (Free t) t Frame fun (e : Event) => e.kind ∈ call.kinds :=
      free_ignores fun e member => apart e.kind member
    exact (safePromise_calls t sequence unloading).frame lasting (free_stable t) (emits_body unloading (List.Subset.refl _))

end

/-- After a shutdown nothing moves and no paused robot is left behind, in every run in which
the shutdown finds no robot paused for its departure, no answer strikes one that is held but
behind its close, and no door operation goes on after the shutdown. -/
theorem unloading_leaves_safe (binding : Binding) (world : World) (schedule : List (Label Garage))
    (clear : throughout strikesClear (run binding world schedule).history = true) :
    throughout leavesSafely (run binding world schedule).history = true :=
  LoadedPromise.holds safePromise_keeps schedule clear

/-- The close is cancelled, and its robot released before control is unloaded. -/
def cancelsClose : List (Label Garage) :=
  departsTo 3000 ++ [.resume 1 (.error .cancelled),goesOn 1,goesOn 1,.call .shutdown]

theorem unloading_leaves_safe_behind_close :
    throughout leavesSafely (run contactBinding drivingOut cancelsClose).history = true ∧
      (run contactBinding drivingOut cancelsClose).history.any resumesDeparted = true :=
  ⟨unloading_leaves_safe _ _ _ (by decide +kernel),by decide +kernel⟩

/-- The shutdown cancels the close, and refuses the release that follows. -/
theorem shutdown_strands_robot :
    throughout leavesSafely
      (run contactBinding drivingOut (departsTo 3000 ++ [.call .shutdown,goesOn 1])).history = false := by
  decide +kernel

/-- So does a release that the robot refuses, once its task has failed on it. -/
example :
    let struck := departsTo 3000 ++ shutsBehind 1 ++ [.resume 1 (.error (.other none)),.call .shutdown]
    throughout strikesClear (run contactBinding drivingOut struck).history = false ∧
      throughout leavesSafely (run contactBinding drivingOut struck).history = false := by
  decide +kernel

end RoborockPlus
