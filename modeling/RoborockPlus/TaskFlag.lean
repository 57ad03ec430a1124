import RoborockPlus.Ending
import RoborockPlus.Release
import RoborockPlus.Succession

/-! The task flag. Every opening sets it, whoever asked; the departure rule's close and
the end of a sequence clear it, whoever else still needs it. -/
namespace RoborockPlus
open Async GarageController GarageRuntime

def cleanCauses : List Cause := [.clean,.stage,.controlledExit]

/-- The calls that have been accepted with a clean and have not ended. Before it waits for
anything such a call looks at the door, and ends there and then where it cannot be read. -/
def preparing : List (Item Garage) → List ℕ
  | [] => []
  | .event t (.read (.asked .toOpen cause) seen) :: past =>
    if cause ∈ cleanCauses ∧ seen.controller.doorBlockedReason.isNone then t :: preparing past else preparing past
  | .finished u :: past | .failed u _ :: past => (preparing past).filter (· ≠ u)
  | _ :: past => preparing past

/-- A clean of this runtime is being prepared, or its sequence is live. -/
def active (past : List (Item Garage)) : Bool := !(preparing past).isEmpty || !(liveSequences past).isEmpty

/-- The task's last look at its clean ends the task flag: it found the clean over, or,
just `now`, gave up on its start. -/
def clears (t : ℕ) (now : Bool) : List (Item Garage) → Bool
  | [] => false
  | .resumed u _ :: past => clears t (now && u != t) past
  | .event u (.read .starting _) :: past => if u = t then now else clears t now past
  | .event u (.read .iteration _) :: past => if u = t then false else clears t now past
  | .event u (.read .finish seen) :: past =>
    if u = t then seen.controller.taskInProgress && rested seen else clears t now past
  | _ :: past => clears t now past

/-- The departure rule waits for the release behind its close, and then takes the clean
for over. -/
def releasesDeparted (t : ℕ) (past : List (Item Garage)) : Bool :=
  match own t past with
  | .waiting _ .coordinatorRefresh :: .resumed _ _ :: .waiting _ _ :: .event _ (.robot _ .departure _) ::
      .event _ (.succeeded .toClose .departure) :: _ => true
  | _ => false

/-- The door is open or not to be read, when this is asked for a clean. -/
def opensAtOnce (seen : GarageRuntime) : Bool :=
  seen.controller.openConfirmed || seen.controller.doorBlockedReason.isSome

/-- A door is told to open for a clean, or opens for a request or a routine, only beside a
clean that is active already; the departure rule never gets its close and its release
through, a preparation fails only beside another clean, and a sequence ends the task flag
just if it was the last. -/
def scopesFlag (past : List (Item Garage)) : Item Garage → Bool
  | .event _ (.read (.asked .toOpen cause) seen) => decide (cause ∉ cleanCauses) || opensAtOnce seen || active past
  | .event _ (.succeeded .toOpen cause) => decide (cause ∉ [.routine,.request]) || active past
  | .resumed t (.ok _) => !releasesDeparted t past
  | .finished t => decide (t ∉ liveSequences past) || clears t true past != active (.finished t :: past)
  | .failed t error => decide (t ∉ preparing past ∧ t ∉ liveSequences past) || active (.failed t error :: past)
  | _ => true

/-- In every state reached, the flag says whether a clean is active. -/
abbrev FlagPromise (p : Point Garage) : Prop :=
  throughout scopesFlag p.history = true → p.state.controller.taskInProgress = active p.history

def SameTask (s s' : GarageRuntime) : Prop := s'.controller.taskInProgress = s.controller.taskInProgress

/-- A look at the door for a clean. -/
def asksClean : Place → Bool
  | .asked .toOpen cause => decide (cause ∈ cleanCauses)
  | _ => false

/-- A look at the door for a clean, a success in opening, or a sequence's look at its clean. -/
def marks : Event → Bool
  | .read place _ => asksClean place || decide (place ∈ [.starting,.iteration,.finish])
  | .succeeded .toOpen _ => true
  | _ => false

/-- The coroutine leaves the flag alone, opens no door and is not a sequence. -/
abbrev Steady {α : Type} (m : Co Garage α) : Prop := m.Within SameTask fun (e : Event) => marks e = false

section Steady
variable {α : Type}

@[simp] theorem steady_get : @Co.Within Garage SameTask (fun (e : Event) => marks e = false) GarageRuntime Co.get := fun _ => rfl

@[simp] theorem steady_await (request : Request) :
    @Co.Within Garage SameTask (fun (e : Event) => marks e = false) Unit (.await request) := trivial

theorem steady_modify {f : GarageRuntime → GarageRuntime} (same : ∀ s, SameTask s (f s)) : Steady (.modify f) := same

theorem steady_refresh {place : Place} (other : place ∉ [.starting,.iteration,.finish]) (apart : asksClean place = false) :
    Steady (GarageController.refresh place) := by
  refine ⟨fun _ => rfl,fun _ => ⟨steady_get,fun s => ?_⟩⟩
  simp only [within_emit,marks,apart,Bool.false_or,decide_eq_false_iff_not]
  exact other

theorem steady_reportFailure (d : Direction) (cause : Cause) (error : Exc) : Steady (reportFailure d cause error) := by
  refine ⟨by cases d <;> rfl,fun _ => ?_⟩
  cases error with
  | control reason => trivial
  | other reason => exact ⟨fun _ => rfl,fun _ => trivial⟩
  | cancelled => trivial

theorem steady_moveDoor (d : Direction) (cause : Cause) : Steady (moveDoor d cause) := by
  refine ⟨fun _ => rfl,fun _ => ⟨steady_get,fun s => ?_⟩⟩
  dsimp only
  split
  · trivial
  · exact ⟨by cases d <;> rfl,fun _ => ⟨trivial,fun _ => trivial⟩⟩

theorem steady_waitFor (d : Direction) (cause : Cause) : Steady (waitFor d cause) := by
  refine ⟨steady_get,fun s => ?_⟩
  dsimp only
  split
  · trivial
  · refine ⟨steady_refresh (by simp) rfl,fun _ => ⟨steady_get,fun s => ?_⟩⟩
    dsimp only
    split_ifs <;> trivial

theorem steady_closeDoor (cause : Cause) : Steady (closeDoor cause) := by
  refine ⟨steady_refresh (by simp) rfl,fun _ => ⟨steady_get,fun s => ?_⟩⟩
  dsimp only
  split
  · exact ⟨fun _ => rfl,fun _ => trivial⟩
  split_ifs
  · trivial
  · exact ⟨fun _ => rfl,fun _ => rfl⟩
  · exact ⟨fun _ => rfl,fun _ => ⟨⟨fun _ => rfl,fun _ => ⟨steady_moveDoor _ _,fun _ => ⟨steady_waitFor _ _,fun _ =>
      ⟨fun _ => rfl,fun _ => rfl⟩⟩⟩⟩,steady_reportFailure _ _⟩⟩

theorem steady_writeEntity (n : ℕ) : Steady (writeEntity n) := by
  induction n with
  | zero => trivial
  | succ n ih => exact ⟨steady_refresh (by simp) rfl,fun _ => ih⟩

theorem steady_publish : Steady publish := by
  refine ⟨steady_get,fun s => ?_⟩
  dsimp only
  induction s.listeners with
  | nil => trivial
  | cons entity rest ih => exact ⟨steady_writeEntity _,fun _ => ih⟩

theorem steady_command (name : String) (params : List PyValue) (cause : Cause) :
    Steady (asyncControlCommand name params cause) := by
  refine ⟨steady_get,fun s => ?_⟩
  have allowed : Steady (do .modify (noteResume name); transmit name cause : Action) := by
    refine ⟨steady_modify fun s => ?_,fun _ => ⟨steady_get,fun s => ⟨rfl,fun _ => ⟨trivial,fun _ => ⟨trivial,fun _ => trivial⟩⟩⟩⟩⟩
    unfold noteResume
    split_ifs <;> rfl
  simp only [within_ite]
  exact ⟨fun _ => trivial,fun _ => ⟨fun _ => trivial,fun _ => ⟨fun _ => trivial,fun _ => allowed⟩⟩⟩

theorem steady_shutdown : Steady shutdown := by
  refine ⟨steady_get,fun s => ⟨fun _ => rfl,fun _ => ⟨rfl,fun _ => ?_⟩⟩⟩
  dsimp only
  split <;> trivial

theorem steady_body {call : Call} (send : ∀ command, call ≠ .asyncSend command)
    (stage : ∀ command timeoutMinutes, call ≠ .asyncStartStage command timeoutMinutes)
    (others : call ∉ [.asyncRoutine,.asyncRequestOpen,.finishSequence]) : Steady (body call) := by
  have syncs : Steady (.modify syncPhaseWithDoor) := by
    refine steady_modify fun s => ?_
    unfold syncPhaseWithDoor
    split_ifs <;> rfl
  cases call with
  | asyncStart => exact ⟨⟨trivial,fun _ => ⟨steady_refresh (by simp) rfl,fun _ => syncs⟩⟩,fun _ => steady_publish⟩
  | asyncSend command => exact absurd rfl (send command)
  | asyncStartStage command timeoutMinutes => exact absurd rfl (stage command timeoutMinutes)
  | asyncRequestClose =>
    refine ⟨steady_refresh (by simp) rfl,fun _ => ⟨steady_get,fun s => ?_⟩⟩
    dsimp only
    split_ifs
    · trivial
    · exact ⟨steady_closeDoor _,fun _ => steady_publish⟩
  | reset => exact ⟨steady_refresh (by simp) rfl,fun _ => ⟨fun _ => rfl,fun _ => steady_publish⟩⟩
  | onDoorChange => exact ⟨steady_refresh (by simp) rfl,fun _ => ⟨syncs,fun _ => steady_publish⟩⟩
  | readEntity entity => exact steady_writeEntity _
  | shutdown => exact steady_shutdown
  | _ => simp at others

end Steady

section
variable {t u : ℕ} {now : Bool} {p : Point Garage} {item : Item Garage} {past : List (Item Garage)}

def activates : Item Garage → Bool
  | .event _ (.read place _) => asksClean place
  | .spawned _ _ .finishSequence | .finished _ | .failed _ _ => true
  | _ => false

theorem preparing_event {e : Event} (apart : activates (.event u e) = false) :
    preparing (.event u e :: past) = preparing past := by
  cases e with
  | read place seen =>
    cases place with
    | asked d cause =>
      cases d with
      | toOpen =>
        have other : cause ∉ cleanCauses := of_decide_eq_false apart
        simp only [preparing,other,false_and,if_false]
      | toClose => rfl
    | _ => rfl
  | _ => rfl

theorem preparing_grows (e : Event) :
    preparing (.event u e :: past) = preparing past ∨ preparing (.event u e :: past) = u :: preparing past := by
  cases e with
  | read place seen =>
    cases place with
    | asked d cause =>
      cases d with
      | toOpen =>
        simp only [preparing]
        split_ifs
        · exact Or.inr rfl
        · exact Or.inl rfl
      | toClose => exact Or.inl rfl
    | _ => exact Or.inl rfl
  | _ => exact Or.inl rfl

theorem active_other (other : activates item = false) : active (item :: past) = active past := by
  rcases item with _ | _ | ⟨_,_,call⟩ | ⟨_,e⟩ | _ | _ | _ | _
  case spawned => cases call <;> first | rfl | simp [activates] at other
  case event => simp only [active,preparing_event other,liveSequences]
  all_goals first | rfl | simp [activates] at other

theorem active_live (live : t ∈ liveSequences past) : active past = true := by
  have some : liveSequences past ≠ [] := List.ne_nil_of_mem live
  simp [active,some]

theorem active_preparing (prepares : t ∈ preparing past) : active past = true := by
  have some : preparing past ≠ [] := List.ne_nil_of_mem prepares
  simp [active,some]

theorem active_ended (item : Item Garage) (ends : item = .finished t ∨ ∃ error, item = .failed t error)
    (apart : t ∉ preparing past) (other : t ∉ liveSequences past) : active (item :: past) = active past := by
  have same (tasks : List ℕ) (absent : t ∉ tasks) : tasks.filter (· ≠ t) = tasks :=
    List.filter_eq_self.mpr fun u member => by
      have different : u ≠ t := fun equal => absent (equal ▸ member)
      simpa using different
  rcases ends with rfl | ⟨error,rfl⟩
  · simp only [active,preparing,liveSequences,same _ apart,same _ other]
  · simp only [active,preparing,liveSequences,same _ apart,same _ other]

theorem preparing_mem (prepares : t ∈ preparing past) : ∃ e, .event t e ∈ past := by
  induction past with
  | nil => simp [preparing] at prepares
  | cons item past ih =>
    have later (old : t ∈ preparing past) : ∃ e, .event t e ∈ item :: past :=
      (ih old).imp fun e member => List.mem_cons_of_mem _ member
    rcases item with _ | _ | _ | ⟨v,e⟩ | _ | _ | _ | _
    case event =>
      rcases preparing_grows e with same | grown
      · exact later (same ▸ prepares)
      · rcases List.mem_cons.mp (grown ▸ prepares) with rfl | old
        · exact ⟨e,List.mem_cons_self⟩
        · exact later old
    case finished => exact later (List.mem_filter.mp prepares).1
    case failed => exact later (List.mem_filter.mp prepares).1
    all_goals exact later prepares

def looks (t : ℕ) : Item Garage → Bool
  | .resumed u _ | .event u (.read .starting _) | .event u (.read .iteration _) | .event u (.read .finish _) => u == t
  | _ => false

theorem clears_other (other : looks t item = false) : clears t now (item :: past) = clears t now past := by
  rcases item with _ | _ | _ | ⟨u,e⟩ | _ | ⟨u,answer⟩ | _ | _
  case event =>
    cases e with
    | read place seen => cases place <;> simp_all [clears,looks]
    | _ => rfl
  case resumed =>
    have foreign : (u != t) = true := by simpa [looks] using other
    rw [clears,foreign,Bool.and_true]
  all_goals rfl

theorem clears_now (cleared : clears t false past = true) : clears t true past = true := by
  induction past with
  | nil => simp [clears] at cleared
  | cons item past ih =>
    by_cases other : looks t item = false
    · rw [clears_other other] at cleared ⊢
      exact ih cleared
    rcases item with _ | _ | _ | ⟨u,e⟩ | _ | ⟨u,answer⟩ | _ | _
    case event =>
      cases e with
      | read place seen => cases place <;> simp_all [clears,looks]
      | _ => simp [looks] at other
    case resumed =>
      have own : u = t := by simpa [looks] using other
      simpa [clears,own] using cleared
    all_goals simp [looks] at other

theorem clears_foreign (foreign : item.owner ≠ some t) : clears t now (item :: past) = clears t now past := by
  apply clears_other
  rcases item with _ | _ | _ | ⟨u,e⟩ | _ | ⟨u,answer⟩ | _ | _
  case event =>
    have other : u ≠ t := fun same => foreign (congrArg some same)
    cases e with
    | read place seen => cases place <;> simp [looks,other]
    | _ => rfl
  case resumed =>
    have other : u ≠ t := fun same => foreign (congrArg some same)
    simp [looks,other]
  all_goals rfl

theorem clears_begun (begun : own t past = []) : clears t now past = false :=
  of_unowned (A := fun past => clears t now past = false) begun rfl fun _ _ foreign blank => (clears_foreign foreign).trans blank

theorem FlagPromise.push (held : FlagPromise p) (other : activates item = false) {s : GarageRuntime}
    (same : SameTask p.state s) : FlagPromise ⟨s,item :: p.history⟩ := by
  intro condition
  change s.controller.taskInProgress = active (item :: p.history)
  rw [active_other other,same]
  exact held ((throughout_cons _ _ _).mp condition).2

theorem FlagPromise.reread (held : FlagPromise p) {place : Place} (apart : asksClean place = false) :
    FlagPromise (RoborockPlus.reread t place p) := by
  have other : activates (.event t (.read place p.state.refresh)) = false := apart
  exact held.push other rfl

theorem activates_steady {e : Event} (quiet : marks e = false) : activates (.event t e) = false := by
  cases e with
  | read place seen =>
    simp only [marks,Bool.or_eq_false_iff] at quiet
    exact quiet.1
  | _ => rfl

theorem flagPromise_until (t : ℕ) : Ignores (Until FlagPromise t) t SameTask fun (e : Event) => marks e = false := by
  refine Until.ignores ?_ ?_ ?_ ?_
  · intro p s held same condition
    exact same.trans (held condition)
  · exact fun p e held quiet => held.push (activates_steady quiet) rfl
  · exact fun p request held => held.push rfl rfl
  · exact fun p answer held => held.push rfl rfl

theorem flagPromise_opened {cause : Cause} {s : GarageRuntime}
    (scope : cause ∈ [.routine,.request] ∨ t ∈ preparing p.history ∨ t ∈ liveSequences p.history)
    (flag : s.controller.taskInProgress = true) :
    FlagPromise ⟨s,.event t (.succeeded .toOpen cause) :: p.history⟩ := by
  intro condition
  refine flag.trans ?_
  have passes : scopesFlag p.history (.event t (.succeeded .toOpen cause)) = true := ((throughout_cons _ _ _).mp condition).1
  have before : active p.history = true := by
    rcases scope with beside | prepares | live
    · simpa [scopesFlag,beside] using passes
    · exact active_preparing prepares
    · exact active_live live
  exact ((active_other rfl).trans before).symm

theorem FlagPromise.failed {error : Exc} (held : FlagPromise p) : FlagPromise (p.push (.failed t error)) := by
  intro condition
  obtain ⟨now,before⟩ := (throughout_cons _ _ _).mp condition
  have flag : p.state.controller.taskInProgress = active p.history := held before
  by_cases apart : t ∉ preparing p.history ∧ t ∉ liveSequences p.history
  · exact flag.trans (active_ended _ (Or.inr ⟨error,rfl⟩) apart.1 apart.2).symm
  have was : active p.history = true := by
    rcases not_and_or.mp apart with prepares | live
    · exact active_preparing (not_not.mp prepares)
    · exact active_live (not_not.mp live)
  have still : active (.failed t error :: p.history) = true := by
    simpa only [scopesFlag,decide_eq_false apart,Bool.false_or] using now
  exact (flag.trans was).trans still.symm

/-- At its end a sequence has the flag set, unless its last look ended it. -/
structure Ends (t : ℕ) (p : Point Garage) : Prop where
  live : t ∈ liveSequences p.history
  flag : throughout scopesFlag p.history = true → p.state.controller.taskInProgress = !clears t true p.history

theorem Ends.of_kept (held : FlagPromise p) (live : t ∈ liveSequences p.history) (blank : clears t true p.history = false) :
    Ends t p := by
  refine ⟨live,fun condition => ?_⟩
  rw [blank,held condition]
  exact active_live live

theorem Ends.finished (ends : Ends t p) : FlagPromise (p.push (.finished t)) := by
  intro condition
  obtain ⟨now,before⟩ := (throughout_cons _ _ _).mp condition
  have flag : p.state.controller.taskInProgress = !clears t true p.history := ends.flag before
  have last : (clears t true p.history != active (.finished t :: p.history)) = true := by
    simpa [scopesFlag,ends.live] using now
  change p.state.controller.taskInProgress = active (.finished t :: p.history)
  rw [flag]
  revert last
  cases clears t true p.history <;> cases active (.finished t :: p.history) <;> simp

theorem FlagPromise.finished (held : FlagPromise p) (blank : clears t true p.history = false)
    (child : t ∈ preparing p.history → ∃ child ∈ liveSequences p.history, child ≠ t) : FlagPromise (p.push (.finished t)) := by
  by_cases live : t ∈ liveSequences p.history
  · exact (Ends.of_kept held live blank).finished
  intro condition
  have flag : p.state.controller.taskInProgress = active p.history := held ((throughout_cons _ _ _).mp condition).2
  refine flag.trans ?_
  by_cases prepares : t ∈ preparing p.history
  · obtain ⟨child,lives,other⟩ := child prepares
    have still : child ∈ liveSequences (.finished t :: p.history) := List.mem_filter.mpr ⟨lives,by simpa using other⟩
    exact (active_live lives).trans (active_live still).symm
  · exact (active_ended _ (Or.inl rfl) prepares live).symm

theorem looks_steady {e : Event} (quiet : marks e = false) : looks t (.event u e) = false := by
  cases e with
  | read place seen => cases place <;> first | rfl | simp [marks] at quiet
  | _ => rfl

/-- A task whose last look does not end the flag. -/
abbrev Blank (t : ℕ) (past : List (Item Garage)) : Prop := clears t true past = false

theorem blank_own (blank : Blank t past) (owned : item.owner = some t) (inside : item.Inside fun (e : Event) => marks e = false) :
    Blank t (item :: past) := by
  have resumed (answer : Except Exc Unit) : Blank t (.resumed t answer :: past) := by
    change clears t (true && t != t) past = false
    rw [bne_self_eq_false,Bool.and_false]
    by_contra cleared
    exact absurd (blank.symm.trans (clears_now ((Bool.not_eq_false _).mp cleared))) (by simp)
  rcases item with _ | _ | _ | ⟨u,e⟩ | _ | ⟨u,answer⟩ | _ | _
  case event => exact (clears_other (looks_steady inside)).trans blank
  case resumed =>
    obtain rfl : u = t := Option.some.inj owned
    exact resumed answer
  case started => exact inside.elim
  case finished => exact inside.elim
  case failed => exact inside.elim
  all_goals exact blank

theorem blank_ignores : Ignores (fun p => Blank t p.history) t SameTask fun (e : Event) => marks e = false :=
  Ignores.of_history (A := Blank t) fun _ _ owned inside blank => blank_own blank owned inside

theorem blank_stable (t : ℕ) : Stable t fun p : Point Garage => Blank t p.history :=
  Stable.of_history (A := Blank t) fun _ _ foreign blank => (clears_foreign foreign).trans blank

/-- A task that follows no clean and prepares none. -/
abbrev Bystander (t : ℕ) (p : Point Garage) : Prop := Blank t p.history ∧ t ∉ preparing p.history

theorem preparing_own (apart : t ∉ preparing past) (owned : item.owner = some t)
    (inside : item.Inside fun (e : Event) => marks e = false) : t ∉ preparing (item :: past) := by
  rcases item with _ | _ | _ | ⟨u,e⟩ | _ | _ | _ | _
  case event => rwa [preparing_event (activates_steady inside)]
  case finished => exact inside.elim
  case failed => exact inside.elim
  all_goals exact apart

theorem preparing_foreign (apart : t ∉ preparing past) (foreign : item.owner ≠ some t) : t ∉ preparing (item :: past) := by
  rcases item with _ | _ | _ | ⟨u,e⟩ | _ | _ | _ | _
  case event =>
    have other : t ≠ u := fun same => foreign (by rw [same]; rfl)
    rcases preparing_grows e with same | grown
    · rwa [same]
    · rw [grown]
      exact fun member => (List.mem_cons.mp member).elim other apart
  case finished => exact fun member => apart (List.mem_filter.mp member).1
  case failed => exact fun member => apart (List.mem_filter.mp member).1
  all_goals exact apart

theorem bystander_ignores : Ignores (Bystander t) t SameTask fun (e : Event) => marks e = false :=
  blank_ignores.and (Ignores.of_history (A := fun past => t ∉ preparing past) fun _ _ owned inside apart =>
    preparing_own apart owned inside)

theorem bystander_stable (t : ℕ) : Stable t (Bystander t) := by
  have apart : Stable t fun p : Point Garage => t ∉ preparing p.history :=
    Stable.of_history (A := fun past => t ∉ preparing past) fun _ _ foreign apart => preparing_foreign apart foreign
  exact fun p q both later => ⟨blank_stable t p q both.1 later,apart p q both.2 later⟩

abbrev Follows (t : ℕ) (p : Point Garage) : Prop := t ∈ liveSequences p.history

theorem follows_ignores {R : GarageRuntime → GarageRuntime → Prop} {S : Event → Prop} : Ignores (Follows t) t R S :=
  Ignores.of_history (A := fun past => t ∈ liveSequences past) fun item past _ inside live =>
    liveSequences_step live (by rintro rfl; exact inside) (by rintro error rfl; exact inside)

theorem follows_stable (t : ℕ) : Stable t (Follows t) :=
  Stable.of_history (A := fun past => t ∈ liveSequences past) fun item past foreign live =>
    liveSequences_step live (by rintro rfl; exact foreign rfl) (by rintro error rfl; exact foreign rfl)

theorem flagPromise_succeeds {F : Point Garage → Prop} {cause : Cause}
    (scope : ∀ p, F p → cause ∈ [.routine,.request] ∨ t ∈ preparing p.history ∨ t ∈ liveSequences p.history)
    (kept : ∀ p s, F p → F ⟨s,.event t (.succeeded .toOpen cause) :: p.history⟩) :
    Carries FlagPromise (fun p => F p ∧ Childless t p) t (do .modify opened; .emit (.succeeded .toOpen cause) : Action) := by
  intro p inv fact
  exact ⟨flagPromise_opened (s := opened p.state) (scope p fact.1) rfl,kept p _ fact.1,fact.2.push (by simp)⟩

section Pieces
variable {F : Point Garage → Prop} (framed : Ignores F t SameTask fun (e : Event) => marks e = false) (stable : Stable t F)
include framed stable

theorem flagPromise_steady {α : Type} {m : Co Garage α} (steady : Steady m) (alone : m.Alone) :
    Carries FlagPromise (fun p => F p ∧ Childless t p) t m :=
  alone.carries (Co.Within.carries (flagPromise_until t) framed stable steady)

theorem flagPromise_operates {cause : Cause}
    (scope : ∀ p, F p → cause ∈ [.routine,.request] ∨ t ∈ preparing p.history ∨ t ∈ liveSequences p.history)
    (kept : ∀ p s, F p → F ⟨s,.event t (.succeeded .toOpen cause) :: p.history⟩) :
    Carries FlagPromise (fun p => F p ∧ Childless t p) t (operate .toOpen cause opened) := by
  have steady {α : Type} {m : Co Garage α} (steady : Steady m) (alone : m.Alone) :
      Carries FlagPromise (fun p => F p ∧ Childless t p) t m := flagPromise_steady framed stable steady alone
  refine .attempt ?_ fun error => steady (steady_reportFailure _ _ error) (alone_reportFailure _ _ error)
  exact .bind (steady (fun _ => rfl) (alone_modify _)) fun _ => .bind (steady (steady_moveDoor _ _) (by simp [moveDoor])) fun _ =>
    .bind (steady (steady_waitFor _ _) (alone_waitFor _ _)) fun _ => flagPromise_succeeds scope kept

theorem flagPromise_opens {cause : Cause} (apart : cause ∉ cleanCauses)
    (scope : ∀ p, F p → cause ∈ [.routine,.request] ∨ t ∈ preparing p.history ∨ t ∈ liveSequences p.history)
    (kept : ∀ p s, F p → F ⟨s,.event t (.succeeded .toOpen cause) :: p.history⟩) :
    Carries FlagPromise (fun p => F p ∧ Childless t p) t (openDoor cause) := by
  have steady {α : Type} {m : Co Garage α} (steady : Steady m) (alone : m.Alone) :
      Carries FlagPromise (fun p => F p ∧ Childless t p) t m := flagPromise_steady framed stable steady alone
  refine .bind (steady (steady_refresh (by simp) (decide_eq_false apart)) (alone_refresh _)) fun _ =>
    .bind (steady steady_get alone_read) fun s => ?_
  split
  · exact steady ⟨fun _ => rfl,fun _ => trivial⟩ (by simp)
  exact .ite (fun _ => flagPromise_succeeds scope kept) fun _ =>
    .bind (steady (fun _ => rfl) (alone_modify _)) fun _ => flagPromise_operates framed stable scope kept

end Pieces

theorem wp_closes {cause : Cause} : wp (fun _ => True) t (closeDoor cause)
    (fun _ q => ∃ past, q.history = .event t (.succeeded .toClose cause) :: past)
    (fun error _ => ∀ reason, error ≠ .other reason) p := by
  apply wp_closeDoor (F := fun _ => True) .top .top .top
  · exact fun _ _ _ _ => by simp
  · exact fun _ _ _ _ _ => ⟨_,rfl⟩
  · exact fun _ _ _ _ _ => ⟨trivial,trivial⟩
  · exact fun _ _ _ _ _ _ => ⟨_,rfl⟩
  · exact fun _ _ _ error _ _ _ => error

section Calls

/-- A clean that was accepted, before its sequence is created. -/
abbrev Prepares (t : ℕ) (p : Point Garage) : Prop := Blank t p.history ∧ t ∈ preparing p.history

theorem preparing_step (prepares : t ∈ preparing past) (other : item ≠ .finished t) (lasting : ∀ error, item ≠ .failed t error) :
    t ∈ preparing (item :: past) := by
  rcases item with _ | _ | _ | ⟨u,e⟩ | _ | _ | u | ⟨u,error⟩
  case event =>
    rcases preparing_grows e with same | grown
    · rwa [same]
    · rw [grown]
      exact List.mem_cons_of_mem _ prepares
  case finished =>
    have foreign : t ≠ u := fun same => other (by rw [same])
    exact List.mem_filter.mpr ⟨prepares,by simpa using foreign⟩
  case failed =>
    have foreign : t ≠ u := fun same => lasting error (by rw [same])
    exact List.mem_filter.mpr ⟨prepares,by simpa using foreign⟩
  all_goals exact prepares

theorem prepares_ignores : Ignores (Prepares t) t SameTask fun (e : Event) => marks e = false :=
  blank_ignores.and (Ignores.of_history (A := fun past => t ∈ preparing past) fun item past _ inside prepares =>
    preparing_step prepares (by rintro rfl; exact inside) (by rintro error rfl; exact inside))

theorem prepares_stable (t : ℕ) : Stable t (Prepares t) := by
  have lasting : Stable t fun p : Point Garage => t ∈ preparing p.history :=
    Stable.of_history (A := fun past => t ∈ preparing past) fun item past foreign prepares =>
      preparing_step prepares (by rintro rfl; exact foreign rfl) (by rintro error rfl; exact foreign rfl)
  exact fun p q both later => ⟨blank_stable t p q both.1 later,lasting p q both.2 later⟩

/-- What a call may end with: it prepares no clean, or leaves a sequence behind. -/
structure HandsOver (t : ℕ) (p : Point Garage) : Prop where
  promise : FlagPromise p
  blank : Blank t p.history
  child : t ∈ preparing p.history → ∃ child ∈ liveSequences p.history, child ≠ t

theorem prepares_creates (held : FlagPromise p) (fact : Prepares t p ∧ Childless t p) :
    wp FlagPromise t createSequence (fun _ => HandsOver t)
      (fun _ q => FlagPromise q ∧ Blank t q.history ∧ Childless t q) p := by
  unfold createSequence
  rw [wp_bind]
  refine wp_mono (flagPromise_steady prepares_ignores (prepares_stable t) steady_publish alone_publish p held fact) ?_
    (fun _ _ both => ⟨both.1,both.2.1.1,both.2.2⟩)
  rintro _ q ⟨held,⟨blank,prepares⟩,_⟩ n fresh
  have child : n ≠ t := by
    obtain ⟨cause,member⟩ := preparing_mem prepares
    rintro rfl
    exact fresh _ member (by simp [Item.names])
  have lives : n ∈ liveSequences (.spawned t n .finishSequence :: q.history) := List.mem_cons_self
  refine ⟨fun condition => ?_,blank_own blank rfl trivial,fun _ => ⟨n,lives,child⟩⟩
  have flag : q.state.controller.taskInProgress = active q.history := held ((throughout_cons _ _ _).mp condition).2
  exact (flag.trans (active_preparing prepares)).trans (active_live lives).symm

/-- The door is opened for a clean: at once, or beside a clean that is active already. -/
theorem prepares_opened {cause : Cause} (member : cause ∈ cleanCauses)
    (held : FlagPromise p) (fact : Blank t p.history ∧ Childless t p) :
    wp FlagPromise t (openDoor cause) (fun _ q => FlagPromise q ∧ Prepares t q ∧ Childless t q)
      (fun _ q => FlagPromise q ∧ Blank t q.history ∧ Childless t q) p := by
  have blank : Blank t (reread t (.asked .toOpen cause) p).history := (clears_other rfl).trans fact.1
  have childless : Childless t (reread t (.asked .toOpen cause) p) := fact.2.push (by simp)
  have scope (q : Point Garage) (prepares : Prepares t q) :
      cause ∈ [.routine,.request] ∨ t ∈ preparing q.history ∨ t ∈ liveSequences q.history := Or.inr (Or.inl prepares.2)
  have kept (q : Point Garage) (s : GarageRuntime) (prepares : Prepares t q) :
      Prepares t ⟨s,.event t (.succeeded .toOpen cause) :: q.history⟩ := ⟨(clears_other rfl).trans prepares.1,prepares.2⟩
  unfold openDoor
  rw [wp_bind,wp_refresh,wp_bind,wp_get]
  split
  next reason blocked =>
    have blocked : p.state.refresh.controller.doorBlockedReason.isNone = false := by
      rw [show p.state.refresh.controller.doorBlockedReason = some reason from blocked]
      rfl
    have same : preparing (reread t (.asked .toOpen cause) p).history = preparing p.history := by
      simp [reread,preparing,blocked]
    refine ⟨fun condition => ?_,blank,childless⟩
    have flag : p.state.controller.taskInProgress = active p.history := held ((throughout_cons _ _ _).mp condition).2
    refine Eq.trans (b := p.state.controller.taskInProgress) rfl (flag.trans ?_)
    simp only [active,same]
    rfl
  next readable =>
  have readable : p.state.refresh.controller.doorBlockedReason = none := readable
  have prepares : Prepares t (reread t (.asked .toOpen cause) p) := ⟨blank,by simp [reread,preparing,member,readable]⟩
  rw [wp_ite]
  split
  · exact ⟨flagPromise_opened (s := opened p.state.refresh) (scope _ prepares) rfl,kept _ _ prepares,childless.push (by simp)⟩
  next shut =>
  have shut : p.state.refresh.controller.openConfirmed = false := (Bool.not_eq_true _).mp shut
  have beside : FlagPromise (reread t (.asked .toOpen cause) p) := by
    intro condition
    obtain ⟨now,before⟩ := (throughout_cons _ _ _).mp condition
    have flag : p.state.controller.taskInProgress = active p.history := held before
    have already : active p.history = true := by simpa [scopesFlag,opensAtOnce,member,readable,shut] using now
    exact (flag.trans already).trans (active_preparing prepares.2).symm
  have operates : Carries FlagPromise (fun q => Prepares t q ∧ Childless t q) t (operate .toOpen cause opened) :=
    flagPromise_operates prepares_ignores (prepares_stable t) scope kept
  have setting : Carries FlagPromise (fun q => Prepares t q ∧ Childless t q) t (.modify (GarageRuntime.setPhase .opening)) :=
    flagPromise_steady prepares_ignores (prepares_stable t) (fun _ => rfl) (alone_modify _)
  have moves := Carries.bind setting (fun _ => operates) _ beside ⟨prepares,childless⟩
  exact wp_mono moves (fun _ _ both => both) fun _ _ both => ⟨both.1,both.2.1.1,both.2.2⟩

theorem flagPromise_exits : Carries FlagPromise (fun p => Blank t p.history ∧ Childless t p) t runControlledExit := by
  have steady {α : Type} {m : Co Garage α} (steady : Steady m) (alone : m.Alone) :
      Carries FlagPromise (fun p => Blank t p.history ∧ Childless t p) t m :=
    flagPromise_steady blank_ignores (blank_stable t) steady alone
  have opens : Carries FlagPromise (fun p => Blank t p.history ∧ Childless t p) t (openDoor .controlledExit) := fun p held fact =>
    wp_mono (prepares_opened (by simp [cleanCauses]) held fact) (fun _ _ both => ⟨both.1,both.2.1.1,both.2.2⟩) (fun _ _ both => both)
  refine .bind (steady steady_get alone_read) fun s => ?_
  split
  · exact steady trivial (by simp)
  refine .bind (steady (steady_refresh (by simp) rfl) (alone_refresh _)) fun _ => .bind (.bind opens fun _ =>
    .bind (steady (fun _ => rfl) (alone_modify _)) fun _ => .bind (steady steady_publish alone_publish) fun _ =>
    steady (steady_command _ _ _) (alone_command _ _ _)) fun _ => .bind (steady steady_get alone_read) fun s =>
    .bind (steady ?_ (by simp [lookForWaypoint])) fun _ => .bind (steady (steady_closeDoor _) (alone_closeDoor _)) fun _ =>
    .bind (steady (fun _ => rfl) (alone_modify _)) fun _ => steady steady_publish alone_publish
  refine ⟨steady_refresh (by simp) rfl,fun _ => ⟨steady_get,fun s => ?_⟩⟩
  dsimp only
  split_ifs <;> trivial

theorem flagPromise_clean {command : String} (held : FlagPromise p) (bystander : Bystander t p) (childless : Childless t p) :
    wp FlagPromise t (asyncSend command .clean (sendCommand (some command))) (fun _ => HandsOver t) (fun _ => FlagPromise) p := by
  have steady : Steady (sendCommand (some command)) := ⟨rfl,fun _ => ⟨trivial,fun _ => trivial⟩⟩
  have alone : (sendCommand (some command)).Alone := by simp [sendCommand]
  have direct := flagPromise_steady bystander_ignores (bystander_stable t) steady alone p held ⟨bystander,childless⟩
  have sends : wp FlagPromise t (asyncSend command .clean (sendCommand (some command))) (fun _ => HandsOver t)
      (fun _ q => FlagPromise q ∧ Blank t q.history ∧ Childless t q) p := by
    refine wp_asyncSend (F := fun q => Blank t q.history ∧ Childless t q) (H := fun q => Prepares t q ∧ Childless t q)
      (G := fun q => FlagPromise q ∧ Prepares t q ∧ Childless t q) (fun q both => ⟨both.1.1,both.2⟩) flagPromise_exits
      (fun q held fact => prepares_opened (by simp [cleanCauses]) held fact) ?_ ?_ ?_ (fun q both => prepares_creates both.1 both.2)
      held ⟨bystander.1,childless⟩
    · exact flagPromise_steady prepares_ignores (prepares_stable t) steady_publish alone_publish
    · refine fun _ => wp_mono direct ?_ (fun _ _ both => ⟨both.1,both.2.1.1,both.2.2⟩)
      exact fun _ q both => ⟨both.1,both.2.1.1,fun prepares => absurd prepares both.2.1.2⟩
    · exact fun _ => flagPromise_steady prepares_ignores (prepares_stable t) steady alone
  exact wp_mono sends (fun _ _ done => done) (fun _ _ both => both.1)

theorem flagPromise_stage {command : String} {timeoutMinutes : Option PyValue} (held : FlagPromise p)
    (blank : Blank t p.history) (childless : Childless t p) :
    wp FlagPromise t (asyncStartStage command timeoutMinutes) (fun _ _ => False) (fun _ => FlagPromise) p := by
  have stage : wp FlagPromise t (asyncStartStage command timeoutMinutes) (fun _ _ => False)
      (fun _ q => FlagPromise q ∧ Blank t q.history ∧ Childless t q) p :=
    wp_asyncStartStage (F := fun q => Blank t q.history ∧ Childless t q) (H := fun q => Prepares t q ∧ Childless t q)
      (fun q both => ⟨both.1.1,both.2⟩) flagPromise_exits (fun q held fact => prepares_opened (by simp [cleanCauses]) held fact)
      (flagPromise_steady prepares_ignores (prepares_stable t) steady_publish alone_publish)
      (flagPromise_steady blank_ignores (blank_stable t) steady_publish alone_publish)
      (fun q result held both => ⟨held,both⟩) held ⟨blank,childless⟩
  exact wp_mono stage (fun _ _ never => never) (fun _ _ both => both.1)

theorem flagPromise_others {call : Call} (send : ∀ command, call ≠ .asyncSend command)
    (stage : ∀ command timeoutMinutes, call ≠ .asyncStartStage command timeoutMinutes) (sequence : call ≠ .finishSequence) :
    Carries FlagPromise (fun p => Bystander t p ∧ Childless t p) t (body call) := by
  have steady {α : Type} {m : Co Garage α} (steady : Steady m) (alone : m.Alone) :
      Carries FlagPromise (fun p => Bystander t p ∧ Childless t p) t m :=
    flagPromise_steady bystander_ignores (bystander_stable t) steady alone
  have opens {cause : Cause} (beside : cause ∈ [.routine,.request]) :
      Carries FlagPromise (fun p => Bystander t p ∧ Childless t p) t (openDoor cause) := by
    refine flagPromise_opens bystander_ignores (bystander_stable t) ?_ (fun _ _ => Or.inl beside) fun p s both =>
      ⟨(clears_other rfl).trans both.1,both.2⟩
    rcases List.mem_cons.mp beside with rfl | last
    · simp [cleanCauses]
    · obtain rfl := List.mem_singleton.mp last
      simp [cleanCauses]
  have published := steady steady_publish alone_publish
  by_cases routine : call = .asyncRoutine
  · subst routine
    exact .bind (opens (by simp)) fun _ => .bind published fun _ =>
      .guarded (steady ⟨rfl,fun _ => ⟨trivial,fun _ => trivial⟩⟩ (by simp [sendCommand])) published
  by_cases request : call = .asyncRequestOpen
  · subst request
    exact .bind (opens (by simp)) fun _ => published
  exact steady (steady_body send stage (by simp [routine,request,sequence])) (alone_body send stage)

end Calls

section Sequences

abbrev Following (t : ℕ) (p : Point Garage) : Prop := (Blank t p.history ∧ Follows t p) ∧ Childless t p

/-- A sequence that raises, other than by its cancellation, has not cleared the flag. -/
structure Raised (t : ℕ) (error : Exc) (p : Point Garage) : Prop where
  promise : FlagPromise p
  follows : Follows t p
  childless : Childless t p
  blank : error = .cancelled ∨ Blank t p.history

theorem following_steady {α : Type} {m : Co Garage α} (steady : Steady m) (alone : m.Alone) :
    Carries FlagPromise (Following t) t m :=
  flagPromise_steady (blank_ignores.and follows_ignores)
    (fun p q both later => ⟨blank_stable t p q both.1 later,follows_stable t p q both.2 later⟩) steady alone

theorem following_opens {cause : Cause} (apart : cause ∉ cleanCauses) : Carries FlagPromise (Following t) t (openDoor cause) :=
  flagPromise_opens (blank_ignores.and follows_ignores)
    (fun p q both later => ⟨blank_stable t p q both.1 later,follows_stable t p q both.2 later⟩) apart
    (fun _ both => Or.inr (Or.inr both.2)) fun _ _ both => ⟨(clears_other rfl).trans both.1,both.2⟩

theorem following_return : Carries FlagPromise (Following t) t handleReturn := by
  have phase (phase : Phase) : Carries FlagPromise (Following t) t (.modify (GarageRuntime.setPhase phase)) :=
    following_steady (fun _ => rfl) (alone_modify _)
  have robot (name : String) : Carries FlagPromise (Following t) t (asyncControlCommand name [] .returning) :=
    following_steady (steady_command _ _ _) (alone_command _ _ _)
  have read {place : Place} (other : place ∉ [.starting,.iteration,.finish]) (apart : asksClean place = false) :
      Carries FlagPromise (Following t) t (GarageController.refresh place) :=
    following_steady (steady_refresh other apart) (alone_refresh _)
  have done {α : Type} (value : α) : Carries FlagPromise (Following t) t (pure value) :=
    following_steady trivial (alone_pure _)
  have rule : Carries FlagPromise (Following t) t (updateReturning (pauseRobot .returning) (resumeRobot .returning)) := by
    refine .bind (read (by simp) rfl) fun _ => .bind (following_steady steady_get alone_read) fun s => .ite (fun _ => done ()) fun _ =>
      .ite (fun _ => done ()) fun _ => .bind (phase .pausingReturn) fun _ => .bind (robot _) fun _ =>
      .bind (read (by simp) rfl) fun _ => .bind (following_steady steady_get alone_read) fun s => .ite (fun _ => ?_) fun _ => ?_
    · exact following_steady ⟨fun _ => rfl,fun _ => trivial⟩ (by simp)
    · exact .bind (phase .opening) fun _ => .bind (following_opens (by simp [cleanCauses])) fun _ => .bind (phase .resumingReturn) fun _ =>
        .bind (robot _) fun _ => phase .outside
  refine .bind (read (by simp) rfl) fun _ => .bind (following_steady steady_get alone_read) fun s => .ite (fun _ => done false) fun _ =>
    .bind (.attempt rule fun error => ?_) fun _ => .bind (following_steady steady_publish alone_publish) fun _ => done true
  cases error with
  | control reason => exact done ()
  | other reason => exact following_steady trivial (alone_throw _)
  | cancelled => exact following_steady trivial (alone_throw _)

/-- A departure that gets through is what the condition rules out. -/
abbrev Departed (p : Point Garage) : Prop := throughout scopesFlag p.history = false

theorem wp_departed (closed : own t p.history = .event t (.succeeded .toClose .departure) :: past) :
    wp (fun _ => True) t (resumeRobot .departure) (fun _ => Departed) (fun _ _ => True) p := by
  unfold resumeRobot asyncControlCommand
  rw [wp_bind,wp_get,wp_ite,if_neg (by simp),wp_ite,if_neg (by simp),wp_ite]
  split
  · trivial
  rw [wp_bind,wp_modify]
  unfold transmit
  rw [wp_bind,wp_get,wp_bind,wp_emit]
  refine ⟨trivial,fun q _ later answer => ?_⟩
  cases answer with
  | error error => trivial
  | ok reply =>
    refine ⟨trivial,fun r _ again answer => ?_⟩
    cases answer with
    | error error => trivial
    | ok value =>
      have releases : releasesDeparted t r.history = true := by
        unfold releasesDeparted
        rw [again.own,Point.push_history,own_cons_self _ rfl,Point.push_history,own_cons_self _ rfl,later.own,
          Point.push_history,own_cons_self _ rfl,Point.push_history,own_cons_self _ rfl]
        simp only [closed]
      change throughout scopesFlag (.resumed t (.ok value) :: r.history) = false
      simp [throughout,scopesFlag,releases]

theorem following_departure (handled : Bool) : Carries FlagPromise (Following t) t (handleDeparture handled) := by
  have robot (name : String) : Steady (asyncControlCommand name [] .departure) := steady_command _ _ _
  have done {α : Type} (value : α) : Carries FlagPromise (Following t) t (pure value) :=
    following_steady trivial (alone_pure _)
  have read {place : Place} (other : place ∉ [.starting,.iteration,.finish]) (apart : asksClean place = false) :
      Carries FlagPromise (Following t) t (GarageController.refresh place) :=
    following_steady (steady_refresh other apart) (alone_refresh _)
  have behind (p : Point Garage) (held : FlagPromise p) (fact : Following t p) :
      wp FlagPromise t (closeBehind (some (pauseRobot .departure,resumeRobot .departure)))
        (fun closed q => (FlagPromise q ∧ Following t q) ∧ (closed = true → Departed q))
        (fun _ q => FlagPromise q ∧ Following t q) p := by
    unfold closeBehind pauseOpenCloseResume
    rw [wp_bind,wp_modify,wp_bind]
    refine wp_mono (following_steady (robot "app_pause") (alone_command _ _ _) _ held fact) (fun _ q both => ?_) (fun _ _ both => both)
    rw [wp_bind]
    refine wp_mono (read (by simp) rfl q both.1 both.2) (fun _ q both => ?_) (fun _ _ both => both)
    rw [wp_bind,wp_get,wp_ite]
    split
    · exact ⟨both,by simp⟩
    have close := following_steady (t := t) (steady_closeDoor .departure) (alone_closeDoor _) q both.1 both.2
    rw [wp_guarded,wp_attempt,wp_bind]
    refine wp_mono (wp_join (fun _ _ => trivial) wp_closes close) ?_ ?_
    · rintro _ r ⟨⟨past,same⟩,held,fact⟩
      have closed : own t r.history = .event t (.succeeded .toClose .departure) :: own t past := by
        rw [same,own_cons_self _ rfl]
      have release := following_steady (t := t) (robot "app_resume") (alone_command _ _ _) r held fact
      rw [wp_pure]
      refine wp_mono (wp_join (fun _ _ => trivial) (wp_departed closed) release) ?_ (fun _ _ both => both.2)
      exact fun _ _ both => ⟨both.2,fun _ => both.1⟩
    · rintro error r ⟨_,held,fact⟩
      have resumes (q : Point Garage) (held : FlagPromise q) (fact : Following t q) :
          wp FlagPromise t (resumeRobot .departure) (fun _ q => FlagPromise q ∧ Following t q)
            (fun _ q => FlagPromise q ∧ Following t q) q :=
        following_steady (robot "app_resume") (alone_command _ _ _) q held fact
      cases error with
      | control reason =>
        rw [noted,wp_bind,wp_modify,wp_pure]
        exact wp_mono (resumes ⟨_,r.history⟩ held fact) (fun _ _ both => ⟨both,by simp⟩) (fun _ _ both => both)
      | other reason =>
        rw [noted,wp_throw]
        · exact resumes r held fact
        · simp
      | cancelled =>
        rw [noted,wp_throw]
        · exact resumes r held fact
        · simp
  refine .ite (fun _ => done true) fun _ => .bind (read (by simp) rfl) fun _ => .bind (following_steady steady_get alone_read) fun s =>
    .ite (fun _ => done false) fun _ => .ite (fun _ => ?_) fun _ => .ite (fun _ => ?_) fun _ => ?_
  · exact following_steady ⟨fun _ => rfl,fun _ => trivial⟩ (by simp)
  · exact following_steady ⟨fun _ => rfl,fun _ => trivial⟩ (by simp)
  intro p held fact
  rw [wp_bind]
  refine wp_mono (behind p held fact) ?_ (fun _ _ both => both)
  rintro closed q ⟨⟨held,fact⟩,departed⟩
  cases closed with
  | false => exact ⟨held,fact⟩
  | true => exact ⟨fun condition => absurd (condition.symm.trans (departed rfl)) (by simp),fact⟩

theorem raised_of_following {error : Exc} (held : FlagPromise p) (following : Following t p) : Raised t error p :=
  ⟨held,following.1.2,following.2,Or.inr following.1.1⟩

/-- A sequence whose last look found its clean over. -/
abbrev Past (t : ℕ) (p : Point Garage) : Prop := clears t false p.history = true ∧ Follows t p

theorem past_ignores : Ignores (Past t) t SameTask fun (e : Event) => marks e = false := by
  refine Ignores.and (Ignores.of_history (A := fun past => clears t false past = true) fun item past _ inside cleared => ?_) follows_ignores
  rcases item with _ | _ | _ | ⟨u,e⟩ | _ | ⟨u,answer⟩ | _ | _
  case event => exact (clears_other (looks_steady inside)).trans cleared
  case started => exact inside.elim
  case finished => exact inside.elim
  case failed => exact inside.elim
  all_goals exact cleared

theorem past_stable (t : ℕ) : Stable t (Past t) := by
  have cleared : Stable t fun p : Point Garage => clears t false p.history = true :=
    Stable.of_history (A := fun past => clears t false past = true) fun _ _ foreign cleared => (clears_foreign foreign).trans cleared
  exact fun p q both later => ⟨cleared p q both.1 later,follows_stable t p q both.2 later⟩

theorem Ends.of_past (found : Past t p) {s : GarageRuntime} (flag : s.controller.taskInProgress = false) :
    Ends t ⟨s,p.history⟩ := by
  refine ⟨found.2,fun _ => ?_⟩
  rw [clears_now found.1]
  exact flag

theorem following_finish (held : FlagPromise p) (follows : Follows t p) (childless : Childless t p) :
    wp FlagPromise t sequenceFinished (fun ended q => if ended then Ends t q else FlagPromise q ∧ Following t q) (Raised t) p := by
  have read : FlagPromise (reread t .finish p) := held.reread rfl
  have live : Follows t (reread t .finish p) := follows
  have none : Childless t (reread t .finish p) := childless.push (by simp)
  have look (now : Bool) : clears t now (reread t .finish p).history = (p.state.controller.taskInProgress && rested p.state.refresh) := by
    simp [reread,clears]
    rfl
  have goesOn (blank : (p.state.controller.taskInProgress && rested p.state.refresh) = false) :
      Following t (reread t .finish p) := ⟨⟨(look true).trans blank,live⟩,none⟩
  unfold sequenceFinished finishRules
  rw [wp_bind,wp_refresh,wp_bind,wp_get,wp_ite]
  split
  next foreign =>
    have foreign : p.state.controller.taskInProgress = false := foreign
    exact ⟨read,goesOn (by rw [foreign,Bool.false_and])⟩
  next ours =>
  have ours : p.state.controller.taskInProgress = true := (Bool.not_eq_false _).mp ours
  rw [wp_ite]
  split
  next running =>
    have running : p.state.refresh.controller.taskRunning = true := running
    have following := goesOn (by simp [rested,running])
    rw [wp_ite]
    split
    · rw [wp_ite]
      split
      · exact ⟨read,following⟩
      rw [wp_attempt,wp_bind]
      refine wp_mono (following_opens (by simp [cleanCauses]) _ read following) (fun _ _ both => both) fun error q both => ?_
      cases error with
      | control reason => exact both
      | other reason => exact raised_of_following both.1 both.2
      | cancelled => exact raised_of_following both.1 both.2
    · exact ⟨read,following⟩
  next idle =>
  have idle : p.state.refresh.controller.taskRunning = false := (Bool.not_eq_true _).mp idle
  rw [wp_ite]
  split
  next away =>
    have away : p.state.refresh.controller.robotDocked = false := away
    exact ⟨read,goesOn (by simp [rested,away])⟩
  next docked =>
  have docked : p.state.refresh.controller.robotDocked = true := (Bool.not_eq_false _).mp docked
  have found : Past t (reread t .finish p) := ⟨(look false).trans (by simp [ours,rested,idle,docked]),live⟩
  rw [wp_ite]
  split
  · exact Ends.of_past found rfl
  rw [wp_ite]
  split
  · exact Ends.of_past found rfl
  have close := flagPromise_steady past_ignores (past_stable t) (steady_closeDoor .finished) (alone_closeDoor _) _ read ⟨found,none⟩
  rw [wp_attempt,wp_bind]
  refine wp_mono (wp_join (fun _ _ => trivial) wp_closes close) (fun _ q both => Ends.of_past both.2.2.1 rfl) fun error q both => ?_
  cases error with
  | control reason => exact Ends.of_past both.2.2.1 rfl
  | other reason => exact absurd rfl (both.1 reason)
  | cancelled => exact ⟨both.2.1,both.2.2.1.2,both.2.2.2,Or.inl rfl⟩

theorem following_wait {request : Request} (held : FlagPromise p) (follows : Follows t p) (childless : Childless t p)
    (going : clears t false p.history = false) :
    Suspends FlagPromise t request (fun _ q => FlagPromise q ∧ Following t q) (Raised t) p := by
  refine ⟨held.push rfl rfl,fun q inv later answer => ?_⟩
  have waits : Childless t (p.push (.waiting t request)) := childless.push (by simp)
  have quiet : Stable t fun p : Point Garage => clears t false p.history = false :=
    Stable.of_history (A := fun past => clears t false past = false) fun _ _ foreign quiet => (clears_foreign foreign).trans quiet
  have blank : Blank t (q.push (.resumed t answer)).history := by
    change clears t (true && t != t) q.history = false
    rw [bne_self_eq_false,Bool.and_false]
    exact quiet (p.push (.waiting t request)) q going later
  have following : Following t (q.push (.resumed t answer)) :=
    ⟨⟨blank,follows_stable t (p.push (.waiting t request)) q follows later⟩,(Childless.stable t _ _ waits later).push (by simp)⟩
  have resumed : FlagPromise (q.push (.resumed t answer)) := inv.push rfl rfl
  cases answer with
  | ok reply => exact ⟨resumed,following⟩
  | error error => exact raised_of_following resumed following

theorem Blank.going (blank : Blank t past) : clears t false past = false := by
  by_contra cleared
  exact absurd (blank.symm.trans (clears_now ((Bool.not_eq_false _).mp cleared))) (by simp)

structure Rounds (t : ℕ) (p : Point Garage) : Prop where
  promise : FlagPromise p
  follows : Follows t p
  childless : Childless t p
  ends : p.state.closed = true → Blank t p.history

theorem rounds_of_following (held : FlagPromise p) (following : Following t p) : Rounds t p :=
  ⟨held,following.1.2,following.2,fun _ => following.1.1⟩

theorem rounds_rules (rounds : Rounds t p) :
    wp FlagPromise t applyRules (fun ended q => if ended then Ends t q else FlagPromise q ∧ Following t q) (Raised t) p := by
  have raises {α : Type} {m : Co Garage α} {Q : α → Point Garage → Prop} {p : Point Garage} (carries : Carries FlagPromise (Following t) t m)
      (both : FlagPromise p ∧ Following t p) (onward : ∀ value q, FlagPromise q ∧ Following t q → Q value q) :
      wp FlagPromise t m Q (Raised t) p :=
    wp_mono (carries p both.1 both.2) onward fun _ _ both => raised_of_following both.1 both.2
  have read : FlagPromise (reread t .iteration p) := rounds.promise.reread rfl
  have looked : Following t (reread t .iteration p) := by
    refine ⟨⟨?_,rounds.follows⟩,rounds.childless.push (by simp)⟩
    simp [Blank,reread,clears]
  unfold applyRules
  rw [wp_bind,wp_refresh,wp_bind]
  refine raises following_return ⟨read,looked⟩ fun handled q both => ?_
  rw [wp_bind]
  refine raises (following_departure handled) both fun _ q both => ?_
  rw [wp_bind]
  refine raises (following_steady steady_publish alone_publish) both fun _ q both => ?_
  exact following_finish both.1 both.2.1.2 both.2.2

theorem Ends.iterated (ends : Ends t p) : Ends t (p.push (.event t .iterated)) :=
  ⟨ends.live,fun condition => ends.flag ((throughout_cons _ _ _).mp condition).2⟩

theorem rounds_iterate {start : ℚ} {timeout : PyFloat} (rounds : Rounds t p) :
    wp FlagPromise t (iterate start timeout) (fun found q => match found with
      | some _ => Ends t q
      | none => FlagPromise q ∧ Following t q) (Raised t) p := by
  refine wp_iterate (R := fun ended q => if ended then Ends t q else FlagPromise q ∧ Following t q) (E := Raised t) ?_ (fun _ => rounds_rules rounds) ?_ ?_ ?_
  · exact fun closed => .of_kept rounds.promise rounds.follows (rounds.ends closed)
  · exact fun q ends => Ends.iterated ends
  · rintro found q ⟨held,following⟩
    have pushed : FlagPromise (q.push (.event t .iterated)) := held.push rfl rfl
    cases found with
    | some value => exact .of_kept pushed following.1.2 following.1.1
    | none => exact ⟨pushed,following.1,following.2.push (by simp)⟩
  · rintro error q ⟨held,follows,childless,blank⟩
    exact ⟨held.push rfl rfl,follows,childless.push (by simp),blank⟩

theorem following_start (held : FlagPromise p) (following : Following t p) :
    wp FlagPromise t awaitCleanStarted (fun started q => if started then Rounds t q else Ends t q) (Raised t) p := by
  unfold awaitCleanStarted
  rw [wp_bind,wp_get]
  refine wp_poll FlagPromise t p (fun q => FlagPromise q ∧ Following t q) ⟨held,following⟩ fun q both => ?_
  unfold lookForStart
  rw [wp_bind,wp_get,wp_ite]
  split
  · exact .of_kept both.1 both.2.1.2 both.2.1.1
  next running =>
  let r := reread t .starting q
  have read : FlagPromise r := both.1.reread rfl
  have live : Follows t r := both.2.1.2
  have none : Childless t r := both.2.2.push (by simp)
  have look (now : Bool) : clears t now r.history = now := by simp [r,reread,clears]
  rw [wp_bind,wp_refresh,wp_bind,wp_get,wp_ite]
  split
  · exact ⟨read,live,none,fun closed => absurd closed running⟩
  rw [wp_ite]
  split
  · refine ⟨live,fun _ => ?_⟩
    change false = !clears t true r.history
    rw [look]
    rfl
  · exact following_wait read live none (look false)

theorem following_sequence (held : FlagPromise p) (following : Following t p) :
    wp FlagPromise t finishSequence (fun _ => Ends t) (fun _ => FlagPromise) p := by
  have publishes {Q : Unit → Point Garage → Prop} {X : Exc → Point Garage → Prop} {G : Point Garage → Prop} {q : Point Garage}
      (step : ∀ q, G q → G (reread t .entity q)) (held : G q) (onward : ∀ q, G q → Q () q) : wp FlagPromise t publish Q X q :=
    wp_mono (wp_publish (X := fun _ _ => False) (fun _ => step) held) (fun _ => onward) (fun _ _ never => never.elim)
  have ends (q : Point Garage) (ends : Ends t q) :
      wp FlagPromise t publish (fun _ => Ends t) (fun _ => FlagPromise) q :=
    publishes (fun q ends => ⟨ends.live,fun condition => ends.flag ((throughout_cons _ _ _).mp condition).2⟩) ends
      fun _ ends => ends
  unfold finishSequence
  rw [wp_bind,wp_get]
  split
  · exact held
  next minutes _ =>
  have follows : wp FlagPromise t (do
      let started ← awaitCleanStarted
      if started then .poll (iterate p.state.world.clock (atLeastOneSecond minutes)) (.sleep 1)
      else pure ()) (fun _ => Ends t) (Raised t) p := by
    rw [wp_bind]
    refine wp_mono (following_start held following) ?_ (fun _ _ raised => raised)
    rintro started q after
    cases started with
    | false => exact after
    | true =>
      refine wp_poll FlagPromise t q (Rounds t) after fun q rounds => wp_mono (rounds_iterate rounds) ?_ (fun _ _ raised => raised)
      rintro found q after
      cases found with
      | some value => exact after
      | none =>
        refine Suspends.mono (following_wait after.1 after.2.1.2 after.2.2 after.2.1.1.going) ?_ (fun _ _ raised => raised)
        exact fun _ q both => rounds_of_following both.1 both.2
  rw [wp_guarded,wp_attempt]
  refine wp_mono follows (fun _ q after => ends q after) fun error q raised => ?_
  cases error with
  | control reason => exact ends q (.of_kept raised.promise raised.follows (raised.blank.resolve_left (by simp)))
  | other reason => exact ends q (.of_kept raised.promise raised.follows (raised.blank.resolve_left (by simp)))
  | cancelled => exact publishes (fun _ held => held.reread rfl) raised.promise fun _ held => held

end Sequences

theorem flagPromise_keeps : Preserves program FlagPromise where
  outside input p held condition := by
    have flag : p.state.controller.taskInProgress = active p.history := held ((throughout_cons _ _ _).mp condition).2
    refine Eq.trans ?_ flag
    cases input <;> rfl
  dropped t p held _ := held.failed
  body call t p held begun origin := by
    have started : FlagPromise (p.push (.started t call)) := held.push rfl rfl
    have entered : own t (p.push (.started t call)).history = [.started t call] := by
      rw [Point.push_history,own_cons_self _ rfl,begun]
    have childless : Childless t (p.push (.started t call)) := .begun entered
    have blank (now : Bool) : clears t now (p.push (.started t call)).history = false :=
      (clears_other rfl).trans (clears_begun begun)
    have apart : t ∉ preparing (p.push (.started t call)).history := by
      intro prepares
      obtain ⟨e,member⟩ := preparing_mem prepares
      have mine : .event t e ∈ own t (p.push (.started t call)).history :=
        List.mem_filter.mpr ⟨member,by simp [Item.owner]⟩
      rw [entered] at mine
      simp at mine
    by_cases sequence : call = .finishSequence
    · subst sequence
      obtain ⟨parent,spawned⟩ := origin.resolve_left (by simp [program])
      have live : t ∈ liveSequences p.history := liveSequences_mem ⟨parent,spawned⟩ begun
      have carried := following_sequence started ⟨⟨blank true,live⟩,childless⟩
      exact wp_mono carried (fun _ _ ends => ends.finished) (fun _ _ held => held.failed)
    have bystander : Bystander t (p.push (.started t call)) := ⟨blank true,apart⟩
    by_cases send : ∃ command, call = .asyncSend command
    · obtain ⟨command,rfl⟩ := send
      exact wp_mono (flagPromise_clean started bystander childless)
        (fun _ _ ready => ready.promise.finished ready.blank ready.child) (fun _ _ held => held.failed)
    by_cases stage : ∃ command timeoutMinutes, call = .asyncStartStage command timeoutMinutes
    · obtain ⟨command,timeoutMinutes,rfl⟩ := stage
      exact wp_mono (flagPromise_stage started (blank true) childless) (fun _ _ never => never.elim) (fun _ _ held => held.failed)
    have carried := flagPromise_others (fun command same => send ⟨command,same⟩)
      (fun command minutes same => stage ⟨command,minutes,same⟩) sequence _ started ⟨bystander,childless⟩
    refine wp_mono carried (fun _ q both => ?_) (fun _ _ both => both.1.failed)
    exact both.1.finished both.2.1.1 fun prepares => absurd prepares both.2.1.2

end

/-- In every run that meets the condition, the task flag is set just while a clean is
prepared or followed. -/
theorem task_flag_scoped (binding : Binding) (world : World) (schedule : List (Label Garage))
    (condition : throughout scopesFlag (run binding world schedule).history = true) :
    (run binding world schedule).state.controller.taskInProgress = active (run binding world schedule).history :=
  flagPromise_keeps.exec (GarageRuntime.init binding world) (fun _ => rfl) schedule condition

theorem task_flag_scoped_to_the_end :
    (run contactBinding cleaningInside (comesHome true)).state.controller.taskInProgress = true ∧
      (run contactBinding cleaningInside closesAtHome).state.controller.taskInProgress = false :=
  ⟨(task_flag_scoped contactBinding cleaningInside (comesHome true) (by decide +kernel)).trans (by decide +kernel),
    (task_flag_scoped contactBinding cleaningInside closesAtHome (by decide +kernel)).trans (by decide +kernel)⟩

/-- A request finds the door open, and leaves the flag of a clean that nobody sent. -/
theorem request_sets_task_flag :
    (run contactBinding dockedBehindOpen [.call .asyncRequestOpen]).state.controller.taskInProgress = true ∧
      active (run contactBinding dockedBehindOpen [.call .asyncRequestOpen]).history = false := by
  decide +kernel

example : throughout scopesFlag (run contactBinding dockedBehindOpen [.call .asyncRequestOpen]).history = false := by
  decide +kernel

/-- Nor is the flag set while the door opens for the first clean. -/
example :
    let opening := run contactBinding (contactWorld "closed" false true (statusOf .charging false) 0) [.call (.asyncSend "app_start")]
    (opening.state.controller.taskInProgress = false ∧ active opening.history = true) ∧
      throughout scopesFlag opening.history = false := by
  decide +kernel

end RoborockPlus
