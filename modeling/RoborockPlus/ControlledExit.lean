import RoborockPlus.StageCompletion

/-! The controlled exit. The wait at its waypoint asks the robot's observation for a position
that no observation has, so it ends with its deadline, wherever the robot is. -/
namespace RoborockPlus
open Async GarageController GarageRuntime

def sentOut (t : ℕ) : List (Item Garage) → Option ℚ
  | [] => none
  | .event u (.robot _ .controlledExit utc) :: past => if u = t then some utc else sentOut t past
  | _ :: past => sentOut t past

/-- What the task has looked at on its way there, the last look first. -/
def exitPolls (t : ℕ) : List (Item Garage) → List World
  | [] => []
  | .event u (.read .exitPoll seen) :: past =>
    if u = t ∧ (sentOut t past).isSome then seen.world :: exitPolls t past else exitPolls t past
  | _ :: past => exitPolls t past

/-- A fresh and trusted position at the waypoint, sampled since the robot was sent there. -/
def World.atWaypoint (w : World) (settings : ExitSettings) (sent : ℚ) : Bool :=
  w.fresh && w.positionSample.any (decide <| sent ≤ ·) &&
    match w.trustedPosition with
    | some (x,y,_) => MapPoint.within ⟨.finite x,.finite y⟩ ⟨.finite settings.x,.finite settings.y⟩ 400
    | none => false

/-- The deadline runs from the first look. -/
def inTime (settings : ExitSettings) (worlds : List World) (w : World) : Bool :=
  worlds.getLast?.any fun first => !elapsed first.clock settings.timeout w.clock

def arrived (binding : Binding) (t : ℕ) (past : List (Item Garage)) : Bool :=
  match controlledExitSettings binding, sentOut t past with
  | some settings, some sent => (exitPolls t past).any fun w => w.atWaypoint settings sent && inTime settings (exitPolls t past) w
  | _, _ => false

def pollsLast (t : ℕ) : List (Item Garage) → Bool
  | [] => false
  | .event u (.read place _) :: past => if u = t then place == .exitPoll else pollsLast t past
  | _ :: past => pollsLast t past

def shutBehind (t : ℕ) (past : List (Item Garage)) : Bool :=
  past.any fun | .event u (.succeeded .toClose .waypoint) => u == t | _ => false

/-- Once it has seen its robot arrive, the call waits for that no more, does not fail, opens the
door only after its clean went out, and sends that behind the door it has closed at the waypoint. -/
def comesThrough (binding : Binding) : List (Item Garage) → Item Garage → Bool
  | past, .waiting t _ => !arrived binding t past || !pollsLast t past
  | past, .failed t _ => !arrived binding t past
  | past, .event t (.cover .toOpen _) => !arrived binding t past || sentBy t past
  | past, .event t (.sent _) => !arrived binding t past || shutBehind t past
  | past, .finished t => !arrived binding t past || shutBehind t past && sentBy t past
  | _, _ => true

/-- No call waits or ends that has seen its robot arrive. -/
def neverArrives (binding : Binding) : List (Item Garage) → Item Garage → Bool
  | past, .waiting t _ | past, .failed t _ | past, .finished t => !arrived binding t past
  | _, _ => true

section
variable {binding : Binding} {t : ℕ} {item : Item Garage} {past : List (Item Garage)} {p : Point Garage}

theorem exitPolls_home (home : sentOut t past = none) : exitPolls t past = [] := by
  induction past with
  | nil => rfl
  | cons item past ih =>
    rcases item with _ | _ | _ | ⟨u,_ | _ | _ | _ | _ | _ | _ | _⟩ | _ | _ | _ | _
    case event.read place seen =>
      have before : sentOut t past = none := home
      cases place <;> first | exact ih before | simp [exitPolls,before,ih before]
    case event.robot name cause utc =>
      cases cause
      case controlledExit =>
        by_cases mine : u = t
        · simp [sentOut,mine] at home
        · exact ih (by simpa [sentOut,mine] using home)
      all_goals exact ih home
    all_goals exact ih home

theorem arrived_home (home : sentOut t past = none) : arrived binding t past = false := by
  unfold arrived
  rw [home]
  split <;> simp_all

/-- An entry that neither sends the task's robot out nor looks for it. -/
def Apart (t : ℕ) (item : Item Garage) : Prop :=
  ∀ e, item = .event t e → e.kind ≠ .robot .controlledExit ∧ ∀ seen, e ≠ .read .exitPoll seen

theorem sentOut_apart (apart : ∀ e, item = .event t e → e.kind ≠ .robot .controlledExit) :
    sentOut t (item :: past) = sentOut t past := by
  rcases item with _ | _ | _ | ⟨u,_ | _ | _ | _ | ⟨name,cause,utc⟩ | _ | _ | _⟩ | _ | _ | _ | _
  case event.robot =>
    cases cause
    case controlledExit =>
      have other : u ≠ t := by
        rintro rfl
        exact apart _ rfl rfl
      exact if_neg other
    all_goals rfl
  all_goals rfl

theorem exitPolls_apart (apart : ∀ seen, item ≠ .event t (.read .exitPoll seen)) : exitPolls t (item :: past) = exitPolls t past := by
  rcases item with _ | _ | _ | ⟨u,⟨place,seen⟩ | _ | _ | _ | _ | _ | _ | _⟩ | _ | _ | _ | _
  case event.read =>
    cases place
    case exitPoll =>
      have other : u ≠ t := by
        rintro rfl
        exact apart seen rfl
      exact if_neg fun both => other both.1
    all_goals rfl
  all_goals rfl

theorem arrived_apart (apart : Apart t item) : arrived binding t (item :: past) = arrived binding t past := by
  have left : sentOut t (item :: past) = sentOut t past := sentOut_apart fun e same => (apart e same).1
  have seen : exitPolls t (item :: past) = exitPolls t past := exitPolls_apart fun seen same => (apart _ same).2 seen rfl
  rw [arrived,arrived,left,seen]

theorem Apart.foreign (foreign : item.owner ≠ some t) : Apart t item := by
  rintro e rfl
  exact absurd rfl foreign

/-- The two checks go together, and the binding stays what it was. -/
structure Parallel (binding : Binding) (p : Point Garage) : Prop where
  checks : throughout (comesThrough binding) p.history = throughout (neverArrives binding) p.history
  binding : p.state.binding = binding

def Home (t : ℕ) (p : Point Garage) : Prop := sentOut t p.history = none

/-- It was sent out at this time, and not looked for yet. -/
def Leaving (sent : ℚ) (t : ℕ) (p : Point Garage) : Prop := sentOut t p.history = some sent ∧ exitPolls t p.history = []

def Unarrived (binding : Binding) (t : ℕ) (p : Point Garage) : Prop :=
  throughout (neverArrives binding) p.history = true → arrived binding t p.history = false

namespace Parallel

theorem moves (held : Parallel binding p) {s : GarageRuntime} (same : SameWorld p.state s) :
    Parallel binding {p with state := s} := ⟨held.checks,same.binding.trans held.binding⟩

theorem push (held : Parallel binding p) (same : throughout (neverArrives binding) p.history = true →
      comesThrough binding p.history item = neverArrives binding p.history item) : Parallel binding (p.push item) :=
  ⟨throughout_agree held.checks same,held.binding⟩

theorem quiet (held : Parallel binding p) (owned : item.owner = some t) (unarrived : Unarrived binding t p) :
    Parallel binding (p.push item) := by
  refine held.push fun so => ?_
  have away := unarrived so
  rcases item with _ | _ | _ | ⟨u,_ | ⟨d,_⟩ | _ | _ | _ | _ | _ | _⟩ | _ | _ | _ | _
  case outside => simp [Item.owner] at owned
  case event.cover => cases d <;> simp_all [comesThrough,neverArrives,Item.owner]
  all_goals simp_all [comesThrough,neverArrives,Item.owner]

end Parallel

theorem Home.unarrived (home : Home t p) : Unarrived binding t p := fun _ => arrived_home home

theorem Leaving.unarrived {sent : ℚ} (leaving : Leaving sent t p) : Unarrived binding t p := by
  intro _
  unfold arrived
  rw [leaving.2]
  split <;> rfl

theorem leaving_apart {sent : ℚ} (apart : Apart t item) (leaving : sentOut t past = some sent ∧ exitPolls t past = []) :
    sentOut t (item :: past) = some sent ∧ exitPolls t (item :: past) = [] :=
  ⟨(sentOut_apart fun e same => (apart e same).1).trans leaving.1,
    (exitPolls_apart fun seen same => (apart _ same).2 seen rfl).trans leaving.2⟩

theorem Leaving.stable (sent : ℚ) (t : ℕ) : Stable t (Leaving sent t) :=
  Stable.of_history (A := fun past => sentOut t past = some sent ∧ exitPolls t past = []) fun _ _ foreign leaving =>
    leaving_apart (.foreign foreign) leaving

theorem Unarrived.push (unarrived : Unarrived binding t p) (apart : Apart t item) : Unarrived binding t (p.push item) :=
  fun so => (arrived_apart apart).trans (unarrived ((throughout_cons _ _ _).mp so).2)

theorem Home.push (home : Home t p) (apart : ∀ e, item = .event t e → e.kind ≠ .robot .controlledExit) : Home t (p.push item) :=
  (sentOut_apart apart).trans home

theorem Home.stable (t : ℕ) : Stable t (Home t) :=
  Stable.of_history (A := fun past => sentOut t past = none) fun _ _ foreign home =>
    (sentOut_apart fun e same => absurd (by rw [same]; rfl) foreign).trans home

theorem Unarrived.stable (t : ℕ) : Stable t (Unarrived binding t) :=
  .under _ (Stable.of_history (A := fun past => arrived binding t past = false) fun _ _ foreign away =>
    (arrived_apart (.foreign foreign)).trans away)

/-- The task's own entries matter to a fact alone, where the fact keeps the robot unarrived. -/
theorem parallel_blind {F : Point Garage → Prop} {S : Event → Prop} (unarrived : ∀ p, F p → Unarrived binding t p)
    (moves : ∀ (p : Point Garage) s, F p → F {p with state := s})
    (push : ∀ (p : Point Garage) item, item.owner = some t → item.Inside S → F p → F (p.push item)) :
    Ignores (fun p => Parallel binding p ∧ F p) t SameWorld S := by
  refine .of_push (fun p s both same => ⟨both.1.moves same,moves p s both.2⟩) fun p item owned inside both => ?_
  exact ⟨both.1.quiet owned (unarrived p both.2),push p item owned inside both.2⟩

theorem home_carries {S : Event → Prop} {α : Type} {m : Co Garage α} (inside : m.Within SameWorld S)
    (apart : ∀ e, S e → e.kind ≠ .robot .controlledExit) : Carries (Parallel binding) (Home t) t m := by
  refine Co.Within.carries_both (parallel_blind (fun _ => Home.unarrived) (fun _ _ home => home) ?_) (Home.stable t) inside
  rintro p item owned inside home
  refine home.push ?_
  rintro e rfl
  exact apart e inside

theorem home_emits {α : Type} {m : Co Garage α} (kinds : List Kind) (inside : Emits kinds m)
    (apart : .robot .controlledExit ∉ kinds) : Carries (Parallel binding) (Home t) t m := by
  refine home_carries (inside.mono (fun _ _ frame => ⟨frame.world,frame.binding⟩) fun _ member => member) ?_
  intro e member same
  rw [same] at member
  exact apart member

theorem leaving_carries {sent : ℚ} {α : Type} {m : Co Garage α} (inside : m.Within SameWorld fun (_ : Event) => False) :
    Carries (Parallel binding) (Leaving sent t) t m := by
  refine Co.Within.carries_both (parallel_blind (fun _ => Leaving.unarrived) (fun _ _ leaving => leaving) ?_)
    (Leaving.stable sent t) inside
  rintro p item owned inside leaving
  refine leaving_apart ?_ leaving
  rintro e rfl
  exact inside.elim

theorem unarrived_publish (held : Parallel binding p) (unarrived : Unarrived binding t p) :
    wp (Parallel binding) t publish (fun _ q => Parallel binding q ∧ Unarrived binding t q)
      (fun _ q => Parallel binding q ∧ Unarrived binding t q) p := by
  refine wp_publish (G := fun q => Parallel binding q ∧ Unarrived binding t q) (fun _ q both => ?_) ⟨held,unarrived⟩
  have apart : Apart t (.event t (.read .entity q.state.refresh)) := by
    rintro e ⟨⟩
    exact ⟨by simp [Event.kind],by simp⟩
  have moved : Parallel binding {q with state := q.state.refresh} := both.1.moves ⟨rfl,rfl⟩
  exact ⟨moved.quiet rfl both.2,both.2.push apart⟩

structure Searching (sent start : ℚ) (t : ℕ) (past : List (Item Garage)) : Prop where
  left : sentOut t past = some sent
  first : ∃ w, (exitPolls t past).getLast? = some w ∧ w.clock = start

/-- The loop has its deadline from the clock of its first look, which is due now or past. -/
def Looking (sent start : ℚ) (t : ℕ) (p : Point Garage) : Prop :=
  Leaving sent t p ∧ p.state.world.clock = start ∨ Searching sent start t p.history

section Looking
variable {sent start : ℚ} {settings : ExitSettings}

theorem exitPolls_look (left : sentOut t p.history = some sent) :
    exitPolls t (reread t .exitPoll p).history = p.state.world :: exitPolls t p.history :=
  if_pos ⟨rfl,by rw [left]; rfl⟩

theorem Looking.left (looking : Looking sent start t p) : sentOut t p.history = some sent := by
  obtain ⟨leaving,_⟩ | searching := looking
  · exact leaving.1
  · exact searching.left

theorem Looking.look (looking : Looking sent start t p) : Searching sent start t (reread t .exitPoll p).history := by
  refine ⟨looking.left,?_⟩
  rw [exitPolls_look looking.left]
  obtain ⟨leaving,now⟩ | searching := looking
  · rw [leaving.2]
    exact ⟨_,rfl,now⟩
  · obtain ⟨w,last,clock⟩ := searching.first
    exact ⟨w,by rw [List.getLast?_cons,last]; rfl,clock⟩

theorem Searching.stable (sent start : ℚ) (t : ℕ) : Stable t fun p : Point Garage => Searching sent start t p.history := by
  refine .of_history fun item past foreign searching => ?_
  have apart : Apart t item := .foreign foreign
  refine ⟨(sentOut_apart fun e same => (apart e same).1).trans searching.left,?_⟩
  rw [exitPolls_apart fun seen same => (apart _ same).2 seen rfl]
  exact searching.first

theorem inTime_searching {past : List (Item Garage)} (searching : Searching sent start t past) (w : World) :
    inTime settings (exitPolls t past) w = !elapsed start settings.timeout w.clock := by
  obtain ⟨first,last,clock⟩ := searching.first
  rw [inTime,last,← clock]
  rfl

theorem arrived_late (found : controlledExitSettings binding = some settings) (looking : Looking sent start t p)
    (late : elapsed start settings.timeout p.state.world.clock = true) (away : arrived binding t p.history = false) :
    arrived binding t (reread t .exitPoll p).history = false := by
  have before : ∀ w ∈ exitPolls t p.history,
      (w.atWaypoint settings sent && inTime settings (exitPolls t p.history) w) = false := by
    unfold arrived at away
    rw [found,looking.left] at away
    exact fun w member => Bool.eq_false_iff.mpr (List.any_eq_false.mp away w member)
  have searching := looking.look
  have left : sentOut t (reread t .exitPoll p).history = some sent := searching.left
  have unseen : ∀ w ∈ exitPolls t (reread t .exitPoll p).history,
      (w.atWaypoint settings sent && inTime settings (exitPolls t (reread t .exitPoll p).history) w) = false := by
    intro w member
    rw [inTime_searching searching]
    rw [exitPolls_look looking.left] at member
    obtain rfl | old := List.mem_cons.mp member
    · rw [late,Bool.not_true,Bool.and_false]
    · obtain ⟨leaving,_⟩ | looked := looking
      · rw [leaving.2] at old
        exact absurd old List.not_mem_nil
      · rw [← inTime_searching looked]
        exact before w old
  unfold arrived
  rw [found,left]
  exact List.any_eq_false.mpr fun w member => Bool.eq_false_iff.mp (unseen w member)

theorem unarrived_waited {request : Request} : Unarrived binding t (p.push (.waiting t request)) := by
  intro so
  have away := ((throughout_cons _ _ _).mp so).1
  rw [Point.push_history,arrived_apart fun e same => by simp at same]
  simpa [neverArrives] using away

/-- No look finds a position, so the loop ends with its deadline, or with the call. -/
theorem waypoint_fails (found : controlledExitSettings binding = some settings) (held : Parallel binding p)
    (leaving : Leaving sent t p) (now : p.state.world.clock = start) :
    wp (Parallel binding) t (.poll (lookForWaypoint settings start) (.sleep (1/5))) (fun _ _ => False)
      (fun _ q => Parallel binding q ∧ Unarrived binding t q) p := by
  refine wp_poll _ t p (fun q => Parallel binding q ∧ Unarrived binding t q ∧ Looking sent start t q)
    ⟨held,leaving.unarrived,Or.inl ⟨leaving,now⟩⟩ ?_
  rintro q ⟨held,unarrived,looking⟩
  have moved : Parallel binding {q with state := q.state.refresh} := held.moves ⟨rfl,rfl⟩
  have read : Parallel binding (reread t .exitPoll q) := moved.push fun _ => rfl
  have searching : Searching sent start t (reread t .exitPoll q).history := looking.look
  unfold lookForWaypoint
  rw [wp_bind,wp_refresh,wp_bind,wp_get]
  simp only [RobotObservation.position,Bool.false_eq_true,if_false]
  rw [wp_ite]
  split
  next late =>
    refine ⟨read,fun so => arrived_late found looking late (unarrived ?_)⟩
    exact ((throughout_cons _ _ _).mp so).2
  next =>
    rw [wp_pure]
    -- the last entry is a look, so the wait is one for the waypoint
    have waiting : Parallel binding ((reread t .exitPoll q).push (.waiting t (.sleep (1/5)))) := by
      refine read.push fun _ => ?_
      have polls : pollsLast t (reread t .exitPoll q).history = true := if_pos rfl
      simp [comesThrough,neverArrives,polls]
    refine ⟨waiting,fun r held later answer => ?_⟩
    have unarrived : Unarrived binding t r := Unarrived.stable t _ _ unarrived_waited later
    have resumed : Parallel binding (r.push (.resumed t answer)) := held.quiet rfl unarrived
    have still : Unarrived binding t (r.push (.resumed t answer)) := unarrived.push fun e same => by simp at same
    have looked : Searching sent start t ((reread t .exitPoll q).push (.waiting t (.sleep (1/5)))).history := ⟨searching.left,searching.first⟩
    have searching : Searching sent start t r.history := Searching.stable sent start t _ _ looked later
    cases answer with
    | ok reply => exact ⟨resumed,still,Or.inr ⟨searching.left,searching.first⟩⟩
    | error error => exact ⟨resumed,still⟩

theorem goes_leaving {x y : ℤ} (held : Parallel binding p) (home : Home t p) :
    wp (Parallel binding) t (asyncControlCommand "app_goto_target" [.int x,.int y] .controlledExit)
      (fun _ q => Parallel binding q ∧ ∃ sent, Leaving sent t q)
      (fun _ q => Parallel binding q ∧ Unarrived binding t q) p := by
  have waits (sent : ℚ) : Carries (Parallel binding) (Leaving sent t) t
      (do let _ ← .await (.robotCommand "app_goto_target"); let _ ← .await .coordinatorRefresh : Action) :=
    leaving_carries ⟨trivial,fun _ => ⟨trivial,fun _ => trivial⟩⟩
  unfold asyncControlCommand
  rw [wp_bind,wp_get,wp_ite,if_neg (by decide),wp_ite,if_neg (by simp [invalidTarget]),wp_ite]
  split
  · exact ⟨held,home.unarrived⟩
  rw [wp_bind,wp_modify]
  unfold transmit
  rw [wp_bind,wp_get,wp_bind,wp_emit]
  have left (utc : ℚ) : Leaving utc t (p.push (.event t (.robot "app_goto_target" .controlledExit utc))) :=
    ⟨if_pos rfl,(exitPolls_apart (by simp)).trans (exitPolls_home home)⟩
  have sent (utc : ℚ) : Parallel binding (p.push (.event t (.robot "app_goto_target" .controlledExit utc))) :=
    held.quiet rfl home.unarrived
  refine wp_mono (waits p.state.world.utc _ (sent _) (left _)) (fun _ q both => ⟨both.1,_,both.2⟩) ?_
  exact fun _ q both => ⟨both.1,both.2.unarrived⟩

theorem exit_fails (held : Parallel binding p) (home : Home t p) :
    wp (Parallel binding) t runControlledExit (fun _ _ => False) (fun _ q => Parallel binding q ∧ Unarrived binding t q) p := by
  have athome (q : Point Garage) (both : Parallel binding q ∧ Home t q) : Parallel binding q ∧ Unarrived binding t q :=
    ⟨both.1,both.2.unarrived⟩
  have reads : Emits [.read] publish := emits_publish (by simp)
  unfold runControlledExit
  rw [wp_bind,wp_get]
  split
  · exact athome p ⟨held,home⟩
  next settings found =>
  rw [held.binding] at found
  have starts : Emits [.read] (GarageController.refresh .exitStart) := emits_refresh (by simp) (by simp)
  have refreshed := home_emits [.read] starts (by simp) p held home
  rw [wp_bind]
  refine wp_mono refreshed (fun _ q both => ?_) (fun _ q both => athome q both)
  unfold leaveForWaypoint
  rw [wp_bind,wp_bind]
  have opened := home_emits (openKinds .controlledExit) (emits_openDoor (List.Subset.refl _)) (by simp [openKinds]) q both.1 both.2
  refine wp_mono opened (fun _ q both => ?_) (fun _ q both => athome q both)
  rw [wp_bind,wp_modify,wp_bind]
  have published := home_emits [.read] reads (by simp) {q with state := setPhase .controlledExit q.state}
    (both.1.moves ⟨rfl,rfl⟩) both.2
  refine wp_mono published (fun _ q both => ?_) (fun _ q both => athome q both)
  refine wp_mono (goes_leaving both.1 both.2) (fun _ q gone => ?_) (fun _ q both => both)
  obtain ⟨held,sent,leaving⟩ := gone
  rw [wp_bind,wp_get,wp_bind]
  exact wp_mono (waypoint_fails found held leaving rfl) (fun _ q never => never.elim) (fun _ q both => both)

end Looking

theorem parallel_send {name : String} {cause : Cause} {send : Action} (held : Parallel binding p) (home : Home t p)
    (sends : Emits [.sent] send) :
    wp (Parallel binding) t (asyncSend name cause send) (fun _ q => Parallel binding q ∧ Home t q)
      (fun _ q => Parallel binding q ∧ Unarrived binding t q) p := by
  have opens : Carries (Parallel binding) (Home t) t (openDoor cause) :=
    home_emits (openKinds cause) (emits_openDoor (List.Subset.refl _)) (by simp [openKinds])
  have published : Carries (Parallel binding) (Home t) t publish := home_emits [.read] (emits_publish (by simp)) (by simp)
  have sent : Carries (Parallel binding) (Home t) t send := home_emits [.sent] sends (by simp)
  have creates : Emits [.read] createSequence :=
    ⟨emits_publish (by simp),fun _ => ⟨trivial,fun _ => emits_modify fun _ => ⟨rfl,rfl,rfl⟩⟩⟩
  refine wp_asyncSend_out (G := fun q => Parallel binding q ∧ Home t q) (fun _ home => home) (fun _ held home => ⟨held,home.unarrived⟩) ?_
    opens published (fun _ => sent p held home) (fun _ => sent) ?_ held home
  · exact wp_mono (exit_fails held home) (fun _ q never => never.elim) (fun _ q both => both)
  · exact fun q both => home_emits [.read] creates (by simp) q both.1 both.2

theorem parallel_stage {command : String} {timeoutMinutes : Option PyValue} (held : Parallel binding p) (home : Home t p) :
    wp (Parallel binding) t (asyncStartStage command timeoutMinutes) (fun _ q => Parallel binding q ∧ Home t q)
      (fun _ q => Parallel binding q ∧ Unarrived binding t q) p := by
  rw [← startStage_sendStage]
  have noted (result : StageResult) : Emits [] (.modify (noteStage result)) := emits_modify fun _ => ⟨rfl,rfl,rfl⟩
  refine wp_startStage (K := Home t) (fun _ home => home.unarrived) (fun _ => ?_) ?_ (fun result => home_emits [] (noted result) (by simp))
    (fun result q held unarrived => ⟨held.moves ⟨rfl,rfl⟩,unarrived⟩) (home_emits [.read] (emits_publish (by simp)) (by simp))
    (fun q held unarrived => unarrived_publish held unarrived) held home.unarrived
  · exact parallel_send held home trivial
  · intro q held home
    refine wp_mono (home_emits [.read] (emits_awaitStage (by simp)) (by simp) q held home) (fun _ _ both => both) ?_
    exact fun _ q both => ⟨both.1,both.2.unarrived⟩

theorem sentOut_empty {past : List (Item Garage)} (empty : own t past = []) : sentOut t past = none :=
  of_unowned (A := fun past => sentOut t past = none) empty rfl fun _ _ foreign home =>
    (sentOut_apart fun e same => absurd (by rw [same]; rfl) foreign).trans home

theorem parallel_keeps (binding : Binding) : Preserves program (Parallel binding) where
  outside input p held := by
    have pushed : Parallel binding (p.push (.outside input)) := held.push fun _ => rfl
    refine ⟨pushed.checks,?_⟩
    cases input <;> exact pushed.binding
  dropped t p held empty := held.quiet rfl (Home.unarrived (sentOut_empty empty))
  body call t p held empty _ := by
    have begun : Parallel binding (p.push (.started t call)) := held.push fun _ => rfl
    have home : Home t (p.push (.started t call)) := Home.push (sentOut_empty empty) fun e same => by simp at same
    have ends : wp (Parallel binding) t (body call) (fun _ q => Parallel binding q ∧ Unarrived binding t q)
        (fun _ q => Parallel binding q ∧ Unarrived binding t q) (p.push (.started t call)) := by
      by_cases exits : .robot .controlledExit ∈ call.kinds
      · cases call with
        | asyncSend command =>
          refine wp_mono (parallel_send begun home (emits_sendCommand (by simp))) ?_ (fun _ _ both => both)
          exact fun _ q both => ⟨both.1,both.2.unarrived⟩
        | asyncStartStage command timeoutMinutes =>
          refine wp_mono (parallel_stage begun home) ?_ (fun _ _ both => both)
          exact fun _ q both => ⟨both.1,both.2.unarrived⟩
        | _ => simp [Call.kinds,openKinds,closeKinds,sequenceKinds,returnKinds,departureKinds,finishKinds] at exits
      · have carried := home_carries (body_kinds call) (fun e member same => exits (same ▸ member)) _ begun home
        exact wp_mono carried (fun _ q both => ⟨both.1,both.2.unarrived⟩) (fun _ q both => ⟨both.1,both.2.unarrived⟩)
    exact wp_mono ends (fun _ q both => both.1.quiet rfl both.2) (fun _ q both => both.1.quiet rfl both.2)

end

/-- Over every run: a robot that arrives in time has its clean sent through a closed door just
if none ever arrives. -/
theorem exit_comes_through (binding : Binding) (world : World) (schedule : List (Label Garage)) :
    throughout (comesThrough binding) (run binding world schedule).history = true ↔
      throughout (neverArrives binding) (run binding world schedule).history = true := by
  have parallel := (parallel_keeps binding).exec (GarageRuntime.init binding world) ⟨rfl,rfl⟩ schedule
  exact Bool.eq_iff_iff.mp parallel.checks

def waypointBinding : Binding := fun
  | .controlledExitEnabled => some (.bool true)
  | .controlledExitX => some (.int 3000)
  | .controlledExitY => some (.int 0)
  | .controlledExitTimeoutSeconds => some (.int 30)
  | key => contactBinding key

/-- The robot goes to its waypoint and stands there, fifteen seconds before the deadline. -/
def reachesWaypoint : List (Label Garage) :=
  [.call (.asyncSend "app_start"),goesOn 0,.outside (.time 5 105),.outside (.sampled (statusOf .goingToTarget true) 105),goesOn 0,
    .outside (.time 20 120),.outside (.mapData (some (mapAt 3000))),.outside .mapStamped,goesOn 0,
    .outside (.time 35 135),goesOn 0]

def missesWaypoint : Item Garage → Bool
  | .failed _ (.control .controlledExitFailed) => true
  | _ => false

theorem exit_misses_robot :
    let ended := run waypointBinding dockedBehindOpen reachesWaypoint
    throughout (comesThrough waypointBinding) ended.history = false ∧ arrived waypointBinding 0 ended.history = true ∧
      ended.history.any missesWaypoint = true := by
  decide +kernel

example : sentBy 0 (run waypointBinding dockedBehindOpen reachesWaypoint).history = false := by decide +kernel

end RoborockPlus
