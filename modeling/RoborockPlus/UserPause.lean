import RoborockPlus.Departure
import RoborockPlus.Freshness
import RoborockPlus.Turn

/-! Whose pause it is. A robot that stands paused when a turn begins, with no pause of
the controller's own outstanding, was paused by its user and is not for a rule to resume. -/
namespace RoborockPlus
open Async GarageController GarageRuntime

/-- The last such command of this task is a pause. -/
def holdsRobot (u : ℕ) : List (Item Garage) → Bool
  | [] => false
  | .event v (.robot name _ _) :: past =>
    if v = u ∧ name ∈ ["app_pause","app_resume"] then decide (name = "app_pause") else holdsRobot u past
  | _ :: past => holdsRobot u past

def outstanding (past : List (Item Garage)) : Bool :=
  past.any fun
    | .event u (.robot _ _ _) => holdsRobot u past
    | _ => false

/-- The reading on which the task's turn began, and the history before it. -/
def turnStart (t : ℕ) : List (Item Garage) → Option (GarageRuntime × List (Item Garage))
  | [] => none
  | .event u (.read .iteration seen) :: past => if u = t then some (seen,past) else turnStart t past
  | _ :: past => turnStart t past

def usersPause (t : ℕ) (past : List (Item Garage)) : Bool :=
  (turnStart t past).any fun start => decide (start.1.controller.robot.state = .paused) && !outstanding start.2

def sparesUser (t : ℕ) (past : List (Item Garage)) : Event → Bool
  | .robot "app_resume" .departure _ | .robot "app_resume" .returning _ => !usersPause t past
  | _ => true

/-- In such a turn the departure rule does not find the robot paused again once it has
sent a pause of its own. -/
def repausesOwn (t : ℕ) (past : List (Item Garage)) : Event → Bool
  | .read .departurePaused seen => !(decide (seen.controller.robot.state = .paused) && usersPause t past)
  | _ => true

abbrev UserPromise : Point Garage → Prop := Promise (atEvents repausesOwn) (atEvents sparesUser)

def commanding : List Kind := [.robot .departure,.robot .returning]

section
variable {t : ℕ} {p : Point Garage}

theorem sparesUser_quiet (t : ℕ) (past : List (Item Garage)) (e : Event) (other : e.kind ∉ commanding) :
    sparesUser t past e = true := by
  cases e with
  | robot name cause utc => cases cause <;> simp_all [Event.kind,commanding,sparesUser]
  | _ => rfl

theorem turnStart_other {item : Item Garage} {past : List (Item Garage)}
    (other : ∀ seen, item ≠ .event t (.read .iteration seen)) : turnStart t (item :: past) = turnStart t past := by
  rcases item with _ | _ | _ | ⟨u,e⟩ | _ | _ | _ | _
  case event =>
    cases e with
    | read place seen =>
      cases place with
      | iteration =>
        have foreign : u ≠ t := fun same => other seen (by rw [same])
        rw [turnStart,if_neg foreign]
      | _ => rfl
    | _ => rfl
  all_goals rfl

abbrev Spared (t : ℕ) (p : Point Garage) : Prop :=
  throughout (atEvents repausesOwn) p.history = true → usersPause t p.history = false

theorem spared_step {item : Item Garage} {past : List (Item Garage)} (other : ∀ seen, item ≠ .event t (.read .iteration seen))
    (spared : throughout (atEvents repausesOwn) past = true → usersPause t past = false) :
    throughout (atEvents repausesOwn) (item :: past) = true → usersPause t (item :: past) = false := by
  intro condition
  unfold usersPause
  rw [turnStart_other other]
  exact spared ((throughout_cons _ _ _).mp condition).2

theorem spared_ignores {R : GarageRuntime → GarageRuntime → Prop} {S : Event → Prop}
    (apart : ∀ e, S e → e.kind ≠ .opening) : Ignores (Spared t) t R S := by
  refine Ignores.of_history (A := fun past => throughout (atEvents repausesOwn) past = true → usersPause t past = false)
    fun item _ _ inside => spared_step fun seen same => ?_
  rw [same] at inside
  exact apart _ inside rfl

theorem spared_stable (t : ℕ) : Stable t (Spared t) := by
  refine Stable.of_history (A := fun past => throughout (atEvents repausesOwn) past = true → usersPause t past = false)
    fun item _ foreign => spared_step fun seen same => ?_
  rw [same] at foreign
  exact foreign rfl

theorem spared_unmoved (t : ℕ) : Unmoved (Spared t) t := by
  refine spared_ignores fun e kind same => ?_
  rw [same] at kind
  simp at kind

theorem Spared.allows (spared : Spared t p) (held : UserPromise p) {e : Event} : UserPromise (p.push (.event t e)) := by
  refine held.event fun condition => ?_
  have free := spared condition
  unfold sparesUser
  split
  · simp [free]
  · simp [free]
  · rfl

theorem userPromise_spared {α : Type} {m : Co Garage α} {kinds : List Kind} (inside : Emits kinds m)
    (apart : .opening ∉ kinds) : Carries UserPromise (Spared t) t m := by
  have lasting : Ignores (Spared t) t Frame fun (e : Event) => e.kind ∈ kinds :=
    spared_ignores fun e member same => apart (same ▸ member)
  refine inside.carries_both ⟨fun p s both moves => ⟨both.1.of_same rfl,lasting.act p s both.2 moves⟩,
    fun p e both member => ⟨both.2.allows both.1,lasting.event p e both.2 member⟩,
    fun p n call both => ⟨both.1.push fun _ _ => rfl,lasting.spawned p n call both.2⟩,
    fun p request both => ⟨both.1.push fun _ _ => rfl,lasting.waiting p request both.2⟩,
    fun p answer both => ⟨both.1.push fun _ _ => rfl,lasting.resumed p answer both.2⟩⟩ (spared_stable t)

theorem userPromise_blind (t : ℕ) {R : GarageRuntime → GarageRuntime → Prop} {S : Event → Prop}
    (other : ∀ e, S e → e.kind ∉ commanding) : Ignores UserPromise t R S :=
  Promise.ignores fun past e inside => sparesUser_quiet t past e (other e inside)

theorem userPromise_unmoved (t : ℕ) : Unmoved UserPromise t :=
  .of_blind (userPromise_blind t fun _ other => other) (by simp [commanding]) (by simp [commanding])

theorem userPromise_plain {α : Type} {m : Co Garage α} {kinds : List Kind} (inside : Emits kinds m)
    (apart : ∀ kind ∈ kinds, kind ∉ commanding) : Carries UserPromise (fun _ => True) t m :=
  Co.Within.carries (userPromise_blind t fun e member => apart e.kind member) .top .top inside

theorem userPromise_departure (t : ℕ) (handled : Bool) :
    Carries UserPromise (fun _ => True) t (handleDeparture handled) := by
  refine carries_hold (F := fun _ => True) (H := Spared t) (userPromise_unmoved t) .top .top (spared_unmoved t)
    (spared_stable t) ?_ ?_ ?_ ?_ (fun _ _ _ _ => trivial) handled
  · exact fun p read _ _ _ s _ => ⟨(read.event fun _ => rfl).of_same rfl,trivial⟩
  · intro q _ _ still condition
    obtain ⟨here,_⟩ := (throughout_cons _ _ _).mp condition
    have start : usersPause t (reread t .departurePaused q).history = usersPause t q.history := by
      unfold usersPause reread
      rw [turnStart_other fun seen => by simp]
    rw [start]
    have here : repausesOwn t q.history (.read .departurePaused q.state.refresh) = true := here
    simpa only [repausesOwn,still,decide_true,Bool.true_and,Bool.not_eq_true'] using here
  · intro p s₀ q _ _ _ _ _ _ _ asked later s _
    refine ⟨(asked.event fun _ => rfl).of_same rfl,?_⟩
    exact spared_step (fun seen => by simp) later
  · exact fun p inv spared _ utc => ⟨spared.allows inv,trivial⟩

theorem userPromise_rules (inv : UserPromise p) :
    wp UserPromise t applyRules (fun _ q => UserPromise q) (fun _ q => UserPromise q) p := by
  have begun : UserPromise (reread t .iteration p) :=
    (inv.event (t := t) (e := .read .iteration p.state.refresh) fun _ => rfl).of_same rfl
  have rest (handled : Bool) (q : Point Garage) (inv : UserPromise q)
      (departs : Carries UserPromise (fun _ => True) t (handleDeparture handled)) :
      wp UserPromise t (do
        let _ ← handleDeparture handled
        publish
        sequenceFinished : Co Garage Bool) (fun _ q => UserPromise q) (fun _ q => UserPromise q) q := by
    refine Carries.plain (.bind departs fun _ => .bind ?_ fun _ => ?_) inv trivial
    · exact userPromise_plain (emits_publish (List.mem_singleton_self Kind.read)) (by simp [commanding])
    · exact userPromise_plain (emits_sequenceFinished (List.Subset.refl _)) (by simp [finishKinds,openKinds,closeKinds,commanding])
  unfold applyRules
  rw [wp_bind,wp_refresh]
  by_cases paused : p.state.refresh.controller.robot.state = .paused
  · have still : (reread t .iteration p).state.refresh.controller.isReturning = false := paused_not_returning paused
    rw [wp_bind]
    apply wp_handleReturn_still still
    exact rest false _ ((userPromise_unmoved t).silent.reread (by simp) begun) (userPromise_departure t false)
  -- on a robot that is not paused the turn is nobody's but the rules'
  have spared : Spared t (reread t .iteration p) := by
    intro _
    simp [usersPause,turnStart,reread,paused]
  refine Carries.plain (F := Spared t) (.bind (userPromise_spared (emits_handleReturn (List.Subset.refl _)) ?_) fun handled =>
    .bind (userPromise_spared (emits_handleDeparture (List.Subset.refl _) handled) ?_) fun _ =>
    .bind (userPromise_spared (emits_publish (List.mem_singleton_self Kind.read)) ?_) fun _ =>
    userPromise_spared (emits_sequenceFinished (List.Subset.refl _)) ?_) begun spared
  · simp [returnKinds,openKinds]
  · simp [departureKinds,closeKinds]
  · simp
  · simp [finishKinds,openKinds,closeKinds]

theorem userPromise_keeps : Preserves program UserPromise := by
  refine preserves_promise commanding sparesUser_quiet (by simp [commanding]) ?_
  intro call t touched
  cases call with
  | finishSequence =>
    refine carries_finishSequence (userPromise_unmoved t).silent .top .top fun start timeout p inv _ => ?_
    refine wp_iterate (fun _ => ⟨inv,trivial⟩) (fun _ => userPromise_rules inv) ?_ ?_ ?_
    · exact fun q held => ⟨held.event fun _ => rfl,trivial⟩
    · exact fun found q held => ⟨held.event fun _ => rfl,trivial⟩
    · exact fun _ q held => ⟨held.event fun _ => rfl,trivial⟩
  | _ => simp [Call.kinds,openKinds,closeKinds,exitKinds,commanding] at touched

end

/-- A turn that begins on a robot its user has paused sends no resume, in every run in
which no such turn finds the robot paused again after a pause of its own. -/
theorem users_pause_spared (binding : Binding) (world : World) (schedule : List (Label Garage))
    (repauses : throughout (atEvents repausesOwn) (run binding world schedule).history = true) :
    throughout (atEvents sparesUser) (run binding world schedule).history = true :=
  promise_run userPromise_keeps binding world schedule repauses

/-- The user pauses the robot before a turn begins. -/
def findsPaused : List (Label Garage) :=
  [.call (.asyncSend "app_start"),goesOn 0,.start,.outside (.sampled (statusOf .paused true) 101),
    .outside (.mapData (some (mapAt 5000))),.outside .mapStamped,goesOn 1]

/-- The user lets it go on before the rule's own pause is observed; the next turn is a departure. -/
def goesOnUnpaused : List (Label Garage) :=
  findsPaused ++ [.outside (.sampled (statusOf .cleaning true) 102),goesOn 1,goesOn 1,
    .outside (.sampled (statusOf .paused true) 103),.outside .mapStamped,goesOn 1] ++ shutsBehind 1

theorem users_pause_spared_eastward :
    throughout (atEvents sparesUser) (run contactBinding drivingOut (departsTo 3000 ++ shutsBehind 1)).history = true ∧
      (run contactBinding drivingOut (departsTo 3000 ++ shutsBehind 1)).history.any resumesDeparted = true ∧
      usersPause 1 (run contactBinding cleaningInside findsPaused).history = true ∧
      throughout (atEvents sparesUser) (run contactBinding cleaningInside goesOnUnpaused).history = true ∧
      (run contactBinding cleaningInside goesOnUnpaused).history.any resumesDeparted = true :=
  ⟨users_pause_spared _ _ _ (by decide +kernel),by decide +kernel,by decide +kernel,
    users_pause_spared _ _ _ (by decide +kernel),by decide +kernel⟩

def pausedByUser : List (Label Garage) := findsPaused ++ [goesOn 1,goesOn 1]

/-- The rule pauses a robot its user has paused, and finds the pause it looks for. -/
theorem users_pause_undone :
    throughout (atEvents sparesUser) (run contactBinding cleaningInside (pausedByUser ++ shutsBehind 1)).history = false := by
  decide +kernel

end RoborockPlus
