import RoborockPlus.Departure
import RoborockPlus.Redocking

/-! The end of a sequence. The finish rule ends it on the first reading of a robot at
rest on its dock, but only while the task flag stands; without the flag the loop runs
on, and what it sees later it acts on. -/
namespace RoborockPlus
open Async GarageController GarageRuntime

def rested (seen : GarageRuntime) : Bool := !seen.controller.taskRunning && seen.controller.robotDocked

def closable (seen : GarageRuntime) : Bool :=
  rested seen && seen.controller.openConfirmed && seen.controller.doorBlockedReason.isNone && seen.closeAllowed

def unrested (last : Turn) : Bool := !rested last.seen

def ongoing (last : Turn) : Bool := !last.done

def closesUp (last : Turn) : Bool := !closable last.seen || decide (.toClose ∈ last.covers)

def sequenceCauses : List Cause := [.returning,.redocked,.departure,.finished]

/-- A turn that begins with the robot at rest finds it so to its end; it closes the door
if it can, no turn follows it, and once it is done no command does. -/
def endsRested (t : ℕ) (past : List (Item Garage)) : Event → Bool
  | .read .iteration _ => (turn decidesTurn (own t past)).all unrested
  | .read .finish seen => rested seen || (turn decidesTurn (own t past)).all unrested
  | .cover _ cause | .robot _ cause _ =>
    decide (cause ∉ sequenceCauses) || (turn decidesTurn (own t past)).all fun last => unrested last || ongoing last
  | .iterated => (turn decidesTurn (own t past)).all closesUp
  | _ => true

/-- The finish rule still has its task flag when it finds the robot at rest. -/
def restsWithTask (_ : ℕ) (_ : List (Item Garage)) : Event → Bool
  | .read .finish seen => !rested seen || seen.controller.taskInProgress
  | _ => true

abbrev RestPromise : Point Garage → Prop := Promise (atEvents restsWithTask) (atEvents endsRested)

def turnKinds : List Kind := [.iterated,.opening,.finishing]

def sequenceCommands : List Kind :=
  sequenceCauses.flatMap fun cause => [.cover .toOpen cause,.cover .toClose cause,.robot cause]

section
variable {t : ℕ} {p q : Point Garage}

theorem endsRested_quiet (t : ℕ) (past : List (Item Garage)) (e : Event)
    (other : e.kind ∉ turnKinds ++ sequenceCommands) : endsRested t past e = true := by
  have apart (cause : Cause) (kind : Kind) (member : kind ∈ [.cover .toOpen cause,.cover .toClose cause,.robot cause])
      (same : e.kind = kind) : cause ∉ sequenceCauses := by
    intro inside
    apply other (List.mem_append_right _ _)
    rw [same]
    exact List.mem_flatMap.mpr ⟨cause,inside,member⟩
  cases e with
  | read place seen => cases place <;> first | rfl | simp [Event.kind,turnKinds] at other
  | cover d cause =>
    have none := apart cause (.cover d cause) (by cases d <;> simp) rfl
    simp [endsRested,none]
  | robot name cause utc =>
    have none := apart cause (.robot cause) (by simp) rfl
    simp [endsRested,none]
  | iterated => simp [Event.kind,turnKinds] at other
  | _ => rfl

theorem restPromise_blind (t : ℕ) {R : GarageRuntime → GarageRuntime → Prop} {S : Event → Prop}
    (other : ∀ e, S e → e.kind ∉ turnKinds ++ sequenceCommands) : Ignores RestPromise t R S :=
  Promise.ignores fun past e inside => endsRested_quiet t past e (other e inside)

theorem restPromise_unmoved (t : ℕ) : Unmoved RestPromise t :=
  .of_blind (restPromise_blind t fun _ other => other) (by simp [turnKinds,sequenceCommands]) (by simp [turnKinds,sequenceCommands])

abbrev Ongoing : ℕ → Point Garage → Prop := LastTurn decidesTurn ongoing

abbrev Unrested (t : ℕ) (p : Point Garage) : Prop :=
  throughout (atEvents restsWithTask) p.history = true → LastTurn decidesTurn unrested t p

/-- Nor has its last turn left a door open that it could close. -/
abbrev ClosesUp (t : ℕ) (p : Point Garage) : Prop :=
  throughout (atEvents restsWithTask) p.history = true → LastTurn decidesTurn closesUp t p

theorem ongoing_ignores {R : GarageRuntime → GarageRuntime → Prop} {S : Event → Prop}
    (apart : ∀ e, S e → e.kind ∉ turnKinds) : Ignores (Ongoing t) t R S := by
  refine lastTurn_ignores ?_ (fun _ _ going => going) ?_
  · intro place seen inside
    cases place <;> first | rfl | exact absurd (by simp [Event.kind,turnKinds]) (apart _ inside)
  · exact fun inside => absurd (by simp [Event.kind,turnKinds]) (apart _ inside)

theorem ongoing_silent (t : ℕ) : Silent (Ongoing t) t := ongoing_ignores fun e read => by simp [read,turnKinds]

theorem unrested_ignores {R : GarageRuntime → GarageRuntime → Prop} {S : Event → Prop}
    (apart : ∀ e, S e → e.kind ∉ [.opening,.finishing]) : Ignores (Unrested t) t R S := by
  have lasting : Ignores (LastTurn decidesTurn unrested t) t R S := by
    refine lastTurn_ignores ?_ (fun _ _ known => known) fun _ _ known => known
    intro place seen inside
    cases place <;> first | rfl | exact absurd (by simp [Event.kind]) (apart _ inside)
  exact lasting.under _

theorem closesUp_ignores {R : GarageRuntime → GarageRuntime → Prop} {S : Event → Prop}
    (apart : ∀ e, S e → e.kind ∉ [.opening,.finishing]) : Ignores (ClosesUp t) t R S := by
  have lasting : Ignores (LastTurn decidesTurn closesUp t) t R S := by
    refine lastTurn_ignores ?_ ?_ fun _ _ known => known
    · intro place seen inside
      cases place <;> first | rfl | exact absurd (by simp [Event.kind]) (apart _ inside)
    · intro last d known
      simp only [closesUp,Bool.or_eq_true,decide_eq_true_eq] at known ⊢
      exact known.imp id fun member => List.mem_cons_of_mem _ member
  exact lasting.under _

theorem Unrested.closesUp (known : Unrested t p) : ClosesUp t p := by
  intro condition
  refine lastTurn_iff.mpr fun last found => ?_
  have free : rested last.seen = false := by simpa [unrested] using lastTurn_iff.mp (known condition) last found
  simp [RoborockPlus.closesUp,closable,free]

theorem ongoing_commands (going : Ongoing t p) :
    (turn decidesTurn (own t p.history)).all (fun last => unrested last || ongoing last) = true := by
  refine (Option.all_eq_true _ _).mpr fun last found => ?_
  rw [lastTurn_iff.mp going last found,Bool.or_true]

theorem restPromise_during {F : Point Garage → Prop} {R : GarageRuntime → GarageRuntime → Prop} {S : Event → Prop}
    (apart : ∀ e, S e → e.kind ∉ turnKinds) (framed : Ignores F t R S) :
    Ignores (fun p => RestPromise p ∧ (Ongoing t p ∧ F p)) t R S := by
  have both : Ignores (fun p => Ongoing t p ∧ F p) t R S := (ongoing_ignores apart).and framed
  have silent := restPromise_unmoved t
  refine ⟨fun p s held moves => ⟨held.1.of_same rfl,both.act p s held.2 moves⟩,
    fun p e held inside => ⟨held.1.event fun _ => ?_,both.event p e held.2 inside⟩,
    fun p n call held => ⟨silent.spawned p n call held.1,both.spawned p n call held.2⟩,
    fun p request held => ⟨silent.waiting p request held.1,both.waiting p request held.2⟩,
    fun p answer held => ⟨silent.resumed p answer held.1,both.resumed p answer held.2⟩⟩
  have going := ongoing_commands held.2.1
  cases e with
  | read place seen => cases place <;> first | rfl | exact absurd (by simp [Event.kind,turnKinds]) (apart _ inside)
  | cover d cause => simp only [endsRested,going,Bool.or_true]
  | robot name cause utc => simp only [endsRested,going,Bool.or_true]
  | iterated => exact absurd (by simp [Event.kind,turnKinds]) (apart _ inside)
  | _ => rfl

theorem unrested_stable (t : ℕ) : Stable t (Unrested t) := (Owned.stable _ t).under _

theorem closesUp_stable (t : ℕ) : Stable t (ClosesUp t) := (Owned.stable _ t).under _

theorem closesUp_unmoved (t : ℕ) : Unmoved (ClosesUp t) t :=
  .of_blind (closesUp_ignores fun _ other => other) (by simp) (by simp)

theorem restPromise_atRest (inv : RestPromise (reread t .finish q)) (going : Ongoing t (reread t .finish q))
    (rest : rested q.state.refresh = true) (ours : q.state.refresh.controller.taskInProgress = true) :
    wp RestPromise t finishRules (fun ended q => RestPromise q ∧ ClosesUp t q ∧ ended = true)
      (fun _ q => RestPromise q ∧ ClosesUp t q) (reread t .finish q) := by
  have blind := restPromise_unmoved t
  obtain ⟨idle,docked⟩ := (Bool.and_eq_true _ _).mp rest
  have idle : q.state.refresh.controller.taskRunning = false := by simpa using idle
  have rules := wp_finishRules_atRest blind (closesUp_unmoved t) (closesUp_stable t) ours idle docked inv ?_ ?_
  · exact wp_mono rules (fun _ _ held => ⟨held.1.1,held.1.2,held.2⟩) (fun _ _ held => held)
  · intro denied _
    refine lastTurn_begun _ rfl ?_
    have refused : closable q.state.refresh = false := by
      by_contra allowed
      have allowed : closable q.state.refresh = true := (Bool.not_eq_false _).mp allowed
      simp only [closable,Bool.and_eq_true] at allowed
      obtain ⟨⟨⟨_,opened⟩,readable⟩,permitted⟩ := allowed
      have apart : q.state.refresh.controller.closedConfirmed = false := refresh_apart q.state opened
      unfold ajar at denied
      rw [readable,permitted,apart] at denied
      exact absurd denied (by simp)
    simp [closesUp,refused]
  · intro _ asked s _
    have ordered : Ongoing t (reread t (.asked .toClose .finished) (reread t .finish q)) :=
      (ongoing_silent t).reread (by simp) going
    refine ⟨(asked.event fun _ => ?_).of_same rfl,fun _ => lastTurn_commanded s fun _ => by simp [closesUp]⟩
    simp only [endsRested,ongoing_commands ordered,Bool.or_true]

theorem restPromise_plain {α : Type} {m : Co Garage α} {kinds : List Kind} (inside : Emits kinds m)
    (apart : ∀ kind ∈ kinds, kind ∉ turnKinds) :
    Carries RestPromise (fun q => Ongoing t q ∧ Unrested t q) t m := by
  refine inside.carries_both (restPromise_during (fun e member => apart e.kind member) (unrested_ignores ?_)) ?_
  · exact fun e member other => apart e.kind member (List.mem_cons_of_mem _ other)
  · exact fun p q held later => ⟨Owned.stable _ t p q held.1 later,unrested_stable t p q held.2 later⟩

theorem restPromise_finish (inv : RestPromise q) (opened : rested q.state.refresh = true ∨ Unrested t q) :
    wp RestPromise t sequenceFinished
      (fun ended q => RestPromise q ∧ ClosesUp t q ∧ (ended = false → Unrested t q))
      (fun _ q => RestPromise q ∧ ClosesUp t q) q := by
  have found (condition : throughout (atEvents restsWithTask) q.history = true) :
      endsRested t q.history (.read .finish q.state.refresh) = true := by
    simp only [endsRested,Bool.or_eq_true]
    exact opened.imp id fun free => free condition
  have read : RestPromise (reread t .finish q) := (inv.event found).of_same rfl
  have going : Ongoing t (reread t .finish q) := lastTurn_begun _ rfl rfl
  unfold sequenceFinished
  rw [wp_bind,wp_refresh]
  by_cases resting : throughout (atEvents restsWithTask) (reread t .finish q).history = true ∧
      rested q.state.refresh = true
  · obtain ⟨condition,rest⟩ := resting
    have ours : restsWithTask t q.history (.read .finish q.state.refresh) = true := ((throughout_cons _ _ _).mp condition).1
    simp only [restsWithTask,rest,Bool.not_true,Bool.false_or] at ours
    refine wp_mono (restPromise_atRest read going rest ours) ?_ (fun _ _ both => both)
    exact fun ended q held => ⟨held.1,held.2.1,fun none => absurd (none.symm.trans held.2.2) (by simp)⟩
  have free : Unrested t (reread t .finish q) := by
    intro condition
    have moving : rested q.state.refresh = false := by
      by_contra rest
      exact resting ⟨condition,(Bool.not_eq_false _).mp rest⟩
    exact lastTurn_begun _ rfl (by simp [unrested,moving])
  have rules : Carries RestPromise (fun q => Ongoing t q ∧ Unrested t q) t finishRules :=
    restPromise_plain (emits_finishRules (List.Subset.refl _)) (by simp [openKinds,closeKinds,turnKinds])
  refine wp_mono (rules _ read ⟨going,free⟩) ?_ ?_
  · exact fun _ q held => ⟨held.1,held.2.2.closesUp,fun _ => held.2.2⟩
  · exact fun _ q held => ⟨held.1,held.2.2.closesUp⟩

theorem restPromise_rules (inv : RestPromise p) (free : Unrested t p) :
    wp RestPromise t applyRules (fun ended q => RestPromise q ∧ ClosesUp t q ∧ (ended = false → Unrested t q))
      (fun _ q => RestPromise q ∧ ClosesUp t q) p := by
  have begun : RestPromise (reread t .iteration p) :=
    (inv.event (t := t) (e := .read .iteration p.state.refresh) fun condition => free condition).of_same rfl
  have going : Ongoing t (reread t .iteration p) := lastTurn_begun _ rfl rfl
  unfold applyRules
  rw [wp_bind,wp_refresh]
  by_cases rest : rested p.state.refresh = true
  · refine wp_front (G := fun q => RestPromise q ∧ rested q.state.refresh = true) ?_ ?_ ?_ ⟨begun,rest⟩
    · exact fun q known => ((Bool.and_eq_true _ _).mp known.2).2
    · exact fun place q ordinary known => ⟨(restPromise_unmoved t).silent.reread ordinary known.1,known.2⟩
    · exact fun q known => restPromise_finish known.1 (Or.inl known.2)
  have free : Unrested t (reread t .iteration p) :=
    fun _ => lastTurn_begun _ rfl (by simp [unrested,(Bool.not_eq_true _).mp rest])
  rw [wp_bind]
  refine wp_mono (restPromise_plain (emits_handleReturn (List.Subset.refl _)) (by simp [returnKinds,openKinds,turnKinds]) _ begun
    ⟨going,free⟩) ?_ (fun _ _ held => ⟨held.1,held.2.2.closesUp⟩)
  intro handled q held
  rw [wp_bind]
  refine wp_mono (restPromise_plain (emits_handleDeparture (List.Subset.refl _) handled)
    (by simp [departureKinds,closeKinds,turnKinds]) q held.1 held.2) ?_ (fun _ _ held => ⟨held.1,held.2.2.closesUp⟩)
  intro _ q held
  rw [wp_bind]
  refine wp_mono (restPromise_plain (emits_publish (List.mem_singleton_self Kind.read)) (by simp [turnKinds]) q held.1 held.2) ?_
    (fun _ _ held => ⟨held.1,held.2.2.closesUp⟩)
  exact fun _ q held => restPromise_finish held.1 (Or.inr held.2.2)

theorem restPromise_keeps : Preserves program RestPromise := by
  refine preserves_of_begun (turnKinds ++ sequenceCommands) (fun t => restPromise_blind t fun _ other => other)
    ?_ ?_ ?_ ?_ ?_ ?_
  · exact fun input p held => (show RestPromise (p.push (.outside input)) from held.push fun _ _ => rfl).of_same rfl
  · exact fun t call p held => held.push fun _ _ => rfl
  · exact fun t p held => held.push fun _ _ => rfl
  · exact fun t error p held => held.push fun _ _ => rfl
  · exact fun t p held => (carries_shutdown (restPromise_blind t fun e kind => by simp [kind,turnKinds,sequenceCommands])).plain
      held trivial
  intro call t touched _ p inv begun
  have silent := (restPromise_unmoved t).silent
  cases call with
  | finishSequence =>
    have free : Unrested t p := fun _ => lastTurn_iff.mpr fun last found => by simp [begun,turn] at found
    have framed : Silent (Unrested t) t := unrested_ignores fun e read => by simp [read]
    refine wp_finishSequence silent framed (unrested_stable t) (fun start timeout p inv free => ?_) inv free
    refine wp_iterate (fun _ => ⟨inv,by simp⟩) (fun _ => restPromise_rules inv free) ?_ ?_ ?_
    · exact fun q held => ⟨held.1.event held.2.1,by simp⟩
    · exact fun found q held => ⟨held.1.event held.2.1,fun _ => (unrested_ignores (R := Frame)
        (S := fun e => e = .iterated) fun e same => by simp [same,Event.kind]).event q _ (held.2.2 rfl) rfl⟩
    · exact fun _ q held => held.1.event held.2
  | _ => simp [Call.kinds,openKinds,closeKinds,exitKinds,turnKinds,sequenceCommands,sequenceCauses] at touched

end

/-- A sequence ends with the first turn that finds the robot at rest, closing the door
if it can, in every run in which no sequence finds it so without its task flag. -/
theorem sequence_ends_rested (binding : Binding) (world : World) (schedule : List (Label Garage))
    (keeps : throughout (atEvents restsWithTask) (run binding world schedule).history = true) :
    throughout (atEvents endsRested) (run binding world schedule).history = true :=
  promise_run restPromise_keeps binding world schedule keeps

theorem sequence_ends_rested_at_home :
    throughout (atEvents endsRested) (run contactBinding cleaningInside (comesHome true)).history = true ∧
      (run contactBinding cleaningInside (comesHome true)).history.any closesFinished = true :=
  ⟨sequence_ends_rested _ _ _ (by decide +kernel),by decide +kernel⟩

def homeThroughOpenDoor : List (Label Garage) :=
  departsTo 3000 ++
    [goesOn 1,.outside (.entity "binary_sensor.open" (contact false)),
      .outside (.entity "binary_sensor.closed" (contact true)),goesOn 1,goesOn 1,goesOn 1,
      .outside (.entity "binary_sensor.closed" (contact false)),.outside (.entity "binary_sensor.open" (contact true)),
      .outside (.mapData (some (mapAt 0))),.outside (.sampled (statusOf .charging false) 200),goesOn 1,goesOn 1]

/-- The close has cleared the task flag, and the sequence goes on watching the door. -/
theorem sequence_outlives_clean :
    throughout (atEvents endsRested) (run contactBinding drivingOut homeThroughOpenDoor).history = false := by
  decide +kernel

end RoborockPlus
