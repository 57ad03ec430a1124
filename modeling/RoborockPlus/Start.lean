import RoborockPlus.Freshness

/-! What counts as proof that a clean began. The sequence goes on from any reading that
shows a task away from the charger; the final close then rests on that reading. -/
namespace RoborockPlus
open Async GarageController GarageRuntime

def spawns (t : ℕ) : Item Garage → Bool
  | .spawned _ child _ => child == t
  | _ => false

/-- A running task, seen in a known state that is none of those on the dock. -/
def provesClean (status : Status) : Bool :=
  isV1TaskActive status && decide (status.state ∉ RobotState.unknownStates) &&
    decide (status.state ∉ RobotState.dockedStateNames)

/-- Since the task was created, that is since the send returned, a sample proved the clean. -/
def startSeen (t : ℕ) : List (Item Garage) → Bool
  | [] => false
  | .outside (.sampled status _) :: past => (provesClean status && past.any (spawns t)) || startSeen t past
  | _ :: past => startSeen t past

/-- The last sample was taken after the task was created. -/
def sampledSince (t : ℕ) : List (Item Garage) → Bool
  | [] => false
  | .outside (.sampled _ _) :: past => past.any (spawns t)
  | _ :: past => sampledSince t past

def closesProven (t : ℕ) (past : List (Item Garage)) : Event → Bool
  | .cover .toClose .finished => startSeen t past
  | _ => true

/-- The reading that confirms a start is of a sample since the send, off the dock. -/
def startsOnSample (t : ℕ) (past : List (Item Garage)) : Event → Bool
  | .read .starting seen =>
    !seen.controller.taskRunning || seen.controller.robotDocked ||
      (sampledSince t past && decide (seen.controller.robot.state ∉ RobotState.unknownStates) &&
        decide (seen.controller.robot.state ∉ RobotState.dockedStateNames))
  | _ => true

section
variable {t : ℕ} {initial : Option StatusSample} {p q : Point Garage}

theorem startSeen_suffix {past history : List (Item Garage)} (suffix : past <:+ history)
    (seen : startSeen t past = true) : startSeen t history = true := by
  obtain ⟨added,rfl⟩ := suffix
  induction added with
  | nil => exact seen
  | cons item added ih =>
    rcases item with input | _ | _ | _ | _ | _ | _ | _
    · cases input <;> first | exact ih | simpa [startSeen] using Or.inr ih
    all_goals exact ih

theorem sampledSince_current (initial : Option StatusSample) {history : List (Item Garage)} (since : sampledSince t history = true) :
    ∃ sample, currentSample initial history = some sample ∧
      (provesClean sample.status = true → startSeen t history = true) := by
  induction history with
  | nil => simp [sampledSince] at since
  | cons item past ih =>
    by_cases sample : ∃ status utc, item = .outside (.sampled status utc)
    · obtain ⟨status,utc,rfl⟩ := sample
      refine ⟨⟨utc,status⟩,rfl,fun proves => ?_⟩
      have spawned : past.any (spawns t) = true := since
      simp only [startSeen]
      rw [proves,spawned]
      rfl
    rcases item with input | _ | _ | _ | _ | _ | _ | _
    · cases input <;> first | exact ih since | exact absurd ⟨_,_,rfl⟩ sample
    all_goals exact ih since

theorem closesProven_quiet (t : ℕ) (past : List (Item Garage)) (e : Event)
    (other : e.kind ∉ [.cover .toClose .finished]) : closesProven t past e = true := by
  cases e with
  | cover d cause => cases d <;> cases cause <;> first | rfl | simp [Event.kind] at other
  | _ => rfl

abbrev StartPromise : Option StatusSample → Point Garage → Prop :=
  SampledPromise (atEvents startsOnSample) closesProven

theorem startPromise_blind (t : ℕ) {R : GarageRuntime → GarageRuntime → Prop} {S : Event → Prop}
    (moves : ∀ s s', R s s' → SameWorld s s') (other : ∀ e, S e → e.kind ∉ [.cover .toClose .finished]) :
    Ignores (StartPromise initial) t R S := (SampledPromise.blind closesProven_quiet t).mono moves other

/-- Under the condition, the start is proven; and once it is, it stays so. -/
def Proven (t : ℕ) (p : Point Garage) : Prop :=
  throughout (atEvents startsOnSample) p.history = true → startSeen t p.history = true

theorem proven_grows (p q : Point Garage) (suffix : p.history <:+ q.history) (proven : Proven t p) : Proven t q :=
  fun condition => startSeen_suffix suffix (proven (throughout_suffix condition suffix))

theorem startPromise_unmoved (t : ℕ) : Unmoved (StartPromise initial) t :=
  .of_blind (startPromise_blind t (fun _ _ frame => ⟨frame.world,frame.binding⟩) fun _ other => other) (by simp) (by simp)

theorem wp_awaitCleanStarted (inv : StartPromise initial p) :
    wp (StartPromise initial) t awaitCleanStarted
      (fun started q => StartPromise initial q ∧ (started = true → Proven t q)) (fun _ => StartPromise initial) p := by
  have silent : Silent (StartPromise initial) t := (startPromise_unmoved t).silent
  unfold awaitCleanStarted
  rw [wp_bind,wp_get]
  apply wp_poll _ t p (StartPromise initial) inv
  intro q inv
  unfold lookForStart
  rw [wp_bind,wp_get,wp_ite]
  split
  · exact ⟨inv,by simp⟩
  rw [wp_bind,wp_refresh,wp_bind,wp_get,wp_ite]
  have read : StartPromise initial (reread t .starting q) := silent.reread (by simp) inv
  split
  next started =>
    refine ⟨read,fun _ condition => ?_⟩
    obtain ⟨here,_⟩ := (throughout_cons _ _ _).mp condition
    change startsOnSample t q.history (.read .starting q.state.refresh) = true at here
    obtain ⟨running,away⟩ := started
    have running : q.state.refresh.controller.taskRunning = true := running
    have away : q.state.refresh.controller.robotDocked = false := away
    simp only [startsOnSample,running,away,Bool.not_true,Bool.false_or,Bool.and_eq_true] at here
    obtain ⟨⟨since,known⟩,off⟩ := here
    obtain ⟨sample,current,proves⟩ := sampledSince_current initial since
    have status : q.state.world.status = sample.status := by
      unfold World.status
      rw [inv.sample,current]
    have active : isV1TaskActive sample.status = true := by
      rw [← status]
      exact running
    have shown : provesClean sample.status = true := by
      unfold provesClean
      rw [active,← status]
      exact (Bool.and_eq_true _ _).mpr ⟨known,off⟩
    exact proves shown
  rw [wp_ite]
  split
  · exact ⟨silent.act _ _ read ⟨rfl,rfl,rfl⟩,by simp⟩
  · rw [wp_pure]
    apply Suspends.mono (silent.await .top .top (.sleep 1) _ read trivial)
    · exact fun _ _ both => both.1
    · exact fun _ _ both => both.1

theorem startPromise_turn (t : ℕ) (start : ℚ) (timeout : PyFloat) :
    Carries (StartPromise initial) (Proven t) t (iterate start timeout) := by
  have blind : Unmoved (StartPromise initial) t := startPromise_unmoved t
  have framed : Unmoved (Proven t) t := .growing proven_grows
  have stable : Stable t (Proven t) := .growing proven_grows
  have plain {α : Type} (kinds : List Kind) {m : Co Garage α} (inside : Emits kinds m)
      (apart : ∀ kind ∈ kinds, kind ∉ [.cover .toClose .finished]) : Carries (StartPromise initial) (Proven t) t m :=
    Emits.carries (SampledPromise.blind closesProven_quiet t) (.growing proven_grows) stable kinds inside apart
  refine carries_iterate blind.silent framed.silent stable ?_ ?_
    (plain returnKinds (emits_handleReturn (List.Subset.refl _)) (by simp [returnKinds,openKinds])) ?_ ?_ start timeout
  · exact fun p inv fact => ⟨inv.event rfl fun _ => rfl,proven_grows p _ (List.suffix_cons _ _) fact⟩
  · exact fun p inv fact => ⟨inv.event rfl fun _ => rfl,proven_grows p _ (List.suffix_cons _ _) fact⟩
  · exact fun handled => plain departureKinds (emits_handleDeparture (List.Subset.refl _) handled)
      (by simp [departureKinds,closeKinds])
  apply carries_sequenceFinished blind framed stable
  · exact fun p inv fact => ⟨inv.event rfl fun _ => rfl,proven_grows p _ (List.suffix_cons _ _) fact⟩
  · intro p _ asked proven s frame
    exact ⟨asked.event frame.world fun _ => rfl,proven_grows _ _ (List.suffix_cons _ _) proven⟩
  · intro p asked proven _ _ _ _ s frame
    exact ⟨asked.event frame.world proven,proven_grows _ _ (List.suffix_cons _ _) proven⟩

theorem startPromise_sequence (t : ℕ) : Carries (StartPromise initial) (fun _ => True) t finishSequence := by
  have blind : Unmoved (StartPromise initial) t := startPromise_unmoved t
  have silent : Silent (StartPromise initial) t := blind.silent
  have framed : Silent (Proven t) t := .growing proven_grows
  have stable : Stable t (Proven t) := .growing proven_grows
  refine .bind (silent.emits .top .top emits_get) fun s => ?_
  dsimp only
  split
  · exact silent.emits .top .top trivial
  refine .guarded (.attempt ?_ ?_) (silent.emits .top .top (emits_publish (by simp)))
  · intro p inv _
    rw [wp_bind]
    refine wp_mono (wp_awaitCleanStarted inv) ?_ (fun _ _ inv => ⟨inv,trivial⟩)
    intro started q both
    rw [wp_ite]
    split
    next confirmed =>
      -- from here on the proof is a fact of the task's own
      have turns (start : ℚ) (timeout : PyFloat) :
          Carries (StartPromise initial) (Proven t) t (.poll (iterate start timeout) (.sleep 1)) :=
        .poll (startPromise_turn t start timeout) (silent.await framed stable (.sleep 1))
      apply wp_mono (turns _ _ q both.1 (both.2 confirmed))
      · exact fun _ _ both => ⟨both.1,trivial⟩
      · exact fun _ _ both => ⟨both.1,trivial⟩
    next => exact ⟨both.1,trivial⟩
  · intro error
    cases error <;> exact silent.emits .top .top trivial

theorem startPromise_keeps : Preserves program (StartPromise initial) := by
  apply SampledPromise.preserves [.cover .toClose .finished] closesProven_quiet (by simp)
  intro call t touched
  cases call with
  | finishSequence => exact startPromise_sequence t
  | _ => simp [Call.kinds,openKinds,closeKinds,exitKinds] at touched

end

/-- The final close is made for a clean that some sample since the send has proved, in
every run in which a start is confirmed on such a sample only. -/
theorem final_close_proven (binding : Binding) (world : World) (schedule : List (Label Garage))
    (samples : throughout (atEvents startsOnSample) (run binding world schedule).history = true) :
    throughout (atEvents closesProven) (run binding world schedule).history = true :=
  SampledPromise.holds startPromise_keeps schedule samples

def sampledThenHome (first : Status) : List (Label Garage) :=
  [.call (.asyncSend "app_start"),goesOn 0,.outside (.sampled first 110),.start,
    .outside (.sampled (statusOf .charging false) 130),goesOn 1]

theorem final_close_proven_after_cleaning :
    throughout (atEvents closesProven)
        (run contactBinding cleaningInside (sampledThenHome (statusOf .cleaning true))).history = true ∧
      (run contactBinding cleaningInside (sampledThenHome (statusOf .cleaning true))).history.any closesFinished = true :=
  ⟨final_close_proven _ _ _ (by decide +kernel),by decide +kernel⟩

theorem final_close_on_mop_wash :
    throughout (atEvents closesProven)
      (run contactBinding cleaningInside (sampledThenHome (statusOf .washingTheMop true))).history = false := by
  decide +kernel

example : throughout (atEvents startsOnSample)
    (run contactBinding cleaningInside (sampledThenHome (statusOf .washingTheMop true))).history = false := by
  decide +kernel

end RoborockPlus
