import RoborockPlus.Departure

/-! When a pause counts as observed. The rules read the coordinator's cached sample;
whether it was taken after the pause is a matter of what came in between. -/
namespace RoborockPlus
open Async GarageController GarageRuntime

/-- Since its last pause command the task can point to a paused sample stamped later;
`stamps` are those met on the way back. -/
def pauseSampled (t : ℕ) (stamps : List ℚ) : List (Item Garage) → Bool
  | [] => false
  | .outside (.sampled status utc) :: past =>
    pauseSampled t (if status.state = .paused then utc :: stamps else stamps) past
  | .event u (.robot name _ sent) :: past =>
    if u = t ∧ name = "app_pause" then stamps.any (sent < ·) else pauseSampled t stamps past
  | _ :: past => pauseSampled t stamps past

/-- The departure rule closes, and the return rule opens, on an observed pause. -/
def pauseObserved (t : ℕ) (past : List (Item Garage)) : Event → Bool
  | .cover .toClose .departure | .cover .toOpen .returning => pauseSampled t [] past
  | _ => true

def replaced (t : ℕ) : List (Item Garage) → Bool
  | [] => false
  | .outside (.sampled _ _) :: _ => true
  | .event u (.robot name _ _) :: past => if u = t ∧ name = "app_pause" then false else replaced t past
  | _ :: past => replaced t past

def departedPaused (t : ℕ) : List (Item Garage) → Bool
  | [] => false
  | .event u (.read .departure seen) :: past =>
    if u = t then decide (seen.controller.robot.state = .paused) else departedPaused t past
  | _ :: past => departedPaused t past

def pausesBefore (utc : ℚ) : Item Garage → Bool
  | .event _ (.robot "app_pause" _ sent) => decide (sent < utc)
  | _ => true

/-- Each sample is stamped later than the pauses before it, and a robot that was paused
before the departure rule paused it is sampled again. -/
def samplesPauses (past : List (Item Garage)) : Item Garage → Bool
  | .outside (.sampled _ utc) => past.all (pausesBefore utc)
  | .event t (.read .departurePaused seen) =>
    decide (seen.controller.robot.state ≠ .paused) || !closes seen || !departedPaused t past || replaced t past
  | _ => true

section Window
variable {t : ℕ} {added past : List (Item Garage)} {cause : Cause} {sent : ℚ}

abbrev Foreign (t : ℕ) (added : List (Item Garage)) : Prop := ∀ item ∈ added, item.owner = some t → item.Inside fun _ => False

theorem foreign_event {u : ℕ} {e : Event} (foreign : Foreign t (.event u e :: added)) : u ≠ t := by
  intro same
  exact foreign _ List.mem_cons_self (congrArg some same)

theorem replaced_append (foreign : Foreign t added)
    (fresh : replaced t (added++.event t (.robot "app_pause" cause sent) :: past) = true) :
    ∃ status utc, .outside (.sampled status utc) ∈ added := by
  induction added with
  | nil => simp [replaced] at fresh
  | cons item added ih =>
    have rest : Foreign t added := fun other member => foreign other (List.mem_cons_of_mem _ member)
    by_cases sample : ∃ status utc, item = .outside (.sampled status utc)
    · obtain ⟨status,utc,rfl⟩ := sample
      exact ⟨status,utc,by simp⟩
    suffices replaced t (added++.event t (.robot "app_pause" cause sent) :: past) = true by
      obtain ⟨status,utc,member⟩ := ih rest this
      exact ⟨status,utc,List.mem_cons_of_mem _ member⟩
    rcases item with input | _ | _ | ⟨u,e⟩ | _ | _ | _ | _
    · cases input <;> first | exact fresh | exact absurd ⟨_,_,rfl⟩ sample
    · exact fresh
    · exact fresh
    · have other := foreign_event foreign
      cases e <;> first | exact fresh | simpa [replaced,other] using fresh
    all_goals exact fresh

theorem departedPaused_append (foreign : Foreign t added) :
    departedPaused t (added++past) = departedPaused t past := by
  induction added with
  | nil => rfl
  | cons item added ih =>
    have rest : Foreign t added := fun other member => foreign other (List.mem_cons_of_mem _ member)
    rcases item with _ | _ | _ | ⟨u,e⟩ | _ | _ | _ | _
    case event =>
      have other := foreign_event foreign
      rcases e with ⟨place,seen⟩ | _ | _ | _ | _ | _ | _ | _
      · cases place <;> first | exact ih rest | simpa [departedPaused,other] using ih rest
      all_goals exact ih rest
    all_goals exact ih rest

theorem pauseSampled_append (foreign : Foreign t added) {stamps : List ℚ}
    (seen : (∃ utc ∈ stamps, sent < utc) ∨
      ∃ status utc, .outside (.sampled status utc) ∈ added ∧ status.state = .paused ∧ sent < utc) :
    pauseSampled t stamps (added++.event t (.robot "app_pause" cause sent) :: past) = true := by
  induction added generalizing stamps with
  | nil =>
    rcases seen with ⟨utc,member,later⟩ | ⟨_,_,member,_⟩
    · simpa [pauseSampled] using ⟨utc,member,later⟩
    · simp at member
  | cons item added ih =>
    have rest : Foreign t added := fun other member => foreign other (List.mem_cons_of_mem _ member)
    by_cases sample : ∃ status utc, item = .outside (.sampled status utc)
    · obtain ⟨status,utc,rfl⟩ := sample
      apply ih rest
      rcases seen with ⟨stamp,member,later⟩ | ⟨status',utc',member,paused,later⟩
      · refine Or.inl ⟨stamp,?_,later⟩
        split_ifs
        · exact List.mem_cons_of_mem _ member
        · exact member
      rcases List.mem_cons.mp member with same | old
      · obtain ⟨rfl,rfl⟩ : status' = status ∧ utc' = utc := by simpa using same
        exact Or.inl ⟨utc',by simp [paused],later⟩
      · exact Or.inr ⟨status',utc',old,paused,later⟩
    have older : (∃ utc ∈ stamps, sent < utc) ∨
        ∃ status utc, .outside (.sampled status utc) ∈ added ∧ status.state = .paused ∧ sent < utc := by
      rcases seen with stamped | ⟨status,utc,member,held⟩
      · exact Or.inl stamped
      rcases List.mem_cons.mp member with same | old
      · exact absurd ⟨status,utc,same.symm⟩ sample
      · exact Or.inr ⟨status,utc,old,held⟩
    rcases item with input | _ | _ | ⟨u,e⟩ | _ | _ | _ | _
    · cases input <;> first | exact ih rest older | exact absurd ⟨_,_,rfl⟩ sample
    · exact ih rest older
    · exact ih rest older
    · have other := foreign_event foreign
      cases e <;> first | exact ih rest older | simpa [pauseSampled,other] using ih rest older
    all_goals exact ih rest older

end Window

section
variable {initial : Option StatusSample} {t : ℕ} {p q : Point Garage}

def observing : List Kind := [.cover .toClose .departure,.cover .toOpen .returning]

theorem pauseObserved_quiet (t : ℕ) (past : List (Item Garage)) (e : Event) (other : e.kind ∉ observing) :
    pauseObserved t past e = true := by
  cases e with
  | cover d cause => cases d <;> cases cause <;> first | rfl | simp [Event.kind,observing] at other
  | _ => rfl

abbrev PausePromise : Option StatusSample → Point Garage → Prop := SampledPromise samplesPauses pauseObserved

theorem pausePromise_blind (t : ℕ) : Ignores (PausePromise initial) t SameWorld fun (e : Event) => e.kind ∉ observing :=
  SampledPromise.blind pauseObserved_quiet t

theorem pausePromise_still (t : ℕ) : Ignores (PausePromise initial) t Frame fun (e : Event) => e.kind ∉ observing :=
  (pausePromise_blind t).mono (fun _ _ frame => ⟨frame.world,frame.binding⟩) fun _ other => other

theorem pausePromise_unmoved (t : ℕ) : Unmoved (PausePromise initial) t :=
  .of_blind (pausePromise_still t) (by simp [observing]) (by simp [observing])

theorem pause_sampled {s₀ : GarageRuntime} {cause : Cause} {sent : ℚ} {place : Place}
    (before : PausePromise initial p) (after : PausePromise initial q)
    (idle : Idle t ⟨s₀,.event t (.robot "app_pause" cause sent) :: (reread t place p).history⟩ q)
    (condition : throughout samplesPauses q.history = true)
    (paused : q.state.world.status.state = .paused)
    (fresh : p.state.world.status.state ≠ .paused ∨ replaced t q.history = true) :
    pauseSampled t [] q.history = true := by
  obtain ⟨added,grown,foreign⟩ := idle
  have found : ∃ status utc, .outside (.sampled status utc) ∈ added ∧
      currentSample initial q.history = some ⟨utc,status⟩ := by
    rw [grown]
    rcases currentSample_append initial added _ with ⟨kept,none⟩ | found
    · rcases fresh with moved | fresh
      · have same : q.state.world.coordinator.garageStatusSample = p.state.world.coordinator.garageStatusSample := by
          rw [after.sample,before.sample,grown]
          exact kept
        exact absurd (by rw [← paused]; unfold World.status; rw [same]) moved
      · rw [grown] at fresh
        obtain ⟨status,utc,member⟩ := replaced_append foreign fresh
        exact absurd member (none status utc)
    · exact found
  obtain ⟨status,utc,member,current⟩ := found
  have still : status.state = .paused := by
    rw [← paused]
    unfold World.status
    rw [after.sample,current]
  have later : sent < utc := by
    obtain ⟨newer,older,split⟩ := List.append_of_mem member
    rw [grown,split,List.append_assoc,List.cons_append] at condition
    have all := throughout_at condition
    have bound := List.all_eq_true.mp all (.event t (.robot "app_pause" cause sent)) (by simp)
    simpa [pausesBefore] using bound
  rw [grown]
  exact pauseSampled_append foreign (Or.inr ⟨status,utc,member,still,later⟩)

theorem pausePromise_departure (t : ℕ) (handled : Bool) :
    Carries (PausePromise initial) (fun _ => True) t (handleDeparture handled) := by
  have blind : Unmoved (PausePromise initial) t := pausePromise_unmoved t
  have quiet {e : Event} (other : e.kind ∉ observing) {r : Point Garage} (held : PausePromise initial r) :
      PausePromise initial (r.push (.event t e)) := (pausePromise_blind t).event r e held other
  refine carries_handleDeparture blind ?_ ?_ ?_ handled
  · intro p read _ s frame
    exact quiet (by simp [Event.kind,observing]) (blind.act _ s read ⟨frame.world,frame.binding,frame.closed⟩)
  · exact fun p inv utc => quiet (by simp [Event.kind,observing]) inv
  intro p s₀ q inv outside _ idle held still closing asked s frame
  refine asked.event frame.world fun condition => ?_
  have here : samplesPauses q.history (.event t (.read .departurePaused q.state.refresh)) = true :=
    throughout_second condition
  have all : throughout samplesPauses q.history = true := throughout_suffix condition ⟨[_,_],rfl⟩
  change pauseSampled t [] q.history = true
  apply pause_sampled inv held idle all still
  -- a robot paused from the start needs the new sample that the condition asks for
  by_cases paused : p.state.world.status.state = .paused
  · right
    obtain ⟨added,grown,foreign⟩ := idle
    have departed : departedPaused t q.history = true := by
      rw [grown,departedPaused_append foreign]
      have robot : p.state.refresh.controller.robot.state = .paused := paused
      simp only [departedPaused,reread,if_true]
      exact decide_eq_true robot
    simpa only [samplesPauses,still,closing,departed,ne_eq,not_true_eq_false,decide_false,Bool.not_true,
      Bool.false_or] using here
  · exact Or.inl paused

theorem pausePromise_return (t : ℕ) : Carries (PausePromise initial) (fun _ => True) t handleReturn := by
  have blind : Unmoved (PausePromise initial) t := pausePromise_unmoved t
  have quiet {e : Event} (other : e.kind ∉ observing) {r : Point Garage} (held : PausePromise initial r) :
      PausePromise initial (r.push (.event t e)) := (pausePromise_blind t).event r e held other
  apply carries_handleReturn blind
  · intro p read _ _ _ s frame
    exact quiet (by simp [Event.kind,observing]) (blind.act _ s read ⟨frame.world,frame.binding,frame.closed⟩)
  · intro p s₀ q inv returning _ idle held still r s same _ asked frame
    refine asked.event frame.world fun condition => ?_
    have before := throughout_suffix condition (List.suffix_cons _ _)
    rw [same] at before
    have all : throughout samplesPauses q.history = true := throughout_suffix before (List.suffix_cons _ _)
    change pauseSampled t [] r.history = true
    rw [same]
    change pauseSampled t [] q.history = true
    refine pause_sampled inv held idle all still (Or.inl fun paused => ?_)
    -- a returning robot is not paused
    unfold isReturning at returning
    have robot : p.state.refresh.controller.robot.state = .paused := paused
    rw [robot] at returning
    simp [RobotState.returningStates] at returning
  · exact fun x s place utc _ _ _ inv => quiet (by simp [Event.kind,observing]) inv

theorem pausePromise_keeps : Preserves program (PausePromise initial) := by
  refine SampledPromise.preserves observing pauseObserved_quiet (by simp [observing]) ?_
  intro call t touched
  cases call with
  | finishSequence =>
    have finish : Carries (PausePromise initial) (fun _ => True) t sequenceFinished :=
      Emits.carries (pausePromise_blind t) .top .top finishKinds (emits_sequenceFinished (List.Subset.refl _))
        (by simp [finishKinds,openKinds,closeKinds,observing])
    exact carries_turns (pausePromise_still t) (by simp [observing]) (pausePromise_return t) (pausePromise_departure t) finish
  | _ => simp [Call.kinds,openKinds,closeKinds,exitKinds,observing] at touched

end

/-- The departure rule closes and the return rule opens on a pause that a later sample
shows, in every run in which samples are stamped in order and a robot that was paused
already is sampled again. -/
theorem rules_wait_for_pause (binding : Binding) (world : World) (schedule : List (Label Garage))
    (samples : throughout samplesPauses (run binding world schedule).history = true) :
    throughout (atEvents pauseObserved) (run binding world schedule).history = true :=
  SampledPromise.holds pausePromise_keeps schedule samples

theorem rules_wait_for_pause_eastward :
    throughout (atEvents pauseObserved) (run contactBinding drivingOut (departsTo 3000)).history = true ∧
      (run contactBinding drivingOut (departsTo 3000)).history.any closesBehind = true :=
  ⟨rules_wait_for_pause _ _ _ (by decide +kernel),by decide +kernel⟩

def neverSampled : List (Label Garage) :=
  [.call (.asyncSend "app_start"),goesOn 0,.start,goesOn 1,goesOn 1]

theorem departure_closes_on_old_pause :
    throughout (atEvents pauseObserved)
      (run contactBinding (contactWorld "open" true false (statusOf .paused true) 5000) neverSampled).history = false := by
  decide +kernel

example : throughout samplesPauses
    (run contactBinding (contactWorld "open" true false (statusOf .paused true) 5000) neverSampled).history = false := by
  decide +kernel

end RoborockPlus
