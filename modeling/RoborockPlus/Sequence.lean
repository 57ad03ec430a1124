import RoborockPlus.Operations

/-! The sequence task as a whole, and the program as a whole. A property that looks
at a few kinds of events is settled in the calls that record them. -/
namespace RoborockPlus
open Async GarageController GarageRuntime

/-- What the controller read last, in any call. -/
def lastRead : List (Item Garage) → Option GarageRuntime
  | [] => none
  | .event _ (.read _ seen) :: _ => some seen
  | _ :: past => lastRead past

@[simp] theorem lastRead_reread (t : ℕ) (place : Place) (p : Point Garage) :
    lastRead (reread t place p).history = some p.state.refresh := rfl

/-- The coordinator's sample, as the last status request of the history left it. -/
def currentSample (initial : Option StatusSample) : List (Item Garage) → Option StatusSample
  | [] => initial
  | .outside (.sampled status utc) :: _ => some ⟨utc,status⟩
  | _ :: past => currentSample initial past

theorem currentSample_append (initial : Option StatusSample) (added past : List (Item Garage)) :
    currentSample initial (added++past) = currentSample initial past ∧
        (∀ status utc, .outside (.sampled status utc) ∉ added) ∨
      ∃ status utc, .outside (.sampled status utc) ∈ added ∧
        currentSample initial (added++past) = some ⟨utc,status⟩ := by
  induction added with
  | nil => exact Or.inl ⟨rfl,by simp⟩
  | cons item added ih =>
    by_cases sample : ∃ status utc, item = .outside (.sampled status utc)
    · obtain ⟨status,utc,rfl⟩ := sample
      exact Or.inr ⟨status,utc,by simp,rfl⟩
    have same : currentSample initial (item :: added++past) = currentSample initial (added++past) := by
      rcases item with input | _ | _ | _ | _ | _ | _ | _
      · cases input <;> first | rfl | exact absurd ⟨_,_,rfl⟩ sample
      all_goals rfl
    rcases ih with ⟨kept,none⟩ | ⟨status,utc,member,found⟩
    · refine Or.inl ⟨same.trans kept,fun status utc member => ?_⟩
      rcases List.mem_cons.mp member with rfl | old
      · exact sample ⟨status,utc,rfl⟩
      · exact none status utc old
    · exact Or.inr ⟨status,utc,List.mem_cons_of_mem _ member,same.trans found⟩

structure SameWorld (s s' : GarageRuntime) : Prop where
  world : s'.world = s.world
  binding : s'.binding = s.binding

section
variable {I F : Point Garage → Prop} {t : ℕ}

theorem Silent.emits {α : Type} {m : Co Garage α} (silent : Silent I t) (framed : Silent F t) (stable : Stable t F)
    (inside : Emits [.read] m) : Carries I F t m := by
  refine Co.Within.carries silent framed stable (inside.mono (fun _ _ frame => frame) ?_)
  exact fun e member => List.mem_singleton.mp member

theorem carries_iterate (silent : Silent I t) (framed : Silent F t) (stable : Stable t F)
    (opening : ∀ p, I p → F p → I (reread t .iteration p) ∧ F (reread t .iteration p))
    (iterated : ∀ p : Point Garage, I p → F p → I (p.push (.event t .iterated)) ∧ F (p.push (.event t .iterated)))
    (returns : Carries I F t handleReturn) (departs : ∀ handled, Carries I F t (handleDeparture handled))
    (finishes : Carries I F t sequenceFinished) (start : ℚ) (timeout : PyFloat) :
    Carries I F t (iterate start timeout) := by
  have silently {α : Type} {m : Co Garage α} : Emits [.read] m → Carries I F t m := silent.emits framed stable
  have rules : Carries I F t applyRules := by
    refine .bind (fun p inv fact => ?_) fun _ => .bind returns fun handled => .bind (departs handled) fun _ =>
      .bind (silently (emits_publish (by simp))) fun _ => finishes
    exact opening p inv fact
  refine .bind (silently emits_get) fun s => ?_
  split_ifs
  · exact silently trivial
  refine .bind (.guarded rules fun p inv fact => iterated p inv fact) fun ended => .bind (silently emits_get) fun s => ?_
  split_ifs
  · exact silently trivial
  · exact silently trivial

/-- The sequence is its loop, entered with a fact that each turn but the last renews. -/
theorem wp_finishSequence {p : Point Garage} (silent : Silent I t) (framed : Silent F t) (stable : Stable t F)
    (turn : ∀ start timeout p, I p → F p →
      wp I t (iterate start timeout) (fun found q => I q ∧ (found = none → F q)) (fun _ => I) p)
    (inv : I p) (fact : F p) : wp I t finishSequence (fun _ => I) (fun _ => I) p := by
  have publishes (q : Point Garage) (inv : I q) : wp I t publish (fun _ => I) (fun _ => I) q :=
    (silent.emits Ignores.top Stable.top (emits_publish (by simp))).plain inv trivial
  unfold finishSequence
  rw [wp_bind,wp_get]
  split
  · exact inv
  rw [wp_guarded,wp_attempt,wp_bind]
  refine wp_mono (silent.emits framed stable (emits_awaitCleanStarted (by simp)) p inv fact) ?_ ?_
  · intro started q both
    rw [wp_ite]
    split
    · refine wp_poll I t q (fun q => I q ∧ F q) both fun q loop => wp_mono (turn _ _ q loop.1 loop.2) ?_ ?_
      · intro found q held
        cases found with
        | some value => exact publishes q held.1
        | none =>
          apply Suspends.mono (silent.await framed stable (.sleep 1) q held.1 (held.2 rfl)) (fun _ _ both => both)
          intro error q both
          cases error <;> exact publishes q both.1
      · intro error q inv
        cases error <;> exact publishes q inv
    · exact publishes q both.1
  · intro error q both
    cases error <;> exact publishes q both.1

theorem carries_finishSequence (silent : Silent I t) (framed : Silent F t) (stable : Stable t F)
    (turn : ∀ start timeout, Carries I F t (iterate start timeout)) : Carries I F t finishSequence := by
  have silently {α : Type} {m : Co Garage α} : Emits [.read] m → Carries I F t m := silent.emits framed stable
  refine .bind (silently emits_get) fun s => ?_
  split
  · exact silently trivial
  refine .guarded (.attempt (.bind (silently (emits_awaitCleanStarted (by simp))) fun started => .ite (fun _ => ?_) fun _ =>
    silently trivial) ?_) (silently (emits_publish (by simp)))
  · exact .poll (turn _ _) (silent.await framed stable (.sleep 1))
  · intro error
    cases error <;> exact silently trivial

theorem carries_turns {critical : List Kind} (blind : Ignores I t Frame fun (e : Event) => e.kind ∉ critical)
    (apart : ∀ kind ∈ [.read,.opening,.iterated], kind ∉ critical) (returns : Carries I (fun _ => True) t handleReturn)
    (departs : ∀ handled, Carries I (fun _ => True) t (handleDeparture handled))
    (finishes : Carries I (fun _ => True) t sequenceFinished) : Carries I (fun _ => True) t finishSequence := by
  have silent : Silent I t := blind.mono (fun _ _ frame => frame) fun e kind => by
    rw [kind]
    exact apart .read (by simp)
  refine carries_finishSequence silent .top .top fun start timeout =>
    carries_iterate silent .top .top ?_ ?_ returns departs finishes start timeout
  · intro p inv _
    have begun := blind.act p p.state.refresh inv (frame_refresh p.state)
    exact ⟨blind.event _ (.read .iteration p.state.refresh) begun (apart .opening (by simp)),trivial⟩
  · exact fun p inv _ => ⟨blind.event p .iterated inv (apart .iterated (by simp)),trivial⟩

theorem carries_leaveForWaypoint {settings : ExitSettings} (silent : Silent I t) (framed : Silent F t)
    (stable : Stable t F) (opens : Carries I F t (openDoor .controlledExit))
    (goes : ∀ params, Carries I F t (asyncControlCommand "app_goto_target" params .controlledExit)) :
    Carries I F t (leaveForWaypoint settings) :=
  .bind opens fun _ => .bind (silent.emits framed stable (emits_modify fun _ => ⟨rfl,rfl,rfl⟩)) fun _ =>
    .bind (silent.emits framed stable (emits_publish (by simp))) fun _ => goes _

/-- The way out never gets past its wait: no observation ever has a position. -/
theorem carries_runControlledExit (silent : Silent I t) (framed : Silent F t) (stable : Stable t F)
    (leaves : ∀ settings, Carries I F t (leaveForWaypoint settings)) : Carries I F t runControlledExit := by
  refine .bind (silent.emits framed stable emits_get) fun s => ?_
  split
  · exact silent.emits framed stable trivial
  refine .bind (silent.emits framed stable (emits_refresh (by simp) (by simp))) fun _ => .bind (leaves _) fun _ =>
    .bind (silent.emits framed stable emits_get) fun s p inv fact => ?_
  rw [wp_bind]
  refine wp_poll I t p (fun q => I q ∧ F q) ⟨inv,fact⟩ fun q ⟨inv,fact⟩ => ?_
  have read : I (reread t .exitPoll q) := silent.reread (by simp) inv
  have kept : F (reread t .exitPoll q) := framed.reread (by simp) fact
  unfold lookForWaypoint
  rw [wp_bind,wp_refresh,wp_bind,wp_get]
  simp only [RobotObservation.position,Bool.false_eq_true,if_false]
  rw [wp_ite]
  split
  · exact ⟨read,kept⟩
  · rw [wp_pure]
    exact silent.await framed stable (.sleep (1/5)) _ read kept

theorem carries_openAndSend {cause : Cause} {send : Action} (silent : Silent I t) (framed : Silent F t)
    (stable : Stable t F) (opens : Carries I F t (openDoor cause)) (sends : Carries I F t send) :
    Carries I F t (openAndSend cause send) := by
  have published : Carries I F t publish := silent.emits framed stable (emits_publish (by simp))
  refine .bind opens fun _ => .bind published fun _ => .attempt sends ?_
  intro error
  cases error with
  | control reason => exact .bind published fun _ => silent.emits framed stable trivial
  | other reason => exact .bind published fun _ => silent.emits framed stable trivial
  | cancelled => exact silent.emits framed stable trivial

/-- A call of the send callback that releases the robot: a routine, or a command that
is neither harmless nor a way home. -/
def releasing : Option String → Bool
  | none => true
  | some name => decide (name ∉ safeDirectCommands) && name != "app_charge"

/-- A charge order is sent at once while control is loaded, a harmless command always. -/
theorem carries_asyncSend_loaded {name : String} {cause : Cause} {send : Action} (silent : Silent I t) (framed : Silent F t)
    (stable : Stable t F) (exits : Carries I F t runControlledExit)
    (safe : name ∈ safeDirectCommands → Carries I F t send)
    (charge : name = "app_charge" → ∀ p, I p → F p → p.state.closed = false →
      wp I t send (fun _ q => I q ∧ F q) (fun _ q => I q ∧ F q) p)
    (sends : Carries I F t (openAndSend cause send)) : Carries I F t (asyncSend name cause send) := by
  have first : Carries I F t (controlledExitFirst name) := by
    refine .bind (silent.emits framed stable emits_get) fun s => ?_
    split_ifs
    · exact exits
    · exact silent.emits framed stable trivial
  intro p inv fact
  unfold asyncSend
  rw [wp_bind,wp_get,wp_ite]
  split
  · exact ⟨inv,fact⟩
  next known =>
  have known := not_not.mp known
  rw [wp_ite]
  split
  next harmless => exact safe harmless p inv fact
  next risky =>
  rw [wp_ite]
  split
  · exact ⟨inv,fact⟩
  next running =>
  have running : p.state.closed = false := (Bool.not_eq_true _).mp running
  rw [wp_ite]
  split
  next other => exact charge (by simpa [risky,other] using known) p inv fact running
  have task : Carries I F t (do
      controlledExitFirst name
      openAndSend cause send
      publish
      let task ← .spawn .finishSequence
      .modify fun s => {s with sequenceTask := some task} : Action) :=
    .bind first fun _ => .bind sends fun _ => .bind (silent.emits framed stable (emits_publish (by simp))) fun _ =>
      .bind (silent.emits framed stable (within_spawn _)) fun _ =>
      silent.emits framed stable (emits_modify fun _ => ⟨rfl,rfl,rfl⟩)
  exact task p inv fact

theorem carries_asyncSend {name : String} {cause : Cause} {send : Action} (silent : Silent I t)
    (framed : Silent F t) (stable : Stable t F) (exits : Carries I F t runControlledExit)
    (direct : releasing (some name) = false → Carries I F t send) (sends : Carries I F t (openAndSend cause send)) :
    Carries I F t (asyncSend name cause send) :=
  carries_asyncSend_loaded silent framed stable exits (fun safe => direct (by simp [releasing,safe]))
    (fun charge p inv fact _ => direct (by simp [releasing,charge]) p inv fact) sends

end

theorem Emits.carries {I F : Point Garage → Prop} {t : ℕ} {α : Type} {m : Co Garage α} {critical : List Kind}
    (blind : Ignores I t SameWorld fun (e : Event) => e.kind ∉ critical)
    (framed : Ignores F t SameWorld fun (e : Event) => e.kind ∉ critical) (stable : Stable t F)
    (kinds : List Kind) (inside : Emits kinds m) (apart : ∀ kind ∈ kinds, kind ∉ critical) : Carries I F t m :=
  Co.Within.carries blind framed stable
    (inside.mono (fun _ _ frame => ⟨frame.world,frame.binding⟩) fun e member => apart e.kind member)

theorem carries_shutdown {I : Point Garage → Prop} {t : ℕ}
    (blind : Ignores I t SameWorld fun (e : Event) => e.kind = .shutdown) : Carries I (fun _ => True) t shutdown := by
  refine Co.Within.carries blind .top .top ⟨fun s => ⟨rfl,rfl⟩,fun s => ⟨fun s => ⟨rfl,rfl⟩,fun _ => ⟨rfl,fun _ => ?_⟩⟩⟩
  dsimp only
  split <;> trivial

/-- Only the calls that may record a critical kind need an argument of their own, each
from its first entry on. -/
theorem preserves_of_begun {I : Point Garage → Prop} (critical : List Kind)
    (blind : ∀ t, Ignores I t Frame fun (e : Event) => e.kind ∉ critical)
    (outside : ∀ input p, I p → I ⟨p.state.apply input,.outside input :: p.history⟩)
    (started : ∀ t call p, I p → I (p.push (.started t call)))
    (finished : ∀ t p, I p → I (p.push (.finished t)))
    (failed : ∀ t error p, I p → I (p.push (.failed t error)))
    (unloads : ∀ t p, I p → wp I t shutdown (fun _ => I) (fun _ => I) p)
    (special : ∀ call t, (∃ kind ∈ call.kinds, kind ∈ critical) → call ≠ .shutdown → ∀ p, I p →
      own t p.history = [.started t call] → wp I t (body call) (fun _ => I) (fun _ => I) p) :
    Preserves program I := by
  refine Preserves.of_bodies outside started finished failed fun call t p inv begun => ?_
  by_cases shut : call = .shutdown
  · subst shut
    exact unloads t p inv
  by_cases touched : ∃ kind ∈ call.kinds, kind ∈ critical
  · exact special call t touched shut p inv begun
  have inside : Emits call.kinds (body call) := emits_body shut (List.Subset.refl _)
  refine Carries.plain (F := fun _ => True) (Co.Within.carries (blind t) .top .top (inside.mono (fun _ _ frame => frame) ?_))
    inv trivial
  exact fun e member critical => touched ⟨e.kind,member,critical⟩

theorem preserves_of_critical {I : Point Garage → Prop} (critical : List Kind)
    (blind : ∀ t, Ignores I t SameWorld fun (e : Event) => e.kind ∉ critical)
    (ordinary : .shutdown ∉ critical)
    (outside : ∀ input p, I p → I ⟨p.state.apply input,.outside input :: p.history⟩)
    (started : ∀ t call p, I p → I (p.push (.started t call)))
    (finished : ∀ t p, I p → I (p.push (.finished t)))
    (failed : ∀ t error p, I p → I (p.push (.failed t error)))
    (special : ∀ call t, (∃ kind ∈ call.kinds, kind ∈ critical) → Carries I (fun _ => True) t (body call)) :
    Preserves program I := by
  refine preserves_of_begun critical
    (fun t => (blind t).mono (fun _ _ frame => ⟨frame.world,frame.binding⟩) fun _ other => other)
    outside started finished failed (fun t p inv => Carries.plain (carries_shutdown ?_) inv trivial)
    (fun call t touched _ p inv _ => (special call t touched).plain inv trivial)
  refine (blind t).mono (fun _ _ same => same) fun e kind => ?_
  rw [kind]
  exact ordinary

theorem preserves_promise {condition : List (Item Garage) → Item Garage → Bool}
    {check : ℕ → List (Item Garage) → Event → Bool} (critical : List Kind)
    (quiet : ∀ t past (e : Event), e.kind ∉ critical → check t past e = true) (ordinary : .shutdown ∉ critical)
    (special : ∀ call t, (∃ kind ∈ call.kinds, kind ∈ critical) →
      Carries (Promise condition (atEvents check)) (fun _ => True) t (body call)) :
    Preserves program (Promise condition (atEvents check)) := by
  refine preserves_of_critical critical (fun t => Promise.ignores fun past e => quiet t past e) ordinary ?_ ?_ ?_ ?_ special
  · exact fun input p held => (show Promise _ _ (p.push (.outside input)) from held.push fun _ _ => rfl).of_same rfl
  · exact fun t call p held => held.push fun _ _ => rfl
  · exact fun t p held => held.push fun _ _ => rfl
  · exact fun t error p held => held.push fun _ _ => rfl

theorem promise_run {condition : List (Item Garage) → Item Garage → Bool}
    {check : ℕ → List (Item Garage) → Event → Bool}
    (keeps : Preserves program (Promise condition (atEvents check))) (binding : Binding) (world : World)
    (schedule : List (Label Garage)) (held : throughout condition (run binding world schedule).history = true) :
    throughout (atEvents check) (run binding world schedule).history = true :=
  keeps.exec _ (fun _ => rfl) schedule held

/-- A promise, together with the fact that the cached sample is the history's last. -/
structure SampledPromise (condition : List (Item Garage) → Item Garage → Bool)
    (check : ℕ → List (Item Garage) → Event → Bool) (initial : Option StatusSample) (p : Point Garage) : Prop where
  promise : Promise condition (atEvents check) p
  sample : p.state.world.coordinator.garageStatusSample = currentSample initial p.history

namespace SampledPromise
variable {condition : List (Item Garage) → Item Garage → Bool} {check : ℕ → List (Item Garage) → Event → Bool}
  {initial : Option StatusSample} {p : Point Garage}

theorem blind {critical : List Kind} (quiet : ∀ t past (e : Event), e.kind ∉ critical → check t past e = true) (t : ℕ) :
    Ignores (SampledPromise condition check initial) t SameWorld fun (e : Event) => e.kind ∉ critical := by
  have blind : Ignores (Promise condition (atEvents check)) t SameWorld fun (e : Event) => e.kind ∉ critical :=
    Promise.ignores fun past e => quiet t past e
  refine ⟨fun p s held same => ⟨blind.act p s held.promise same,?_⟩,
    fun p e held other => ⟨blind.event p e held.promise other,held.sample⟩,
    fun p n call held => ⟨blind.spawned p n call held.promise,held.sample⟩,
    fun p request held => ⟨blind.waiting p request held.promise,held.sample⟩,
    fun p answer held => ⟨blind.resumed p answer held.promise,held.sample⟩⟩
  change s.world.coordinator.garageStatusSample = _
  rw [same.world]
  exact held.sample

theorem event (held : SampledPromise condition check initial p) {t : ℕ} {e : Event} {s : GarageRuntime}
    (same : s.world = p.state.world) (passes : throughout condition p.history = true → check t p.history e = true) :
    SampledPromise condition check initial ⟨s,.event t e :: p.history⟩ := by
  refine ⟨(held.promise.event passes).of_same rfl,?_⟩
  change s.world.coordinator.garageStatusSample = _
  rw [same]
  exact held.sample

theorem outside (input : Stimulus) (held : SampledPromise condition check initial p) :
    SampledPromise condition check initial ⟨p.state.apply input,.outside input :: p.history⟩ := by
  refine ⟨(show Promise _ _ (p.push (.outside input)) from held.promise.push fun _ _ => rfl).of_same rfl,?_⟩
  have sample := held.sample
  cases input <;> first | rfl | exact sample

theorem preserves (critical : List Kind) (quiet : ∀ t past (e : Event), e.kind ∉ critical → check t past e = true)
    (ordinary : .shutdown ∉ critical)
    (special : ∀ call t, (∃ kind ∈ call.kinds, kind ∈ critical) →
      Carries (SampledPromise condition check initial) (fun _ => True) t (body call)) :
    Preserves program (SampledPromise condition check initial) := by
  refine preserves_of_critical critical (blind quiet) ordinary (fun input _ => outside input) ?_ ?_ ?_ special
  · exact fun t call p held => ⟨held.promise.push fun _ _ => rfl,held.sample⟩
  · exact fun t p held => ⟨held.promise.push fun _ _ => rfl,held.sample⟩
  · exact fun t error p held => ⟨held.promise.push fun _ _ => rfl,held.sample⟩

theorem holds {binding : Binding} {world : World}
    (keeps : Preserves program (SampledPromise condition check world.coordinator.garageStatusSample))
    (schedule : List (Label Garage)) (held : throughout condition (run binding world schedule).history = true) :
    throughout (atEvents check) (run binding world schedule).history = true := by
  have start : SampledPromise condition check world.coordinator.garageStatusSample
      ⟨GarageRuntime.init binding world,[]⟩ := ⟨fun _ => rfl,rfl⟩
  exact (keeps.exec _ start schedule).promise held

end SampledPromise

def unloads : Item Garage → Bool
  | .event _ .shutdown => true
  | _ => false

/-- A promise, together with the fact that control is unloaded once a shutdown is on record. -/
structure LoadedPromise (condition promise : List (Item Garage) → Item Garage → Bool) (p : Point Garage) : Prop where
  promise : Promise condition promise p
  unloaded : p.state.closed = p.history.any unloads

namespace LoadedPromise
variable {condition promise : List (Item Garage) → Item Garage → Bool} {item : Item Garage} {p : Point Garage}

theorem push (held : LoadedPromise condition promise p) {s : GarageRuntime} (same : s.closed = p.state.closed)
    (passes : condition p.history item = true → throughout condition p.history = true → promise p.history item = true)
    (running : unloads item = false) : LoadedPromise condition promise ⟨s,item :: p.history⟩ := by
  refine ⟨(held.promise.push passes).of_same rfl,?_⟩
  rw [List.any_cons,running,Bool.false_or]
  exact same.trans held.unloaded

theorem blind (t : ℕ) {S : Event → Prop} (free : ∀ past item, item.Inside (fun _ => False) → promise past item = true)
    (quiet : ∀ past e, S e → promise past (.event t e) = true) (loaded : ∀ e, S e → e.kind ≠ .shutdown) :
    Ignores (LoadedPromise condition promise) t Frame S := by
  refine ⟨fun p s held frame => ⟨held.promise.of_same rfl,frame.closed.trans held.unloaded⟩,fun p e held inside => ?_,
    fun p n call held => held.push rfl (fun _ _ => free _ _ trivial) rfl,
    fun p request held => held.push rfl (fun _ _ => free _ _ trivial) rfl,
    fun p answer held => held.push rfl (fun _ _ => free _ _ trivial) rfl⟩
  refine held.push rfl (fun _ _ => quiet _ _ inside) ?_
  cases e with
  | shutdown => exact absurd rfl (loaded _ inside)
  | _ => rfl

theorem outside (held : LoadedPromise condition promise p) (input : Stimulus)
    (free : ∀ past item, item.Inside (fun _ => False) → promise past item = true) :
    LoadedPromise condition promise ⟨p.state.apply input,.outside input :: p.history⟩ := by
  refine held.push ?_ (fun _ _ => free _ _ trivial) rfl
  cases input <;> rfl

theorem shutdown (held : LoadedPromise condition promise p) {t : ℕ}
    (passes : condition p.history (.event t .shutdown) = true → throughout condition p.history = true →
      promise p.history (.event t .shutdown) = true) :
    wp (LoadedPromise condition promise) t shutdown (fun _ q => LoadedPromise condition promise q ∧
        q.history = .event t .shutdown :: p.history)
      (fun _ q => LoadedPromise condition promise q ∧ q.history = .event t .shutdown :: p.history) p := by
  unfold GarageRuntime.shutdown
  rw [wp_bind,wp_get,wp_bind,wp_modify,wp_bind,wp_emit]
  have unloaded (s : GarageRuntime) (closed : s.closed = true) :
      LoadedPromise condition promise ⟨s,.event t .shutdown :: p.history⟩ :=
    ⟨(held.promise.push passes).of_same rfl,closed⟩
  split
  · exact ⟨unloaded _ rfl,rfl⟩
  · exact ⟨unloaded _ rfl,rfl⟩

theorem holds {binding : Binding} {world : World} (keeps : Preserves program (LoadedPromise condition promise))
    (schedule : List (Label Garage)) (held : throughout condition (run binding world schedule).history = true) :
    throughout promise (run binding world schedule).history = true := by
  have start : LoadedPromise condition promise ⟨GarageRuntime.init binding world,[]⟩ := ⟨fun _ => rfl,rfl⟩
  exact (keeps.exec _ start schedule).promise held

end LoadedPromise

end RoborockPlus
