import RoborockPlus.Footprint
import RoborockPlus.Refresh

/-! What opening and closing do, said once. A property of runs has to look at three
moments of an operation: the reading it is decided on, the command, and the end. -/
namespace RoborockPlus
open Async GarageController GarageRuntime

def reread (t : ℕ) (place : Place) (p : Point Garage) : Point Garage :=
  ⟨p.state.refresh,.event t (.read place p.state.refresh) :: p.history⟩

/-- Neither refreshes nor waits nor changes within the frame matter. -/
abbrev Silent (I : Point Garage → Prop) (t : ℕ) : Prop := Ignores I t Frame fun (e : Event) => e.kind = .read

section
variable {I F : Point Garage → Prop} {t : ℕ} {p : Point Garage}

theorem wp_refresh {place : Place} {Q : Unit → Point Garage → Prop} {X : Exc → Point Garage → Prop} :
    wp I t (GarageController.refresh place) Q X p = Q () (reread t place p) := rfl

theorem frame_refresh (s : GarageRuntime) : Frame s s.refresh := ⟨rfl,rfl,rfl⟩

theorem kind_read {place : Place} (ordinary : place ∉ [.iteration,.finish]) (s : GarageRuntime) :
    (Event.read place s).kind = .read := by
  cases place <;> first | rfl | simp at ordinary

theorem Silent.reread (silent : Silent I t) {place : Place} (ordinary : place ∉ [.iteration,.finish]) (inv : I p) :
    I (reread t place p) :=
  silent.event ⟨p.state.refresh,p.history⟩ _ (silent.act p _ inv (frame_refresh p.state)) (kind_read ordinary _)

theorem Silent.await (silent : Silent I t) (framed : Silent F t) (stable : Stable t F) (request : Request) :
    Carries I F t (.await request : Co Garage Unit) :=
  Co.Within.carries silent framed stable trivial

theorem wp_publish {G : Point Garage → Prop} {X : Exc → Point Garage → Prop}
    (step : p.state.listeners ≠ [] → ∀ q, G q → G (RoborockPlus.reread t .entity q)) (held : G p) :
    wp I t publish (fun _ => G) X p := by
  unfold publish
  rw [wp_bind,wp_get]
  by_cases listening : p.state.listeners = []
  · rw [listening]
    exact held
  have step := step listening
  have entity (n : ℕ) : ∀ q, G q → wp I t (writeEntity n) (fun _ => G) X q := by
    induction n with
    | zero => exact fun q known => known
    | succ n ih => exact fun q known => ih _ (step q known)
  suffices ∀ listeners q, G q → wp I t (writeEntities listeners) (fun _ => G) X q from this _ p held
  intro listeners
  induction listeners with
  | nil => exact fun q known => known
  | cons first rest ih =>
    intro q known
    rw [writeEntities,wp_bind]
    exact wp_mono (entity first.refreshes q known) (fun _ r later => ih r later) (fun _ _ failed => failed)

theorem wp_waitFor {d : Direction} {cause : Cause} (silent : Silent I t) (framed : Silent F t)
    (stable : Stable t F) (inv : I p) (fact : F p) :
    wp I t (waitFor d cause)
      (fun _ q => ∃ x, q = reread t (.waited d cause) x ∧ I q ∧ F q ∧ q.state.controller.confirmed d = true)
      (fun _ q => I q ∧ F q) p := by
  unfold waitFor
  rw [wp_bind,wp_get]
  split
  · exact ⟨inv,fact⟩
  refine wp_poll I t p (fun q => I q ∧ F q) ⟨inv,fact⟩ ?_
  intro q ⟨inv,fact⟩
  have read : I (reread t (.waited d cause) q) := silent.reread (by simp) inv
  have kept : F (reread t (.waited d cause) q) := framed.reread (by simp) fact
  unfold pollEndpoint
  rw [wp_bind,wp_refresh,wp_bind,wp_get]
  rw [wp_ite]
  split
  next confirmed => exact ⟨q,rfl,read,kept,confirmed⟩
  next =>
    rw [wp_ite]
    split
    · exact ⟨read,kept⟩
    · rw [wp_pure]
      exact silent.await framed stable (.sleep (1/5)) _ read kept

theorem wp_operate {d : Direction} {cause : Cause} {done : GarageRuntime → GarageRuntime}
    {Q : Unit → Point Garage → Prop} {X : Exc → Point Garage → Prop}
    (silent : Silent I t) (framed : Silent F t) (stable : Stable t F)
    (assigned : (p.state.binding .coverEntityId).isSome)
    (commanded : ∀ s, Frame p.state s → I ⟨s,.event t (.cover d cause) :: p.history⟩ ∧
      F ⟨s,.event t (.cover d cause) :: p.history⟩)
    (succeeded : ∀ x, I (reread t (.waited d cause) x) → F (reread t (.waited d cause) x) →
      x.state.refresh.controller.confirmed d = true →
      Q () ⟨done x.state.refresh,.event t (.succeeded d cause) :: (reread t (.waited d cause) x).history⟩)
    (gaveUp : ∀ q s error, (∀ reason, error ≠ .other reason) → I q → F q → Frame q.state s →
      X error ⟨s,.event t (.gaveUp d cause) :: q.history⟩) :
    wp I t (operate d cause done) Q X p := by
  have failure (error : Exc) (q : Point Garage) (both : I q ∧ F q) :
      wp I t (reportFailure d cause error) Q X q := by
    unfold reportFailure
    rw [wp_bind,wp_emit]
    cases error with
    | control reason => exact gaveUp q _ _ (by simp) both.1 both.2 (Frame.refl _)
    | other reason => exact gaveUp q _ _ (by simp) both.1 both.2 ⟨rfl,rfl,rfl⟩
    | cancelled => exact gaveUp q _ _ (by simp) both.1 both.2 (Frame.refl _)
  unfold operate
  rw [wp_attempt,wp_bind,wp_modify,wp_bind]
  unfold moveDoor
  rw [wp_bind,wp_modify,wp_bind,wp_get]
  have present : ((makeContext p.state.invalidateEvidence).binding .coverEntityId).isNone ≠ true := by
    intro missing
    exact absurd (Option.isNone_iff_eq_none.mp missing) (Option.isSome_iff_ne_none.mp assigned)
  rw [if_neg present]
  rw [wp_bind,wp_emit,wp_bind]
  obtain ⟨inv,fact⟩ := commanded (makeContext p.state.invalidateEvidence) ⟨rfl,rfl,rfl⟩
  refine wp_mono (silent.await framed stable (.cover d) _ inv fact) ?_ failure
  intro _ q both
  rw [wp_pure,wp_bind]
  refine wp_mono (wp_waitFor silent framed stable both.1 both.2) ?_ failure
  rintro _ q ⟨x,rfl,inv,fact,confirmed⟩
  exact succeeded x inv fact confirmed

section Door
variable {cause : Cause} {Q : Unit → Point Garage → Prop} {X : Exc → Point Garage → Prop}

theorem wp_openDoor (silent : Silent I t) (framed : Silent F t) (stable : Stable t F)
    (refused : ∀ s error, p.state.refresh.controller.doorBlockedReason ≠ none → Frame p.state s →
      X error ⟨s,(reread t (.asked .toOpen cause) p).history⟩)
    (already : p.state.refresh.controller.doorBlockedReason = none → p.state.refresh.controller.openConfirmed = true →
      Q () ⟨opened p.state.refresh,.event t (.succeeded .toOpen cause) :: (reread t (.asked .toOpen cause) p).history⟩)
    (commanded : p.state.refresh.controller.doorBlockedReason = none →
      p.state.refresh.controller.openConfirmed = false → ∀ s, Frame p.state s →
      I ⟨s,.event t (.cover .toOpen cause) :: (reread t (.asked .toOpen cause) p).history⟩ ∧
        F ⟨s,.event t (.cover .toOpen cause) :: (reread t (.asked .toOpen cause) p).history⟩)
    (succeeded : ∀ x, I (reread t (.waited .toOpen cause) x) → F (reread t (.waited .toOpen cause) x) →
      x.state.refresh.controller.openConfirmed = true →
      Q () ⟨opened x.state.refresh,
        .event t (.succeeded .toOpen cause) :: (reread t (.waited .toOpen cause) x).history⟩)
    (gaveUp : ∀ q s error, I q → F q → Frame q.state s → X error ⟨s,.event t (.gaveUp .toOpen cause) :: q.history⟩) :
    wp I t (openDoor cause) Q X p := by
  unfold openDoor
  rw [wp_bind,wp_refresh,wp_bind,wp_get]
  split
  next reason blocked =>
    have refusal : p.state.refresh.controller.doorBlockedReason ≠ none := by
      intro readable
      exact absurd (readable.symm.trans blocked) (by simp)
    exact refused _ _ refusal ⟨rfl,rfl,rfl⟩
  next readable =>
    rw [wp_ite]
    split
    next confirmed => exact already readable confirmed
    next closed =>
      rw [wp_bind,wp_modify]
      have assigned : (p.state.binding .coverEntityId).isSome := readable_cover p.state readable
      have shut : p.state.refresh.controller.openConfirmed = false := (Bool.not_eq_true _).mp closed
      refine wp_operate silent framed stable assigned ?_ succeeded fun q s error _ => gaveUp q s error
      exact fun s frame => commanded readable shut s ⟨frame.world,frame.binding,frame.closed⟩

theorem wp_closeDoor (silent : Silent I t) (framed : Silent F t) (stable : Stable t F)
    (refused : ∀ s reason, (p.state.refresh.controller.doorBlockedReason ≠ none ∨ p.state.closeAllowed = false) →
      Frame p.state s → X (.control reason) ⟨s,(reread t (.asked .toClose cause) p).history⟩)
    (already : p.state.refresh.controller.doorBlockedReason = none → p.state.closeAllowed = true →
      p.state.refresh.controller.closedConfirmed = true → ∀ s, Frame p.state s →
      Q () ⟨s,.event t (.succeeded .toClose cause) :: (reread t (.asked .toClose cause) p).history⟩)
    (commanded : p.state.refresh.controller.doorBlockedReason = none → p.state.closeAllowed = true →
      p.state.refresh.controller.closedConfirmed = false → ∀ s, Frame p.state s →
      I ⟨s,.event t (.cover .toClose cause) :: (reread t (.asked .toClose cause) p).history⟩ ∧
        F ⟨s,.event t (.cover .toClose cause) :: (reread t (.asked .toClose cause) p).history⟩)
    (succeeded : ∀ x s, I (reread t (.waited .toClose cause) x) → F (reread t (.waited .toClose cause) x) →
      x.state.refresh.controller.closedConfirmed = true → Frame x.state s →
      Q () ⟨s,.event t (.succeeded .toClose cause) :: (reread t (.waited .toClose cause) x).history⟩)
    (gaveUp : ∀ q s error, (∀ reason, error ≠ .other reason) → I q → F q → Frame q.state s →
      X error ⟨s,.event t (.gaveUp .toClose cause) :: q.history⟩) :
    wp I t (closeDoor cause) Q X p := by
  unfold closeDoor
  rw [wp_bind,wp_refresh,wp_bind,wp_get]
  split
  next reason blocked =>
    have refusal : p.state.refresh.controller.doorBlockedReason ≠ none := by
      intro readable
      exact absurd (readable.symm.trans blocked) (by simp)
    exact refused _ _ (Or.inl refusal) ⟨rfl,rfl,rfl⟩
  next readable =>
    rw [wp_ite]
    split
    next denied => exact refused _ _ (Or.inr denied) ⟨rfl,rfl,rfl⟩
    next allowed =>
      have allowed : p.state.closeAllowed = true := (Bool.not_eq_false _).mp allowed
      rw [wp_ite]
      split
      next confirmed => exact already readable allowed confirmed _ ⟨rfl,rfl,rfl⟩
      next away =>
        rw [wp_bind,wp_modify]
        have assigned : (p.state.binding .coverEntityId).isSome := readable_cover p.state readable
        have ajar : p.state.refresh.controller.closedConfirmed = false := (Bool.not_eq_true _).mp away
        refine wp_operate silent framed stable assigned ?_ ?_ gaveUp
        · exact fun s frame => commanded readable allowed ajar s ⟨frame.world,frame.binding,frame.closed⟩
        · exact fun x inv fact confirmed => succeeded x _ inv fact confirmed ⟨rfl,rfl,rfl⟩

end Door

/-- Blind to everything of an operation but its command. -/
abbrev Unmoved (I : Point Garage → Prop) (t : ℕ) : Prop :=
  Ignores I t Frame fun (e : Event) => e.kind = .read ∨ ∃ d cause, e.kind = .outcome d cause

theorem Unmoved.of_blind {critical : List Kind} (blind : Ignores I t Frame fun (e : Event) => e.kind ∉ critical)
    (reads : .read ∉ critical) (ends : ∀ d cause, .outcome d cause ∉ critical) : Unmoved I t := by
  refine blind.mono (fun _ _ frame => frame) fun e kind => ?_
  rcases kind with kind | ⟨d,cause,kind⟩
  · rw [kind]
    exact reads
  · rw [kind]
    exact ends d cause

theorem Unmoved.silent (blind : Unmoved I t) : Silent I t :=
  blind.mono (fun _ _ frame => frame) fun _ kind => Or.inl kind

theorem Unmoved.ended {d : Direction} {cause : Cause} (blind : Unmoved I t) {s s' : GarageRuntime}
    {history : List (Item Garage)} {e : Event} (inv : I ⟨s,history⟩) (frame : Frame s s')
    (outcome : e.kind = .outcome d cause) : I ⟨s',.event t e :: history⟩ :=
  blind.event ⟨s',history⟩ e (blind.act ⟨s,history⟩ s' inv frame) (Or.inr ⟨d,cause,outcome⟩)

theorem carries_openDoor {cause : Cause} (blind : Unmoved I t) (framed : Unmoved F t)
    (stable : Stable t F) (inv : I p) (fact : F p)
    (commanded : p.state.refresh.controller.doorBlockedReason = none →
      p.state.refresh.controller.openConfirmed = false → ∀ s, Frame p.state s →
      I ⟨s,.event t (.cover .toOpen cause) :: (reread t (.asked .toOpen cause) p).history⟩ ∧
        F ⟨s,.event t (.cover .toOpen cause) :: (reread t (.asked .toOpen cause) p).history⟩) :
    wp I t (openDoor cause) (fun _ q => I q ∧ F q) (fun _ q => I q ∧ F q) p := by
  have read : I (reread t (.asked .toOpen cause) p) := blind.silent.reread (by simp) inv
  have kept : F (reread t (.asked .toOpen cause) p) := framed.silent.reread (by simp) fact
  refine wp_openDoor blind.silent framed.silent stable ?_ ?_ commanded ?_ ?_
  · exact fun s _ _ frame => ⟨blind.act _ s read ⟨frame.world,frame.binding,frame.closed⟩,
      framed.act _ s kept ⟨frame.world,frame.binding,frame.closed⟩⟩
  · exact fun _ _ => ⟨blind.ended read ⟨rfl,rfl,rfl⟩ rfl,framed.ended kept ⟨rfl,rfl,rfl⟩ rfl⟩
  · exact fun x read kept _ => ⟨blind.ended read ⟨rfl,rfl,rfl⟩ rfl,framed.ended kept ⟨rfl,rfl,rfl⟩ rfl⟩
  · exact fun q s _ read kept frame => ⟨blind.ended read frame rfl,framed.ended kept frame rfl⟩

theorem carries_closeDoor {cause : Cause} (blind : Unmoved I t) (framed : Unmoved F t)
    (stable : Stable t F) (inv : I p) (fact : F p)
    (commanded : p.state.refresh.controller.doorBlockedReason = none → p.state.closeAllowed = true →
      p.state.refresh.controller.closedConfirmed = false → ∀ s, Frame p.state s →
      I ⟨s,.event t (.cover .toClose cause) :: (reread t (.asked .toClose cause) p).history⟩ ∧
        F ⟨s,.event t (.cover .toClose cause) :: (reread t (.asked .toClose cause) p).history⟩) :
    wp I t (closeDoor cause) (fun _ q => I q ∧ F q) (fun _ q => I q ∧ F q) p := by
  have read : I (reread t (.asked .toClose cause) p) := blind.silent.reread (by simp) inv
  have kept : F (reread t (.asked .toClose cause) p) := framed.silent.reread (by simp) fact
  refine wp_closeDoor blind.silent framed.silent stable ?_ ?_ commanded ?_ ?_
  · exact fun s _ _ frame => ⟨blind.act _ s read ⟨frame.world,frame.binding,frame.closed⟩,
      framed.act _ s kept ⟨frame.world,frame.binding,frame.closed⟩⟩
  · exact fun _ _ _ s frame => ⟨blind.ended read ⟨frame.world,frame.binding,frame.closed⟩ rfl,
      framed.ended kept ⟨frame.world,frame.binding,frame.closed⟩ rfl⟩
  · exact fun x s read kept _ frame => ⟨blind.ended read ⟨frame.world,frame.binding,frame.closed⟩ rfl,
      framed.ended kept ⟨frame.world,frame.binding,frame.closed⟩ rfl⟩
  · exact fun q s _ _ read kept frame => ⟨blind.ended read frame rfl,framed.ended kept frame rfl⟩

abbrev Idle (t : ℕ) (p q : Point Garage) : Prop := Trace (fun _ => False) t p q

theorem frame_noteResume (name : String) (s : GarageRuntime) : Frame s (noteResume name s) := by
  unfold noteResume
  split_ifs
  · exact ⟨rfl,rfl,rfl⟩
  · exact ⟨rfl,rfl,rfl⟩

theorem waits_idle {q r : Point Garage} {request : Request} (known : Idle t p q)
    (later : Later t (q.push (.waiting t request)) r) : Idle t p r := by
  have waiting : Idle t q (q.push (.waiting t request)) := .of_item rfl fun _ => trivial
  exact (known.trans waiting).trans (.of_later later)

theorem resumed_idle {q : Point Garage} (known : Idle t p q) (answer : Except Exc Unit) :
    Idle t p (q.push (.resumed t answer)) := by
  have resumed : Idle t q (q.push (.resumed t answer)) := .of_item rfl fun _ => trivial
  exact known.trans resumed

/-- What a task has recorded of a command that it waits for. -/
def outgoing (t : ℕ) (name : String) (cause : Cause) (utc : ℚ) : List (Item Garage) :=
  [.waiting t (.robotCommand name),.event t (.robot name cause utc)]

/-- And of one that is out, while it waits for the refresh behind it. -/
def refreshing (t : ℕ) (name : String) (cause : Cause) (utc : ℚ) : List (Item Garage) :=
  .waiting t .coordinatorRefresh :: .resumed t (.ok ()) :: outgoing t name cause utc

/-- A robot command goes out once, unless control was unloaded; then come two waits, which
a fact that holds of the command survives, and nothing else is recorded. -/
theorem wp_command_own {name : String} {params : List PyValue} {cause : Cause}
    {Q : Unit → Point Garage → Prop} {X : Exc → Point Garage → Prop} (silent : Silent I t) (framed : Silent F t)
    (stable : Stable t F) (known : name ∈ ["app_pause","app_resume","app_goto_target"])
    (valid : ¬(name = "app_goto_target" ∧ invalidTarget params))
    (unloaded : p.state.closed = true → X (.control .controlUnloaded) p)
    (sent : p.state.closed = false → ∀ s, Frame p.state s →
      I ⟨s,.event t (.robot name cause p.state.world.utc) :: p.history⟩ ∧
        F ⟨s,.event t (.robot name cause p.state.world.utc) :: p.history⟩)
    (done : ∀ s q, p.state.closed = false → Frame p.state s → I q → F q →
      Idle t ⟨s,.event t (.robot name cause p.state.world.utc) :: p.history⟩ q →
      own t q.history = .resumed t (.ok ()) :: refreshing t name cause p.state.world.utc ++ own t p.history → Q () q)
    (failed : ∀ s q error, p.state.closed = false → Frame p.state s → I (q.push (.resumed t (.error error))) →
      F (q.push (.resumed t (.error error))) →
      Idle t ⟨s,.event t (.robot name cause p.state.world.utc) :: p.history⟩ q →
      (own t q.history = outgoing t name cause p.state.world.utc ++ own t p.history ∨
        own t q.history = refreshing t name cause p.state.world.utc ++ own t p.history) →
      X error (q.push (.resumed t (.error error)))) :
    wp I t (asyncControlCommand name params cause) Q X p := by
  unfold asyncControlCommand
  rw [wp_bind,wp_get,wp_ite,if_neg (not_not.mpr known),wp_ite,if_neg valid,wp_ite]
  split
  next closed => exact unloaded closed
  next running =>
    have running : p.state.closed = false := (Bool.not_eq_true _).mp running
    have frame : Frame p.state (noteResume name p.state) := frame_noteResume name p.state
    rw [wp_bind,wp_modify]
    unfold transmit
    rw [wp_bind,wp_get,wp_bind,wp_emit]
    rw [frame.world]
    obtain ⟨out,fact⟩ := sent running _ frame
    refine ⟨silent.waiting _ _ out,fun q inv later answer => ?_⟩
    have idle := waits_idle (.refl _ _ _) later
    have kept : F q := stable _ _ (framed.waiting _ _ fact) later
    have recorded : own t q.history = outgoing t name cause p.state.world.utc ++ own t p.history := by
      rw [later.own]
      simp [own,outgoing,Item.owner]
    cases answer with
    | error error =>
      exact failed _ q error running frame (silent.resumed q _ inv) (framed.resumed q _ kept) idle (Or.inl recorded)
    | ok reply =>
      have going := resumed_idle idle (.ok reply)
      have kept := framed.waiting _ .coordinatorRefresh (framed.resumed q (.ok reply) kept)
      refine ⟨silent.waiting _ _ (silent.resumed q _ inv),fun r inv later answer => ?_⟩
      have idle := waits_idle going later
      have kept : F r := stable _ _ kept later
      have recorded : own t r.history = refreshing t name cause p.state.world.utc ++ own t p.history := by
        rw [later.own,Point.push_history,own_cons_self _ rfl,Point.push_history,own_cons_self _ rfl,recorded]
        rfl
      cases answer with
      | error error =>
        exact failed _ r error running frame (silent.resumed r _ inv) (framed.resumed r _ kept) idle (Or.inr recorded)
      | ok reply =>
        refine done _ _ running frame (silent.resumed r _ inv) (framed.resumed r _ kept) (resumed_idle idle _) ?_
        rw [Point.push_history,own_cons_self _ rfl,recorded]
        rfl

theorem wp_command {name : String} {params : List PyValue} {cause : Cause}
    {Q : Unit → Point Garage → Prop} {X : Exc → Point Garage → Prop} (silent : Silent I t) (framed : Silent F t)
    (stable : Stable t F) (known : name ∈ ["app_pause","app_resume","app_goto_target"])
    (valid : ¬(name = "app_goto_target" ∧ invalidTarget params))
    (unloaded : p.state.closed = true → X (.control .controlUnloaded) p)
    (sent : p.state.closed = false → ∀ s, Frame p.state s →
      I ⟨s,.event t (.robot name cause p.state.world.utc) :: p.history⟩ ∧
        F ⟨s,.event t (.robot name cause p.state.world.utc) :: p.history⟩)
    (done : ∀ s q, p.state.closed = false → Frame p.state s → I q → F q →
      Idle t ⟨s,.event t (.robot name cause p.state.world.utc) :: p.history⟩ q → Q () q)
    (failed : ∀ s q error, p.state.closed = false → Frame p.state s → I (q.push (.resumed t (.error error))) →
      F (q.push (.resumed t (.error error))) →
      Idle t ⟨s,.event t (.robot name cause p.state.world.utc) :: p.history⟩ q →
      X error (q.push (.resumed t (.error error)))) :
    wp I t (asyncControlCommand name params cause) Q X p :=
  wp_command_own silent framed stable known valid unloaded sent
    (fun s q running frame inv fact idle _ => done s q running frame inv fact idle)
    (fun s q error running frame inv fact idle _ => failed s q error running frame inv fact idle)

theorem carries_command {name : String} {params : List PyValue} {cause : Cause} (silent : Silent I t) (framed : Silent F t)
    (stable : Stable t F)
    (sent : ∀ p, I p → F p → p.state.closed = false → ∀ s, Frame p.state s →
      I ⟨s,.event t (.robot name cause p.state.world.utc) :: p.history⟩ ∧
        F ⟨s,.event t (.robot name cause p.state.world.utc) :: p.history⟩) :
    Carries I F t (asyncControlCommand name params cause) := by
  intro p inv fact
  by_cases known : name ∈ ["app_pause","app_resume","app_goto_target"]
  · by_cases valid : name = "app_goto_target" ∧ invalidTarget params
    · unfold asyncControlCommand
      rw [wp_bind,wp_get,wp_ite,if_neg (not_not.mpr known),wp_ite,if_pos valid]
      exact ⟨inv,fact⟩
    · exact wp_command silent framed stable known valid (fun _ => ⟨inv,fact⟩)
        (fun running s frame => sent p inv fact running s frame) (fun _ _ _ _ inv fact _ => ⟨inv,fact⟩)
        (fun _ _ _ _ _ inv fact _ => ⟨inv,fact⟩)
  · unfold asyncControlCommand
    rw [wp_bind,wp_get,wp_ite,if_pos known]
    exact ⟨inv,fact⟩

theorem wp_asyncControlCommand {name : String} {params : List PyValue} {cause : Cause}
    {Q : Unit → Point Garage → Prop} {X : Exc → Point Garage → Prop} (silent : Silent I t)
    (known : name ∈ ["app_pause","app_resume","app_goto_target"]) (valid : ¬(name = "app_goto_target" ∧ invalidTarget params))
    (unloaded : p.state.closed = true → X (.control .controlUnloaded) p)
    (sent : p.state.closed = false → ∀ s, Frame p.state s →
      I ⟨s,.event t (.robot name cause p.state.world.utc) :: p.history⟩)
    (done : ∀ s q, p.state.closed = false → Frame p.state s → I q →
      Idle t ⟨s,.event t (.robot name cause p.state.world.utc) :: p.history⟩ q → Q () q)
    (failed : ∀ s q error, p.state.closed = false → Frame p.state s → I (q.push (.resumed t (.error error))) →
      Idle t ⟨s,.event t (.robot name cause p.state.world.utc) :: p.history⟩ q →
      X error (q.push (.resumed t (.error error)))) :
    wp I t (asyncControlCommand name params cause) Q X p :=
  wp_command (F := fun _ => True) silent .top .top known valid unloaded (fun running s frame => ⟨sent running s frame,trivial⟩)
    (fun s q running frame inv _ idle => done s q running frame inv idle)
    (fun s q error running frame inv _ idle => failed s q error running frame inv idle)

theorem wp_pauseRobot {cause : Cause} {Q : Unit → Point Garage → Prop} {X : Exc → Point Garage → Prop}
    (silent : Silent I t) (unloaded : p.state.closed = true → X (.control .controlUnloaded) p)
    (sent : p.state.closed = false → ∀ s, Frame p.state s →
      I ⟨s,.event t (.robot "app_pause" cause p.state.world.utc) :: p.history⟩)
    (done : ∀ s q, p.state.closed = false → Frame p.state s → I q →
      Idle t ⟨s,.event t (.robot "app_pause" cause p.state.world.utc) :: p.history⟩ q → Q () q)
    (failed : ∀ s q error, p.state.closed = false → Frame p.state s → I (q.push (.resumed t (.error error))) →
      Idle t ⟨s,.event t (.robot "app_pause" cause p.state.world.utc) :: p.history⟩ q →
      X error (q.push (.resumed t (.error error)))) :
    wp I t (pauseRobot cause) Q X p :=
  wp_asyncControlCommand silent (by simp) (by simp) unloaded sent done failed

theorem wp_resumeRobot {cause : Cause} {Q : Unit → Point Garage → Prop} {X : Exc → Point Garage → Prop}
    (silent : Silent I t) (unloaded : p.state.closed = true → X (.control .controlUnloaded) p)
    (sent : p.state.closed = false → ∀ s, Frame p.state s →
      I ⟨s,.event t (.robot "app_resume" cause p.state.world.utc) :: p.history⟩)
    (done : ∀ s q, p.state.closed = false → Frame p.state s → I q →
      Idle t ⟨s,.event t (.robot "app_resume" cause p.state.world.utc) :: p.history⟩ q → Q () q)
    (failed : ∀ s q error, p.state.closed = false → Frame p.state s → I (q.push (.resumed t (.error error))) →
      Idle t ⟨s,.event t (.robot "app_resume" cause p.state.world.utc) :: p.history⟩ q →
      X error (q.push (.resumed t (.error error)))) :
    wp I t (resumeRobot cause) Q X p :=
  wp_asyncControlCommand silent (by simp) (by simp) unloaded sent done failed

end

end RoborockPlus
