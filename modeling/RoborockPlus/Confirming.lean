import RoborockPlus.DoorHistory
import RoborockPlus.Succession
import RoborockPlus.Async.Reach

/-! Whether the door can be moved under a binding at all. Only a contact and a measured
position confirm an endpoint; an estimate wants a command that nobody ever notes. -/
namespace RoborockPlus
open Async GarageController GarageRuntime GarageConfig

/-- The source of this endpoint can confirm it. -/
def confirms (binding : Binding) (d : Direction) : Bool :=
  binding.get (.source d) == .str "contact" ||
    binding.get (.source d) == .str "position" && binding.get .positionKind == .str "measured"

def requests : Direction → Call
  | .toOpen => .asyncRequestOpen
  | .toClose => .asyncRequestClose

/-- The runtime, asked for nothing but to move the door this way. -/
def operating (d : Direction) : Program Garage := {program with entry := fun call => call == requests d}

def requestHistory (binding : Binding) (world : World) (d : Direction) (schedule : List (Label Garage)) : List (Item Garage) :=
  ((Loop.init (GarageRuntime.init binding world)).exec (operating d) schedule).conf.history

def standsClosed (binding : Binding) (position : PyValue) : Bool :=
  match GarageConfig.number binding (.threshold .toClose), RoborockPlus.number position 0 (some 100) with
  | .ok closed, some value => decide (value ≤ closed)
  | _, _ => false

/-- The door is closed, for whoever can see it. -/
def shut (binding : Binding) (world : World) : Bool :=
  let seen := observeDoor binding world none []
  let contact (d : Direction) (reached : Bool) : Bool :=
    binding.get (.source d) != .str "contact" || DoorEvidence.contactReached binding d (seen.contact d) == some reached
  (world.entity binding .coverEntityId).any (·.state == "closed") && contact .toOpen false && contact .toClose true &&
    (!uses binding "position" || standsClosed binding seen.position)

def commands (t : ℕ) : Item Garage → Bool
  | .event u (.cover .toOpen _) => u == t
  | _ => false

/-- `open_door` has returned, having commanded the door open. -/
def opensByCommand : List (Item Garage) → Bool
  | [] => false
  | .event t (.succeeded .toOpen _) :: past => past.any (commands t) || opensByCommand past
  | _ :: past => opensByCommand past

def endsClose : Item Garage → Bool
  | .event _ (.succeeded .toClose _) => true
  | _ => false

/-- From a closed door, one run in which `open_door` commands and returns, and one in
which `close_door` returns. -/
structure Usable (binding : Binding) : Prop where
  opens : ∃ world schedule, shut binding world = true ∧ opensByCommand (requestHistory binding world .toOpen schedule) = true
  closes : ∃ world schedule, shut binding world = true ∧ (requestHistory binding world .toClose schedule).any endsClose = true

namespace DoorEvidence

variable {binding : Binding} {d : Direction}

theorem positionEndpoint_unconfirmed {command : Option Command} {now : ℚ} {position : PyValue} {since : Option ℚ}
    (estimated : binding.get .positionKind ≠ .str "measured") :
    (positionEndpoint binding command d now position since).1.quality ≠ .confirmed := by
  unfold positionEndpoint
  dsimp only
  split
  · split
    · simp [unknown]
    next known =>
    have kind : binding.get .positionKind = .str "estimated" := by
      have member := not_not.mp (not_or.mp known).1
      rcases List.mem_cons.mp member with measured | last
      · exact absurd measured estimated
      · exact List.mem_singleton.mp last
    split
    · simp [unknown]
    rw [if_pos kind]
    split
    next evidence since found =>
      rw [estimate_unconfirmed (congrArg Prod.fst found)]
      simp
    · split_ifs <;> simp
  · simp [unknown]

theorem endpoint_unconfirmed {command : Option Command} {now : ℚ} {seen : DoorObservation} {since : Option ℚ}
    (estimated : confirms binding d = false) : (endpoint binding command d now seen since).1.quality ≠ .confirmed := by
  unfold confirms at estimated
  unfold endpoint
  split
  next contact => simp [contact] at estimated
  next position => exact positionEndpoint_unconfirmed (by simpa [position] using estimated)
  · split
    next evidence since found =>
      rw [estimate_unconfirmed (congrArg Prod.fst found)]
      simp
    · simp
  · simp [unknown]

theorem observe_unconfirmed {e : DoorEvidence} {now : PyValue} {seen : DoorObservation} (estimated : confirms e.binding d = false) :
    ((e.observe now seen).1.endpoint d).quality ≠ .confirmed := by
  have unknowns (f : DoorEvidence) (reason : Reason) (available : Bool) :
      ((f.unknownState reason available).1.endpoint d).quality ≠ .confirmed := by
    rw [unknownState_endpoint]
    simp
  have settles {f : DoorEvidence} (same : f.binding = e.binding) (now : ℚ) :
      ((f.settle now seen).1.endpoint d).quality ≠ .confirmed := by
    rcases settle_endpoint f now seen d with unknown | read
    · rw [unknown]
      simp
    · rw [read]
      exact endpoint_unconfirmed (same ▸ estimated)
  have clocked := clock_binding e now
  unfold observe
  split
  · exact unknowns _ _ _
  next valid f read =>
    have same : f.binding = e.binding := (congrArg (fun read => read.2.binding) read).symm.trans clocked
    unfold observeAt
    split_ifs
    · exact unknowns _ _ _
    · exact unknowns _ _ _
    · exact unknowns _ _ _
    · exact settles (f := f.invalidate) same valid
    · exact settles same valid

end DoorEvidence

section Unconfirmed
variable {binding : Binding} {d : Direction} {t : ℕ} {p : Point Garage}

theorem confirmed_iff (c : GarageController) (d : Direction) :
    c.confirmed d = true ↔ (c.state.endpoint d).quality = .confirmed ∧ (c.state.endpoint d).reached = some true := by
  cases d
  all_goals
    simp only [confirmed,openConfirmed,closedConfirmed,DoorState.openConfirmed,DoorState.closedConfirmed,DoorState.endpoint]
    split <;> simp_all

def SameTracker (s s' : GarageRuntime) : Prop := s'.controller.evidence.binding = s.controller.evidence.binding

/-- Nothing has been created, and no operation this way has succeeded. -/
structure Unmet (binding : Binding) (d : Direction) (p : Point Garage) : Prop where
  evidence : p.state.controller.evidence.binding = binding
  alone : ∀ t n call, .spawned t n call ∉ p.history
  unmet : ∀ t cause, .event t (.succeeded d cause) ∉ p.history

theorem Unmet.push {item : Item Garage} {s : GarageRuntime} (unmet : Unmet binding d p) (same : SameTracker p.state s)
    (alone : ∀ t n call, item ≠ .spawned t n call) (other : ∀ t cause, item ≠ .event t (.succeeded d cause)) :
    Unmet binding d ⟨s,item :: p.history⟩ := by
  refine ⟨same.trans unmet.evidence,fun t n call member => ?_,fun t cause member => ?_⟩
  · rcases List.mem_cons.mp member with found | old
    · exact alone t n call found.symm
    · exact unmet.alone t n call old
  · rcases List.mem_cons.mp member with found | old
    · exact other t cause found.symm
    · exact unmet.unmet t cause old

theorem unmet_until (t : ℕ) :
    Ignores (Until (Unmet binding d) t) t SameTracker fun (e : Event) => ∀ cause, e ≠ .succeeded d cause := by
  refine Until.ignores ?_ ?_ ?_ ?_
  · exact fun p s unmet same => ⟨same.trans unmet.evidence,unmet.alone,unmet.unmet⟩
  · exact fun p e unmet other => unmet.push rfl (by simp) fun _ cause same => other cause (by cases same; rfl)
  · exact fun p request unmet => unmet.push rfl (by simp) (by simp)
  · exact fun p answer unmet => unmet.push rfl (by simp) (by simp)

theorem unmet_quiet {α : Type} {m : Co Garage α} (alone : m.Alone)
    (inside : m.Within SameTracker fun (e : Event) => ∀ cause, e ≠ .succeeded d cause) :
    Carries (Unmet binding d) (fun p => True ∧ Childless t p) t m :=
  alone.carries (Co.Within.carries (unmet_until t) .top .top inside)

theorem tracker_refresh (s : GarageRuntime) : SameTracker s s.refresh := DoorEvidence.observe_binding _ _ _

theorem Unmet.reread (unmet : Unmet binding d p) (place : Place) : Unmet binding d (RoborockPlus.reread t place p) :=
  unmet.push (tracker_refresh p.state) (by simp) (by simp)

theorem refresh_unconfirmed (estimated : confirms binding d = false) {s : GarageRuntime}
    (evidence : s.controller.evidence.binding = binding) : s.refresh.controller.confirmed d = false := by
  rw [← Bool.not_eq_true,confirmed_iff]
  rw [← evidence] at estimated
  exact fun both => DoorEvidence.observe_unconfirmed estimated both.1

theorem unmet_operate {cause : Cause} {done : GarageRuntime → GarageRuntime} (estimated : confirms binding d = false)
    (unmet : Unmet binding d p) (childless : Childless t p) :
    wp (Unmet binding d) t (operate d cause done) (fun _ _ => False) (fun _ => Unmet binding d) p := by
  have failure (error : Exc) (q : Point Garage) (both : Unmet binding d q ∧ True ∧ Childless t q) :
      wp (Unmet binding d) t (reportFailure d cause error) (fun _ _ => False) (fun _ => Unmet binding d) q := by
    have gaveUp : Unmet binding d (q.push (.event t (.gaveUp d cause))) := both.1.push rfl (by simp) (by simp)
    cases error with
    | control reason => exact gaveUp
    | other reason => exact ⟨gaveUp.evidence,gaveUp.alone,gaveUp.unmet⟩
    | cancelled => exact gaveUp
  unfold operate
  rw [wp_attempt,wp_bind,wp_modify,wp_bind]
  have moves : Carries (Unmet binding d) (fun p => True ∧ Childless t p) t (moveDoor d cause) := by
    refine unmet_quiet (by simp [moveDoor]) ⟨fun _ => rfl,fun _ => ⟨fun _ => rfl,fun s => ?_⟩⟩
    dsimp only
    split
    · trivial
    · exact ⟨by simp,fun _ => ⟨trivial,fun _ => trivial⟩⟩
  refine wp_mono (moves ⟨p.state.invalidateEvidence,p.history⟩ ⟨unmet.evidence,unmet.alone,unmet.unmet⟩ ⟨trivial,childless⟩)
    (fun _ q both => ?_) failure
  have waits : wp (Unmet binding d) t (waitFor d cause) (fun _ _ => False)
      (fun _ q => Unmet binding d q ∧ True ∧ Childless t q) q := by
    unfold waitFor
    rw [wp_bind,wp_get]
    split
    · exact both
    refine wp_poll (Unmet binding d) t q (fun q => Unmet binding d q ∧ True ∧ Childless t q) both fun q both => ?_
    unfold pollEndpoint
    have unread := refresh_unconfirmed estimated both.1.evidence
    have read := both.1.reread (t := t) (.waited d cause)
    have none : Childless t (reread t (.waited d cause) q) := both.2.2.push (by simp)
    rw [wp_bind,wp_refresh,wp_bind,wp_get,wp_ite,if_neg (by simp [reread,unread]),wp_ite]
    split
    · exact ⟨read,trivial,none⟩
    · exact unmet_quiet (alone_wait (.sleep (1/5))) (within_await _) _ read ⟨trivial,none⟩
  rw [wp_bind]
  exact wp_mono waits (fun _ _ never => never.elim) failure

theorem unmet_openDoor {cause : Cause} (estimated : confirms binding .toOpen = false) (unmet : Unmet binding .toOpen p)
    (childless : Childless t p) :
    wp (Unmet binding .toOpen) t (openDoor cause) (fun _ _ => False) (fun _ => Unmet binding .toOpen) p := by
  have read := unmet.reread (t := t) (.asked .toOpen cause)
  have unread : p.state.refresh.controller.openConfirmed = false := refresh_unconfirmed estimated unmet.evidence
  unfold openDoor
  rw [wp_bind,wp_refresh,wp_bind,wp_get]
  split
  · exact ⟨read.evidence,read.alone,read.unmet⟩
  rw [wp_ite,if_neg (by simp [reread,unread]),wp_bind,wp_modify]
  exact unmet_operate estimated ⟨read.evidence,read.alone,read.unmet⟩ (childless.push (by simp))

theorem unmet_closeDoor {cause : Cause} (estimated : confirms binding .toClose = false) (unmet : Unmet binding .toClose p)
    (childless : Childless t p) :
    wp (Unmet binding .toClose) t (closeDoor cause) (fun _ _ => False) (fun _ => Unmet binding .toClose) p := by
  have read := unmet.reread (t := t) (.asked .toClose cause)
  have unread : p.state.refresh.controller.closedConfirmed = false := refresh_unconfirmed estimated unmet.evidence
  unfold closeDoor
  rw [wp_bind,wp_refresh,wp_bind,wp_get]
  split
  · exact ⟨read.evidence,read.alone,read.unmet⟩
  rw [wp_ite]
  split
  · exact read
  rw [wp_ite,if_neg (by simp [reread,unread]),wp_bind,wp_modify]
  exact unmet_operate estimated ⟨read.evidence,read.alone,read.unmet⟩ (childless.push (by simp))

theorem unmet_requests (estimated : confirms binding d = false) (unmet : Unmet binding d p) (childless : Childless t p) :
    wp (Unmet binding d) t (body (requests d)) (fun _ => Unmet binding d) (fun _ => Unmet binding d) p := by
  cases d with
  | toOpen =>
    change wp _ t (do openDoor .request; publish) _ _ p
    rw [wp_bind]
    exact wp_mono (unmet_openDoor estimated unmet childless) (fun _ _ never => never.elim) (fun _ _ unmet => unmet)
  | toClose =>
    change wp _ t asyncRequestClose _ _ p
    unfold asyncRequestClose
    have read := unmet.reread (t := t) .closeRequest
    rw [wp_bind,wp_refresh,wp_bind,wp_get,wp_ite]
    split
    · exact read
    rw [wp_bind]
    exact wp_mono (unmet_closeDoor estimated read (childless.push (by simp))) (fun _ _ never => never.elim) (fun _ _ unmet => unmet)

theorem unmet_keeps (estimated : confirms binding d = false) : Preserves (operating d) (Unmet binding d) where
  outside input p unmet := by
    refine unmet.push ?_ (by simp) (by simp)
    cases input <;> rfl
  dropped t p unmet _ := unmet.push rfl (by simp) (by simp)
  body call t p unmet begun origin := by
    have requested : call = requests d := by
      rcases origin with entry | ⟨parent,spawned⟩
      · exact eq_of_beq entry
      · exact absurd spawned (unmet.alone parent t call)
    subst requested
    have started : Unmet binding d (p.push (.started t (requests d))) := unmet.push rfl (by simp) (by simp)
    have childless : Childless t (p.push (.started t (requests d))) :=
      .begun (by rw [Point.push_history,own_cons_self _ rfl,begun])
    exact wp_mono (unmet_requests estimated started childless) (fun _ _ unmet => unmet.push rfl (by simp) (by simp))
      (fun _ _ unmet => unmet.push rfl (by simp) (by simp))

/-- Without a confirming source no run has the operation succeed. -/
theorem unconfirmed_never_succeeds (estimated : confirms binding d = false) (world : World) (schedule : List (Label Garage))
    (t : ℕ) (cause : Cause) : .event t (.succeeded d cause) ∉ requestHistory binding world d schedule := by
  have start : Unmet binding d ⟨GarageRuntime.init binding world,[]⟩ :=
    ⟨DoorEvidence.observe_binding _ _ _,by simp,by simp⟩
  exact ((unmet_keeps estimated).exec _ start schedule).unmet t cause

theorem opensByCommand_mem {past : List (Item Garage)} (opens : opensByCommand past = true) :
    ∃ t cause, .event t (.succeeded .toOpen cause) ∈ past := by
  induction past with
  | nil => simp [opensByCommand] at opens
  | cons item past ih =>
    have later (opens : opensByCommand past = true) : ∃ t cause, .event t (.succeeded .toOpen cause) ∈ item :: past := by
      obtain ⟨t,cause,member⟩ := ih opens
      exact ⟨t,cause,List.mem_cons_of_mem _ member⟩
    rcases item with _ | _ | _ | ⟨t,e⟩ | _ | _ | _ | _
    case event =>
      cases e with
      | succeeded d cause =>
        cases d with
        | toOpen => exact ⟨t,cause,List.mem_cons_self⟩
        | toClose => exact later opens
      | _ => exact later opens
    all_goals exact later opens

theorem Usable.confirms (usable : Usable binding) (d : Direction) : confirms binding d = true := by
  by_contra estimated
  have estimated : RoborockPlus.confirms binding d = false := (Bool.not_eq_true _).mp estimated
  cases d with
  | toOpen =>
    obtain ⟨world,schedule,_,opens⟩ := usable.opens
    obtain ⟨t,cause,member⟩ := opensByCommand_mem opens
    exact unconfirmed_never_succeeds estimated world schedule t cause member
  | toClose =>
    obtain ⟨world,schedule,_,closes⟩ := usable.closes
    obtain ⟨item,member,ends⟩ := List.any_eq_true.mp closes
    rcases item with _ | _ | _ | ⟨t,e⟩ | _ | _ | _ | _
    case event =>
      cases e with
      | succeeded d cause =>
        cases d with
        | toOpen => simp [endsClose] at ends
        | toClose => exact unconfirmed_never_succeeds estimated world schedule t cause member
      | _ => simp [endsClose] at ends
    all_goals simp [endsClose] at ends

end Unconfirmed

end RoborockPlus
