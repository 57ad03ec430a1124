import RoborockPlus.Confirming

/-! The phase while the door moves. A closing cover is readable only in the phase of a close,
and the door's listener and `reset` rewrite the phase of whoever waits for the door. -/
namespace RoborockPlus.Motion
open Async GarageController GarageRuntime

def motion : Direction → Phase
  | .toOpen => .opening
  | .toClose => .closing

def driven (d : Direction) (cause : Cause) : Action :=
  match d with
  | .toOpen => openDoor cause
  | .toClose => closeDoor cause

/-- One caller's `open_door` or `close_door`, among the door's listener and `reset`. The listener
also hears of the permission to close. -/
def watched (d : Direction) (cause : Cause) : Program Garage :=
  {program with
    body := fun call => if call = requests d then driven d cause else GarageRuntime.body call
    entry := fun call => decide (call ∈ [requests d,.onDoorChange,.reset])}

def watchedRun (d : Direction) (cause : Cause) (s : GarageRuntime) (schedule : List (Label Garage)) : Point Garage :=
  ((Loop.init s).exec (watched d cause) schedule).conf.toPoint

/-- The door command that went out last has no end yet, and every reading since is one of these. -/
def since (reads : Place → GarageRuntime → Bool) : List (Item Garage) → Bool
  | [] => false
  | .event _ (.cover _ _) :: _ => true
  | .event _ (.succeeded _ _) :: _ | .event _ (.gaveUp _ _) :: _ => false
  | .event _ (.read place seen) :: past => reads place seen && since reads past
  | _ :: past => since reads past

def inFlight : List (Item Garage) → Bool := since fun _ _ => true

def unmet (d : Direction) : List (Item Garage) → Bool := since fun _ seen => !seen.controller.confirmed d

/-- After this reading the phase is left as it is: `reset` never does, the listener where the
task flag keeps it off, or where there is nothing to say of the door. -/
def leavesPhase : Place → GarageRuntime → Bool
  | .reset, _ => false
  | .doorChange, seen =>
    seen.controller.taskInProgress ||
      !seen.controller.closedConfirmed && !seen.controller.openConfirmed && seen.controller.doorBlockedReason.isNone
  | _, _ => true

def kept : List (Item Garage) → Bool := since leavesPhase

/-- One operation at a time; while its endpoint is unmet the phase is left alone, but by a reading
that confirms it, and no close is read with its cover closing once the phase was taken from it. -/
def undisturbed (d : Direction) : List (Item Garage) → Item Garage → Bool
  | past, .started _ call => call != requests d || !inFlight past
  | past, .event _ (.read place seen) =>
    (!unmet d past || leavesPhase place seen || seen.controller.confirmed d) &&
      (d == .toOpen || !inFlight past || kept past || !coverClosing seen.binding seen.world)
  | _, _ => true

def lastRead : List (Item Garage) → Option GarageRuntime
  | [] => none
  | .event _ (.read _ seen) :: _ => some seen
  | _ :: past => lastRead past

/-- What a tracker makes of a reading that takes a closing cover for the integration's own. -/
def ownReading (e : DoorEvidence) (seen : GarageRuntime) : DoorState × DoorEvidence :=
  e.observe (.float (.finite seen.world.clock)) (observeDoor seen.binding seen.world (some .closing) seen.contexts)

/-- The tracker of one who knows whose close it is, from the command on. -/
def knowing : List (Item Garage) → Option DoorEvidence
  | [] => none
  | .event _ (.cover _ _) :: past => (lastRead past).map (·.controller.evidence.invalidate)
  | .event _ (.succeeded _ _) :: _ | .event _ (.gaveUp _ _) :: _ => none
  | .event _ (.read _ seen) :: past => (knowing past).map fun e => (ownReading e seen).2
  | _ :: past => knowing past

/-- To one who knows whose close it is, this reading shows the door closed. -/
def shownClosed (past : List (Item Garage)) (seen : GarageRuntime) : Bool :=
  (knowing past).any fun e => (ownReading e seen).1.closedConfirmed == some true

/-- The task does not give up on a reading that shows the door closed. -/
def closeReported (t : ℕ) : List (Item Garage) → Bool
  | .event u (.read (.waited .toClose _) seen) :: past => u != t || !shownClosed past seen
  | _ => true

def closingReadable (seen : GarageRuntime) : Bool :=
  !coverClosing seen.binding seen.world || seen.binding.get .handoverConfirmed != .bool true || seen.controller.state.coverAvailable

def holdsPhase (d : Direction) : List (Item Garage) → Item Garage → Bool
  | past, .event _ (.read _ seen) => !unmet d past || decide (seen.controller.phase = motion d)
  | _, _ => true

def readsOwnClosing (d : Direction) : List (Item Garage) → Item Garage → Bool
  | past, .event _ (.read _ seen) => d == .toOpen || !inFlight past || closingReadable seen
  | _, _ => true

def reportsClosed : List (Item Garage) → Item Garage → Bool
  | past, .event t (.gaveUp .toClose _) => closeReported t past
  | _, _ => true

def promised (d : Direction) (past : List (Item Garage)) (item : Item Garage) : Bool :=
  holdsPhase d past item && readsOwnClosing d past item && reportsClosed past item

section Since
variable {reads : Place → GarageRuntime → Bool} {d : Direction} {t : ℕ} {past : List (Item Garage)} {item : Item Garage}

/-- No reading, no command and no end of an operation. -/
def inert : Item Garage → Bool
  | .event _ (.read _ _) | .event _ (.cover _ _) | .event _ (.succeeded _ _) | .event _ (.gaveUp _ _) => false
  | _ => true

/-- By the entries that tell of operations; the others are passed over. -/
theorem flight_induction {P : List (Item Garage) → Prop} (nil : P []) (quiet : ∀ item past, inert item = true → P past → P (item :: past))
    (read : ∀ t place seen past, P past → P (.event t (.read place seen) :: past))
    (cover : ∀ t d cause past, P (.event t (.cover d cause) :: past))
    (succeeded : ∀ t d cause past, P (.event t (.succeeded d cause) :: past))
    (gaveUp : ∀ t d cause past, P (.event t (.gaveUp d cause) :: past)) (past : List (Item Garage)) : P past := by
  induction past with
  | nil => exact nil
  | cons item past ih =>
    rcases item with _ | _ | _ | ⟨t,e⟩ | _ | _ | _ | _
    case event =>
      cases e with
      | read place seen => exact read t place seen past ih
      | cover d cause => exact cover t d cause past
      | succeeded d cause => exact succeeded t d cause past
      | gaveUp d cause => exact gaveUp t d cause past
      | _ => exact quiet _ past rfl ih
    all_goals exact quiet _ past rfl ih

theorem since_inert (quiet : inert item = true) : since reads (item :: past) = since reads past := by
  rcases item with _ | _ | _ | ⟨_,e⟩ | _ | _ | _ | _
  case event => cases e <;> first | rfl | simp [inert] at quiet
  all_goals rfl

theorem knowing_inert (quiet : inert item = true) : knowing (item :: past) = knowing past := by
  rcases item with _ | _ | _ | ⟨_,e⟩ | _ | _ | _ | _
  case event => cases e <;> first | rfl | simp [inert] at quiet
  all_goals rfl

theorem promised_inert (quiet : inert item = true) : promised d past item = true := by
  rcases item with _ | _ | _ | ⟨_,e⟩ | _ | _ | _ | _
  case event => cases e <;> first | rfl | simp [inert] at quiet
  all_goals rfl

theorem since_inFlight (held : since reads past = true) : inFlight past = true := by
  induction past using flight_induction with
  | nil => simp [since] at held
  | quiet item past quiet ih => exact (since_inert quiet).trans (ih ((since_inert quiet).symm.trans held))
  | read t place seen past ih => simpa [inFlight,since] using ih (Bool.and_eq_true_iff.mp held).2
  | cover => rfl
  | succeeded => simp [since] at held
  | gaveUp => simp [since] at held

theorem knowing_inFlight {e : DoorEvidence} (known : knowing past = some e) : inFlight past = true := by
  induction past using flight_induction generalizing e with
  | nil => simp [knowing] at known
  | quiet item past quiet ih => exact (since_inert quiet).trans (ih ((knowing_inert quiet).symm.trans known))
  | read t place seen past ih =>
    obtain ⟨e,before,_⟩ := Option.map_eq_some_iff.mp known
    simpa [inFlight,since] using ih before
  | cover => rfl
  | succeeded => simp [knowing] at known
  | gaveUp => simp [knowing] at known

theorem kept_of_unmet (alone : throughout (undisturbed d) past = true) (waits : unmet d past = true) : kept past = true := by
  induction past using flight_induction with
  | nil => simp [unmet,since] at waits
  | quiet item past quiet ih =>
    exact (since_inert quiet).trans (ih ((throughout_cons _ _ _).mp alone).2 ((since_inert quiet).symm.trans waits))
  | read t place seen past ih =>
    obtain ⟨now,before⟩ := (throughout_cons _ _ _).mp alone
    obtain ⟨away,waits⟩ := Bool.and_eq_true_iff.mp waits
    have waits : unmet d past = true := waits
    have leaves : leavesPhase place seen = true := by
      have allowed := (Bool.and_eq_true_iff.mp now).1
      simpa [waits,(Bool.not_eq_true' _).mp away] using allowed
    exact Bool.and_eq_true_iff.mpr ⟨leaves,ih before waits⟩
  | cover => rfl
  | succeeded => simp [unmet,since] at waits
  | gaveUp => simp [unmet,since] at waits

end Since

theorem observe_available (e : DoorEvidence) (now : PyValue) (seen : DoorObservation) :
    (e.observe now seen).1.coverAvailable = seen.coverAvailable := by
  have settles (f : DoorEvidence) (valid : ℚ) : (f.settle valid seen).1.coverAvailable = true := by
    unfold DoorEvidence.settle
    dsimp only
    split_ifs <;> rfl
  unfold DoorEvidence.observe
  split
  · rfl
  unfold DoorEvidence.observeAt
  by_cases available : seen.coverAvailable = false
  · rw [if_pos available]
    exact available.symm
  · rw [if_neg available,(Bool.not_eq_false _).mp available]
    split_ifs
    · rfl
    · rfl
    · exact settles _ _
    · exact settles _ _

section Guard
variable {d : Direction} {t : ℕ} {p : Point Garage} {place : Place} {item : Item Garage} {s : GarageRuntime}

structure Guarded (d : Direction) (p : Point Garage) : Prop where
  phase : kept p.history = true → p.state.controller.phase = motion d
  observer : d = .toClose → ∀ e, knowing p.history = some e → e = p.state.controller.evidence
  checks : throughout (promised d) p.history = true

structure Watchful (d : Direction) (p : Point Garage) : Prop where
  alone : ∀ t n call, .spawned t n call ∉ p.history
  guarded : throughout (undisturbed d) p.history = true → Guarded d p

theorem Watchful.uncreated (watchful : Watchful d p) (other : ∀ t n call, item ≠ .spawned t n call) (t n : ℕ) (call : Call) :
    .spawned t n call ∉ item :: p.history := by
  intro member
  rcases List.mem_cons.mp member with same | old
  · exact other t n call same.symm
  · exact watchful.alone t n call old

theorem Watchful.push (watchful : Watchful d p) (quiet : inert item = true) (other : ∀ t n call, item ≠ .spawned t n call)
    (phase : s.controller.phase = p.state.controller.phase) (evidence : s.controller.evidence = p.state.controller.evidence) :
    Watchful d ⟨s,item :: p.history⟩ := by
  refine ⟨watchful.uncreated other,fun condition => ?_⟩
  have guarded := watchful.guarded ((throughout_cons _ _ _).mp condition).2
  refine ⟨fun held => ?_,fun closing e known => ?_,(throughout_cons _ _ _).mpr ⟨promised_inert quiet,guarded.checks⟩⟩
  · exact phase.trans (guarded.phase ((since_inert quiet).symm.trans held))
  · exact (guarded.observer closing e ((knowing_inert quiet).symm.trans known)).trans evidence.symm

theorem Watchful.rephase (watchful : Watchful d p)
    (phase : kept p.history = true → s.controller.phase = p.state.controller.phase)
    (evidence : s.controller.evidence = p.state.controller.evidence) : Watchful d ⟨s,p.history⟩ := by
  refine ⟨watchful.alone,fun condition => ?_⟩
  have guarded := watchful.guarded condition
  exact ⟨fun held => (phase held).trans (guarded.phase held),
    fun closing e known => (guarded.observer closing e known).trans evidence.symm,guarded.checks⟩

/-- Where the phase of the close is kept, or does not matter, a reading is the observer's own. -/
theorem Guarded.agrees (guarded : Guarded .toClose p) (own : kept p.history = true ∨ coverClosing p.state.binding p.state.world = false) :
    observeDoor p.state.binding p.state.world (some .closing) p.state.contexts = p.state.doorObservation := by
  unfold doorObservation
  rcases own with held | still
  · rw [guarded.phase held]
    rfl
  · exact observeDoor_phase still _ _ _ _

theorem endpoint_contact {binding : Binding} {command : Option Command} {now : ℚ} {seen : DoorObservation}
    {last : Option ℚ} (reached : DoorEvidence.contactReached binding d (seen.contact d) = some true) :
    (DoorEvidence.endpoint binding command d now seen last).1 = ⟨some true,.confirmed,"contact",none⟩ := by
  have found := reached
  unfold DoorEvidence.contactReached at found
  split_ifs at found with other
  have source : binding.get (.source d) = .str "contact" := not_not.mp other
  split at found
  next entity polarity value assigned state given =>
    split_ifs at found with named unpolar
    have present : (binding.get (.contact d)).truthy = true := by
      rw [assigned,PyValue.truthy,bne_iff_ne]
      rintro rfl
      exact named (by decide)
    have polar : binding.get (.contactState d) ∈ [.str "on",.str "off"] := by
      rw [state]
      simpa using unpolar
    unfold DoorEvidence.endpoint DoorEvidence.contactEndpoint
    simp only [source]
    rw [if_neg (by simp only [present,polar,not_true_eq_false,Bool.true_eq_false,or_self,not_false_iff]),reached]
  · simp at found

theorem contact_shown {e : DoorEvidence} {seen : GarageRuntime} {now : ℚ}
    (clear : e.Clear (.float (.finite seen.world.clock)) (observeDoor seen.binding seen.world (some .closing) seen.contexts) now)
    (reached : DoorEvidence.contactReached e.binding .toClose (contactState seen.binding seen.world .toClose) = some true) :
    (ownReading e seen).1.closedConfirmed = some true := by
  rcases DoorEvidence.observe_cases e (.float (.finite seen.world.clock))
    (observeDoor seen.binding seen.world (some .closing) seen.contexts) with revoked | ⟨valid,_,apart,settled⟩
  · exact absurd clear (revoked.unclear now)
  have read : ((e.hears valid (observeDoor seen.binding seen.world (some .closing) seen.contexts)).read .toClose valid
      (observeDoor seen.binding seen.world (some .closing) seen.contexts)).1 = ⟨some true,.confirmed,"contact",none⟩ :=
    endpoint_contact (by rw [DoorEvidence.hears_binding]; exact reached)
  unfold ownReading
  rw [settled,DoorEvidence.settle,if_neg apart]
  unfold DoorState.closedConfirmed
  rw [read]
  rfl

theorem ownReading_refresh (same : observeDoor s.binding s.world (some .closing) s.contexts = s.doorObservation) :
    ownReading s.controller.evidence s.refresh = (s.refresh.controller.state,s.refresh.controller.evidence) := by
  change s.controller.evidence.observe _ (observeDoor s.binding s.world (some .closing) s.contexts) = _
  rw [same]
  rfl

theorem undisturbed_own (allowed : undisturbed .toClose p.history (.event t (.read place p.state.refresh)) = true)
    (flying : inFlight p.history = true) : kept p.history = true ∨ coverClosing p.state.binding p.state.world = false := by
  have clause := (Bool.and_eq_true_iff.mp allowed).2
  simp only [flying,Bool.not_true,Bool.or_false,Bool.or_eq_true,Bool.not_eq_true'] at clause
  exact clause.imp (fun held => by simpa using held) id

theorem closing_available (closing : coverClosing s.binding s.world = true) (confirmed : s.binding.get .handoverConfirmed = .bool true)
    (phase : s.controller.phase = .closing) : s.refresh.controller.state.coverAvailable = true := by
  change (s.controller.evidence.observe _ s.doorObservation).1.coverAvailable = true
  rw [observe_available]
  unfold doorObservation observeDoor ownClose
  rw [phase,confirmed]
  unfold coverClosing at closing
  rcases found : s.world.entity s.binding .coverEntityId with _ | cover
  · simp [found] at closing
  · have state : cover.state = "closing" := by simpa [found] using closing
    simp [state]

theorem Guarded.readable (guarded : Guarded .toClose p)
    (own : kept p.history = true ∨ coverClosing p.state.binding p.state.world = false) : closingReadable p.state.refresh = true := by
  by_cases confirmed : p.state.binding.get .handoverConfirmed = .bool true
  · cases closing : coverClosing p.state.binding p.state.world with
    | false =>
      have still : coverClosing p.state.refresh.binding p.state.refresh.world = false := closing
      simp [closingReadable,still]
    | true =>
      have held := own.resolve_right (by simp [closing])
      simp [closingReadable,closing_available closing confirmed (guarded.phase held)]
  · have unconfirmed : (p.state.refresh.binding.get .handoverConfirmed != .bool true) = true := bne_iff_ne.mpr confirmed
    simp [closingReadable,unconfirmed]

theorem Guarded.passes (guarded : Guarded d p) (condition : throughout (undisturbed d) p.history = true)
    (allowed : undisturbed d p.history (.event t (.read place p.state.refresh)) = true) :
    promised d p.history (.event t (.read place p.state.refresh)) = true := by
  have held : holdsPhase d p.history (.event t (.read place p.state.refresh)) = true := by
    cases waits : unmet d p.history with
    | false => simp [holdsPhase,waits]
    | true =>
      have phase : p.state.refresh.controller.phase = motion d := guarded.phase (kept_of_unmet condition waits)
      simp [holdsPhase,phase]
  have readable : readsOwnClosing d p.history (.event t (.read place p.state.refresh)) = true := by
    cases d with
    | toOpen => rfl
    | toClose =>
      by_cases flying : inFlight p.history = true
      · simp [readsOwnClosing,guarded.readable (undisturbed_own allowed flying)]
      · simp [readsOwnClosing,(Bool.not_eq_true _).mp flying]
  simp [promised,held,readable,reportsClosed]

theorem Watchful.read (watchful : Watchful d p) (place : Place) : Watchful d (reread t place p) := by
  refine ⟨watchful.uncreated (by simp),fun condition => ?_⟩
  obtain ⟨allowed,before⟩ := (throughout_cons _ _ _).mp condition
  have guarded := watchful.guarded before
  refine ⟨fun held => guarded.phase (Bool.and_eq_true_iff.mp held).2,fun closing e known => ?_,?_⟩
  · subst closing
    obtain ⟨f,held,rfl⟩ := Option.map_eq_some_iff.mp known
    have own := undisturbed_own allowed (knowing_inFlight held)
    obtain rfl := guarded.observer rfl f held
    exact congrArg Prod.snd (ownReading_refresh (guarded.agrees own))
  · exact (throughout_cons _ _ _).mpr ⟨guarded.passes before allowed,guarded.checks⟩

theorem Watchful.ended {e : Event} (watchful : Watchful d p) (landed : inFlight (.event t e :: p.history) = false)
    (passes : throughout (undisturbed d) p.history = true → promised d p.history (.event t e) = true) :
    Watchful d ⟨s,.event t e :: p.history⟩ := by
  refine ⟨watchful.uncreated (by simp),fun condition => ?_⟩
  have before := ((throughout_cons _ _ _).mp condition).2
  refine ⟨fun held => ?_,fun _ e known => ?_,(throughout_cons _ _ _).mpr ⟨passes before,(watchful.guarded before).checks⟩⟩
  · exact absurd (landed.symm.trans (since_inFlight held)) (by simp)
  · exact absurd (landed.symm.trans (knowing_inFlight known)) (by simp)

/-- No operation is in flight, so that the next may begin. -/
structure Grounded (d : Direction) (p : Point Garage) : Prop where
  watchful : Watchful d p
  still : throughout (undisturbed d) p.history = true → inFlight p.history = false

theorem Grounded.moved (grounded : Grounded d p) (s : GarageRuntime) : Watchful d ⟨s,p.history⟩ := by
  refine ⟨grounded.watchful.alone,fun condition => ⟨fun held => ?_,fun _ e known => ?_,(grounded.watchful.guarded condition).checks⟩⟩
  · exact absurd ((grounded.still condition).symm.trans (since_inFlight held)) (by simp)
  · exact absurd ((grounded.still condition).symm.trans (knowing_inFlight known)) (by simp)

theorem Grounded.read (grounded : Grounded d p) (place : Place) : Grounded d (reread t place p) := by
  refine ⟨grounded.watchful.read place,fun condition => ?_⟩
  simpa [reread,inFlight,since] using grounded.still ((throughout_cons _ _ _).mp condition).2

theorem Grounded.commands {cause : Cause} {seen : GarageRuntime} (grounded : Grounded d p) (last : lastRead p.history = some seen)
    (phase : s.controller.phase = motion d) (evidence : s.controller.evidence = seen.controller.evidence.invalidate) :
    Watchful d ⟨s,.event t (.cover d cause) :: p.history⟩ := by
  refine ⟨grounded.watchful.uncreated (by simp),fun condition => ⟨fun _ => phase,fun _ e known => ?_,?_⟩⟩
  · obtain ⟨found,given,rfl⟩ := Option.map_eq_some_iff.mp known
    obtain rfl := Option.some.inj (last.symm.trans given)
    exact evidence.symm
  · exact (throughout_cons _ _ _).mpr ⟨rfl,(grounded.watchful.guarded ((throughout_cons _ _ _).mp condition).2).checks⟩

/-- The wait may end here: its last reading does not show the closing door closed. -/
structure Quits (t : ℕ) (d : Direction) (p : Point Garage) : Prop where
  watchful : Watchful d p
  reported : d = .toClose → throughout (undisturbed d) p.history = true → closeReported t p.history = true

theorem Quits.ended {cause : Cause} (quits : Quits t d p) : Watchful d ⟨s,.event t (.gaveUp d cause) :: p.history⟩ := by
  refine quits.watchful.ended rfl fun condition => ?_
  cases d with
  | toOpen => rfl
  | toClose => exact quits.reported rfl condition

theorem Watchful.interrupted (watchful : Watchful d p) (answer : Except Exc Unit) : Quits t d (p.push (.resumed t answer)) :=
  ⟨watchful.push rfl (by simp) rfl rfl,fun _ _ => rfl⟩

theorem Watchful.timedOut {cause : Cause} (watchful : Watchful d p) (unread : p.state.refresh.controller.confirmed d = false) :
    Quits t d (reread t (.waited d cause) p) := by
  refine ⟨watchful.read _,fun closing condition => ?_⟩
  subst closing
  obtain ⟨allowed,before⟩ := (throughout_cons _ _ _).mp condition
  have guarded := watchful.guarded before
  have hidden : shownClosed p.history p.state.refresh = false := by
    unfold shownClosed
    cases known : knowing p.history with
    | none => rfl
    | some e =>
      obtain rfl := guarded.observer rfl e known
      have own := ownReading_refresh (guarded.agrees (undisturbed_own allowed (knowing_inFlight known)))
      rw [Option.any_some,own]
      exact unread
  simp [closeReported,reread,hidden]

theorem watchful_failure {cause : Cause} {error : Exc} {Q : Unit → Point Garage → Prop} (quits : Quits t d p) :
    wp (Watchful d) t (reportFailure d cause error) Q (fun _ => Watchful d) p := by
  unfold reportFailure
  rw [wp_bind,wp_emit]
  cases error with
  | control reason => exact quits.ended
  | other reason => exact quits.ended
  | cancelled => exact quits.ended

theorem watchful_moveDoor {cause : Cause} {seen : GarageRuntime} (grounded : Grounded d p) (last : lastRead p.history = some seen)
    (phase : p.state.controller.phase = motion d) (evidence : p.state.controller.evidence = seen.controller.evidence.invalidate)
    (unanswered : closeReported t p.history = true) :
    wp (Watchful d) t (moveDoor d cause) (fun _ => Quits t d) (fun _ => Quits t d) p := by
  unfold moveDoor
  rw [wp_bind,wp_modify,wp_bind,wp_get]
  split
  · exact ⟨grounded.moved _,fun _ _ => unanswered⟩
  rw [wp_bind,wp_emit,wp_bind]
  have commanded : Watchful d ⟨makeContext p.state,.event t (.cover d cause) :: p.history⟩ := grounded.commands last phase evidence
  refine ⟨commanded.push rfl (by simp) rfl rfl,fun q watchful _ answer => ?_⟩
  cases answer <;> exact watchful.interrupted _

theorem watchful_waitFor {cause : Cause} (quits : Quits t d p) :
    wp (Watchful d) t (waitFor d cause) (fun _ => Watchful d) (fun _ => Quits t d) p := by
  unfold waitFor
  rw [wp_bind,wp_get]
  split
  · exact quits
  refine wp_poll (Watchful d) t p (Watchful d) quits.watchful fun q watchful => ?_
  unfold pollEndpoint
  rw [wp_bind,wp_refresh,wp_bind,wp_get,wp_ite]
  split
  · exact watchful.read _
  next unread =>
  rw [wp_ite]
  split
  · exact watchful.timedOut ((Bool.not_eq_true _).mp unread)
  · refine ⟨(watchful.read _).push rfl (by simp) rfl rfl,fun r watchful _ answer => ?_⟩
    cases answer with
    | ok reply => exact watchful.push rfl (by simp) rfl rfl
    | error error => exact watchful.interrupted _

theorem watchful_operate {cause : Cause} {done : GarageRuntime → GarageRuntime} {seen : GarageRuntime} (grounded : Grounded d p)
    (last : lastRead p.history = some seen) (phase : p.state.controller.phase = motion d)
    (evidence : p.state.controller.evidence = seen.controller.evidence) (unanswered : closeReported t p.history = true) :
    wp (Watchful d) t (operate d cause done) (fun _ => Watchful d) (fun _ => Watchful d) p := by
  unfold operate
  rw [wp_attempt,wp_bind,wp_modify,wp_bind]
  have revoked : Grounded d ⟨p.state.invalidateEvidence,p.history⟩ := ⟨grounded.moved _,grounded.still⟩
  refine wp_mono (watchful_moveDoor revoked last phase (congrArg DoorEvidence.invalidate evidence) unanswered) ?_
    (fun _ _ quits => watchful_failure quits)
  intro _ q quits
  rw [wp_bind]
  refine wp_mono (watchful_waitFor quits) (fun _ r watchful => ?_) (fun _ _ quits => watchful_failure quits)
  exact watchful.ended rfl fun _ => rfl

theorem watchful_openDoor {cause : Cause} (grounded : Grounded .toOpen p) :
    wp (Watchful .toOpen) t (openDoor cause) (fun _ => Watchful .toOpen) (fun _ => Watchful .toOpen) p := by
  have read := grounded.read (t := t) (.asked .toOpen cause)
  unfold openDoor
  rw [wp_bind,wp_refresh,wp_bind,wp_get]
  split
  · exact read.moved _
  rw [wp_ite]
  split
  · exact read.watchful.ended rfl fun _ => rfl
  · exact watchful_operate ⟨read.moved _,read.still⟩ rfl rfl rfl rfl

theorem watchful_closeDoor {cause : Cause} (grounded : Grounded .toClose p) :
    wp (Watchful .toClose) t (closeDoor cause) (fun _ => Watchful .toClose) (fun _ => Watchful .toClose) p := by
  have read := grounded.read (t := t) (.asked .toClose cause)
  unfold closeDoor
  rw [wp_bind,wp_refresh,wp_bind,wp_get]
  split
  · exact read.moved _
  rw [wp_ite]
  split
  · exact read.watchful
  rw [wp_ite]
  split
  · exact read.watchful.ended rfl fun _ => rfl
  · exact watchful_operate ⟨read.moved _,read.still⟩ rfl rfl rfl rfl

theorem watchful_publish {X : Exc → Point Garage → Prop} (watchful : Watchful d p) :
    wp (Watchful d) t publish (fun _ => Watchful d) X p :=
  wp_publish (fun _ _ watchful => watchful.read _) watchful

theorem watchful_reset {X : Exc → Point Garage → Prop} (watchful : Watchful d p) :
    wp (Watchful d) t reset (fun _ => Watchful d) X p := by
  unfold reset
  rw [wp_bind,wp_refresh,wp_bind,wp_modify]
  exact watchful_publish ((watchful.read (t := t) .reset).rephase (fun held => by simp [reread,kept,since,leavesPhase] at held) rfl)

theorem syncPhaseWithDoor_leaves (leaves : leavesPhase .doorChange s = true) : syncPhaseWithDoor s = s := by
  unfold syncPhaseWithDoor
  split_ifs with task closed opened blocked
  · rfl
  · simp [leavesPhase,task,closed] at leaves
  · simp [leavesPhase,task,opened] at leaves
  · have readable : s.controller.doorBlockedReason = none := by simpa [leavesPhase,task,closed,opened] using leaves
    simp [readable] at blocked
  · rfl

theorem syncPhaseWithDoor_takes (taken : leavesPhase .doorChange s = false) (d : Direction) :
    (syncPhaseWithDoor s).controller.phase ≠ motion d := by
  unfold syncPhaseWithDoor
  split_ifs with task closed opened blocked
  · simp [leavesPhase,task] at taken
  · cases d <;> simp [setPhase,motion]
  · cases d <;> simp [setPhase,motion]
  · cases d <;> simp [setPhase,motion]
  · have readable : s.controller.doorBlockedReason = none := Option.not_isSome_iff_eq_none.mp blocked
    simp [leavesPhase,closed,opened,readable] at taken

theorem syncPhaseWithDoor_evidence (s : GarageRuntime) : (syncPhaseWithDoor s).controller.evidence = s.controller.evidence := by
  unfold syncPhaseWithDoor
  split_ifs <;> rfl

theorem watchful_listener {X : Exc → Point Garage → Prop} (watchful : Watchful d p) :
    wp (Watchful d) t onDoorChange (fun _ => Watchful d) X p := by
  unfold onDoorChange
  rw [wp_bind,wp_refresh,wp_bind,wp_modify]
  refine watchful_publish ((watchful.read (t := t) .doorChange).rephase (fun held => ?_) (syncPhaseWithDoor_evidence _))
  have leaves : leavesPhase .doorChange p.state.refresh = true := (Bool.and_eq_true_iff.mp held).1
  exact congrArg (·.controller.phase) (syncPhaseWithDoor_leaves leaves)

theorem watchful_body {call : Call} {cause : Cause} (entry : call ∈ [requests d,.onDoorChange,.reset]) (watchful : Watchful d p)
    (still : throughout (undisturbed d) p.history = true → call = requests d → inFlight p.history = false) :
    wp (Watchful d) t ((watched d cause).body call) (fun _ => Watchful d) (fun _ => Watchful d) p := by
  by_cases requested : call = requests d
  · have grounded : Grounded d p := ⟨watchful,fun condition => still condition requested⟩
    have same : (watched d cause).body call = driven d cause := if_pos requested
    rw [same]
    cases d with
    | toOpen => exact watchful_openDoor grounded
    | toClose => exact watchful_closeDoor grounded
  · have same : (watched d cause).body call = GarageRuntime.body call := if_neg requested
    rw [same]
    rcases List.mem_cons.mp entry with own | other
    · exact absurd own requested
    rcases List.mem_cons.mp other with rfl | last
    · exact watchful_listener watchful
    · obtain rfl := List.mem_singleton.mp last
      exact watchful_reset watchful

theorem watchful_keeps (d : Direction) (cause : Cause) : Preserves (watched d cause) (Watchful d) where
  outside input p watchful := by
    refine watchful.push rfl (by simp) ?_ ?_
    · cases input <;> rfl
    · cases input <;> rfl
  dropped t p watchful _ := watchful.push rfl (by simp) rfl rfl
  body call t p watchful _ origin := by
    have entry : call ∈ [requests d,.onDoorChange,.reset] := by
      rcases origin with entry | ⟨parent,spawned⟩
      · exact of_decide_eq_true entry
      · exact absurd spawned (watchful.alone parent t call)
    have started : Watchful d (p.push (.started t call)) := watchful.push rfl (by simp) rfl rfl
    refine wp_mono (watchful_body entry started fun condition requested => ?_) (fun _ q watchful => watchful.push rfl (by simp) rfl rfl)
      (fun _ q watchful => watchful.push rfl (by simp) rfl rfl)
    have allowed : undisturbed d p.history (.started t call) = true := ((throughout_cons _ _ _).mp condition).1
    have flightless : inFlight p.history = false := by simpa [undisturbed,requested] using allowed
    exact flightless

end Guard

theorem watched_guarded {d : Direction} {cause : Cause} {s : GarageRuntime} {schedule : List (Label Garage)}
    (condition : throughout (undisturbed d) (watchedRun d cause s schedule).history = true) :
    Guarded d (watchedRun d cause s schedule) := by
  have start : Watchful d ⟨s,[]⟩ := ⟨by simp,fun _ => ⟨by simp [kept,since],by simp [knowing],rfl⟩⟩
  exact ((watchful_keeps d cause).exec s start schedule).guarded condition

/-- No close is given up on a reading of its own that has the contact closed, and nothing against it. -/
theorem closed_contact_reported {cause asked : Cause} {s seen : GarageRuntime} {schedule : List (Label Garage)} {t : ℕ}
    {later past : List (Item Garage)} {e : DoorEvidence} {now : ℚ}
    (condition : throughout (undisturbed .toClose) (watchedRun .toClose cause s schedule).history = true)
    (ended : (watchedRun .toClose cause s schedule).history =
      later ++ .event t (.gaveUp .toClose asked) :: .event t (.read (.waited .toClose asked) seen) :: past)
    (known : knowing past = some e)
    (clear : e.Clear (.float (.finite seen.world.clock)) (observeDoor seen.binding seen.world (some .closing) seen.contexts) now) :
    DoorEvidence.contactReached e.binding .toClose (contactState seen.binding seen.world .toClose) ≠ some true := by
  intro reached
  have checks := (watched_guarded condition).checks
  rw [ended] at checks
  have reported : closeReported t (.event t (.read (.waited .toClose asked) seen) :: past) = true :=
    (Bool.and_eq_true_iff.mp (throughout_at checks)).2
  have shown : shownClosed past seen = true := by simp [shownClosed,known,contact_shown clear reached]
  simp [closeReported,shown] at reported

/-- In every undisturbed run the phase is the operation's own while its endpoint is unmet, no
closing cover of a close is read as unavailable, and no close is given up that shows the door closed. -/
theorem phase_kept_in_motion (d : Direction) (cause : Cause) (s : GarageRuntime) (schedule : List (Label Garage))
    (condition : throughout (undisturbed d) (watchedRun d cause s schedule).history = true) :
    (unmet d (watchedRun d cause s schedule).history = true → (watchedRun d cause s schedule).state.controller.phase = motion d) ∧
      throughout (promised d) (watchedRun d cause s schedule).history = true := by
  have guarded := watched_guarded condition
  exact ⟨fun waits => guarded.phase (kept_of_unmet condition waits),guarded.checks⟩

def standsOpen : GarageRuntime := GarageRuntime.init contactBinding (contactWorld "open" true false (statusOf .cleaning true) 3000)

/-- A close whose cover still reports its travel when the contact closes and the time is up. -/
def closesSlowly : List (Label Garage) :=
  [.call .asyncRequestClose,goesOn 0,
    .outside (.entity "cover.garage" (some {state := "closing"})),.call .onDoorChange,
    .outside (.entity "binary_sensor.open" (contact false)),.call .onDoorChange,
    .outside (.entity "binary_sensor.closed" (contact true)),.outside (.time 90 190),goesOn 0]

/-- Where a task keeps the listener off the phase, the close is readable to its end. -/
theorem phase_kept_in_task :
    let ran := watchedRun .toClose .request (standsOpen.setTaskInProgress true) closesSlowly
    ((unmet .toClose ran.history = true → ran.state.controller.phase = .closing) ∧ throughout (promised .toClose) ran.history = true) ∧
      ran.history.any endsClose = true :=
  ⟨phase_kept_in_motion .toClose .request (standsOpen.setTaskInProgress true) closesSlowly (by decide +kernel),by decide +kernel⟩

/-- The listener takes the phase from the close under way, its closing cover is unavailable from
then on, and the closed door is given up; a reset does the like even to a close within a task. -/
theorem phase_lost_in_motion :
    let moved := watchedRun .toClose .request standsOpen (closesSlowly.take 4)
    let ended := watchedRun .toClose .request standsOpen closesSlowly
    let released := watchedRun .toClose .request (standsOpen.setTaskInProgress true) (closesSlowly.take 3 ++ [.call .reset])
    (unmet .toClose moved.history = true ∧ moved.state.controller.phase = .outside) ∧
      throughout (readsOwnClosing .toClose) ended.history = false ∧ throughout reportsClosed ended.history = false ∧
      contactState contactBinding ended.state.world .toClose = some "on" ∧
      unmet .toClose released.history = true ∧ released.state.controller.phase = .outside := by
  decide +kernel

end RoborockPlus.Motion
