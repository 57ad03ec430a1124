import RoborockPlus.Freshness
import RoborockPlus.Turn

/-! A robot paused for its return. When something goes wrong before the return rule resumes
it, the next turn finds it paused, and a paused robot is not one that the rule knows as
returning; the only other resume is that of the departure rule, behind its close. -/
namespace RoborockPlus
open Async GarageController GarageRuntime

/-- The last thing sent is a resume, and not answered yet. -/
def resumeOut : List (Item Garage) → Bool
  | .event _ (.robot name _ _) :: _ => name == "app_resume"
  | .waiting _ _ :: past => resumeOut past
  | _ => false

/-- In a sequence's own entries, a pause of the return rule behind which no resume was taken. -/
def heldForReturn : List (Item Garage) → Bool
  | [] => false
  | .event _ (.robot name cause _) :: past => decide (name = "app_pause" ∧ cause = .returning) || heldForReturn past
  | .resumed _ (.ok _) :: past => !resumeOut past && heldForReturn past
  | _ :: past => heldForReturn past

def foundPaused (seen : GarageRuntime) : Bool :=
  decide (seen.controller.robot.state = .paused) && seen.controller.doorBlockedReason.isNone

/-- A turn's own entries from its reading on, and what the sequence had recorded before. -/
structure Lap where
  entries : List (Item Garage)
  seen : GarageRuntime
  before : List (Item Garage)

def lap : List (Item Garage) → Option Lap
  | [] => none
  | .event u (.read .iteration seen) :: past => some ⟨[.event u (.read .iteration seen)],seen,past⟩
  | item :: past => (lap past).map fun lap => {lap with entries := item :: lap.entries}

/-- The turn found a robot that its sequence has paused for the return, before a readable door. -/
def Lap.finds (lap : Lap) : Bool := heldForReturn lap.before && foundPaused lap.seen

/-- The door was open when it could be read last. -/
def doorShown : List (Item Garage) → Bool
  | [] => false
  | .event _ (.read _ seen) :: past =>
    if seen.controller.doorBlockedReason.isNone then seen.controller.openConfirmed else doorShown past
  | _ :: past => doorShown past

def commandsClose : Item Garage → Bool
  | .event _ (.cover .toClose _) => true
  | _ => false

/-- A resume was taken that went out with the door open and no close commanded in the turn. -/
def sentHome : List (Item Garage) → Bool
  | [] => false
  | .resumed _ (.ok _) :: past => resumeOut past && doorShown past && !past.any commandsClose || sentHome past
  | _ :: past => sentHome past

/-- A turn that finds the robot held for its return sends it home through the open door. -/
def resumesHeld (t : ℕ) (past : List (Item Garage)) : Event → Bool
  | .iterated => (lap (own t past)).all fun lap => !lap.finds || sentHome lap.entries
  | _ => true

def isAnswer : Item Garage → Bool
  | .resumed _ _ => true
  | _ => false

/-- The robot is outside and stays paused, before an open door whose close is refused; and
the answers to its pause, to the refresh behind it and to its resume are no errors. -/
def lets (past : List (Item Garage)) : Item Garage → Bool
  | .event _ (.read .departure seen) =>
    seen.controller.robotOutside && !seen.controller.closedConfirmed && seen.controller.doorBlockedReason.isNone
  | .event _ (.read .departurePaused seen) => decide (seen.controller.robot.state = .paused)
  | .event u (.read (.asked .toClose .departure) seen) =>
    !seen.closed && !ajar seen && doorShown (.event u (.read (.asked .toClose .departure) seen) :: past)
  | .resumed _ (.error _) => false
  | _ => true

/-- Until the third answer. -/
def releasable : List (Item Garage) → Bool := throughout fun past item => decide (3 ≤ past.countP isAnswer) || lets past item

/-- A turn that finds the robot held for its return finds it so that the departure rule will release it. -/
def findsRelease (t : ℕ) (past : List (Item Garage)) : Event → Bool
  | .iterated => (lap (own t past)).all fun lap => !lap.finds || releasable lap.entries
  | _ => true

section Entries
variable {item : Item Garage} {entries : List (Item Garage)} {t : ℕ}

/-- The turn will not send its robot home. -/
structure Doomed (entries : List (Item Garage)) : Prop where
  kept : releasable entries = false
  still : sentHome entries = false
  quiet : resumeOut entries = false

/-- And a resume would not do so either. -/
structure Barred (entries : List (Item Garage)) : Prop where
  doomed : Doomed entries
  behind : (doorShown entries && !entries.any commandsClose) = false

/-- The turn has sent it home, or will not. -/
def Told (entries : List (Item Garage)) : Prop :=
  Doomed entries ∨ releasable entries = true ∧ 3 ≤ entries.countP isAnswer ∧ sentHome entries = true

/-- So far nothing stands against the release, after so many answers. -/
structure Pending (answers : ℕ) (entries : List (Item Garage)) : Prop where
  free : releasable entries = true
  answered : entries.countP isAnswer = answers
  still : sentHome entries = false
  quiet : resumeOut entries = false
  open' : entries.any commandsClose = false

/-- At its release: nothing stands against it before an open door, or it would be in vain. -/
def AtRelease (entries : List (Item Garage)) : Prop := Pending 2 entries ∧ doorShown entries = true ∨ Barred entries

theorem Told.same (told : Told entries) : sentHome entries = releasable entries := by
  rcases told with doomed | ⟨free,_,home⟩
  · rw [doomed.kept,doomed.still]
  · rw [free,home]

@[simp] theorem releasable_cons : releasable (item :: entries) =
    ((decide (3 ≤ entries.countP isAnswer) || lets entries item) && releasable entries) := rfl

theorem Doomed.push (doomed : Doomed entries) (other : ∀ u name cause utc, item ≠ .event u (.robot name cause utc)) :
    Doomed (item :: entries) := by
  obtain ⟨kept,still,quiet⟩ := doomed
  refine ⟨by rw [releasable_cons,kept,Bool.and_false],?_,?_⟩
  · rcases item with _ | _ | _ | _ | _ | ⟨u,answer⟩ | _ | _
    case resumed => cases answer <;> simp [sentHome,still,quiet]
    all_goals exact still
  · rcases item with _ | _ | _ | ⟨u,e⟩ | _ | _ | _ | _
    case event =>
      cases e with
      | robot name cause utc => exact absurd rfl (other u name cause utc)
      | _ => rfl
    case waiting => exact quiet
    all_goals rfl

theorem Told.push (told : Told entries) (other : ∀ u name cause utc, item ≠ .event u (.robot name cause utc)) :
    Told (item :: entries) := by
  rcases told with doomed | ⟨free,answered,home⟩
  · exact Or.inl (doomed.push other)
  refine Or.inr ⟨by simp [free,answered],?_,?_⟩
  · exact answered.trans (by rw [List.countP_cons]; exact Nat.le_add_right _ _)
  · rcases item with _ | _ | _ | _ | _ | ⟨u,answer⟩ | _ | _
    case resumed => cases answer <;> simp [sentHome,home]
    all_goals exact home

theorem pending_begun (seen : GarageRuntime) : Pending 0 [.event t (.read .iteration seen)] := ⟨rfl,rfl,rfl,rfl,rfl⟩

theorem Pending.read {answers : ℕ} {place : Place} {seen : GarageRuntime} (pending : Pending answers entries)
    (good : lets entries (.event t (.read place seen)) = true) : Pending answers (.event t (.read place seen) :: entries) where
  free := by simp [pending.free,good]
  answered := pending.answered
  still := pending.still
  quiet := rfl
  open' := pending.open'

/-- A reading or an answer that stands against the release, before the third answer. -/
theorem Pending.fails {answers : ℕ} (pending : Pending answers entries) (early : answers < 3) (bad : lets entries item = false) :
    Doomed (item :: entries) := by
  have blocked : releasable (item :: entries) = false := by simp [bad,pending.answered,early]
  rcases item with _ | _ | _ | ⟨u,e⟩ | _ | ⟨u,answer⟩ | _ | _
  case event =>
    cases e with
    | read place seen => exact ⟨blocked,pending.still,rfl⟩
    | _ => exact nomatch bad
  case resumed =>
    cases answer with
    | ok reply => exact nomatch bad
    | error error => exact ⟨blocked,pending.still,rfl⟩
  all_goals exact nomatch bad

theorem Pending.paused {utc : ℚ} (pending : Pending 0 entries) :
    Pending 2 (.resumed t (.ok ()) :: refreshing t "app_pause" .departure utc ++ entries) where
  free := by simp [refreshing,outgoing,lets,pending.free]
  answered := by simp [refreshing,outgoing,isAnswer,List.countP_cons,pending.answered]
  still := by simp [refreshing,outgoing,sentHome,resumeOut,pending.still]
  quiet := rfl
  open' := by simpa [refreshing,outgoing,commandsClose] using pending.open'

theorem Pending.unpaused {utc : ℚ} {error : Exc} {sent : List (Item Garage)} (pending : Pending 0 entries)
    (going : sent = outgoing t "app_pause" .departure utc ∨ sent = refreshing t "app_pause" .departure utc) :
    Doomed (.resumed t (.error error) :: (sent ++ entries)) := by
  rcases going with rfl | rfl
  · exact ⟨by simp [outgoing,lets,isAnswer,pending.answered],by simp [outgoing,sentHome,pending.still],rfl⟩
  · refine ⟨by simp [refreshing,outgoing,lets,isAnswer,List.countP_cons,pending.answered],?_,rfl⟩
    simp [refreshing,outgoing,sentHome,resumeOut,pending.still]

/-- The reading for a close that is refused. -/
theorem Pending.asked {seen : GarageRuntime} (pending : Pending 2 entries) (loaded : seen.closed = false) (refuses : ajar seen = false) :
    AtRelease (.event t (.read (.asked .toClose .departure) seen) :: entries) := by
  have stands : lets entries (.event t (.read (.asked .toClose .departure) seen)) =
      doorShown (.event t (.read (.asked .toClose .departure) seen) :: entries) := by
    rw [lets,loaded,refuses]
    rfl
  cases shown : doorShown (.event t (.read (.asked .toClose .departure) seen) :: entries) with
  | true => exact Or.inl ⟨pending.read (stands.trans shown),shown⟩
  | false => exact Or.inr ⟨pending.fails (by simp) (stands.trans shown),by rw [shown,Bool.false_and]⟩

theorem AtRelease.ended {e : Event} {d : Direction} {cause : Cause} (ready : AtRelease entries) (outcome : e.kind = .outcome d cause) :
    AtRelease (.event t e :: entries) := by
  have other : ∀ u name cause utc, (.event t e : Item Garage) ≠ .event u (.robot name cause utc) := by
    rintro u name cause utc ⟨⟩
    exact nomatch outcome
  have same : lets entries (.event t e) = true ∧ doorShown (.event t e :: entries) = doorShown entries ∧
      commandsClose (.event t e) = false ∧ resumeOut (.event t e :: entries) = false := by
    cases e with
    | read place seen => cases place <;> exact nomatch outcome
    | succeeded d cause => exact ⟨rfl,rfl,rfl,rfl⟩
    | gaveUp d cause => exact ⟨rfl,rfl,rfl,rfl⟩
    | _ => exact nomatch outcome
  obtain ⟨good,shown,calm,quiet⟩ := same
  rcases ready with ⟨pending,before⟩ | ⟨doomed,behind⟩
  · refine Or.inl ⟨⟨by simp [good,pending.free],pending.answered,pending.still,quiet,?_⟩,shown.trans before⟩
    rw [List.any_cons,calm,pending.open',Bool.or_false]
  · refine Or.inr ⟨doomed.push other,?_⟩
    rw [shown,List.any_cons,calm,Bool.false_or]
    exact behind

/-- The release, whatever is answered to it. -/
theorem AtRelease.resumed {utc : ℚ} (ready : AtRelease entries) :
    Told (.resumed t (.ok ()) :: refreshing t "app_resume" .departure utc ++ entries) := by
  rcases ready with ⟨pending,shown⟩ | ⟨⟨kept,still,_⟩,behind⟩
  · refine Or.inr ⟨?_,?_,?_⟩
    · simp [refreshing,outgoing,lets,pending.free]
    · simp [refreshing,outgoing,isAnswer,List.countP_cons,pending.answered]
    · simp [refreshing,outgoing,sentHome,resumeOut,doorShown,shown,commandsClose,pending.open']
  · refine Or.inl ⟨by simp [refreshing,outgoing,kept],?_,rfl⟩
    simpa [refreshing,outgoing,sentHome,resumeOut,doorShown,commandsClose,still] using behind

theorem AtRelease.unresumed {utc : ℚ} {error : Exc} {sent : List (Item Garage)} (ready : AtRelease entries)
    (going : sent = outgoing t "app_resume" .departure utc ∨ sent = refreshing t "app_resume" .departure utc) :
    Told (.resumed t (.error error) :: (sent ++ entries)) := by
  rcases ready with ⟨pending,shown⟩ | ⟨⟨kept,still,_⟩,behind⟩ <;> rcases going with rfl | rfl
  · exact Or.inl ⟨by simp [outgoing,lets,isAnswer,pending.answered],by simp [outgoing,sentHome,pending.still],rfl⟩
  · refine Or.inr ⟨?_,?_,?_⟩
    · simp [refreshing,outgoing,lets,isAnswer,List.countP_cons,pending.answered,pending.free]
    · simp [refreshing,outgoing,isAnswer,List.countP_cons,pending.answered]
    · simp [refreshing,outgoing,sentHome,resumeOut,doorShown,shown,commandsClose,pending.open']
  · exact Or.inl ⟨by simp [outgoing,kept],by simp [outgoing,sentHome,still],rfl⟩
  · refine Or.inl ⟨by simp [refreshing,outgoing,kept],?_,rfl⟩
    simpa [refreshing,outgoing,sentHome,resumeOut,doorShown,commandsClose,still] using behind

end Entries

section
variable {t : ℕ} {p q : Point Garage} {A B : Lap → Prop}

theorem lap_append {added past : List (Item Garage)} (apart : ∀ u seen, .event u (.read .iteration seen) ∉ added) :
    lap (added ++ past) = (lap past).map fun last => {last with entries := added ++ last.entries} := by
  induction added with
  | nil => simp
  | cons item added ih =>
    have rest := ih fun u seen member => apart u seen (List.mem_cons_of_mem _ member)
    have grown : lap (item :: (added ++ past)) = (lap (added ++ past)).map fun last => {last with entries := item :: last.entries} := by
      rcases item with _ | _ | _ | ⟨u,e⟩ | _ | _ | _ | _
      case event =>
        cases e with
        | read place seen =>
          cases place with
          | iteration => exact absurd List.mem_cons_self (apart u seen)
          | _ => rfl
        | _ => rfl
      all_goals rfl
    rw [List.cons_append,grown,rest]
    cases lap past <;> rfl

/-- What holds of the turn that the task is in. -/
abbrev OnLap (A : Lap → Prop) : ℕ → Point Garage → Prop := Owned fun entries => ∀ last, lap entries = some last → A last

theorem OnLap.grown (held : OnLap A t p) (added : List (Item Garage)) (same : own t q.history = added ++ own t p.history)
    (apart : ∀ u seen, .event u (.read .iteration seen) ∉ added)
    (step : ∀ last, A last → B {last with entries := added ++ last.entries}) : OnLap B t q := by
  intro result found
  rw [same,lap_append apart] at found
  obtain ⟨last,before,rfl⟩ := Option.map_eq_some_iff.mp found
  exact step last (held last before)

theorem OnLap.event {e : Event} (held : OnLap A t p) (s : GarageRuntime) (apart : e.kind ≠ .opening)
    (step : ∀ last, A last → B {last with entries := .event t e :: last.entries}) : OnLap B t ⟨s,.event t e :: p.history⟩ := by
  refine held.grown [.event t e] (own_cons_self _ rfl) (fun u seen member => ?_) step
  obtain ⟨_,rfl⟩ : t = u ∧ e = .read .iteration seen := by simpa [eq_comm] using member
  exact apart rfl

theorem onLap_ignores {R : GarageRuntime → GarageRuntime → Prop} {S : Event → Prop} (apart : ∀ e, S e → e.kind ≠ .opening)
    (step : ∀ item last, item.Inside S → A last → A {last with entries := item :: last.entries}) : Ignores (OnLap A t) t R S := by
  refine Owned.ignores fun item past _ inside held result found => ?_
  rw [← List.singleton_append,lap_append] at found
  · obtain ⟨last,before,rfl⟩ := Option.map_eq_some_iff.mp found
    exact step item last inside (held last before)
  · intro u seen member
    obtain rfl := (List.mem_singleton.mp member).symm
    exact apart _ inside rfl

/-- What only a robot command can end. -/
theorem onLap_lasts {C : List (Item Garage) → Prop} {R : GarageRuntime → GarageRuntime → Prop} {S : Event → Prop}
    (push : ∀ item entries, (∀ u name cause utc, item ≠ .event u (.robot name cause utc)) → C entries → C (item :: entries))
    (apart : ∀ e, S e → e.kind ≠ .opening ∧ ∀ cause, e.kind ≠ .robot cause) : Ignores (OnLap (fun last => C last.entries) t) t R S := by
  refine onLap_ignores (fun e inside => (apart e inside).1) fun item last inside held => push item _ ?_ held
  rintro u name cause utc rfl
  exact (apart _ inside).2 cause rfl

/-- An answer that is an error comes after what was recorded of the command. -/
theorem OnLap.refused {name : String} {utc : ℚ} {error : Exc} (held : OnLap A t p)
    (same : own t q.history = outgoing t name .departure utc ++ own t p.history ∨
      own t q.history = refreshing t name .departure utc ++ own t p.history)
    (step : ∀ sent last, (sent = outgoing t name .departure utc ∨ sent = refreshing t name .departure utc) → A last →
      B {last with entries := .resumed t (.error error) :: (sent ++ last.entries)}) :
    OnLap B t (q.push (.resumed t (.error error))) := by
  obtain ⟨sent,going,same⟩ : ∃ sent, (sent = outgoing t name .departure utc ∨ sent = refreshing t name .departure utc) ∧
      own t q.history = sent ++ own t p.history :=
    same.elim (fun same => ⟨_,Or.inl rfl,same⟩) fun same => ⟨_,Or.inr rfl,same⟩
  refine held.grown (.resumed t (.error error) :: sent) ?_ ?_ fun last before => step sent last going before
  · rw [Point.push_history,own_cons_self _ rfl,same]
    rfl
  · rcases going with rfl | rfl <;> simp [refreshing,outgoing]

abbrev HeldPromise : Point Garage → Prop :=
  Promise anything (atEvents fun t past e => resumesHeld t past e == findsRelease t past e)

theorem heldPromise_quiet (t : ℕ) (past : List (Item Garage)) (e : Event) (other : e.kind ∉ [Kind.iterated]) :
    (resumesHeld t past e == findsRelease t past e) = true := by
  cases e with
  | iterated => exact absurd (List.mem_singleton_self _) other
  | _ => rfl

theorem heldPromise_blind (t : ℕ) {R : GarageRuntime → GarageRuntime → Prop} {S : Event → Prop}
    (other : ∀ e, S e → e.kind ∉ [Kind.iterated]) : Ignores HeldPromise t R S :=
  Promise.ignores fun past e inside => heldPromise_quiet t past e (other e inside)

theorem heldPromise_unmoved (t : ℕ) : Unmoved HeldPromise t :=
  .of_blind (heldPromise_blind t fun _ other => other) (by simp) (by simp)

/-- Ready for the release, unless control was unloaded. -/
structure Releasing (t : ℕ) (p : Point Garage) : Prop where
  unloaded : p.state.closed = true → OnLap (fun last => Doomed last.entries) t p
  loaded : p.state.closed = false → OnLap (fun last => AtRelease last.entries) t p

abbrev ToldHome : ℕ → Point Garage → Prop := OnLap fun last => Told last.entries

theorem wp_release (inv : HeldPromise p) (ready : Releasing t p) :
    wp HeldPromise t (resumeRobot .departure) (fun _ q => HeldPromise q ∧ ToldHome t q) (fun _ q => HeldPromise q ∧ ToldHome t q) p := by
  refine wp_command_own (F := fun _ => True) (heldPromise_unmoved t).silent .top .top (by simp) (by simp) ?_ ?_ ?_ ?_
  · exact fun closed => ⟨inv,fun last found => Or.inl (ready.unloaded closed last found)⟩
  · exact fun _ s frame => ⟨(inv.event fun _ => rfl).of_same rfl,trivial⟩
  · intro s q running _ inv _ _ same
    exact ⟨inv,(ready.loaded running).grown _ same (by simp [refreshing,outgoing]) fun last held => held.resumed⟩
  · intro s q error running _ inv _ _ same
    exact ⟨inv,(ready.loaded running).refused same fun sent last going held => held.unresumed going⟩

theorem Releasing.ended {e : Event} {d : Direction} {cause : Cause} (ready : Releasing t p) (outcome : e.kind = .outcome d cause)
    {s : GarageRuntime} (frame : Frame p.state s) : Releasing t ⟨s,.event t e :: p.history⟩ := by
  have apart : e.kind ≠ .opening := by simp [outcome]
  refine ⟨fun closed => ?_,fun loaded => ?_⟩
  · refine (ready.unloaded (frame.closed.symm.trans closed)).event s apart fun last doomed => doomed.push ?_
    rintro u name cause utc ⟨⟩
    exact nomatch outcome
  · exact (ready.loaded (frame.closed.symm.trans loaded)).event s apart fun last held => held.ended outcome

theorem Releasing.moved (ready : Releasing t p) {s : GarageRuntime} (frame : Frame p.state s) : Releasing t ⟨s,p.history⟩ :=
  ⟨fun closed => ready.unloaded (frame.closed.symm.trans closed),fun loaded => ready.loaded (frame.closed.symm.trans loaded)⟩

/-- The turn has told the door to close. -/
def Shutting (entries : List (Item Garage)) : Prop := Doomed entries ∧ entries.any commandsClose = true

theorem Shutting.ready {entries : List (Item Garage)} (shutting : Shutting entries) : AtRelease entries :=
  Or.inr ⟨shutting.1,by simp [shutting.2]⟩

theorem releasing_shutting (held : OnLap (fun last => Shutting last.entries) t p) : Releasing t p :=
  ⟨fun _ last found => (held last found).1,fun _ last found => (held last found).ready⟩

/-- Whatever becomes of the close behind a robot that is held, the turn is ready for its release. -/
theorem wp_closesHeld (inv : HeldPromise p) (pending : OnLap (fun last => Pending 2 last.entries) t p) :
    wp HeldPromise t (closeDoor .departure) (fun _ q => HeldPromise q ∧ Releasing t q) (fun _ q => HeldPromise q ∧ Releasing t q) p := by
  have blind := heldPromise_unmoved t
  have read : HeldPromise (reread t (.asked .toClose .departure) p) := blind.silent.reread (by simp) inv
  have fails (stands : ∀ entries, lets entries (.event t (.read (.asked .toClose .departure) p.state.refresh)) = false) :
      OnLap (fun last => Doomed last.entries) t (reread t (.asked .toClose .departure) p) :=
    pending.event _ (by simp [Event.kind]) fun last held => held.fails (by simp) (stands _)
  have stays (refuses : ajar p.state.refresh = false) : Releasing t (reread t (.asked .toClose .departure) p) := by
    refine ⟨fun closed => fails fun entries => ?_,fun loaded => ?_⟩
    · have unloaded : p.state.refresh.closed = true := closed
      rw [lets,unloaded]
      rfl
    · exact pending.event _ (by simp [Event.kind]) fun last held => held.asked loaded refuses
  have shuts : Silent (OnLap (fun last => Shutting last.entries) t) t := by
    refine onLap_lasts (fun item entries other shutting => ⟨shutting.1.push other,?_⟩) fun e kind => ?_
    · rw [List.any_cons,shutting.2,Bool.or_true]
    · have ordinary : e.kind = .read := kind
      simp [ordinary]
  refine wp_closeDoor (F := OnLap (fun last => Shutting last.entries) t) blind.silent shuts (Owned.stable _ t) ?_ ?_ ?_ ?_ ?_
  · intro s reason refused frame
    have moved : Frame (reread t (.asked .toClose .departure) p).state s := ⟨frame.world,frame.binding,frame.closed⟩
    refine ⟨read.of_same rfl,(stays ?_).moved moved⟩
    rcases refused with blocked | denied
    · have unreadable : p.state.refresh.controller.doorBlockedReason.isNone = false := by
        rw [Option.isNone_eq_false_iff]
        exact Option.isSome_iff_ne_none.mpr blocked
      simp [ajar,unreadable]
    · have denied : p.state.refresh.closeAllowed = false := denied
      simp [ajar,denied]
  · intro _ _ already s frame
    have moved : Frame (reread t (.asked .toClose .departure) p).state s := ⟨frame.world,frame.binding,frame.closed⟩
    exact ⟨blind.ended read moved rfl,(stays (by simp [ajar,already])).ended rfl moved⟩
  · intro readable allowed away s frame
    refine ⟨(read.event fun _ => rfl).of_same rfl,?_⟩
    have allowed : p.state.refresh.closeAllowed = true := allowed
    have closing : ajar p.state.refresh = true := by simp [ajar,readable,allowed,away]
    have doomed := fails fun entries => by simp [lets,closing]
    exact doomed.event s (by simp [Event.kind]) fun last held => ⟨held.push (by simp),by simp [commandsClose]⟩
  · intro x s read shut _ frame
    have moved : Frame (reread t (.waited .toClose .departure) x).state s := ⟨frame.world,frame.binding,frame.closed⟩
    exact ⟨blind.ended read moved rfl,(releasing_shutting shut).ended rfl moved⟩
  · exact fun q s error _ inv shut frame => ⟨blind.ended inv frame rfl,(releasing_shutting shut).ended rfl frame⟩

theorem OnLap.told (doomed : OnLap (fun last => Doomed last.entries) t p) : ToldHome t p :=
  fun last found => Or.inl (doomed last found)

/-- A reading that stands for the release, or against it. -/
theorem OnLap.reads {answers : ℕ} {place : Place} (pending : OnLap (fun last => Pending answers last.entries) t p)
    (ordinary : place ∉ [.iteration,.finish]) (good : ∀ entries, lets entries (.event t (.read place p.state.refresh)) = true) :
    OnLap (fun last => Pending answers last.entries) t (reread t place p) :=
  pending.event _ (by simp [kind_read ordinary]) fun last held => held.read (good _)

theorem OnLap.fails {answers : ℕ} {place : Place} (pending : OnLap (fun last => Pending answers last.entries) t p)
    (ordinary : place ∉ [.iteration,.finish]) (early : answers < 3)
    (bad : ∀ entries, lets entries (.event t (.read place p.state.refresh)) = false) : ToldHome t (reread t place p) :=
  OnLap.told (pending.event _ (by simp [kind_read ordinary]) fun last held => held.fails early (bad _))

/-- The robot has taken the pause of the departure rule: if it shows so, it is released behind the close. -/
theorem heldPromise_paused (inv : HeldPromise p) (paused : OnLap (fun last => Pending 2 last.entries) t p) :
    wp HeldPromise t (do
        GarageController.refresh .departurePaused
        let s ← .get
        if s.controller.robot.state ≠ .paused then do
          .modify fun s => (s.setPhase .blocked).setLastError (some .pauseNotObserved)
          pure false
        else .guarded (.attempt (do closeDoor .departure; pure true) (noted false id)) (resumeRobot .departure) : Co Garage Bool)
      (fun _ q => HeldPromise q ∧ ToldHome t q) (fun _ q => HeldPromise q ∧ ToldHome t q) p := by
  have seen : HeldPromise (reread t .departurePaused p) := (heldPromise_unmoved t).silent.reread (by simp) inv
  rw [wp_bind,wp_refresh,wp_bind,wp_get,wp_ite]
  split
  next moved =>
    have moved : p.state.refresh.controller.robot.state ≠ .paused := moved
    exact ⟨seen.of_same rfl,paused.fails (by simp) (by simp) fun _ => by simp [lets,moved]⟩
  next still =>
  have still : p.state.refresh.controller.robot.state = .paused := not_not.mp still
  have held : OnLap (fun last => Pending 2 last.entries) t (reread t .departurePaused p) :=
    paused.reads (by simp) fun _ => by simp [lets,still]
  rw [wp_guarded,wp_attempt,wp_bind]
  refine wp_mono (wp_closesHeld seen held) (fun _ r both => wp_release both.1 both.2) ?_
  intro error r both
  cases error with
  | control reason => exact wp_release (both.1.of_same rfl) (both.2.moved ⟨rfl,rfl,rfl⟩)
  | other reason =>
    rw [noted,wp_throw]
    · exact wp_release both.1 both.2
    · simp
  | cancelled =>
    rw [noted,wp_throw]
    · exact wp_release both.1 both.2
    · simp

/-- A turn whose robot is held comes to the departure rule with nothing answered yet. -/
theorem heldPromise_departure (inv : HeldPromise p) (pending : OnLap (fun last => Pending 0 last.entries) t p)
    (running : p.state.closed = false) :
    wp HeldPromise t (handleDeparture false) (fun _ q => HeldPromise q ∧ ToldHome t q) (fun _ q => HeldPromise q ∧ ToldHome t q) p := by
  have blind := heldPromise_unmoved t
  have read : HeldPromise (reread t .departure p) := blind.silent.reread (by simp) inv
  unfold handleDeparture
  rw [wp_ite,if_neg (by simp)]
  unfold updateAfterDeparture
  rw [wp_bind,wp_refresh,wp_bind,wp_get,wp_ite]
  split
  next inside =>
    have inside : p.state.refresh.controller.robotOutside = false := inside
    exact ⟨read,pending.fails (by simp) (by simp) fun _ => by simp [lets,inside]⟩
  next outside =>
  have outside : p.state.refresh.controller.robotOutside = true := (Bool.not_eq_false _).mp outside
  rw [wp_ite]
  split
  next shut =>
    have shut : p.state.refresh.controller.closedConfirmed = true := shut
    exact ⟨read.of_same rfl,pending.fails (by simp) (by simp) fun _ => by simp [lets,shut]⟩
  next ajar =>
  have ajar : p.state.refresh.controller.closedConfirmed = false := (Bool.not_eq_true _).mp ajar
  rw [wp_ite]
  split
  next blocked =>
    have blocked : p.state.refresh.controller.doorBlockedReason.isSome = true := blocked
    have unreadable : p.state.refresh.controller.doorBlockedReason.isNone = false := Option.isNone_eq_false_iff.mpr blocked
    exact ⟨read.of_same rfl,pending.fails (by simp) (by simp) fun _ => by simp [lets,unreadable]⟩
  next readable =>
  have unblocked : ¬ p.state.refresh.controller.doorBlockedReason.isSome = true := readable
  have readable : p.state.refresh.controller.doorBlockedReason.isNone = true := by simpa using unblocked
  have free : OnLap (fun last => Pending 0 last.entries) t (reread t .departure p) :=
    pending.reads (by simp) fun _ => by simp [lets,outside,ajar,readable]
  rw [wp_bind]
  unfold closeBehind pauseOpenCloseResume
  rw [wp_bind,wp_modify,wp_bind]
  refine wp_command_own (F := fun _ => True) blind.silent .top .top (by simp) (by simp) ?_ ?_ ?_ ?_
  · exact fun closed => absurd (running.symm.trans closed) (by simp)
  · exact fun _ s frame => ⟨(read.event fun _ => rfl).of_same rfl,trivial⟩
  · intro s q _ _ inv _ _ same
    have paused : OnLap (fun last => Pending 2 last.entries) t q :=
      free.grown _ same (by simp [refreshing,outgoing]) fun last held => held.paused
    exact wp_mono (heldPromise_paused inv paused) (fun _ r both => ⟨both.1.of_same rfl,both.2⟩) fun _ _ both => both
  · intro s q error _ _ inv _ _ same
    exact ⟨inv,.told (free.refused same fun sent last going held => held.unpaused going)⟩

/-- At its end a turn has told whether it sends its robot home, if it found one held. -/
abbrev Decided : ℕ → Point Garage → Prop := OnLap fun last => last.finds = true → Told last.entries

theorem heldPromise_ordinary {kinds : List Kind} {C : Lap → Prop} {α : Type} {m : Co Garage α} (inside : Emits kinds m)
    (lasts : Ignores (OnLap C t) t Frame fun (e : Event) => e.kind ∈ kinds) (apart : .iterated ∉ kinds) :
    Carries HeldPromise (OnLap C t) t m := by
  refine Co.Within.carries (heldPromise_blind t fun e member => ?_) lasts (Owned.stable _ t) inside
  rw [List.mem_singleton]
  rintro same
  exact apart (same ▸ member)

/-- The turn of a paused robot: the return rule passes, and what the departure rule has told lasts to the end. -/
theorem heldPromise_found (inv : HeldPromise p) (pending : OnLap (fun last => Pending 0 last.entries) t p)
    (still : p.state.refresh.controller.isReturning = false) (running : p.state.closed = false) :
    wp HeldPromise t (do
        let handled ← handleReturn
        let _ ← handleDeparture handled
        publish
        sequenceFinished : Co Garage Bool)
      (fun _ q => HeldPromise q ∧ ToldHome t q) (fun _ q => HeldPromise q ∧ ToldHome t q) p := by
  have told {kinds : List Kind} {α : Type} {m : Co Garage α} (inside : Emits kinds m)
      (apart : ∀ kind ∈ kinds, kind ≠ .iterated ∧ kind ≠ .opening ∧ ∀ cause, kind ≠ .robot cause) :
      Carries HeldPromise (ToldHome t) t m :=
    heldPromise_ordinary inside (onLap_lasts (fun _ _ other told => told.push other) fun e member => (apart e.kind member).2)
      fun member => (apart _ member).1 rfl
  have passed : OnLap (fun last => Pending 0 last.entries) t (reread t .handleReturn p) :=
    pending.reads (by simp) fun _ => rfl
  have finishes : Carries HeldPromise (ToldHome t) t (do publish; sequenceFinished) :=
    .bind (told (emits_publish (List.mem_singleton_self Kind.read)) (by simp)) fun _ =>
      told (emits_sequenceFinished (List.Subset.refl _)) (by simp [finishKinds,openKinds,closeKinds])
  rw [wp_bind]
  apply wp_handleReturn_still still
  rw [wp_bind]
  have departs := heldPromise_departure ((heldPromise_unmoved t).silent.reread (by simp) inv) passed running
  exact wp_mono departs (fun _ q both => finishes q both.1 both.2) fun _ _ both => both

theorem heldPromise_elsewhere (inv : HeldPromise p) (elsewhere : OnLap (fun last => last.finds = false) t p) :
    wp HeldPromise t (do
        let handled ← handleReturn
        let _ ← handleDeparture handled
        publish
        sequenceFinished : Co Garage Bool)
      (fun _ q => HeldPromise q ∧ OnLap (fun last => last.finds = false) t q)
      (fun _ q => HeldPromise q ∧ OnLap (fun last => last.finds = false) t q) p := by
  have other {kinds : List Kind} {α : Type} {m : Co Garage α} (inside : Emits kinds m)
      (apart : ∀ kind ∈ kinds, kind ≠ .iterated ∧ kind ≠ .opening) :
      Carries HeldPromise (OnLap (fun last => last.finds = false) t) t m :=
    heldPromise_ordinary inside (onLap_ignores (fun e member => (apart e.kind member).2) fun _ _ _ held => held) fun member =>
      (apart _ member).1 rfl
  have turns : Carries HeldPromise (OnLap (fun last => last.finds = false) t) t (do
      let handled ← handleReturn
      let _ ← handleDeparture handled
      publish
      sequenceFinished : Co Garage Bool) :=
    .bind (other (emits_handleReturn (List.Subset.refl _)) (by simp [returnKinds,openKinds])) fun handled =>
    .bind (other (emits_handleDeparture (List.Subset.refl _) handled) (by simp [departureKinds,closeKinds])) fun _ =>
    .bind (other (emits_publish (List.mem_singleton_self Kind.read)) (by simp)) fun _ =>
      other (emits_sequenceFinished (List.Subset.refl _)) (by simp [finishKinds,openKinds,closeKinds])
  exact turns p inv elsewhere

theorem heldPromise_rules (inv : HeldPromise p) (running : p.state.closed = false) :
    wp HeldPromise t applyRules (fun _ q => HeldPromise q ∧ Decided t q) (fun _ q => HeldPromise q ∧ Decided t q) p := by
  have begun : HeldPromise (reread t .iteration p) :=
    (inv.event (t := t) (e := .read .iteration p.state.refresh) fun _ => rfl).of_same rfl
  let start : Lap := ⟨[.event t (.read .iteration p.state.refresh)],p.state.refresh,own t p.history⟩
  have opened : lap (own t (reread t .iteration p).history) = some start := by
    rw [reread,own_cons_self _ rfl]
    rfl
  unfold applyRules
  rw [wp_bind,wp_refresh]
  by_cases found : start.finds = true
  · have paused : p.state.refresh.controller.robot.state = .paused := by
      simp only [Lap.finds,foundPaused,Bool.and_eq_true,decide_eq_true_eq] at found
      exact found.2.1
    have pending : OnLap (fun last => Pending 0 last.entries) t (reread t .iteration p) := by
      intro last here
      obtain rfl := Option.some.inj (opened.symm.trans here)
      exact pending_begun _
    have still : (reread t .iteration p).state.refresh.controller.isReturning = false := paused_not_returning paused
    have decided (q : Point Garage) (both : HeldPromise q ∧ ToldHome t q) : HeldPromise q ∧ Decided t q :=
      ⟨both.1,fun last here _ => both.2 last here⟩
    exact wp_mono (heldPromise_found begun pending still running) (fun _ => decided) fun _ => decided
  · have elsewhere : OnLap (fun last => last.finds = false) t (reread t .iteration p) := by
      intro last here
      obtain rfl := Option.some.inj (opened.symm.trans here)
      exact (Bool.not_eq_true _).mp found
    have decided (q : Point Garage) (both : HeldPromise q ∧ OnLap (fun last => last.finds = false) t q) :
        HeldPromise q ∧ Decided t q :=
      ⟨both.1,fun last here finds => absurd finds (by simp [both.2 last here])⟩
    exact wp_mono (heldPromise_elsewhere begun elsewhere) (fun _ => decided) fun _ => decided

theorem heldPromise_keeps : Preserves program HeldPromise := by
  refine preserves_promise [.iterated] heldPromise_quiet (by simp) ?_
  intro call t touched
  cases call with
  | finishSequence =>
    refine carries_finishSequence (heldPromise_unmoved t).silent .top .top fun start timeout p inv _ => ?_
    have marked (q : Point Garage) (both : HeldPromise q ∧ Decided t q) : HeldPromise (q.push (.event t .iterated)) := by
      refine both.1.push fun _ _ => ?_
      simp only [atEvents,resumesHeld,findsRelease]
      cases here : lap (own t q.history) with
      | none => rfl
      | some last =>
        cases finds : last.finds with
        | false => simp [finds]
        | true => simp [finds,(both.2 last here finds).same]
    refine wp_iterate (fun _ => ⟨inv,trivial⟩) (fun running => heldPromise_rules inv running) ?_ ?_ ?_
    · exact fun q both => ⟨marked q both,trivial⟩
    · exact fun _ q both => ⟨marked q both,trivial⟩
    · exact fun _ q both => ⟨marked q both,trivial⟩
  | _ => simp [Call.kinds,openKinds,closeKinds,exitKinds] at touched

end

/-- Each turn that finds the robot held for its return sends it home, in every run in which
each such turn finds it so that the departure rule releases it, and in no other. -/
theorem held_robot_goes_home (binding : Binding) (world : World) (schedule : List (Label Garage)) :
    throughout (atEvents resumesHeld) (run binding world schedule).history = true ↔
      throughout (atEvents findsRelease) (run binding world schedule).history = true := by
  rw [throughout_same (promise_run heldPromise_keeps binding world schedule (throughout_anything _))]

def pausedOnReturn : List (Label Garage) :=
  [.call (.asyncSend "app_start"),goesOn 0,.start,.outside (.entity "binary_sensor.open" (contact false)),
    .outside (.entity "binary_sensor.closed" (contact true)),.outside (.sampled (statusOf .returningHome true) 110),
    goesOn 1,goesOn 1]

/-- The pause shows one turn late. -/
def pausedLate : List (Label Garage) := pausedOnReturn ++ [goesOn 1,.outside (.sampled (statusOf .paused true) 130)]

/-- Meanwhile the door is opened by hand before the robot, which is outside. -/
def openedByHand : List (Label Garage) :=
  pausedLate ++ [.outside (.entity "binary_sensor.closed" (contact false)),.outside (.entity "binary_sensor.open" (contact true)),
    .outside (.mapData (some (mapAt 5000))),.outside .mapStamped,goesOn 1,goesOn 1]

/-- Nothing ever resumes the robot; or the door is closed on it before it is resumed. -/
theorem held_robot_abandoned :
    throughout (atEvents resumesHeld) (run contactBinding cleaningInside (pausedLate ++ [goesOn 1])).history = false ∧
      throughout (atEvents resumesHeld) (run contactBinding cleaningInside (openedByHand ++ [goesOn 1] ++
        [goesOn 1,.outside (.entity "binary_sensor.open" (contact false)),.outside (.entity "binary_sensor.closed" (contact true)),
          goesOn 1,goesOn 1,goesOn 1])).history = false := by
  decide +kernel

/-- It is sent home where its close is refused, here for a cover that is not available. -/
example :
    let history := (run contactBinding cleaningInside (openedByHand ++
      [.outside (.entity "cover.garage" (some {state := "unavailable"})),goesOn 1,goesOn 1,goesOn 1])).history
    throughout (atEvents findsRelease) history = true ∧ (lap (own 1 history)).any (fun last => last.finds && sentHome last.entries) = true := by
  decide +kernel

end RoborockPlus
