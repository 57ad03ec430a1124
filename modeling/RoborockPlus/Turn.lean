import RoborockPlus.Rules

/-! One turn of a sequence's loop. What the sequence has read and commanded in it is
seen from its own entries; a turn that finds the robot on its dock comes straight to
the finish rule. -/
namespace RoborockPlus
open Async GarageController GarageRuntime

/-- A turn since its reading: what the door was told, and whether it is done. -/
structure Turn where
  seen : GarageRuntime
  covers : List Direction := []
  done : Bool := false

/-- The last turn in a sequence's own entries, which begins at a reading in such a place. -/
def turn (begins : Place → Bool) : List (Item Garage) → Option Turn
  | [] => none
  | .event _ (.read place seen) :: past => if begins place then some {seen} else turn begins past
  | .event _ (.cover d _) :: past => (turn begins past).map fun turn => {turn with covers := d :: turn.covers}
  | .event _ .iterated :: past => (turn begins past).map fun turn => {turn with done := true}
  | _ :: past => turn begins past

/-- The finish rule looks again, after what the other rules have waited for. -/
def decidesTurn : Place → Bool
  | .iteration | .finish => true
  | _ => false

abbrev LastTurn (begins : Place → Bool) (good : Turn → Bool) : ℕ → Point Garage → Prop :=
  Owned fun entries => (turn begins entries).all good = true

section
variable {begins : Place → Bool} {good : Turn → Bool} {t : ℕ} {past : List (Item Garage)}

theorem lastTurn_iff {p : Point Garage} :
    LastTurn begins good t p ↔ ∀ last, turn begins (own t p.history) = some last → good last = true :=
  Option.all_eq_true _ _

theorem lastTurn_begun {place : Place} {seen : GarageRuntime} (s : GarageRuntime) (begun : begins place = true)
    (holds : good {seen} = true) : LastTurn begins good t ⟨s,.event t (.read place seen) :: past⟩ := by
  rw [lastTurn_iff,own_cons_self _ rfl]
  intro last found
  obtain rfl : {seen} = last := by simpa [turn,begun] using found
  exact holds

theorem lastTurn_commanded {d : Direction} {cause : Cause} (s : GarageRuntime)
    (holds : ∀ last : Turn, good {last with covers := d :: last.covers} = true) :
    LastTurn begins good t ⟨s,.event t (.cover d cause) :: past⟩ := by
  rw [lastTurn_iff,own_cons_self _ rfl]
  intro result found
  obtain ⟨before,_,rfl⟩ := Option.map_eq_some_iff.mp found
  exact holds before

theorem lastTurn_ignores {R : GarageRuntime → GarageRuntime → Prop} {S : Event → Prop}
    (reads : ∀ place seen, S (.read place seen) → begins place = false)
    (covers : ∀ last d, good last = true → good {last with covers := d :: last.covers} = true)
    (marks : S .iterated → ∀ last, good last = true → good {last with done := true} = true) :
    Ignores (LastTurn begins good t) t R S := by
  refine Owned.ignores fun item past _ inside holds => ?_
  rcases item with _ | _ | _ | ⟨u,e⟩ | _ | _ | _ | _
  case event =>
    cases e with
    | read place seen =>
      have other : begins place = false := reads place seen inside
      simpa [turn,other] using holds
    | cover d cause =>
      rw [Option.all_eq_true] at holds ⊢
      intro result found
      obtain ⟨before,same,rfl⟩ := Option.map_eq_some_iff.mp found
      exact covers before d (holds before same)
    | iterated =>
      rw [Option.all_eq_true] at holds ⊢
      intro result found
      obtain ⟨before,same,rfl⟩ := Option.map_eq_some_iff.mp found
      exact marks inside before (holds before same)
    | _ => exact holds
  all_goals exact holds

end

section
variable {I : Point Garage → Prop} {t : ℕ} {p : Point Garage}

theorem wp_iterate {start : ℚ} {timeout : PyFloat} {R : Bool → Point Garage → Prop} {E : Exc → Point Garage → Prop}
    {Q : Option Unit → Point Garage → Prop} {X : Exc → Point Garage → Prop}
    (closed : p.state.closed = true → Q (some ()) p) (rules : p.state.closed = false → wp I t applyRules R E p)
    (ended : ∀ q, R true q → Q (some ()) (q.push (.event t .iterated)))
    (going : ∀ found q, R false q → Q found (q.push (.event t .iterated)))
    (failed : ∀ error q, E error q → X error (q.push (.event t .iterated))) :
    wp I t (iterate start timeout) Q X p := by
  unfold iterate
  rw [wp_bind,wp_get,wp_ite]
  split
  next unloaded => exact closed unloaded
  next running =>
    rw [wp_bind,wp_guarded]
    refine wp_mono (rules ((Bool.not_eq_true _).mp running)) ?_ failed
    intro result q held
    rw [wp_emit,wp_bind,wp_get,wp_ite]
    cases result with
    | true => exact ended q held
    | false =>
      split
      · exact going _ q held
      · exact going _ q held

theorem docked_not_returning (w : World) (c : GarageController) (robot : c.robot = w.robotObservation)
    (docked : c.robotDocked = true) : c.isReturning = false := by
  unfold robotDocked at docked
  unfold isReturning
  rw [robot] at docked ⊢
  have parked : w.status.state ∈ [RobotState.charging,.chargingComplete] := of_decide_eq_true docked
  have apart : w.status.state ∉ RobotState.returningStates := by
    rcases List.mem_cons.mp parked with same | same
    · rw [same]
      decide
    · rw [List.mem_singleton.mp same]
      decide
  exact decide_eq_false apart

theorem paused_not_returning {s : GarageRuntime} (paused : s.refresh.controller.robot.state = .paused) :
    s.refresh.controller.isReturning = false := by
  unfold isReturning
  rw [paused]
  decide

theorem docked_not_outside {c : GarageController} (docked : c.robotDocked = true) : c.robotOutside = false := by
  unfold robotOutside
  unfold robotDocked at docked
  simp [docked]

theorem wp_handleReturn_still {Q : Bool → Point Garage → Prop} {X : Exc → Point Garage → Prop}
    (still : p.state.refresh.controller.isReturning = false) (next : Q false (reread t .handleReturn p)) :
    wp I t handleReturn Q X p := by
  have still : (reread t .handleReturn p).state.controller.isReturning = false := still
  unfold handleReturn
  rw [wp_bind,wp_refresh,wp_bind,wp_get,wp_ite,if_pos still,wp_pure]
  exact next

theorem wp_front {G : Point Garage → Prop} {Q : Bool → Point Garage → Prop} {X : Exc → Point Garage → Prop}
    (docked : ∀ q, G q → q.state.refresh.controller.robotDocked = true)
    (step : ∀ place q, place ∉ [.iteration,.finish] → G q → G (reread t place q))
    (finish : ∀ q, G q → wp I t sequenceFinished Q X q) (held : G p) :
    wp I t (do
      let handled ← handleReturn
      let _ ← handleDeparture handled
      publish
      sequenceFinished : Co Garage Bool) Q X p := by
  have first : G (reread t .handleReturn p) := step _ p (by simp) held
  have second : G (reread t .departure (reread t .handleReturn p)) := step _ _ (by simp) first
  have inside : (reread t .departure (reread t .handleReturn p)).state.controller.robotOutside = false :=
    docked_not_outside (docked _ first)
  rw [wp_bind]
  apply wp_handleReturn_still (docked_not_returning _ _ rfl (docked p held))
  rw [wp_bind]
  unfold handleDeparture
  rw [wp_ite,if_neg (by simp)]
  unfold updateAfterDeparture
  rw [wp_bind,wp_refresh,wp_bind,wp_get,wp_ite,if_pos inside,wp_pure,wp_bind]
  refine wp_mono (wp_publish (fun _ q known => step _ q (by simp) known) second) ?_ (fun _ _ failed => failed)
  exact fun _ q known => finish q known

end

end RoborockPlus
