import RoborockPlus.GarageState

/-! What a refresh reads and what it leaves alone. Within one slice a second refresh
repeats the first, as long as the door was not revoked and the phase was not decisive. -/
namespace RoborockPlus.GarageRuntime
variable (s : GarageRuntime)

@[simp] theorem refresh_closed : s.refresh.closed = s.closed := rfl
@[simp] theorem refresh_closeAllowed : s.refresh.closeAllowed = s.closeAllowed := rfl

theorem openConfirmed_state {c : GarageController} (confirmed : c.openConfirmed = true) :
    c.state.openConfirmed = some true := by
  simpa [GarageController.openConfirmed] using confirmed

theorem refresh_not_revoked {s : GarageRuntime} (readable : s.refresh.controller.doorBlockedReason = none) :
    s.refresh.controller.state.revoked = false :=
  DoorState.revoked_of_readable readable

theorem observe_same {s u : GarageRuntime} (held : s.refresh.controller.state.revoked = false)
    (state : u.controller.state = s.refresh.controller.state)
    (evidence : u.controller.evidence = s.refresh.controller.evidence)
    (robot : u.controller.robot = s.world.robotObservation) (world : u.world = s.world)
    (seen : u.doorObservation = s.doorObservation) : u.refresh = u := by
  have again := DoorEvidence.observe_again held
  have same : u.controller.evidence.observe (.float (.finite u.world.clock)) u.doorObservation =
      (u.controller.state,u.controller.evidence) := by
    rw [evidence,world,seen,state]
    exact again
  unfold refresh
  rw [same,world,← robot,← world]

theorem refresh_again (held : s.refresh.controller.state.revoked = false) : s.refresh.refresh = s.refresh :=
  observe_same held rfl rfl rfl rfl rfl

theorem observeDoor_phase {binding : Binding} {world : World} (still : coverClosing binding world = false)
    (phase phase' : Option Phase) (contexts contexts' : List ℕ) :
    observeDoor binding world phase contexts = observeDoor binding world phase' contexts' := by
  unfold coverClosing at still
  unfold observeDoor
  rcases found : world.entity binding .coverEntityId with _ | cover
  · rfl
  · have moved : (cover.state != "closing") = true := by simpa [found] using still
    simp only [moved,Bool.true_or]

theorem readable_cover (readable : s.refresh.controller.doorBlockedReason = none) :
    (s.binding .coverEntityId).isSome := by
  by_contra missing
  have absent : s.binding .coverEntityId = none := by simpa using missing
  have unavailable : s.doorObservation.coverAvailable = false := by
    simp [doorObservation,observeDoor,World.entity,absent]
  have revoked := refresh_not_revoked readable
  obtain ⟨f,valid,_,first⟩ := DoorEvidence.observe_settles revoked
  have held : (f.observeAt valid s.doorObservation).1.revoked = false := by rw [← first]; exact revoked
  obtain ⟨_,_,_,_,available,_⟩ := DoorEvidence.observeAt_settles held
  exact available unavailable

theorem refresh_apart (opened : s.refresh.controller.openConfirmed = true) :
    s.refresh.controller.closedConfirmed = false := by
  have apart := DoorEvidence.observe_apart s.controller.evidence (.float (.finite s.world.clock)) s.doorObservation
  by_contra closed
  have first : s.refresh.controller.state.openConfirmed = some true := openConfirmed_state opened
  have second : s.refresh.controller.state.closedConfirmed = some true := by
    simpa [GarageController.closedConfirmed] using closed
  unfold DoorState.openConfirmed at first
  unfold DoorState.closedConfirmed at second
  split_ifs at first second
  exact apart ⟨first,second⟩

end RoborockPlus.GarageRuntime
