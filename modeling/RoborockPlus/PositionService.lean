import RoborockPlus.PollTruth

/-! The service that tells where the robot is. It answers from the last known map where the robot
refuses a new one, and says so. -/
namespace RoborockPlus
open Async

section Trust
variable {c : Coordinator} {now : ℚ} {refreshed : Bool} {answer : PositionAnswer} {state : RobotState}
  {position charger : Option MapPoint}

theorem resolved_reason : (resolvePositionTrust state position charger).reason ≠ .sampleTooOld := by
  unfold resolvePositionTrust
  split_ifs <;> split <;> (try split_ifs) <;> simp

theorem trusted_reason (trusted : (c.resolveVacuumPosition now).trusted = true) :
    (c.resolveVacuumPosition now).reason ≠ .sampleTooOld := by
  unfold Coordinator.resolveVacuumPosition
  rw [if_pos (trusted_fresh trusted)]
  exact resolved_reason

/-- A trusted position is the reported one, if it does not come from the dock. -/
theorem resolved_reported (trusted : (resolvePositionTrust state position charger).trusted = true)
    (own : (resolvePositionTrust state position charger).fromDock = false) :
    (resolvePositionTrust state position charger).position = position := by
  revert trusted own
  unfold resolvePositionTrust
  split_ifs <;> split <;> (try split_ifs) <;> simp

theorem active_interval_nonneg (isOfficialCloud : Bool) (pollInterval : PyValue) :
    0 ≤ (resolveMapPositionIntervals isOfficialCloud pollInterval).1 := by
  have auto : 0 ≤ (getMapPositionIntervals isOfficialCloud).1 := by cases isOfficialCloud <;> norm_num [getMapPositionIntervals]
  unfold resolveMapPositionIntervals
  split
  next raw =>
    split_ifs with automatic
    · exact auto
    · exact le_max_of_le_right (by norm_num)
    · dsimp only
      have : (0 : ℤ) ≤ min raw 300 := le_min (by omega) (by omega)
      exact_mod_cast this
  next => exact auto

/-- Right after a read the map's own position is looked at. -/
theorem noted_resolved (noted : c.lastMapPositionUpdate = some now) :
    c.resolveVacuumPosition now = resolvePositionTrust c.liveStatus.state (c.mapData.bind (·.vacuumPosition)) (c.mapData.bind (·.charger)) := by
  have fresh : c.isMapPositionFresh now = true := by
    unfold Coordinator.isMapPositionFresh isV1MapPositionFresh getMapPositionMaxAge
    rw [noted,Option.any_some,sub_self]
    have nonneg := active_interval_nonneg c.isOfficialCloud c.pollInterval
    simp only [Bool.or_eq_true,decide_eq_true_eq]
    exact Or.inr (by linarith)
  exact if_pos fresh

/-- The two kinds of an answer: what is trusted, or what the map last said when it was too old. -/
theorem positionAnswer_ok (served : positionAnswer c now refreshed = .ok answer) :
    (answer.mapReadSucceeded = refreshed ∧ answer.positionSource = (c.resolveVacuumPosition now).reason) ∧
    (((c.resolveVacuumPosition now).trusted = true ∧ (c.resolveVacuumPosition now).position = some ⟨answer.x,answer.y⟩ ∧
        answer.stale = (!refreshed || (c.resolveVacuumPosition now).fromDock) ∧ answer.fromDock = (c.resolveVacuumPosition now).fromDock) ∨
      ((c.resolveVacuumPosition now).reason = .sampleTooOld ∧ answer.stale = true ∧ answer.fromDock = false ∧
        ∃ map, c.mapData = some map ∧ map.vacuumPosition = some ⟨answer.x,answer.y⟩)) := by
  unfold positionAnswer at served
  cases found : c.mapData with
  | none => simp [found] at served
  | some map =>
    simp only [found] at served
    split at served
    next position trusted resolved =>
      obtain rfl := Except.ok.inj served
      exact ⟨⟨rfl,rfl⟩,Or.inl ⟨trusted,resolved,rfl,rfl⟩⟩
    next =>
      split at served
      · exact nomatch served
      next fallback shown =>
        split_ifs at served with reason
        obtain rfl := Except.ok.inj served
        exact ⟨⟨rfl,rfl⟩,Or.inr ⟨not_not.mp reason,rfl,rfl,map,rfl,shown⟩⟩

/-- Every answer is read off the map at hand. -/
theorem positionAnswer_located (served : positionAnswer c now refreshed = .ok answer) :
    ∃ map, c.mapData = some map ∧ map.locates ⟨answer.x,answer.y⟩ answer.fromDock ∧
      (answer.fromDock = true → answer.stale = true ∧ c.liveStatus.state ∈ RobotState.dockedStateNames) := by
  obtain ⟨_,⟨trusted,position,stale,dock⟩ | ⟨_,_,own,map,held,shown⟩⟩ := positionAnswer_ok served
  · obtain ⟨map,held,located,docked⟩ := trusted_located trusted position
    rw [← dock] at located docked stale
    exact ⟨map,held,located,fun yes => ⟨by rw [stale,yes,Bool.or_true],docked yes⟩⟩
  · refine ⟨map,held,?_,fun yes => absurd (own.symm.trans yes) Bool.false_ne_true⟩
    rw [own]
    exact shown

end Trust

namespace Polls
variable {settings : PollSettings} {device : PollStart} {p : Point Polls} {t : ℕ} {answer : PositionAnswer}

/-- Whatever the tasks do meanwhile: an answer is stale if its own read failed or the dock's marker stands in for the robot;
any other is where the robot stands on the map that this very call has just been sent. -/
theorem position_answered (schedule : List (Label Polls)) {later past : List (Item Polls)}
    (happened : (run settings device schedule).history = later++.event t (.answered answer) :: past) :
    (answer.mapReadSucceeded = true → answer.positionSource ≠ .sampleTooOld ∧ answer.stale = answer.fromDock) ∧
      (answer.stale = false → ∃ reply time older, past = .event t (.positionNoted time) :: .event t .mapReceived :: older ∧
        Answers t .refreshMapContent reply older ∧ reply.mapData.bind (·.vacuumPosition) = some ⟨answer.x,answer.y⟩) := by
  obtain ⟨q,s,before,same,made,_⟩ := (run_polled settings device schedule).event_at happened
  cases made with
  | answered refreshed _ served read =>
    obtain ⟨⟨mapRead,source⟩,kinds⟩ := positionAnswer_ok served
    have reason (yes : refreshed = true) : (q.state.resolveVacuumPosition q.state.utc).reason ≠ .sampleTooOld := by
      obtain ⟨_,_,_,_,noted,_⟩ := read yes
      rw [noted_resolved noted]
      exact resolved_reason
    refine ⟨fun yes => ?_,fun notStale => ?_⟩
    · rw [mapRead] at yes
      refine ⟨source ▸ reason yes,?_⟩
      rcases kinds with ⟨_,_,stale,dock⟩ | ⟨old,_⟩
      · rw [stale,dock,yes,Bool.not_true,Bool.false_or]
      · exact absurd old (reason yes)
    · rcases kinds with ⟨trusted,position,stale,_⟩ | ⟨_,stale,_⟩
      · obtain ⟨yes,own⟩ : refreshed = true ∧ (q.state.resolveVacuumPosition q.state.utc).fromDock = false := by
          simpa [notStale] using stale.symm
        obtain ⟨reply,older,answered,map,noted,last⟩ := read yes
        rw [noted_resolved noted] at trusted own position
        rw [resolved_reported trusted own,map] at position
        exact ⟨reply,_,older,same ▸ last,answered,position⟩
      · exact absurd (notStale.symm.trans stale) Bool.false_ne_true

def whereIsIt : List (Label Polls) := [.call .currentPosition,.resume 0 (.ok roomReply)]

def hereItIs : PositionAnswer := ⟨.finite 3000,.finite 200,false,.notDocked,false,true⟩

theorem position_answered_once : ∃ past, (run plainSettings room whereIsIt).history = [.finished 0]++.event 0 (.answered hereItIs) :: past ∧
    ∃ reply time older, past = .event 0 (.positionNoted time) :: .event 0 .mapReceived :: older ∧
      Answers 0 .refreshMapContent reply older ∧ reply.mapData.bind (·.vacuumPosition) = some ⟨.finite 3000,.finite 200⟩ :=
  have happened : ∃ past, (run plainSettings room whereIsIt).history = [.finished 0]++.event 0 (.answered hereItIs) :: past := by
    with_unfolding_all exact ⟨_,rfl⟩
  happened.imp fun _ happened => ⟨happened,(position_answered whereIsIt happened).2 rfl⟩

/-- Whatever the tasks do meanwhile: every answer, stale ones too, is where the newest map has the robot, or the dock it is in;
and unless it is called too old, the map of a robot at work came no more than two sampling intervals ago. -/
theorem answer_on_newest_map (schedule : List (Label Polls)) {later past : List (Item Polls)}
    (happened : (run settings device schedule).history = later++.event t (.answered answer) :: past) :
    ∃ q map, Polled settings device q ∧ q.history = past ∧ Sourced changesMap Brings device.mapData past (some map) ∧
      map.locates ⟨answer.x,answer.y⟩ answer.fromDock ∧
      (answer.fromDock = true → answer.stale = true ∧ q.state.liveStatus.state ∈ RobotState.dockedStateNames) ∧
      (answer.positionSource = .sampleTooOld → answer.stale = true) ∧
      (answer.positionSource ≠ .sampleTooOld → q.state.taskActive = true →
        NewestMap past map (2*(resolveMapPositionIntervals settings.isOfficialCloud settings.mapPositionPollInterval).1)) := by
  obtain ⟨q,s,before,rfl,made,_⟩ := (run_polled settings device schedule).event_at happened
  cases made with
  | answered refreshed _ served read =>
    obtain ⟨map,held,located,dock⟩ := positionAnswer_located served
    obtain ⟨⟨_,source⟩,kinds⟩ := positionAnswer_ok served
    refine ⟨q,map,before,rfl,held ▸ polled_map before,located,dock,fun old => ?_,fun young active => ?_⟩
    · rcases kinds with ⟨trusted,_⟩ | ⟨_,stale,_⟩
      · exact absurd (source.symm.trans old) (trusted_reason trusted)
      · exact stale
    · rcases kinds with ⟨trusted,_⟩ | ⟨old,_⟩
      · exact newest_read before held (fresh_read before (trusted_fresh trusted) active)
      · exact absurd (source.trans old) young

/-- A read that the robot is too busy for, right behind a map that the library has put in its place. -/
def askedWhileBusy : List (Label Polls) :=
  firstPoll++[.outside (.pushed atWork (some movedMap)),.call .currentPosition,.resume 1 (.error .deviceBusy)]

def hereItWas : PositionAnswer := ⟨.finite 3100,.finite 200,true,.notDocked,false,false⟩

theorem answer_on_newest_map_busy :
    ∃ past, (run plainSettings room askedWhileBusy).history = [.finished 1]++.event 1 (.answered hereItWas) :: past ∧
      ∃ q map, Polled plainSettings room q ∧ q.history = past ∧ Sourced changesMap Brings none past (some map) ∧
        map.locates ⟨.finite 3100,.finite 200⟩ false ∧ (q.state.taskActive = true → NewestMap past map 10) := by
  have happened : ∃ past, (run plainSettings room askedWhileBusy).history = [.finished 1]++.event 1 (.answered hereItWas) :: past := by
    with_unfolding_all exact ⟨_,rfl⟩
  have interval : (2*(resolveMapPositionIntervals plainSettings.isOfficialCloud plainSettings.mapPositionPollInterval).1 : ℚ) = 10 := by
    decide +kernel
  refine happened.imp fun past happened => ⟨happened,?_⟩
  obtain ⟨q,map,polled,same,sourced,located,_,_,young⟩ := answer_on_newest_map askedWhileBusy happened
  exact ⟨q,map,polled,same,sourced,located,fun active => interval ▸ young (by decide) active⟩

end Polls

end RoborockPlus
