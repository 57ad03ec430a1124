import RoborockPlus.PollTruth

/-! When the coordinator reads what, and which failures it keeps to itself. Polls may overlap, so all
of this is said of the history: a field only holds what was noted last. -/
namespace RoborockPlus.Polls
open Async

variable {settings : PollSettings} {device : PollStart} {p : Point Polls} {t : ℕ}

section Stamps
variable {stamp : PollEvent → Option ℚ}

/-- The event's time is read off the clock. -/
def Timed (settings : PollSettings) (stamp : PollEvent → Option ℚ) : Prop :=
  ∀ t p event s, Effect settings t p event s → ∀ time ∈ stamp event, time = p.state.utc

theorem Timed.stamped (timed : Timed settings stamp) (polled : Polled settings device p) :
    Stamped (L := Polls) stamp (fun s => s.utc) p := by
  refine polled.stamped (fun input s => ?_) fun t p event s made => ⟨made.utc,timed t p event s made⟩
  cases input with
  | elapsed seconds => exact le_add_of_nonneg_right seconds.coe_nonneg
  | _ => exact le_rfl

theorem Timed.since (timed : Timed settings stamp) (polled : Polled settings device p) {later past : List (Item Polls)}
    {event : PollEvent} {time : ℚ} (grown : p.history = later++.event t event :: past) (found : stamp event = some time) :
    p.state.utc-time = elapsed later := by
  obtain ⟨q,s,before,rfl,made,_⟩ := polled.event_at grown
  rw [timed t q event s made time found]
  exact polled_since before polled grown

end Stamps

section Failures

def successTime : PollEvent → Option ℚ
  | .updated time _ => some time
  | _ => none

theorem successTime_timed : Timed settings successTime := by
  intro t p event s made time found
  cases made with
  | updated => exact (Option.some.inj found).symm
  | _ => exact nomatch found

theorem polled_success (polled : Polled settings device p) :
    Notes (L := Polls) successTime (fun s => s.lastUpdateSuccessTime) p := by
  refine polled.notes rfl (fun input s => by cases input <;> rfl) fun t p event s made => ?_
  cases made <;> rfl

/-- Some poll was completed, and less than the time ago. -/
def UpdatedWithin (age : ℚ) (history : List (Item Polls)) : Prop :=
  ∃ t time updateTime later past, history = later++.event t (.updated time updateTime) :: past ∧ elapsed later < age

theorem suppress_iff (polled : Polled settings device p) : p.state.shouldSuppressUpdateFailure = true ↔ UpdatedWithin 120 p.history := by
  unfold Poller.shouldSuppressUpdateFailure
  rw [Option.any_eq_true]
  constructor
  · rintro ⟨last,held,recent⟩
    obtain ⟨t,event,later,q,s,grown,found,before,made⟩ := polled.noted (polled_success polled) held
    have since := successTime_timed.since polled grown found
    cases made with
    | updated updateTime => exact ⟨t,_,updateTime,later,q.history,grown,since ▸ of_decide_eq_true recent⟩
    | _ => exact nomatch found
  · rintro ⟨t,time,updateTime,later,past,grown,recent⟩
    have since : p.state.utc-time = elapsed later := successTime_timed.since polled grown rfl
    have inside : time ∈ picked successTime p.history :=
      mem_picked.mpr ⟨t,_,grown ▸ List.mem_append_right _ List.mem_cons_self,rfl⟩
    cases held : p.state.lastUpdateSuccessTime with
    | none => exact absurd inside (by simp [(polled_success polled).none_iff.mp held])
    | some last =>
      have newest := (polled_success polled).latest (successTime_timed.stamped polled) held time inside
      exact ⟨last,rfl,decide_eq_true (by linarith)⟩

/-- A failed read of the robot is kept quiet exactly when some poll was completed less than two minutes before, be it
this one's predecessor or one that overlapped it. -/
theorem failure_suppressed (schedule : List (Label Polls)) {later past : List (Item Polls)} {event : PollEvent}
    (happened : (run settings device schedule).history = later++.event t event :: past)
    (failed : event = .suppressed ∨ event = .reported) : event = .suppressed ↔ UpdatedWithin 120 past := by
  obtain ⟨q,s,before,rfl,made,_⟩ := (run_polled settings device schedule).event_at happened
  rw [← suppress_iff before]
  rcases failed with rfl | rfl
  · cases made with
    | suppressed recent => exact iff_of_true rfl recent
  · cases made with
    | reported late => exact iff_of_false (by simp) (by simp [late])

/-- The robot is out of reach for a poll, some time after the first one. -/
def unreachable (seconds : NNRat) : List (Label Polls) :=
  firstPoll++[.outside (.elapsed seconds),.call .refresh,.resume 1 (.error .roborock)]

theorem failure_suppressed_once : ∃ past, (run plainSettings room (unreachable 40)).history = [.finished 1]++.event 1 .suppressed :: past ∧
    UpdatedWithin 120 past := by
  have happened : ∃ past, (run plainSettings room (unreachable 40)).history = [.finished 1]++.event 1 .suppressed :: past := by
    with_unfolding_all exact ⟨_,rfl⟩
  exact happened.imp fun _ happened => ⟨happened,(failure_suppressed _ happened (Or.inl rfl)).mp rfl⟩

end Failures

section Traits

def fullTime : PollEvent → Option ℚ
  | .fullyRead updateTime => some updateTime
  | _ => none

theorem polled_full (polled : Polled settings device p) :
    Notes (L := Polls) fullTime (fun s => s.lastFullUpdateSuccessTime) p := by
  refine polled.notes rfl (fun input s => by cases input <;> rfl) fun t p event s made => ?_
  cases made <;> rfl

/-- Some task has read the trait, and later than at this time. -/
def ReadAfter (bound : ℚ) (trait : Trait) (history : List (Item Polls)) : Prop :=
  ∃ t time, .event t (.refreshed trait time) ∈ history ∧ bound < time

/-- A poll that reads the status alone may do so. -/
theorem begun_short (polled : Polled settings device p) {updateTime : ℚ} (begun : .event t (.begun updateTime false) ∈ p.history) :
    ∀ trait ∈ settings.traits, ReadAfter (updateTime-30) trait p.history := by
  intro trait member
  obtain ⟨later,past,grown⟩ := List.append_of_mem begun
  obtain ⟨q,s,before,rfl,made,_⟩ := polled.event_at grown
  generalize kind : PollEvent.begun updateTime false = event at made
  cases made with
  | begun =>
    obtain ⟨rfl,short⟩ : updateTime = q.state.utc ∧ false = q.state.shouldRefreshFullData q.state.utc := PollEvent.begun.inj kind
    unfold Poller.shouldRefreshFullData shouldRefreshFullV1Data at short
    cases held : q.state.lastFullUpdateSuccessTime with
    | none => simp [held] at short
    | some last =>
      have recent : ¬30 ≤ q.state.utc-last := by
        rw [held] at short
        simpa using (Bool.or_eq_false_iff.mp short.symm).2
      obtain ⟨u,event,_,r,_,earlier,found,_,made⟩ := before.noted (polled_full before) held
      cases made with
      | fullyRead updateTime read =>
        obtain rfl : updateTime = last := Option.some.inj found
        obtain ⟨time,late,inside⟩ := read trait (List.mem_cons_of_mem _ member)
        have present : .event u (.refreshed trait time) ∈ p.history := by
          rw [grown,earlier]
          simp [inside]
        exact ⟨u,time,present,by linarith⟩
      | _ => exact nomatch found
  | _ => exact nomatch kind

/-- What a completed poll hands on is no older than half a minute before the poll began, for each trait the robot has;
the status the poll has read itself. -/
theorem completed_traits (schedule : List (Label Polls)) {later past : List (Item Polls)} {time updateTime : ℚ}
    (happened : (run settings device schedule).history = later++.event t (.updated time updateTime) :: past) :
    (∃ read, updateTime ≤ read ∧ .event t (.refreshed .status read) ∈ past) ∧
      ∀ trait ∈ settings.traits, ReadAfter (updateTime-30) trait past := by
  obtain ⟨q,s,before,rfl,made,_⟩ := (run_polled settings device schedule).event_at happened
  cases made with
  | updated updateTime full begun read =>
    refine ⟨read .status List.mem_cons_self,fun trait member => ?_⟩
    cases full with
    | false => exact begun_short before begun trait member
    | true =>
      obtain ⟨time,late,inside⟩ := read trait (List.mem_cons_of_mem _ member)
      exact ⟨t,time,inside,by linarith⟩

def nightSettings : PollSettings := {plainSettings with supported := fun trait => trait = .dnd}

def fullPoll : List (Label Polls) :=
  [.call .firstRefresh,.resume 0 (.ok roomReply),.resume 0 (.error .deviceBusy),.resume 0 (.ok roomReply),.outside (.elapsed 3),
    .resume 0 (.ok roomReply),.resume 0 (.error .roborock)]

theorem completed_traits_first : ∃ past, (run nightSettings room fullPoll).history = [.finished 0]++.event 0 (.updated 1003 1000) :: past ∧
    ∀ trait ∈ nightSettings.traits, ReadAfter 970 trait past := by
  have happened : ∃ past, (run nightSettings room fullPoll).history = [.finished 0]++.event 0 (.updated 1003 1000) :: past := by
    with_unfolding_all exact ⟨_,rfl⟩
  have bound : (1000 : ℚ)-30 = 970 := by norm_num
  exact happened.imp fun _ happened => ⟨happened,bound ▸ (completed_traits _ happened).2⟩

end Traits

section Maps

def attemptTime : PollEvent → Option ℚ
  | .mapAttempted time _ => some time
  | _ => none

theorem attemptTime_timed : Timed settings attemptTime := by
  intro t p event s made time found
  cases made with
  | mapAttempted | setUp => exact (Option.some.inj found).symm
  | _ => exact nomatch found

theorem polled_attempt (polled : Polled settings device p) :
    Notes (L := Polls) attemptTime (fun s => s.lastHomeUpdateAttempt) p := by
  refine polled.notes rfl (fun input s => by cases input <;> rfl) fun t p event s made => ?_
  cases made <;> rfl

def positionTime : PollEvent → Option ℚ
  | .positionScheduled time _ | .mapUpdated time => some time
  | _ => none

theorem positionTime_timed : Timed settings positionTime := by
  intro t p event s made time found
  cases made with
  | positionScheduled | mapUpdated => exact (Option.some.inj found).symm
  | _ => exact nomatch found

theorem polled_positions (polled : Polled settings device p) :
    Notes (L := Polls) positionTime (fun s => s.lastMapPositionAttempt) p := by
  refine polled.notes rfl (fun input s => by cases input <;> rfl) fun t p event s made => ?_
  cases made <;> rfl

/-- Unless the robot has changed its state, the map of a robot at work is asked for more than half a minute after
any poll has asked for it. -/
theorem map_attempts_spaced (schedule : List (Label Polls)) {later past : List (Item Polls)} {time : ℚ}
    (happened : (run settings device schedule).history = later++.event t (.mapAttempted time false) :: past) :
    ∀ u earlier forced, .event u (.mapAttempted earlier forced) ∈ past → earlier+30 < time := by
  intro u earlier forced inside
  obtain ⟨q,s,before,rfl,made,_⟩ := (run_polled settings device schedule).event_at happened
  generalize kind : PollEvent.mapAttempted time false = event at made
  cases made with
  | mapAttempted due =>
    obtain ⟨rfl,same⟩ := PollEvent.mapAttempted.inj kind
    unfold Poller.mapDue at due
    rw [← same] at due
    split_ifs at due with working
    · obtain ⟨last,held,waited⟩ := Option.map_eq_some_iff.mp due
      have newest := (polled_attempt before).latest (attemptTime_timed.stamped before) held earlier
        (mem_picked.mpr ⟨u,_,inside,rfl⟩)
      have waited : 30 < q.state.utc-last := by simpa using waited
      linarith
    · exact nomatch due
  | setUp => exact nomatch (PollEvent.mapAttempted.inj kind).2
  | _ => exact nomatch kind

/-- A background read of the position keeps the interval, for a robot at work or at rest, to every read before and
to every map update; towards an official server it is half a minute at least. -/
theorem position_reads_spaced (schedule : List (Label Polls)) {later past : List (Item Polls)} {time : ℚ} {active : Bool}
    (happened : (run settings device schedule).history = later++.event t (.positionScheduled time active) :: past) :
    let intervals := resolveMapPositionIntervals settings.isOfficialCloud settings.mapPositionPollInterval
    ∀ earlier ∈ picked positionTime past, earlier+(if active then intervals.1 else intervals.2) ≤ time ∧
      (settings.isOfficialCloud = true → earlier+30 ≤ time) := by
  intro intervals earlier inside
  obtain ⟨q,s,before,rfl,made,_⟩ := (run_polled settings device schedule).event_at happened
  obtain ⟨pollInterval,official,_⟩ := polled_configured before
  cases made with
  | positionScheduled due idle =>
    have spaced : earlier+(if q.state.taskActive then intervals.1 else intervals.2) ≤ q.state.utc := by
      unfold Poller.shouldRefreshMapPosition shouldRefreshV1MapPosition at due
      rw [official,pollInterval] at due
      cases held : q.state.lastMapPositionAttempt with
      | none => exact absurd inside (by simp [(polled_positions before).none_iff.mp held])
      | some last =>
        have newest := (polled_positions before).latest (positionTime_timed.stamped before) held earlier inside
        rw [held] at due
        have waited := of_decide_eq_true due
        change (if q.state.taskActive then intervals.1 else intervals.2) ≤ q.state.utc-last at waited
        linarith
    refine ⟨spaced,fun cloud => ?_⟩
    obtain ⟨working,resting⟩ := official_intervals settings.mapPositionPollInterval
    rw [← cloud] at working resting
    have long : 30 ≤ if q.state.taskActive then intervals.1 else intervals.2 := by
      split
      · exact working
      · exact resting
    linarith

def nextPoll (seconds : NNRat) : List (Label Polls) :=
  firstPoll++[.outside (.elapsed seconds),.call .refresh,.resume 1 (.ok roomReply)]

theorem map_attempts_spaced_next : ∃ past, (run plainSettings room (nextPoll 40)).history =
      [.waiting 1 .discoverHome]++.event 1 (.mapAttempted 1048 false) :: past ∧
    ∀ u earlier forced, .event u (.mapAttempted earlier forced) ∈ past → earlier+30 < 1048 := by
  have happened : ∃ past, (run plainSettings room (nextPoll 40)).history =
      [.waiting 1 .discoverHome]++.event 1 (.mapAttempted 1048 false) :: past := by
    with_unfolding_all exact ⟨_,rfl⟩
  exact happened.imp fun _ happened => ⟨happened,map_attempts_spaced _ happened⟩

def nextRead : PollEvent := .positionScheduled 1028 true

theorem position_reads_spaced_next : ∃ past, (run plainSettings room (nextPoll 20)).history =
      [.finished 1,.event 1 (.updated 1028 1028),.spawned 1 2 .mapPosition]++.event 1 nextRead :: past ∧
    ∀ earlier ∈ picked positionTime past, earlier+5 ≤ 1028 := by
  have interval : (resolveMapPositionIntervals plainSettings.isOfficialCloud plainSettings.mapPositionPollInterval).1 = 5 := by
    decide +kernel
  have happened : ∃ past, (run plainSettings room (nextPoll 20)).history =
      [.finished 1,.event 1 (.updated 1028 1028),.spawned 1 2 .mapPosition]++.event 1 nextRead :: past := by
    with_unfolding_all exact ⟨_,rfl⟩
  refine happened.imp fun past happened => ⟨happened,fun earlier inside => ?_⟩
  exact interval ▸ (position_reads_spaced (nextPoll 20) happened earlier inside).1

end Maps

section Connection

def connection : PollEvent → Option Bool
  | .verified isLocalConnected => some isLocalConnected
  | _ => none

/-- The issue stands while no connected poll has found the robot on the LAN, and goes for good once one has. -/
structure Reported (p : Point Polls) : Prop where
  seen : p.state.hasConnectedLocally = (picked connection p.history).any id
  issue : picked connection p.history ≠ [] → p.state.cloudApiUsed = !(picked connection p.history).any id

theorem polled_reported (polled : Polled settings device p) : Reported p := by
  induction polled with
  | init => exact ⟨rfl,fun some => absurd rfl some⟩
  | outside input before ih => cases input <;> exact ⟨ih.seen,ih.issue⟩
  | silent silent before ih =>
    constructor
    · rw [Point.push_history,picked_quiet silent.quiet]
      exact ih.seen
    · rw [Point.push_history,picked_quiet silent.quiet]
      exact ih.issue
  | @effect p t event s made before ih =>
    cases made with
    | verified connected =>
      have seen : (p.state.hasConnectedLocally || p.state.isLocalConnected) =
          (p.state.isLocalConnected :: picked connection p.history).any id := by
        rw [ih.seen,List.any_cons,Bool.or_comm]
        rfl
      exact ⟨seen,fun _ => congrArg (!·) seen⟩
    | _ => exact ⟨ih.seen,ih.issue⟩

/-- Over any run: after a first poll of a connected robot, the repair issue is up exactly while none has found the robot
on the LAN. -/
theorem cloud_api_reported (schedule : List (Label Polls))
    (checked : picked connection (run settings device schedule).history ≠ []) :
    (run settings device schedule).state.cloudApiUsed = true ↔
      ∀ t isLocalConnected, .event t (.verified isLocalConnected) ∈ (run settings device schedule).history → isLocalConnected = false := by
  rw [(polled_reported (run_polled settings device schedule)).issue checked,Bool.not_eq_true',List.any_eq_false]
  constructor
  · intro never t isLocalConnected inside
    simpa using never isLocalConnected (mem_picked.mpr ⟨t,_,inside,rfl⟩)
  · intro never seen inside
    obtain ⟨t,event,here,found⟩ := mem_picked.mp inside
    cases event with
    | verified isLocalConnected =>
      obtain rfl := Option.some.inj found
      simp [never t _ here]
    | _ => exact nomatch found

theorem cloud_api_reported_first : picked connection (run plainSettings room firstPoll).history ≠ [] ∧
    ((run plainSettings room firstPoll).state.cloudApiUsed = true ↔ ∀ t isLocalConnected,
      .event t (.verified isLocalConnected) ∈ (run plainSettings room firstPoll).history → isLocalConnected = false) :=
  have checked : picked connection (run plainSettings room firstPoll).history ≠ [] := by decide +kernel
  ⟨checked,cloud_api_reported firstPoll checked⟩

end Connection

end RoborockPlus.Polls
