import RoborockPlus.Polling

/-! What the coordinator can do, one effect at a time, each with what holds when it is done. All its
runs, however its tasks take turns, are chains of these. -/
namespace RoborockPlus.Polls
open Async

abbrev Answers (t : ℕ) (request : PollRequest) (reply : PollReply) (history : List (Item Polls)) : Prop :=
  @Answered Polls t request reply history

/-- The trait has just been read. -/
def JustRead (t : ℕ) (trait : Trait) (p : Point Polls) : Prop :=
  ∃ reply past, Answers t (.refresh trait) reply past ∧ p.history = .event t (.refreshed trait p.state.utc) :: past ∧
    (trait = .status → p.state.liveStatus = reply.status)

/-- The request has just brought the map. -/
def JustReceived (t : ℕ) (request : PollRequest) (p : Point Polls) : Prop :=
  ∃ reply past, Answers t request reply past ∧ p.history = .event t .mapReceived :: past ∧ p.state.mapData = reply.mapData

/-- The task's own read of the map has just been noted. -/
def JustNoted (t : ℕ) (p : Point Polls) : Prop :=
  ∃ reply past, Answers t .refreshMapContent reply past ∧ p.state.mapData = reply.mapData ∧
    p.state.lastMapPositionUpdate = some p.state.utc ∧
    p.history = .event t (.positionNoted p.state.utc) :: .event t .mapReceived :: past

variable (settings : PollSettings)

/-- From the time on, the task has read every trait there is. -/
def ReadSince (t : ℕ) (updateTime : ℚ) (traits : List Trait) (history : List (Item Polls)) : Prop :=
  ∀ trait ∈ traits, ∃ time, updateTime ≤ time ∧ .event t (.refreshed trait time) ∈ history

inductive Effect (t : ℕ) (p : Point Polls) : PollEvent → Poller → Prop
  | verified (connected : p.state.isConnected = true) : Effect t p (.verified p.state.isLocalConnected) p.state.verifyApi
  | begun : Effect t p (.begun p.state.utc (p.state.shouldRefreshFullData p.state.utc)) p.state
  | refreshed (trait : Trait) (reply : PollReply) (answered : Answers t (.refresh trait) reply p.history) :
    Effect t p (.refreshed trait p.state.utc) (p.state.receive trait reply)
  | sampled (read : JustRead t .status p) : Effect t p (.sampled p.state.statusSample) p.state.sampleStatus
  | fullyRead (updateTime : ℚ) (read : ReadSince t updateTime (.status :: settings.traits) p.history) :
    Effect t p (.fullyRead updateTime) {p.state with lastFullUpdateSuccessTime := some updateTime}
  | suppressed (recent : p.state.shouldSuppressUpdateFailure = true) : Effect t p .suppressed p.state
  | reported (late : p.state.shouldSuppressUpdateFailure = false) : Effect t p .reported p.state
  | mapAttempted (due : p.state.mapDue = some true) : Effect t p (.mapAttempted p.state.utc p.state.stateChanged) p.state.attemptMap
  | setUp : Effect t p (.mapAttempted p.state.utc true) p.state.attemptMap
  | homeDiscovered : Effect t p (.homeDiscovered p.state.utc) p.state.homeDiscovered
  | mapReceived (request : PollRequest) (reply : PollReply) (asked : request ∈ [PollRequest.refreshHome,.refreshMapContent])
    (answered : Answers t request reply p.history) : Effect t p .mapReceived (p.state.receiveMap reply)
  | mapUpdated (received : JustReceived t .refreshHome p) : Effect t p (.mapUpdated p.state.utc) p.state.mapUpdated
  | positionScheduled (due : p.state.shouldRefreshMapPosition = true) (idle : p.state.mapPositionTask = false) :
    Effect t p (.positionScheduled p.state.utc p.state.taskActive) p.state.scheduleMapPosition
  | positionNoted (received : JustReceived t .refreshMapContent p) :
    Effect t p (.positionNoted p.state.utc) p.state.noteMapPositionSample
  | positionEnded : Effect t p .positionEnded p.state.mapPositionDone
  | updated (updateTime : ℚ) (full : Bool) (begun : .event t (.begun updateTime full) ∈ p.history)
    (read : ReadSince t updateTime (.status :: if full then settings.traits else []) p.history) :
    Effect t p (.updated p.state.utc updateTime) (p.state.conclude settings)
  | answered (refreshed : Bool) (answer : PositionAnswer)
    (served : positionAnswer p.state.toCoordinator p.state.utc refreshed = .ok answer) (read : refreshed = true → JustNoted t p) :
    Effect t p (.answered answer) p.state

/-- The points of the coordinator's runs. -/
abbrev Polled (device : PollStart) : Point Polls → Prop := Chain (program settings) (Effect settings) (settings.start device)

section Clock

def passes : Item Polls → ℚ
  | .outside (.elapsed seconds) => seconds
  | _ => 0

/-- How much time goes by in a part of the history. -/
def elapsed (history : List (Item Polls)) : ℚ := (history.map passes).sum

variable {settings : PollSettings} {device : PollStart} {p q : Point Polls} {t : ℕ}

@[simp] theorem elapsed_cons (item : Item Polls) (past : List (Item Polls)) : elapsed (item :: past) = passes item+elapsed past := rfl

@[simp] theorem elapsed_append (later past : List (Item Polls)) : elapsed (later++past) = elapsed later+elapsed past := by
  simp [elapsed]

theorem elapsed_nonneg (history : List (Item Polls)) : 0 ≤ elapsed history := by
  refine List.sum_nonneg fun time inside => ?_
  obtain ⟨item,_,rfl⟩ := List.mem_map.mp inside
  rcases item with (seconds | _ | _ | _) | _ | _ | _ | _ | _ | _ | _
  case outside.elapsed => exact seconds.coe_nonneg
  all_goals exact le_refl 0

theorem passes_owned {item : Item Polls} (owned : item.owner = some t) : passes item = 0 := by
  cases item with
  | outside input => exact nomatch owned
  | _ => rfl

theorem Effect.utc {event : PollEvent} {s : Poller} (made : Effect settings t p event s) : s.utc = p.state.utc := by
  cases made <;> rfl

/-- The wall clock shows how much time has gone by. -/
theorem polled_utc (polled : Polled settings device p) : p.state.utc = device.utc+elapsed p.history := by
  induction polled with
  | init => exact (add_zero _).symm
  | @outside p input before ih =>
    cases input with
    | elapsed seconds =>
      change p.state.utc+(seconds : ℚ) = device.utc+((seconds : ℚ)+elapsed p.history)
      rw [ih]
      ring
    | _ => exact ih.trans (by simp [passes])
  | silent silent before ih => exact ih.trans (by rw [Point.push_history,elapsed_cons,passes_owned silent.owned,zero_add])
  | effect made before ih => exact made.utc.trans (ih.trans (by rw [elapsed_cons,passes_owned rfl,zero_add]))

theorem polled_later (before : Polled settings device p) (after : Polled settings device q) (suffix : p.history <:+ q.history) :
    p.state.utc ≤ q.state.utc := by
  obtain ⟨later,grown⟩ := suffix
  rw [polled_utc before,polled_utc after,← grown,elapsed_append]
  linarith [elapsed_nonneg later]

end Clock

section Walk
variable {settings : PollSettings} {device : PollStart} {p q : Point Polls} {t : ℕ}

theorem leads_verifyApi (polled : Polled settings device p) : Leads (Polled settings device) t p verifyApi fun _ _ => True := by
  unfold verifyApi
  refine (Leads.get polled).bind ?_
  rintro _ q - - ⟨rfl,rfl⟩
  exact .when polled fun connected => (polled.record (.verified connected)).mono fun _ _ _ _ _ => trivial

theorem leads_refreshTrait (polled : Polled settings device p) (trait : Trait) :
    Leads (Polled settings device) t p (refreshTrait trait) fun _ q => JustRead t trait q := by
  refine .attempt (.bind (polled.await _) fun reply q polled _ answered => ?_) fun _ q polled _ => .throw polled
  refine (polled.record (.refreshed trait reply answered)).mono ?_
  rintro _ _ _ _ rfl
  exact ⟨reply,q.history,answered,rfl,fun same => if_pos same⟩

theorem JustRead.mem {trait : Trait} (read : JustRead t trait p) : .event t (.refreshed trait p.state.utc) ∈ p.history := by
  obtain ⟨_,_,_,same,_⟩ := read
  rw [same]
  exact List.mem_cons_self

theorem ReadSince.suffix {updateTime : ℚ} {traits : List Trait} {past history : List (Item Polls)}
    (read : ReadSince t updateTime traits past) (suffix : past <:+ history) : ReadSince t updateTime traits history := by
  intro trait member
  obtain ⟨time,late,inside⟩ := read trait member
  exact ⟨time,late,suffix.subset inside⟩

theorem leads_refreshTraits (polled : Polled settings device p) (traits : List Trait) :
    Leads (Polled settings device) t p (refreshTraits traits) fun _ q => ReadSince t p.state.utc traits q.history := by
  unfold refreshTraits
  induction traits generalizing p with
  | nil => exact .pure polled (by simp [ReadSince])
  | cons trait traits ih =>
    change Leads _ t p (refreshTrait trait >>= fun _ => traits.forM refreshTrait) _
    refine (leads_refreshTrait polled trait).bind fun _ q read suffix just => ?_
    refine (ih read).mono fun _ r done grown rest other member => ?_
    have early := polled_later polled read suffix
    rcases List.mem_cons.mp member with rfl | old
    · exact ⟨q.state.utc,early,grown.subset just.mem⟩
    · obtain ⟨time,late,inside⟩ := rest other old
      exact ⟨time,early.trans late,inside⟩

theorem leads_updateStatus (polled : Polled settings device p) :
    Leads (Polled settings device) t p updateStatus fun _ q => ReadSince t p.state.utc [.status] q.history := by
  unfold updateStatus
  have one : Leads (Polled settings device) t p (refreshTraits [.status]) fun _ q => JustRead t .status q :=
    (leads_refreshTrait polled .status).bind fun _ q read _ just => .pure read just
  refine one.bind fun _ q read suffix just => (read.record (.sampled just)).mono ?_
  rintro _ _ _ grown rfl trait member
  obtain rfl := List.mem_singleton.mp member
  exact ⟨q.state.utc,polled_later polled read suffix,grown.subset just.mem⟩

theorem leads_updateDeviceProp (polled : Polled settings device p) : Leads (Polled settings device) t p (updateDeviceProp settings)
    fun _ q => ReadSince t p.state.utc (.status :: settings.traits) q.history := by
  unfold updateDeviceProp
  refine (leads_updateStatus polled).bind fun _ q read suffix status => ?_
  refine (leads_refreshTraits read settings.traits).mono fun _ r _ grown rest trait member => ?_
  rcases List.mem_cons.mp member with rfl | old
  · exact (status.suffix grown) _ List.mem_cons_self
  · obtain ⟨time,late,inside⟩ := rest trait old
    exact ⟨time,(polled_later polled read suffix).trans late,inside⟩

theorem leads_updateMap (polled : Polled settings device p) : Leads (Polled settings device) t p updateMap fun _ _ => True := by
  unfold updateMap
  have received : Leads (Polled settings device) t p
      (.attempt
        (do
          let _ ← .await .discoverHome
          let reply ← .await .refreshHome
          .record (fun s => s.receiveMap reply) fun _ => .mapReceived)
        fun fault => .throw (if fault.isRoborock then .homeAssistant .mapFailure else fault))
      fun _ q => JustReceived t .refreshHome q := by
    refine .attempt ((polled.await _).bind fun _ q polled _ _ => (polled.await _).bind fun reply r polled _ answered => ?_)
      fun _ q polled _ => .throw polled
    refine (polled.record (.mapReceived .refreshHome reply (by simp) answered)).mono ?_
    rintro _ _ _ _ rfl
    exact ⟨reply,r.history,answered,rfl,rfl⟩
  exact received.bind fun _ q polled _ just => (polled.record (.mapUpdated just)).mono fun _ _ _ _ _ => trivial

theorem leads_asyncUpdateMapIfDue (polled : Polled settings device p) (due : p.state.mapDue = some true) :
    Leads (Polled settings device) t p asyncUpdateMapIfDue fun _ _ => True := by
  unfold asyncUpdateMapIfDue
  refine (polled.record (.mapAttempted due)).bind fun _ q polled _ _ => ?_
  refine .attempt (leads_updateMap polled) fun fault r polled _ => ?_
  exact .ite (fun _ => .pure polled trivial) fun _ => .throw polled

theorem leads_scheduleMapPositionUpdate (polled : Polled settings device p) :
    Leads (Polled settings device) t p (scheduleMapPositionUpdate settings) fun _ _ => True := by
  unfold scheduleMapPositionUpdate
  refine (Leads.get polled).bind ?_
  rintro _ q - - ⟨rfl,rfl⟩
  refine .ite (fun _ => .throw polled) fun _ => .ite (fun _ => .pure polled trivial) fun due => ?_
  refine .ite (fun _ => .pure polled trivial) fun idle => ?_
  have due : q.state.shouldRefreshMapPosition = true := by simpa using due
  have idle : q.state.mapPositionTask = false := by simpa using idle
  refine (polled.record (.positionScheduled due idle)).bind fun _ r polled _ _ => ?_
  refine .bind (.spawn (Q := fun _ _ => True) fun n => ⟨polled.silent (t := t) ⟨rfl,by simp⟩,trivial⟩)
    fun _ _ polled _ _ => .pure polled trivial

theorem leads_refreshData (polled : Polled settings device p) (full : Bool) :
    Leads (Polled settings device) t p (refreshData settings p.state.utc full) fun _ q =>
      ReadSince t p.state.utc (.status :: if full then settings.traits else []) q.history := by
  unfold refreshData
  cases full with
  | false => exact leads_updateStatus polled
  | true =>
    refine (leads_updateDeviceProp polled).bind fun _ q polled _ read => ?_
    refine (polled.record (.fullyRead _ read)).mono ?_
    rintro _ _ _ grown rfl
    exact read.suffix grown

theorem leads_readTraits (polled : Polled settings device p) (full : Bool) :
    Leads (Polled settings device) t p (readTraits settings p.state.utc full) fun read q =>
      read = true → ReadSince t p.state.utc (.status :: if full then settings.traits else []) q.history := by
  unfold readTraits
  refine .attempt ((leads_refreshData polled full).bind fun _ q polled _ read => .pure polled fun _ => read) fun fault q polled _ => ?_
  cases fault with
  | updateFailed key =>
    refine (Leads.get polled).bind ?_
    rintro _ q - - ⟨rfl,rfl⟩
    refine .ite (fun recent => ?_) fun late => ?_
    · exact (polled.record (f := id) (.suppressed recent)).bind fun _ _ polled _ _ => .pure polled (fun read => nomatch read)
    · exact (polled.record (f := id) (.reported (by simpa using late))).bind fun _ _ polled _ _ => .throw polled
  | _ => exact .throw polled

theorem leads_finishUpdate {updateTime : ℚ} {full : Bool} (polled : Polled settings device p)
    (begun : .event t (.begun updateTime full) ∈ p.history)
    (read : ReadSince t updateTime (.status :: if full then settings.traits else []) p.history) :
    Leads (Polled settings device) t p (finishUpdate settings updateTime) fun _ _ => True := by
  unfold finishUpdate
  refine (Leads.get polled).bind ?_
  rintro _ p - - ⟨rfl,rfl⟩
  cases due : p.state.mapDue with
  | none => exact .throw polled
  | some wanted =>
    have map : Leads (Polled settings device) t p (.when wanted asyncUpdateMapIfDue) fun _ _ => True :=
      .when polled fun yes => leads_asyncUpdateMapIfDue polled (due.trans (congrArg some yes))
    refine map.bind fun _ q polled first _ => ?_
    refine (leads_scheduleMapPositionUpdate polled).bind fun _ r polled second _ => ?_
    have grown := first.trans second
    exact (polled.record (.updated updateTime full (grown.subset begun) (read.suffix grown))).bind
      fun _ _ polled _ _ => .pure polled trivial

theorem leads_asyncUpdateData (polled : Polled settings device p) :
    Leads (Polled settings device) t p (asyncUpdateData settings) fun _ _ => True := by
  unfold asyncUpdateData
  refine (leads_verifyApi polled).bind fun _ q polled _ _ => ?_
  refine (Leads.get polled).bind ?_
  rintro _ q - - ⟨rfl,rfl⟩
  refine (polled.record (f := id) .begun).bind ?_
  rintro _ r polled - rfl
  refine (leads_readTraits polled _).bind fun read r after grown done => ?_
  exact .ite (fun yes => leads_finishUpdate after (grown.subset List.mem_cons_self) (done yes)) fun _ => .pure after trivial

theorem leads_asyncSetup (polled : Polled settings device p) : Leads (Polled settings device) t p asyncSetup fun _ _ => True := by
  unfold asyncSetup
  refine (leads_verifyApi polled).bind fun _ q polled _ _ => ?_
  refine (leads_refreshTrait polled .status).bind fun _ q polled _ _ => ?_
  refine (polled.record .setUp).bind fun _ q polled _ _ => ?_
  have discovered : Leads (Polled settings device) t q discoverHome fun _ _ => True := by
    refine .attempt ((polled.await _).bind fun _ _ polled _ _ => .pure polled trivial) fun fault _ polled _ => ?_
    cases fault with
    | deviceBusy => exact .pure polled trivial
    | _ => exact .throw polled
  refine discovered.bind fun _ r polled _ _ => .when polled fun _ => ?_
  exact (polled.record .homeDiscovered).mono fun _ _ _ _ _ => trivial

theorem leads_noteMapPosition (polled : Polled settings device p) :
    Leads (Polled settings device) t p noteMapPosition fun refreshed q => refreshed = true → JustNoted t q := by
  unfold noteMapPosition
  have received : Leads (Polled settings device) t p tryRefreshMapContent
      fun refreshed q => refreshed = true → JustReceived t .refreshMapContent q := by
    refine .attempt ((polled.await _).bind fun reply q polled _ answered => ?_) fun fault q polled _ => ?_
    · refine (polled.record (.mapReceived .refreshMapContent reply (by simp) answered)).bind ?_
      rintro _ _ polled - rfl
      exact .pure polled fun _ => ⟨reply,q.history,answered,rfl,rfl⟩
    · exact .ite (fun _ => .pure polled fun read => nomatch read) fun _ => .throw polled
  refine received.bind fun refreshed q polled _ just => .ite (fun yes => ?_) fun _ => .pure polled fun read => nomatch read
  obtain ⟨reply,past,answered,same,map⟩ := just yes
  refine (polled.record (.positionNoted (just yes))).bind ?_
  rintro _ _ polled - rfl
  exact .pure polled fun _ => ⟨reply,past,answered,map,rfl,congrArg (List.cons _) same⟩

theorem leads_getVacuumCurrentPosition (polled : Polled settings device p) :
    Leads (Polled settings device) t p (getVacuumCurrentPosition settings) fun _ _ => True := by
  unfold getVacuumCurrentPosition
  refine (leads_noteMapPosition polled).bind fun refreshed q polled _ just => ?_
  refine (Leads.get polled).bind ?_
  rintro _ q - - ⟨rfl,rfl⟩
  refine .ite (fun _ => .throw polled) fun _ => .ite (fun _ => .throw polled) fun _ => ?_
  split
  next => exact .throw polled
  next answer served =>
    exact (polled.record (f := id) (.answered refreshed answer served just)).mono fun _ _ _ _ _ => trivial

/-- However the tasks take turns, a run is a chain of these effects. -/
theorem run_polled (settings : PollSettings) (device : PollStart) (schedule : List (Label Polls)) : Polled settings device (run settings device schedule) := by
  refine Chain.run (fun call t p polled => ?_) schedule
  have update {q : Point Polls} (polled : Polled settings device q) :
      Leads (Polled settings device) t q (asyncUpdateData settings >>= fun _ => pure ()) fun _ _ => True :=
    (leads_asyncUpdateData polled).bind fun _ _ polled _ _ => .pure polled trivial
  cases call with
  | firstRefresh => exact (leads_asyncSetup polled).bind fun _ _ polled _ _ => update polled
  | refresh => exact update polled
  | mapPosition =>
    have read : Leads (Polled settings device) t p asyncUpdateMapPosition fun _ _ => True :=
      (leads_noteMapPosition polled).bind fun _ _ polled _ _ => .pure polled trivial
    exact read.guarded fun q polled => (polled.record .positionEnded).mono fun _ _ _ _ _ => trivial
  | currentPosition => exact leads_getVacuumCurrentPosition polled

end Walk

end RoborockPlus.Polls
