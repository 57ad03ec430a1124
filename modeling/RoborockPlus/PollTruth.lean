import RoborockPlus.PollSteps

/-! What the coordinator passes on about the robot comes from the robot. A status that counts as
fresh was read lately, and so was the map of a robot at work whose position is trusted. -/
namespace RoborockPlus

/-- What the garage door sees, with the other entities, the zone and the clock as they may be. -/
def Poller.world (s : Poller) (clock : ℚ) (states : String → Option EntityState) (zone : Option Zone) : World :=
  ⟨clock,s.utc,states,s.toCoordinator,zone⟩

/-- A position that is trusted comes from a map whose age allows it. -/
theorem trusted_fresh {c : Coordinator} {now : ℚ} (trusted : (c.resolveVacuumPosition now).trusted = true) :
    c.isMapPositionFresh now = true := by
  unfold Coordinator.resolveVacuumPosition at trusted
  by_contra stale
  rw [if_neg stale] at trusted
  exact nomatch trusted

theorem position_resolved {w : World} {x y : ℚ} {zone : Zone} (found : w.trustedPosition = some (x,y,zone)) :
    (w.coordinator.resolveVacuumPosition w.utc).trusted = true ∧
      (w.coordinator.resolveVacuumPosition w.utc).position = some ⟨.finite x,.finite y⟩ := by
  unfold World.trustedPosition at found
  dsimp only at found
  split at found
  next resolved charger zoned =>
    split_ifs at found with refused
    obtain ⟨rfl,rfl,rfl⟩ := by simpa using found
    exact ⟨by simpa using not_or.mp refused |>.1,resolved⟩
  next => exact nomatch found

/-- The map has the robot there; or it has the dock there, and the robot nowhere near it. -/
def MapData.locates (map : MapData) (position : MapPoint) (fromDock : Bool) : Prop :=
  if fromDock then map.charger = some position ∧ ∀ own ∈ map.vacuumPosition, own.within position defaultDockTolerance = false
  else map.vacuumPosition = some position

/-- Wherever the position comes from, the map has it. -/
theorem resolved_located {map : MapData} {state : RobotState} {position : MapPoint}
    (resolved : (resolvePositionTrust state map.vacuumPosition map.charger).position = some position) :
    map.locates position (resolvePositionTrust state map.vacuumPosition map.charger).fromDock ∧
      ((resolvePositionTrust state map.vacuumPosition map.charger).fromDock = true → state ∈ RobotState.dockedStateNames) := by
  obtain ⟨own,charger⟩ := map
  revert resolved
  unfold resolvePositionTrust MapData.locates
  by_cases docked : state ∈ RobotState.dockedStateNames
  · rcases charger with _ | dock
    · simp [docked]
    · rcases own with _ | own
      · simp [docked]
      · by_cases near : own.within dock defaultDockTolerance = true
        · simp [docked,near]
        · simp only [Bool.not_eq_true] at near
          simp only [docked,near]
          rintro ⟨⟩
          simp [near]
  · rcases own with _ | own <;> simp [docked]

theorem trusted_located {c : Coordinator} {now : ℚ} {position : MapPoint} (trusted : (c.resolveVacuumPosition now).trusted = true)
    (resolved : (c.resolveVacuumPosition now).position = some position) :
    ∃ map, c.mapData = some map ∧ map.locates position (c.resolveVacuumPosition now).fromDock ∧
      ((c.resolveVacuumPosition now).fromDock = true → c.liveStatus.state ∈ RobotState.dockedStateNames) := by
  have fresh := trusted_fresh trusted
  unfold Coordinator.resolveVacuumPosition at resolved ⊢
  rw [if_pos fresh] at resolved ⊢
  cases held : c.mapData with
  | none =>
    rw [held] at resolved
    unfold resolvePositionTrust at resolved
    split_ifs at resolved <;> exact nomatch resolved
  | some map =>
    rw [held] at resolved
    exact ⟨map,rfl,resolved_located resolved⟩

namespace Polls
open Async

variable {settings : PollSettings} {device : PollStart} {p : Point Polls} {t : ℕ}

section Settings

/-- What stays as the settings have it, and the interval that is always one of four. -/
structure Configured (settings : PollSettings) (s : Poller) : Prop where
  pollInterval : s.pollInterval = settings.mapPositionPollInterval
  isOfficialCloud : s.isOfficialCloud = settings.isOfficialCloud
  updateInterval : s.updateInterval ∈ [some (settings.localStatusPollInterval.val : ℚ),some 30,some 60]

theorem polled_configured (polled : Polled settings device p) : Configured settings p.state := by
  induction polled with
  | init => exact ⟨rfl,rfl,by simp [PollSettings.start]⟩
  | outside input before ih => cases input <;> exact ⟨ih.pollInterval,ih.isOfficialCloud,ih.updateInterval⟩
  | silent silent before ih => exact ih
  | @effect p t event s made before ih =>
    obtain ⟨pollInterval,official,interval⟩ := ih
    cases made with
    | verified connected =>
      refine ⟨pollInterval,official,?_⟩
      change (if _ then p.state.updateInterval else some 60) ∈ _
      split
      · exact interval
      · simp
    | updated updateTime full begun read =>
      refine ⟨pollInterval,official,?_⟩
      change (if _ then _ else if _ then _ else _) ∈ _
      split_ifs <;> simp
    | _ => exact ⟨pollInterval,official,interval⟩

/-- A status is never passed off as fresh for more than two minutes. -/
theorem Configured.maxAge {s : Poller} (configured : Configured settings s) : s.maxAge ≤ 120 := by
  have within : (settings.localStatusPollInterval.val : ℚ) ≤ 60 := by exact_mod_cast settings.localStatusPollInterval.property.2
  have interval := configured.updateInterval
  simp only [List.mem_cons,List.not_mem_nil,or_false] at interval
  unfold Coordinator.maxAge
  rcases interval with same | same | same <;> rw [same] <;> simp only [max_le_iff] <;> constructor <;> linarith

end Settings

/-- Between two points of a run as much time goes by as the history between them says. -/
theorem polled_since {q : Point Polls} {later : List (Item Polls)} {event : PollEvent} (before : Polled settings device q)
    (after : Polled settings device p) (grown : p.history = later++.event t event :: q.history) :
    p.state.utc-q.state.utc = elapsed later := by
  rw [polled_utc before,polled_utc after,grown,elapsed_append,elapsed_cons,passes_owned rfl]
  ring

/-- A robot that has only a status and maps, reached over the LAN. -/
def plainSettings : PollSettings := ⟨⟨5,by decide⟩,.int 0,false,false,fun _ => false⟩

def atWork : Status := ⟨.cleaning,.int 1,.int 0⟩

def roomMap : MapData := ⟨some ⟨.finite 3000,.finite 200⟩,some ⟨.finite 0,.finite 0⟩⟩

def room : PollStart := ⟨1000,true,true,false,atWork,none⟩

def roomReply : PollReply := ⟨atWork,some roomMap⟩

/-- The setup and the first poll of a robot at work, with a map update of eight seconds. -/
def firstPoll : List (Label Polls) :=
  [.call .firstRefresh,.resume 0 (.ok roomReply),.resume 0 (.error .deviceBusy),.resume 0 (.ok roomReply),.resume 0 (.ok roomReply),
    .outside (.elapsed 8),.resume 0 (.ok roomReply)]

section Samples

def sampleOf : PollEvent → Option StatusSample
  | .sampled sample => some sample
  | _ => none

theorem polled_sample (polled : Polled settings device p) : Notes sampleOf (fun s : Poller => s.garageStatusSample) p := by
  refine polled.notes rfl (fun input s => by cases input <;> rfl) fun t p event s made => ?_
  cases made <;> rfl

/-- The status was read by a request of its own, and no more than the time ago. -/
def StatusRead (history : List (Item Polls)) (status : Status) (age : ℚ) : Prop :=
  ∃ t sample time reply later past, history = later++.event t (.sampled sample) :: .event t (.refreshed .status time) :: past ∧
    Answers t (.refresh .status) reply past ∧ status = reply.status ∧ elapsed later ≤ age

theorem sample_read (polled : Polled settings device p) {sample : StatusSample} (held : p.state.garageStatusSample = some sample) :
    StatusRead p.history sample.status (p.state.utc-sample.sampledAt) := by
  obtain ⟨t,event,later,q,s,grown,found,before,made⟩ := polled.noted (polled_sample polled) held
  have since := polled_since before polled grown
  cases made with
  | sampled read =>
    obtain ⟨reply,older,answered,last,status⟩ := read
    have found : q.state.statusSample = sample := Option.some.inj found
    subst found
    exact ⟨t,_,_,reply,later,older,last ▸ grown,answered,status rfl,since.ge⟩
  | _ => exact nomatch found

end Samples

/-- Whatever the tasks do meanwhile: a status that counts as fresh is what the robot itself has answered, at most
two minutes ago. -/
theorem fresh_status_read (schedule : List (Label Polls)) (clock : ℚ) (states : String → Option EntityState) (zone : Option Zone)
    (fresh : ((run settings device schedule).state.world clock states zone).fresh = true) :
    StatusRead (run settings device schedule).history ((run settings device schedule).state.world clock states zone).status 120 := by
  have polled := run_polled settings device schedule
  have bound := (polled_configured polled).maxAge
  obtain ⟨_,young⟩ := Bool.and_eq_true_iff.mp fresh
  obtain ⟨sample,held,age⟩ := (Option.any_eq_true _ _).mp young
  obtain ⟨t,other,time,reply,later,past,grown,answered,status,passed⟩ := sample_read polled held
  have same : ((run settings device schedule).state.world clock states zone).status = sample.status := by
    have held : ((run settings device schedule).state.world clock states zone).coordinator.garageStatusSample = some sample := held
    rw [World.status,held]
  have age := (of_decide_eq_true age).2
  exact ⟨t,other,time,reply,later,past,grown,answered,same.trans status,passed.trans (age.trans bound)⟩

theorem fresh_status_read_first : ((run plainSettings room firstPoll).state.world 0 (fun _ => none) none).fresh = true ∧
    StatusRead (run plainSettings room firstPoll).history
      ((run plainSettings room firstPoll).state.world 0 (fun _ => none) none).status 120 :=
  have fresh : ((run plainSettings room firstPoll).state.world 0 (fun _ => none) none).fresh = true := by decide +kernel
  ⟨fresh,fresh_status_read firstPoll 0 (fun _ => none) none fresh⟩

section Positions

def mapTime : PollEvent → Option ℚ
  | .mapUpdated time | .positionNoted time => some time
  | _ => none

theorem polled_position (polled : Polled settings device p) : Notes mapTime (fun s : Poller => s.lastMapPositionUpdate) p := by
  refine polled.notes rfl (fun input s => by cases input <;> rfl) fun t p event s made => ?_
  cases made <;> rfl

/-- A map was brought by a request of its own, and no more than the time ago. -/
def MapRead (history : List (Item Polls)) (age : ℚ) : Prop :=
  ∃ t event request reply later past, history = later++.event t event :: .event t .mapReceived :: past ∧
    request ∈ [PollRequest.refreshHome,.refreshMapContent] ∧ Answers t request reply past ∧ elapsed later ≤ age

theorem position_read (polled : Polled settings device p) {time : ℚ} (held : p.state.lastMapPositionUpdate = some time) :
    MapRead p.history (p.state.utc-time) := by
  obtain ⟨t,event,later,q,s,grown,found,before,made⟩ := polled.noted (polled_position polled) held
  have since := polled_since before polled grown
  cases made with
  | mapUpdated received =>
    obtain ⟨reply,older,answered,last,_⟩ := received
    obtain rfl : q.state.utc = time := Option.some.inj found
    exact ⟨t,_,.refreshHome,reply,later,older,last ▸ grown,by simp,answered,since.ge⟩
  | positionNoted received =>
    obtain ⟨reply,older,answered,last,_⟩ := received
    obtain rfl : q.state.utc = time := Option.some.inj found
    exact ⟨t,_,.refreshMapContent,reply,later,older,last ▸ grown,by simp,answered,since.ge⟩
  | _ => exact nomatch found

end Positions

section Maps

/-- The entries by which the coordinator comes by another map. -/
def changesMap : Item Polls → Bool
  | .outside (.pushed _ _) | .event _ .mapReceived => true
  | _ => false

/-- A request of the task's own has been answered with the map, or the library has put it there. -/
inductive Brings (map : Option MapData) (past : List (Item Polls)) : Item Polls → Prop
  | received (t : ℕ) (request : PollRequest) (reply : PollReply) (asked : request ∈ [PollRequest.refreshHome,.refreshMapContent])
    (answered : Answers t request reply past) (same : reply.mapData = map) : Brings map past (.event t .mapReceived)
  | pushed (status : Status) : Brings map past (.outside (.pushed status map))

/-- The map is the one that the robot was found with, or the newest that has come since. -/
theorem polled_map (polled : Polled settings device p) : Sourced changesMap Brings device.mapData p.history p.state.mapData := by
  refine polled.sourced (fun s : Poller => s.mapData) (fun t item silent => ?_) (fun input q => ?_) fun t q event s made => ?_
  · cases item with
    | outside input => exact nomatch silent.owned
    | event u event => exact absurd rfl (silent.quiet u event)
    | _ => rfl
  · cases input with
    | pushed status map => exact Or.inr (.pushed status)
    | _ => exact Or.inl ⟨rfl,rfl⟩
  · cases made with
    | mapReceived request reply asked answered => exact Or.inr (.received t request reply asked answered rfl)
    | _ => exact Or.inl ⟨rfl,rfl⟩

/-- The newest map, which came no more than the time ago. -/
def NewestMap (history : List (Item Polls)) (map : MapData) (age : ℚ) : Prop :=
  ∃ later, Newest changesMap Brings history later (some map) ∧ elapsed later ≤ age

theorem newest_read (polled : Polled settings device p) {map : MapData} {age : ℚ} (held : p.state.mapData = some map)
    (read : MapRead p.history age) : NewestMap p.history map age := by
  obtain ⟨t,event,request,reply,recent,past,grown,_,_,passed⟩ := read
  rw [List.append_cons] at grown
  obtain ⟨later,newest,shift,rest⟩ := (polled_map polled).newest grown rfl
  refine ⟨later,held ▸ newest,?_⟩
  have both := congrArg elapsed rest
  rw [elapsed_append,elapsed_append] at both
  have none : elapsed [(.event t event : Item Polls)] = 0 := by simp [elapsed,passes]
  linarith [elapsed_nonneg shift]

end Maps

/-- While the robot is at work a position counts only if a map was read in the last two sampling intervals. -/
theorem fresh_read (polled : Polled settings device p) (fresh : p.state.isMapPositionFresh p.state.utc = true)
    (active : p.state.taskActive = true) :
    MapRead p.history (2*(resolveMapPositionIntervals settings.isOfficialCloud settings.mapPositionPollInterval).1) := by
  obtain ⟨pollInterval,official,_⟩ := polled_configured polled
  unfold Coordinator.isMapPositionFresh isV1MapPositionFresh at fresh
  unfold Poller.taskActive at active
  rw [active,Bool.not_true,Bool.false_or,official,pollInterval] at fresh
  obtain ⟨time,held,age⟩ := (Option.any_eq_true _ _).mp fresh
  obtain ⟨t,event,request,reply,later,past,grown,asked,answered,passed⟩ := position_read polled held
  refine ⟨t,event,request,reply,later,past,grown,asked,answered,passed.trans ?_⟩
  have age := of_decide_eq_true age
  unfold getMapPositionMaxAge at age
  linarith

/-- Whatever the tasks do meanwhile: the trusted position of a robot at work is where the newest map has it, or the dock it
is in, and that map came no more than two sampling intervals ago, as did one that a task has asked for. -/
theorem trusted_position_read (schedule : List (Label Polls)) (clock : ℚ) (states : String → Option EntityState) (zone : Option Zone)
    {x y : ℚ} {inside : Zone} (trusted : ((run settings device schedule).state.world clock states zone).trustedPosition = some (x,y,inside))
    (active : (run settings device schedule).state.taskActive = true) :
    MapRead (run settings device schedule).history
        (2*(resolveMapPositionIntervals settings.isOfficialCloud settings.mapPositionPollInterval).1) ∧
      ∃ map fromDock, NewestMap (run settings device schedule).history map
          (2*(resolveMapPositionIntervals settings.isOfficialCloud settings.mapPositionPollInterval).1) ∧
        map.locates ⟨.finite x,.finite y⟩ fromDock ∧
        (fromDock = true → (run settings device schedule).state.liveStatus.state ∈ RobotState.dockedStateNames) := by
  have polled := run_polled settings device schedule
  generalize run settings device schedule = p at *
  obtain ⟨relied,resolved⟩ := position_resolved trusted
  have read := fresh_read polled (trusted_fresh relied) active
  obtain ⟨map,held,located,docked⟩ := trusted_located relied resolved
  exact ⟨read,map,_,newest_read polled held read,located,docked⟩

def dockZone : Zone := ⟨-500,500,-500,500⟩

/-- The robot has moved on the map that the library has put in the place of the one it was sent. -/
def movedMap : MapData := ⟨some ⟨.finite 3100,.finite 200⟩,some ⟨.finite 0,.finite 0⟩⟩

theorem trusted_position_read_first : MapRead (run plainSettings room (firstPoll++[.outside (.pushed atWork (some movedMap))])).history 10 ∧
    ∃ map fromDock, NewestMap (run plainSettings room (firstPoll++[.outside (.pushed atWork (some movedMap))])).history map 10 ∧
      map.locates ⟨.finite 3100,.finite 200⟩ fromDock ∧
      (fromDock = true →
        (run plainSettings room (firstPoll++[.outside (.pushed atWork (some movedMap))])).state.liveStatus.state ∈ RobotState.dockedStateNames) := by
  have read := @trusted_position_read plainSettings room (firstPoll++[.outside (.pushed atWork (some movedMap))]) 0 (fun _ => none)
    (some dockZone) 3100 200 dockZone (by decide +kernel) (by decide +kernel)
  have interval : (2*(resolveMapPositionIntervals plainSettings.isOfficialCloud plainSettings.mapPositionPollInterval).1 : ℚ) = 10 := by
    decide +kernel
  rw [interval] at read
  exact read

end Polls

end RoborockPlus
