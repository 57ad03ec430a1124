import RoborockPlus.World
import RoborockPlus.MapSampling
import RoborockPlus.Async.Ledger

/-! The coordinator that polls one robot. Polls, the background read of the position and the
position service share its fields; nothing keeps them from running at the same time. -/
namespace RoborockPlus
open Async

abbrev PollSeconds := {seconds : ℤ // 1 ≤ seconds ∧ seconds ≤ 60}

/-- For the source a bool is an integer. -/
def getV1LocalStatusPollInterval (option : Option PyValue) : Except String PollSeconds :=
  let bounded (seconds : ℤ) : Except String PollSeconds :=
    if within : 1 ≤ seconds ∧ seconds ≤ 60 then .ok ⟨seconds,within⟩
    else .error "V1 local status poll interval must be between 1 and 60 seconds"
  match option.getD (.int 5) with
  | .int seconds => bounded seconds
  | .bool value => bounded (if value then 1 else 0)
  | _ => .error "V1 local status poll interval must be an integer"

def shouldRefreshFullV1Data (now : ℚ) (lastFullUpdate : Option ℚ) (fullUpdateInterval : ℚ) : Bool :=
  match lastFullUpdate with
  | none => true
  | some last => decide (fullUpdateInterval ≤ now-last)

inductive Trait
  | status | consumables | cleanSummary | dnd | dustCollectionMode | washTowelMode | smartWashParams
  | soundVolume | childLock | flowLedStatus | valleyElectricityTimer
deriving DecidableEq

/-- What a full refresh reads behind the status, as far as the robot has it. -/
def Trait.properties : List Trait :=
  [.consumables,.cleanSummary,.dnd,.dustCollectionMode,.washTowelMode,.smartWashParams,.soundVolume,.childLock,
    .flowLedStatus,.valleyElectricityTimer]

inductive FailureKey
  | updateDataFail | mapFailure | positionNotFound
deriving DecidableEq

inductive PollFault
  | roborock | deviceBusy | valueError | attributeError | cancelled
  | updateFailed (key : FailureKey)
  | homeAssistant (key : FailureKey)
  | other (reason : String)
deriving DecidableEq

/-- A busy device is one of the library's exceptions. -/
def PollFault.isRoborock : PollFault → Bool
  | .roborock | .deviceBusy => true
  | _ => false

/-- A failed update is one of Home Assistant's errors. -/
def PollFault.isHomeAssistant : PollFault → Bool
  | .updateFailed _ | .homeAssistant _ => true
  | _ => false

/-- `urlRefused`: the base URL is one that `urlsplit` raises for. -/
structure PollSettings where
  localStatusPollInterval : PollSeconds
  mapPositionPollInterval : PyValue
  isOfficialCloud : Bool
  urlRefused : Bool
  supported : Trait → Bool

/-- `mapPositionTask`: the task of the last background read is not done. -/
structure Poller extends Coordinator where
  utc : ℚ
  isConnected : Bool
  isLocalConnected : Bool
  hasConnectedLocally : Bool := false
  cloudApiUsed : Bool := false
  lastUpdateState : Option RobotState := none
  lastHomeUpdateAttempt : Option ℚ := none
  lastHomeUpdate : Option ℚ := none
  lastMapPositionAttempt : Option ℚ := none
  mapPositionTask : Bool := false
  lastUpdateSuccessTime : Option ℚ := none
  lastFullUpdateSuccessTime : Option ℚ := none

/-- The robot as it is found, and the wall clock. -/
structure PollStart where
  utc : ℚ
  isConnected : Bool
  isLocalConnected : Bool
  cloudApiUsed : Bool
  liveStatus : Status
  mapData : Option MapData

structure PositionAnswer where
  x : PyFloat
  y : PyFloat
  stale : Bool
  positionSource : PositionReason
  fromDock : Bool
  mapReadSucceeded : Bool
deriving DecidableEq

inductive PollResult
  | deviceState | previous

inductive PollEvent
  | verified (isLocalConnected : Bool)
  | begun (updateTime : ℚ) (full : Bool)
  | refreshed (trait : Trait) (time : ℚ)
  | sampled (sample : StatusSample)
  | fullyRead (updateTime : ℚ)
  | suppressed
  | reported
  | mapAttempted (time : ℚ) (forced : Bool)
  | homeDiscovered (time : ℚ)
  | mapReceived
  | mapUpdated (time : ℚ)
  | positionScheduled (time : ℚ) (taskActive : Bool)
  | positionNoted (time : ℚ)
  | positionEnded
  | updated (time updateTime : ℚ)
  | answered (answer : PositionAnswer)

inductive PollRequest
  | refresh (trait : Trait)
  | discoverHome
  | refreshHome
  | refreshMapContent
deriving DecidableEq

/-- What the library's objects hold once it has answered; a request fills its own. -/
structure PollReply where
  status : Status
  mapData : Option MapData

inductive PollCall
  | firstRefresh
  | refresh
  | mapPosition
  | currentPosition

/-- Time passes, the connection and the library's objects change, and the base class notes how an update ended. -/
inductive PollStimulus
  | elapsed (seconds : NNRat)
  | connection (isConnected isLocalConnected : Bool)
  | pushed (status : Status) (mapData : Option MapData)
  | concluded (success : Bool)

abbrev Polls : Signature where
  State := Poller
  Event := PollEvent
  Exn := PollFault
  Request := PollRequest
  Reply := PollReply
  Call := PollCall
  Stimulus := PollStimulus

namespace PollSettings

def start (settings : PollSettings) (device : PollStart) : Poller where
  garageStatusSample := none
  lastUpdateSuccess := true
  updateInterval := some settings.localStatusPollInterval.val
  liveStatus := device.liveStatus
  mapData := device.mapData
  lastMapPositionUpdate := none
  pollInterval := settings.mapPositionPollInterval
  isOfficialCloud := settings.isOfficialCloud
  utc := device.utc
  isConnected := device.isConnected
  isLocalConnected := device.isLocalConnected
  cloudApiUsed := device.cloudApiUsed

def traits (settings : PollSettings) : List Trait := Trait.properties.filter settings.supported

end PollSettings

namespace Poller
variable (s : Poller)

def taskActive : Bool := isV1TaskActive s.liveStatus

def observe : PollStimulus → Poller → Poller
  | .elapsed seconds, s => {s with utc := s.utc+seconds}
  | .connection isConnected isLocalConnected, s => {s with isConnected := isConnected, isLocalConnected := isLocalConnected}
  | .pushed status mapData, s => {s with liveStatus := status, mapData := mapData}
  | .concluded success, s => {s with lastUpdateSuccess := success}

/-- The part of `_verify_api` for a robot that is connected. -/
def verifyApi : Poller :=
  let seen := s.hasConnectedLocally || s.isLocalConnected
  {s with hasConnectedLocally := seen, cloudApiUsed := !seen, updateInterval := if seen then s.updateInterval else some 60}

/-- The values of the other traits are not looked at here. -/
def receive (trait : Trait) (reply : PollReply) : Poller := {s with
  liveStatus := if trait = .status then reply.status else s.liveStatus}

def statusSample : StatusSample := ⟨s.utc,s.liveStatus⟩

def sampleStatus : Poller := {s with garageStatusSample := some s.statusSample}

def shouldRefreshFullData (updateTime : ℚ) : Bool :=
  !s.isLocalConnected || shouldRefreshFullV1Data updateTime s.lastFullUpdateSuccessTime 30

def shouldSuppressUpdateFailure : Bool := s.lastUpdateSuccessTime.any fun last => decide (s.utc-last < 120)

def stateChanged : Bool := s.lastUpdateState != some s.liveStatus.state

/-- Nothing where no attempt was made before, for which the source raises. -/
def mapDue : Option Bool :=
  if s.liveStatus.inCleaning.truthy then s.lastHomeUpdateAttempt.map fun last => decide (30 < s.utc-last) || s.stateChanged
  else some s.stateChanged

def attemptMap : Poller := {s with lastHomeUpdateAttempt := some s.utc}

def homeDiscovered : Poller := {s with lastHomeUpdate := some (s.utc-30)}

def receiveMap (reply : PollReply) : Poller := {s with mapData := reply.mapData}

def mapUpdated : Poller := {s with
  lastHomeUpdate := some s.utc, lastMapPositionUpdate := some s.utc, lastMapPositionAttempt := some s.utc}

def shouldRefreshMapPosition : Bool :=
  shouldRefreshV1MapPosition s.utc s.lastMapPositionAttempt s.taskActive s.isOfficialCloud s.pollInterval

def scheduleMapPosition : Poller := {s with lastMapPositionAttempt := some s.utc, mapPositionTask := true}

def noteMapPositionSample : Poller := {s with lastMapPositionUpdate := some s.utc}

def mapPositionDone : Poller := {s with mapPositionTask := false}

/-- The end of a poll that has read what it was to read. -/
def conclude (settings : PollSettings) : Poller := {s with
  updateInterval :=
    if s.isLocalConnected then some settings.localStatusPollInterval.val
    else if s.liveStatus.inCleaning.truthy then some 30
    else some 60
  lastUpdateState := some s.liveStatus.state
  lastUpdateSuccessTime := some s.utc}

end Poller

/-- The position service once the read has succeeded or not. -/
def positionAnswer (c : Coordinator) (now : ℚ) (refreshed : Bool) : Except FailureKey PositionAnswer :=
  match c.mapData with
  | none => .error .mapFailure
  | some map =>
    let resolved := c.resolveVacuumPosition now
    match resolved.trusted, resolved.position with
    | true, some position =>
      .ok ⟨position.x,position.y,!refreshed || resolved.fromDock,resolved.reason,resolved.fromDock,refreshed⟩
    | _, _ =>
      match map.vacuumPosition with
      | none => .error .positionNotFound
      | some fallback =>
        if resolved.reason ≠ .sampleTooOld then .error .positionNotFound
        else .ok ⟨fallback.x,fallback.y,true,resolved.reason,false,refreshed⟩

namespace Polls
variable (settings : PollSettings)

def verifyApi : Co Polls Unit := do
  let s ← .get
  .when s.isConnected (.record Poller.verifyApi fun s => .verified s.isLocalConnected)

def refreshTrait (trait : Trait) : Co Polls Unit :=
  .attempt
    (do
      let reply ← .await (.refresh trait)
      .record (fun s => s.receive trait reply) fun s => .refreshed trait s.utc)
    fun fault => .throw (if fault.isRoborock then .updateFailed .updateDataFail else fault)

def refreshTraits (traits : List Trait) : Co Polls Unit := traits.forM refreshTrait

def updateStatus : Co Polls Unit := do
  refreshTraits [.status]
  .record Poller.sampleStatus fun s => .sampled s.statusSample

def updateDeviceProp : Co Polls Unit := do
  updateStatus
  refreshTraits settings.traits

def updateMap : Co Polls Unit := do
  .attempt
    (do
      let _ ← .await .discoverHome
      let reply ← .await .refreshHome
      .record (fun s => s.receiveMap reply) fun _ => .mapReceived)
    fun fault => .throw (if fault.isRoborock then .homeAssistant .mapFailure else fault)
  .record Poller.mapUpdated fun s => .mapUpdated s.utc

def asyncUpdateMapIfDue : Co Polls Unit := do
  .record Poller.attemptMap fun s => .mapAttempted s.utc s.stateChanged
  .attempt updateMap fun fault => if fault.isHomeAssistant then pure () else .throw fault

def scheduleMapPositionUpdate : Co Polls Unit := do
  let s ← .get
  if settings.urlRefused then .throw .valueError
  else if s.shouldRefreshMapPosition = false then pure ()
  else if s.mapPositionTask then pure ()
  else do
    .record Poller.scheduleMapPosition fun s => .positionScheduled s.utc s.taskActive
    let _ ← .spawn .mapPosition
    pure ()

def refreshData (updateTime : ℚ) (full : Bool) : Co Polls Unit :=
  if full then do
    updateDeviceProp settings
    .record (fun s => {s with lastFullUpdateSuccessTime := some updateTime}) fun _ => .fullyRead updateTime
  else updateStatus

/-- A failure is suppressed for two minutes, and no other is. -/
def readTraits (updateTime : ℚ) (full : Bool) : Co Polls Bool :=
  .attempt
    (do
      refreshData settings updateTime full
      pure true)
    fun fault => match fault with
      | .updateFailed _ => do
        let s ← .get
        if s.shouldSuppressUpdateFailure then do
          .record id fun _ => .suppressed
          pure false
        else do
          .record id fun _ => .reported
          .throw fault
      | _ => .throw fault

def finishUpdate (updateTime : ℚ) : Co Polls PollResult := do
  let s ← .get
  match s.mapDue with
  | none => .throw .attributeError
  | some due => do
    .when due asyncUpdateMapIfDue
    scheduleMapPositionUpdate settings
    .record (fun s => s.conclude settings) fun s => .updated s.utc updateTime
    pure .deviceState

def asyncUpdateData : Co Polls PollResult := do
  verifyApi
  let s ← .get
  let updateTime := s.utc
  let full := s.shouldRefreshFullData updateTime
  .record id fun _ => .begun updateTime full
  let read ← readTraits settings updateTime full
  if read then finishUpdate settings updateTime else pure .previous

/-- Home discovery that meets a busy robot is left to a later map update. -/
def discoverHome : Co Polls Bool :=
  .attempt
    (do
      let _ ← .await .discoverHome
      pure true)
    fun fault => match fault with
      | .deviceBusy => pure false
      | _ => .throw (if fault.isRoborock then .updateFailed .mapFailure else fault)

def asyncSetup : Co Polls Unit := do
  verifyApi
  refreshTrait .status
  .record Poller.attemptMap fun s => .mapAttempted s.utc true
  let discovered ← discoverHome
  .when discovered (.record Poller.homeDiscovered fun s => .homeDiscovered s.utc)

/-- The read of the background task and of the service. -/
def tryRefreshMapContent : Co Polls Bool :=
  .attempt
    (do
      let reply ← .await .refreshMapContent
      .record (fun s => s.receiveMap reply) fun _ => .mapReceived
      pure true)
    fun fault => if fault.isRoborock ∨ fault = .valueError then pure false else .throw fault

def noteMapPosition : Co Polls Bool := do
  let refreshed ← tryRefreshMapContent
  if refreshed then do
    .record Poller.noteMapPositionSample fun s => .positionNoted s.utc
    pure true
  else pure false

def asyncUpdateMapPosition : Co Polls Unit := do
  let _ ← noteMapPosition
  pure ()

def getVacuumCurrentPosition : Co Polls Unit := do
  let refreshed ← noteMapPosition
  let s ← .get
  if s.mapData = none then .throw (.homeAssistant .mapFailure)
  else if settings.urlRefused then .throw .valueError
  else match positionAnswer s.toCoordinator s.utc refreshed with
    | .error key => .throw (.homeAssistant key)
    | .ok answer => .record id fun _ => .answered answer

def program : Program Polls where
  body := fun
    | .firstRefresh => do
      asyncSetup
      let _ ← asyncUpdateData settings
      pure ()
    | .refresh => do
      let _ ← asyncUpdateData settings
      pure ()
    | .mapPosition => .guarded asyncUpdateMapPosition (.record Poller.mapPositionDone fun _ => .positionEnded)
    | .currentPosition => getVacuumCurrentPosition settings
  entry call := match call with
    | .mapPosition => false
    | _ => true
  outside := Poller.observe
  cancelledError := .cancelled

def run (device : PollStart) (schedule : List (Label Polls)) : Point Polls :=
  ((Loop.init (L := Polls) (settings.start device)).exec (program settings) schedule).conf.toPoint

end Polls

end RoborockPlus
