import RoborockPlus.Async.Coroutine
import RoborockPlus.Async.Wp
import RoborockPlus.Async.History
import RoborockPlus.Async.Creation
import RoborockPlus.Async.Reach
import RoborockPlus.Async.Effects
import RoborockPlus.Async.Ledger
import RoborockPlus.Binary.Bytes
import RoborockPlus.Storage.Register
import RoborockPlus.Iteration.While
import RoborockPlus.Geometry.Axis
import RoborockPlus.Temporal.Since
import RoborockPlus.Text.Decimal
import RoborockPlus.DoorEvidence
import RoborockPlus.GarageState
import RoborockPlus.GarageDoor
import RoborockPlus.GarageCommands
import RoborockPlus.GarageRuntime
import RoborockPlus.Footprint
import RoborockPlus.Refresh
import RoborockPlus.Operations
import RoborockPlus.Sequence
import RoborockPlus.Departure
import RoborockPlus.Freshness
import RoborockPlus.Pause
import RoborockPlus.Start
import RoborockPlus.Crossing
import RoborockPlus.Exclusion
import RoborockPlus.Turn
import RoborockPlus.Redocking
import RoborockPlus.Ending
import RoborockPlus.Return
import RoborockPlus.DoorMode
import RoborockPlus.UserPause
import RoborockPlus.GarageConfig
import RoborockPlus.DoorHistory
import RoborockPlus.Settling
import RoborockPlus.Unloading
import RoborockPlus.Succession
import RoborockPlus.TaskFlag
import RoborockPlus.Confirming
import RoborockPlus.Usability
import RoborockPlus.Ownership
import RoborockPlus.DangerZone
import RoborockPlus.ZoneStore
import RoborockPlus.MapRender
import RoborockPlus.ServerUrl
import RoborockPlus.MapSampling
import RoborockPlus.StageService
import RoborockPlus.StageCompletion
import RoborockPlus.ControlledExit
import RoborockPlus.MapPatch
import RoborockPlus.MapWalk
import RoborockPlus.Migration
import RoborockPlus.StuckTracker
import RoborockPlus.ConfigFlow
import RoborockPlus.FlowOwnership
import RoborockPlus.MapImage
import RoborockPlus.CorrectedImage
import RoborockPlus.Motion
import RoborockPlus.Permission
import RoborockPlus.ZoneSuggestion
import RoborockPlus.ZoneEditor
import RoborockPlus.ResumeLogic
import RoborockPlus.Polling
import RoborockPlus.PollSteps
import RoborockPlus.PollTruth
import RoborockPlus.PollCadence
import RoborockPlus.PositionService
import RoborockPlus.StuckReport
import RoborockPlus.CleanWatch
import RoborockPlus.Monitoring
import RoborockPlus.Warrant
import RoborockPlus.CacheStore
import RoborockPlus.SignIn
import RoborockPlus.Segments
