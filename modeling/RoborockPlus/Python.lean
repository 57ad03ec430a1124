import Mathlib.Data.Rat.Defs
import Mathlib.Algebra.Order.Ring.Rat
import Mathlib.Logic.Function.Basic

/-! The Python values the model handles. A finite float is the rational it
denotes, and no arithmetic result is rounded. -/
namespace RoborockPlus

inductive PyFloat
  | finite (value : ℚ)
  | infinite (negative : Bool)
  | nan
deriving DecidableEq

/-- `object` stands for any other value; only its emptiness can be asked for. -/
inductive PyValue
  | none
  | bool (value : Bool)
  | int (value : ℤ)
  | float (value : PyFloat)
  | str (value : String)
  | object (empty : Bool)
deriving DecidableEq

def PyValue.truthy : PyValue → Bool
  | .none => false
  | .bool value => value
  | .int value => value != 0
  | .float (.finite value) => value != 0
  | .float _ => true
  | .str value => value != ""
  | .object empty => !empty

def pyFloat : PyValue → Option PyFloat
  | .bool value => some (.finite (if value then 1 else 0))
  | .int value => if value.natAbs < 2^1024-2^970 then some (.finite value) else none
  | .float value => some value
  | _ => none

inductive Direction
  | toOpen
  | toClose
deriving DecidableEq

def Direction.opposite : Direction → Direction
  | .toOpen => .toClose
  | .toClose => .toOpen

/-- The keys of a garage binding. `threshold d` is `open_position` or `close_position`. -/
inductive BindingKey
  | enabled | allowEstimated | handoverConfirmed | controlledExitEnabled
  | taskDoorMode | coverEntityId | closePermissionEntity
  | source (d : Direction) | contact (d : Direction) | contactState (d : Direction)
  | travelSeconds (d : Direction) | threshold (d : Direction)
  | positionKind | travelMarginSeconds | contactSettleSeconds | positionSettleSeconds
  | operationTimeoutSeconds | dockSettleSeconds
  | controlledExitX | controlledExitY | controlledExitTimeoutSeconds
  | sequenceTimeoutMinutes | stageTimeoutMinutes
  | other (name : String)
deriving DecidableEq

/-- A binding is a mapping with arbitrary values; nothing here presumes it was validated. -/
abbrev Binding := BindingKey → Option PyValue

def Binding.get (binding : Binding) (key : BindingKey) : PyValue := (binding key).getD .none

def Binding.ofList (entries : List (BindingKey × PyValue)) : Binding :=
  fun key => (entries.find? fun entry => entry.1 == key).map (·.2)

inductive Reason
  | feedbackUnavailable | endpointConflict | restoredSnapshot | invalidConfiguration | invalidClock
  | endpointUnsettled | unverifiedPosition | commandRequired | travelInProgress
  | pauseNotObserved | openNotConfirmed | closeNotConfirmed | closeNotAllowed | doorCommandFailed
  | unsupportedGuardedCommand | invalidControlledExitTarget | controlUnloaded | controlledExitFailed
  | robotInTheWay | invalidStage | stageTimeout | stageFailed
  | other (text : String)
deriving DecidableEq

end RoborockPlus
