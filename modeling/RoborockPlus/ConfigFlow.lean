import RoborockPlus.Ownership
import RoborockPlus.ZoneStore

/-! The options flow of a garage binding: three forms over one draft, the checks behind them,
and the form that an error brings back. -/
namespace RoborockPlus
open GarageConfig

namespace ConfigFlow

/-- A flow works on a copy of the options of its entry; the draft is of the selected robot. -/
structure OptionsFlow where
  entry : String
  options : Options
  garageDuid : Option String := none
  garageDraft : Option Binding := none

/-- `dict(…)` of what is stored for a robot; nothing when it raises. -/
def draftOf : Stored Binding → Option Binding
  | .mapping binding => some binding
  | .other value => if value ∈ [.str "",.object true] then some (fun _ => none) else none

def OptionsFlow.garageValues (flow : OptionsFlow) (duid : String) : Option Binding :=
  match flow.garageDraft,flow.options.garageBindings with
  | some draft,_ => some draft
  | none,.mapping bindings => draftOf ((bindings.lookup duid).getD (.mapping fun _ => none))
  | none,.other _ => none

/-- What the flow asks of the home. A cover has a state and its supported features. -/
structure Surroundings where
  devices : List String
  entries : List (String × Options)
  states : String → Option (String × PyValue) := fun _ => none

inductive GarageStep
  | garage
  | feedback
  | timing
deriving DecidableEq

/-- A field of a form. -/
structure Input where
  key : BindingKey
  required : Bool
  suggested : Option PyValue

structure Form where
  step : GarageStep
  errors : List (Option BindingKey × ConfigReason)
  inputs : List Input
  /-- The timeout and the longest wait, where the one is too short for the other. -/
  placeholders : Option (PyValue × ℚ)

def feedbackKeys : List BindingKey :=
  [.contact .toOpen,.contact .toClose,.contactState .toOpen,.contactState .toClose,.positionKind,.threshold .toOpen,.threshold .toClose]

/-- The fields with a selector of their own, and the values that they begin with. -/
def selectors : List (BindingKey × Option PyValue) :=
  [(.enabled,some (.bool false)),(.coverEntityId,none),(.taskDoorMode,some (.str "hold_open")),(.source .toOpen,none),
    (.source .toClose,none),(.contact .toOpen,none),(.contact .toClose,none),(.contactState .toOpen,none),
    (.contactState .toClose,none),(.positionKind,none),(.closePermissionEntity,none),(.allowEstimated,some (.bool false)),
    (.handoverConfirmed,some (.bool false)),(.controlledExitEnabled,some (.bool false))]

def rangedKeys : List BindingKey := numericKeys ++ [.threshold .toOpen,.threshold .toClose]

def formKeys : List BindingKey := selectors.map (·.1) ++ rangedKeys

def optionalKeys : List BindingKey :=
  [.allowEstimated,.handoverConfirmed,.controlledExitEnabled,.controlledExitX,.controlledExitY,.controlledExitTimeoutSeconds]

section Forms
variable (values : Binding)

/-- The suggestions beside the timeout, for what the chosen evidence needs. -/
def timingDefaults : List (BindingKey × PyValue) :=
  [(BindingKey.travelMarginSeconds,PyValue.int 10),(.contactSettleSeconds,.int 0),(.positionSettleSeconds,.int 2),
    (.dockSettleSeconds,.int 5)].filter fun item => requiredTimingFields values |>.contains item.1

def updated (input : Binding) : Binding := fun key => (input key).or (values key)

def knownWait (d : Direction) : ℚ :=
  match endpointWait (updated (Binding.ofList (timingDefaults values)) values) d with
  | .ok wait => wait
  | .error _ => 0

def suggestedTimingValues : List (BindingKey × PyValue) :=
  timingDefaults values ++
    [(.operationTimeoutSeconds,.int (max 90 ⌈max (max 0 (knownWait values .toOpen)) (knownWait values .toClose)+30⌉))]

def exitDefaults : List (BindingKey × PyValue) :=
  [(BindingKey.controlledExitX,PyValue.int 25696),(.controlledExitY,.int 26500),(.controlledExitTimeoutSeconds,.int 120)].filter
    fun item => (values item.1).isNone

def garageFeedbackFields : List BindingKey :=
  ([Direction.toOpen,.toClose].flatMap fun d =>
    if values.get (.source d) = .str "contact" then [.contact d,.contactState d] else []) ++
    if uses values "position" then [.positionKind,.threshold .toOpen,.threshold .toClose] else []

def garageFields : GarageStep → List BindingKey
  | .garage => [.enabled,.coverEntityId,.taskDoorMode,.source .toOpen,.source .toClose,.closePermissionEntity]
  | .feedback => garageFeedbackFields values
  | .timing => requiredTimingFields values ++ (if usesEstimate values then [.allowEstimated] else []) ++
      [.handoverConfirmed,.controlledExitEnabled] ++
      if (values.get .controlledExitEnabled).truthy then [.controlledExitX,.controlledExitY,.controlledExitTimeoutSeconds] else []

def field (step : GarageStep) (key : BindingKey) (default : Option PyValue) : Input where
  key := key
  required := (decide (step = .feedback) || decide (step = .timing)) && !optionalKeys.contains key
  suggested := if (values key).isSome ∧ blank (values.get key) = false then values key else default

/-- `f"{value:g}"` raises for anything but a number. -/
def isNumber : PyValue → Bool
  | .bool _ | .int _ | .float _ => true
  | _ => false

/-- The timeout and the wait that an error of this kind is explained with; nothing when that raises. -/
def timeoutHint : Option (PyValue × ℚ) :=
  match values .operationTimeoutSeconds,longestEndpointWait values with
  | some value,.ok wait => if isNumber value then some (value,wait) else none
  | _,_ => none

def timingSuggestions : GarageStep → List (BindingKey × PyValue)
  | .timing => exitDefaults values ++ suggestedTimingValues values
  | _ => []

def formInputs (step : GarageStep) : List Input :=
  selectors.map (fun item => field values step item.1 item.2) ++
    rangedKeys.map fun key =>
      field values step key (if (values key).isNone then (timingSuggestions values step).lookup key else none)

/-- Placeholders are only looked up for the one error that has them. -/
def explanation (errors : List (Option BindingKey × ConfigReason)) : Option (Option (PyValue × ℚ)) :=
  if errors.any fun item => item.2 = .operationTimeoutTooShort then (timeoutHint values).map some else some none

/-- Nothing when it raises. -/
def garageForm (step : GarageStep) (errors : List (Option BindingKey × ConfigReason)) (extraFields : List BindingKey) : Option Form :=
  let visible := garageFields values step ++ extraFields
  let inputs := (formInputs values step).filter fun input => visible.contains input.key
  (explanation values errors).map fun placeholders => ⟨step,errors,inputs,placeholders⟩

def garageErrorForm (error : GarageConfigError) : Option Form :=
  let errors := (none,error.reason) :: (error.field.map fun key => (some key,error.reason)).toList
  match error.field with
  | none => garageForm values .timing errors []
  | some key =>
    match [GarageStep.garage,.feedback,.timing].find? fun step => (garageFields values step).contains key with
    | some step => garageForm values step errors []
    -- a retained value can be rejected while its source is inactive
    | none => garageForm values (if feedbackKeys.contains key then .feedback else .timing) errors [key]

end Forms

section Steps
variable (around : Surroundings) (flow : OptionsFlow) (duid : String) (values : Binding)

/-- Pending options for the flow's own entry and stored options for all others. -/
def garageOwnershipEntries : List (String × Options) :=
  around.entries.map fun entry => (entry.1,if entry.1 = flow.entry then flow.options else entry.2)

/-- `OPEN` and `CLOSE` are the two lowest bits. -/
def opensAndCloses : PyValue → Bool
  | .int features => decide (features % 4 = 3)
  | _ => false

/-- An unknown cover passes, and so does one whose state is not known now. -/
def coverCommands (cover : PyValue) : Check :=
  match cover with
  | .str name =>
    match around.states name with
    | none => .ok ()
    | some (state,features) =>
      ensure (decide (state ∈ ["unknown","unavailable"]) || opensAndCloses features) .unsupportedCover (some .coverEntityId)
  | _ => .ok ()

/-- The options with the binding in them; nothing where there is no mapping to put it into. -/
def storeBinding (options : Options) (duid : String) (binding : Binding) : Option Options :=
  match options.garageBindings with
  | .mapping bindings => some {options with
      garageControlVersion := .int 1
      garageBindings := .mapping (PyDict.set duid (.mapping binding) bindings)}
  | .other _ => none

def saveGarageBinding : Except GarageConfigError (Option Options) := do
  let binding ← validateBinding values (around.devices.contains duid)
  if (binding.get .enabled).truthy then do
    coverCommands around (binding.get .coverEntityId)
    validateBindingOwnership binding duid flow.entry (garageOwnershipEntries around flow)
    pure (storeBinding flow.options duid binding)
  else pure (storeBinding flow.options duid binding)

def startsWithCover : PyValue → Bool
  | .str text => "cover.".toList.isPrefixOf text.toList
  | _ => false

def chosenSource (d : Direction) : Check := do
  ensure (values (.source d)).isSome .missingSafetyConfiguration (some (.source d))
  ensure (decide (values.get (.source d) ∈ evidenceSources)) .invalidEvidenceSource (some (.source d))

/-- The checks behind the first form; a disabled draft is saved at once, else another form follows. -/
def garageStep : Except GarageConfigError (Option (Option Options)) := do
  ensure (match (values .enabled).getD (.bool false) with | .bool _ => true | _ => false) .invalidBooleanValue (some .enabled)
  let _ ← validateBinding (Function.update values .enabled (some (.bool false))) true
  if (values.get .enabled).truthy = false then do
    let saved ← saveGarageBinding around flow duid values
    pure (some saved)
  else do
    ensure (values.get .coverEntityId).truthy .missingSafetyConfiguration (some .coverEntityId)
    ensure (startsWithCover (values.get .coverEntityId)) .invalidEntityReference (some .coverEntityId)
    ensure (decide ((values .taskDoorMode).getD (.str "hold_open") ∈ doorModes)) .invalidTaskDoorMode (some .taskDoorMode)
    [Direction.toOpen,.toClose].forM (chosenSource values)
    pure none

def chosenContact (d : Direction) : Check :=
  if values.get (.source d) = .str "contact" then
    ensure ((values.get (.contact d)).truthy && decide (values.get (.contactState d) ∈ contactStates))
      .invalidContactConfiguration (some (.contact d))
  else .ok ()

def feedbackStep : Check := do
  let _ ← validateBinding (Function.update values .enabled (some (.bool false))) true
  [Direction.toOpen,.toClose].forM (chosenContact values)
  if (garageFeedbackFields values).contains .positionKind then do
    ensure (decide (values.get .positionKind ∈ positionKinds)) .invalidPositionConfiguration (some .positionKind)
    [BindingKey.threshold .toOpen,.threshold .toClose].forM fun key =>
      ensure (values key).isSome .missingSafetyConfiguration (some key)
  else pure ()

/-- What a submitted form leads to. Nothing inside stands for an exception that is not caught. -/
inductive Reply
  | shows (form : Option Form)
  | creates (options : Option Options)

def asyncStepGarage : Reply :=
  match garageStep around flow duid values with
  | .error error => .shows (garageErrorForm values error)
  | .ok (some saved) => .creates saved
  | .ok none => .shows (garageForm values (if (garageFeedbackFields values).isEmpty then .timing else .feedback) [] [])

def asyncStepGarageFeedback : Reply :=
  match feedbackStep values with
  | .error error => .shows (garageErrorForm values error)
  | .ok () => .shows (garageForm values .timing [] [])

def asyncStepGarageTiming : Reply :=
  match saveGarageBinding around flow duid values with
  | .error error => .shows (garageErrorForm values error)
  | .ok saved => .creates saved

/-- Every error that can be raised on a draft, by the validation, behind a form or by the save. -/
inductive Raised (error : GarageConfigError) : Prop
  | validation (supported : Bool) (raised : validateBinding values supported = .error error)
  | garage (raised : garageStep around flow duid values = .error error)
  | feedback (raised : feedbackStep values = .error error)
  | save (raised : saveGarageBinding around flow duid values = .error error)

end Steps

/-- The form can be made and has an input for this field. -/
def Shows (form : Option Form) (key : BindingKey) : Prop := ∃ made, form = some made ∧ key ∈ made.inputs.map (·.key)

/-- What the form needs of an error: a field that it has, and values to explain it with. -/
structure Explicable (values : Binding) (error : GarageConfigError) : Prop where
  known : ∀ key ∈ error.field, key ∈ formKeys
  hinted : error.reason = .operationTimeoutTooShort → (timeoutHint values).isSome

/-- Whatever the check raises can be explained. -/
def Explains {α : Type} (values : Binding) (check : Except GarageConfigError α) : Prop := ∀ error, check = .error error → Explicable values error

section Checks
variable {α β : Type} {values binding : Binding} {key : BindingKey} {reason : ConfigReason} {holds : Bool}

theorem Explains.ok (value : α) : Explains values (.ok value : Except GarageConfigError α) := fun _ raised => nomatch raised

theorem Explains.bind {first : Except GarageConfigError α} {next : α → Except GarageConfigError β} (one : Explains values first)
    (rest : ∀ value, first = .ok value → Explains values (next value)) : Explains values (first >>= next) := by
  intro error raised
  cases read : first with
  | error other =>
    rw [read] at raised
    exact one error (read.trans (congrArg _ (Except.error.inj raised)))
  | ok value =>
    rw [read] at raised
    exact rest value read error raised

theorem Explains.forM {check : α → Check} {items : List α} (each : ∀ item ∈ items, Explains values (check item)) :
    Explains values (items.forM check) := by
  induction items with
  | nil => exact Explains.ok ()
  | cons item items ih =>
    obtain ⟨first,rest⟩ := List.forall_mem_cons.mp each
    exact first.bind (fun _ _ => ih rest)

theorem explains_ensure (known : key ∈ formKeys) (other : reason ≠ .operationTimeoutTooShort) :
    Explains values (ensure holds reason (some key)) := by
  intro error raised
  unfold ensure at raised
  split_ifs at raised
  obtain rfl := Except.error.inj raised
  exact ⟨fun same here => Option.some.inj here ▸ known,fun short => absurd short other⟩

theorem explains_number (known : key ∈ formKeys) : Explains values (GarageConfig.number binding key) := by
  intro error raised
  unfold GarageConfig.number at raised
  have plain {reason : ConfigReason} (other : reason ≠ .operationTimeoutTooShort) : Explicable values ⟨reason,some key⟩ :=
    ⟨fun same here => Option.some.inj here ▸ known,fun short => absurd short other⟩
  split at raised
  · obtain rfl := Except.error.inj raised
    exact plain (by decide)
  · split at raised
    · exact nomatch raised
    · obtain rfl := Except.error.inj raised
      exact plain (by decide)

theorem explains_settleWait (d : Direction) : Explains values (settleWait binding d) := by
  unfold settleWait
  split_ifs
  · exact explains_number (by decide)
  · exact explains_number (by decide)
  · exact Explains.ok 0

theorem explains_travelWait (d : Direction) : Explains values (travelWait binding d) := by
  have known : BindingKey.travelSeconds d ∈ formKeys := by cases d <;> decide
  unfold travelWait
  split_ifs
  · exact (explains_number known).bind (fun _ _ => (explains_number (by decide)).bind (fun _ _ => Explains.ok _))
  · exact Explains.ok 0

theorem explains_endpointWait (d : Direction) : Explains values (endpointWait binding d) := by
  have known : BindingKey.source d ∈ formKeys := by cases d <;> decide
  refine (explains_ensure known (by decide)).bind (fun _ _ => ?_)
  exact (explains_settleWait d).bind (fun _ _ => (explains_travelWait d).bind (fun _ _ => Explains.ok _))

theorem explains_suppliedNumber (known : key ∈ formKeys) : Explains values (suppliedNumber binding key) := by
  unfold suppliedNumber
  cases binding key with
  | none => exact Explains.ok ()
  | some value => exact (explains_number known).bind (fun _ _ => Explains.ok ())

theorem explains_suppliedEntity {entry : BindingKey × List String} (known : entry.1 ∈ formKeys) :
    Explains values (suppliedEntity binding entry) := by
  unfold suppliedEntity
  split_ifs
  · exact Explains.ok ()
  · exact explains_ensure known (by decide)

theorem explains_suppliedThresholds : Explains values (suppliedThresholds binding) := by
  unfold suppliedThresholds
  split_ifs
  · refine (explains_number (by decide)).bind (fun _ _ => (explains_number (by decide)).bind (fun _ _ => ?_))
    exact explains_ensure (by decide) (by decide)
  · exact Explains.ok ()

theorem explains_validateSuppliedFields : Explains values (validateSuppliedFields binding) := by
  unfold validateSuppliedFields
  refine (Explains.forM fun key here => explains_ensure ?_ (by decide)).bind (fun _ _ => ?_)
  · revert key
    decide
  refine (Explains.forM fun key here => explains_suppliedNumber ?_).bind (fun _ _ => ?_)
  · revert key
    decide
  refine (Explains.forM fun key here => explains_suppliedNumber ?_).bind (fun _ _ => ?_)
  · revert key
    decide
  refine explains_suppliedThresholds.bind (fun _ _ => ?_)
  refine (Explains.forM fun entry here => explains_suppliedEntity ?_).bind (fun _ _ => ?_)
  · revert entry
    decide
  refine (Explains.forM fun entry here => explains_ensure ?_ ?_).bind (fun _ _ => ?_)
  · revert entry
    decide
  · revert entry
    decide
  · exact explains_ensure (by decide) (by decide)

theorem explains_validateEndpoint (d : Direction) : Explains values (validateEndpoint binding d) := by
  have source : BindingKey.source d ∈ formKeys := by cases d <;> decide
  have contact : BindingKey.contact d ∈ formKeys := by cases d <;> decide
  refine (explains_ensure source (by decide)).bind (fun _ _ => (explains_ensure source (by decide)).bind (fun _ _ => ?_))
  split_ifs
  · exact (explains_ensure contact (by decide)).bind (fun _ _ => explains_ensure contact (by decide))
  · exact Explains.ok ()

theorem explains_validatePosition : Explains values (validatePosition binding) := by
  unfold validatePosition
  split_ifs
  · refine (explains_ensure (by decide) (by decide)).bind (fun _ _ => ?_)
    refine (explains_number (by decide)).bind (fun _ _ => (explains_number (by decide)).bind (fun _ _ => ?_))
    exact explains_ensure (by decide) (by decide)
  · exact Explains.ok ()

theorem explains_validateTimeout : Explains binding (validateTimeout binding) := by
  intro error raised
  have wait : Explains binding (longestEndpointWait binding) :=
    (explains_endpointWait .toOpen).bind (fun _ _ => (explains_endpointWait .toClose).bind (fun _ _ => Explains.ok _))
  refine wait.bind (fun longest found => (explains_number (by decide)).bind (fun timeout given => ?_)) error raised
  intro error short
  unfold ensure at short
  split_ifs at short
  obtain rfl := Except.error.inj short
  refine ⟨fun key here => Option.some.inj here ▸ by decide,fun _ => ?_⟩
  obtain ⟨value,there,read⟩ := number_accepts given
  have numeric : isNumber value = true := by
    cases value with
    | int | float => rfl
    | none | bool | str | object => exact nomatch read
  have hint : timeoutHint binding = some (value,longest) := by
    rw [timeoutHint,there,found]
    exact if_pos numeric
  exact Option.isSome_of_eq_some hint

theorem explains_requiredTimings : Explains values ((requiredTimingFields binding).forM fun key => do
    let _ ← GarageConfig.number binding key) := by
  refine Explains.forM (fun key here => ?_)
  have every : ∀ key ∈ numericKeys, key ∈ formKeys := by decide
  have known := every key (List.mem_of_mem_filter here)
  exact (explains_number known).bind (fun _ _ => Explains.ok ())

theorem explains_validateControlledExit : Explains values (validateControlledExit binding) := by
  unfold validateControlledExit
  split_ifs
  · refine Explains.forM (fun key here => ?_)
    have known : key ∈ formKeys := by
      revert key
      decide
    exact (explains_ensure known (by decide)).bind (fun _ _ => (explains_number known).bind (fun _ _ => Explains.ok ()))
  · exact Explains.ok ()

theorem explains_validateEnabled : Explains binding (validateEnabled binding) := by
  refine (explains_ensure (by decide) (by decide)).bind (fun _ _ => ?_)
  refine Explains.bind ((explains_ensure (by decide) (by decide)).bind (fun _ _ => explains_ensure (by decide) (by decide))) (fun _ _ => ?_)
  refine (explains_validateEndpoint .toOpen).bind (fun _ _ => (explains_validateEndpoint .toClose).bind (fun _ _ => ?_))
  refine explains_validatePosition.bind (fun _ _ => (explains_ensure (by decide) (by decide)).bind (fun _ _ => ?_))
  refine explains_requiredTimings.bind (fun _ _ => explains_validateTimeout.bind (fun _ _ => ?_))
  refine (explains_suppliedEntity (by decide)).bind (fun _ _ => (explains_ensure (by decide) (by decide)).bind (fun _ _ => ?_))
  exact explains_validateControlledExit

theorem timeoutHint_congr (same : ∀ key, key ≠ .enabled → key ≠ .taskDoorMode → binding key = values key) :
    timeoutHint binding = timeoutHint values := by
  have source (d : Direction) : binding.get (.source d) = values.get (.source d) := by
    unfold Binding.get
    rw [same _ (by simp) (by simp)]
  have kind : binding.get .positionKind = values.get .positionKind := by
    unfold Binding.get
    rw [same _ (by simp) (by simp)]
  have numbers (key : BindingKey) (one : key ≠ .enabled) (two : key ≠ .taskDoorMode) :
      GarageConfig.number binding key = GarageConfig.number values key := by
    unfold GarageConfig.number
    rw [same key one two]
  have travels (d : Direction) : travels binding d = travels values d := by
    unfold GarageConfig.travels
    rw [source,kind]
  have wait (d : Direction) : endpointWait binding d = endpointWait values d := by
    unfold endpointWait settleWait travelWait
    rw [source,travels,numbers _ (by simp) (by simp),numbers _ (by simp) (by simp),numbers _ (by simp) (by simp),
      numbers _ (by simp) (by simp)]
  unfold timeoutHint longestEndpointWait
  rw [wait,wait,same _ (by simp) (by simp)]

theorem setDefault_other {other : BindingKey} {value : PyValue} (apart : key ≠ other) : setDefault other value values key = values key := by
  rw [setDefault_get,if_neg apart]

theorem explains_unsupported : Explains values (ensure holds .unsupportedRobot none) := by
  intro error raised
  unfold ensure at raised
  split_ifs at raised
  obtain rfl := Except.error.inj raised
  exact ⟨fun key here => (nomatch here),fun short => (nomatch short)⟩

theorem explains_validateBinding {supported : Bool} : Explains values (validateBinding values supported) := by
  unfold validateBinding
  refine explains_validateSuppliedFields.bind (fun _ _ => ?_)
  split_ifs
  · exact Explains.ok _
  refine explains_unsupported.bind (fun _ _ => Explains.bind (fun error raised => ?_) (fun _ _ => Explains.ok _))
  obtain ⟨known,hinted⟩ := explains_validateEnabled error raised
  refine ⟨known,fun short => ?_⟩
  rw [← timeoutHint_congr (fun key one two => (setDefault_other two).trans (setDefault_other one))]
  exact hinted short

end Checks

section Steps
variable {values : Binding} {around : Surroundings} {flow : OptionsFlow} {duid : String} {key : BindingKey}

theorem explains_ownership {binding : Binding} {entry : String} {entries : List (String × Options)} :
    Explains values (validateBindingOwnership binding duid entry entries) := by
  unfold validateBindingOwnership
  split_ifs
  · exact Explains.ok ()
  refine Explains.forM (fun item _ => ?_)
  cases item.2.garageBindings with
  | other value =>
    intro error raised
    obtain rfl := Except.error.inj raised
    exact ⟨fun key here => (nomatch here),fun short => (nomatch short)⟩
  | mapping others => exact Explains.forM (fun _ _ => explains_ensure (by decide) (by decide))

theorem explains_coverCommands {cover : PyValue} : Explains values (coverCommands around cover) := by
  unfold coverCommands
  split
  · split
    · exact Explains.ok ()
    · exact explains_ensure (by decide) (by decide)
  · exact Explains.ok ()

theorem explains_save : Explains values (saveGarageBinding around flow duid values) := by
  refine explains_validateBinding.bind (fun binding _ => ?_)
  split_ifs
  · exact explains_coverCommands.bind (fun _ _ => explains_ownership.bind (fun _ _ => Explains.ok _))
  · exact Explains.ok _

theorem explains_disabled : Explains values (validateBinding (Function.update values .enabled (some (.bool false))) true) := by
  intro error raised
  refine ⟨(explains_validateBinding error raised).known,fun short => ?_⟩
  have hinted := (explains_validateBinding error raised).hinted short
  rwa [timeoutHint_congr (fun key one _ => Function.update_of_ne one _ _)] at hinted

theorem explains_garageStep : Explains values (garageStep around flow duid values) := by
  refine (explains_ensure (by decide) (by decide)).bind (fun _ _ => explains_disabled.bind (fun _ _ => ?_))
  split_ifs
  · exact explains_save.bind (fun _ _ => Explains.ok _)
  refine (explains_ensure (by decide) (by decide)).bind (fun _ _ => (explains_ensure (by decide) (by decide)).bind (fun _ _ => ?_))
  refine (explains_ensure (by decide) (by decide)).bind (fun _ _ => Explains.bind (Explains.forM (fun d _ => ?_)) (fun _ _ => Explains.ok _))
  have known : BindingKey.source d ∈ formKeys := by cases d <;> decide
  exact (explains_ensure known (by decide)).bind (fun _ _ => explains_ensure known (by decide))

theorem explains_feedbackStep : Explains values (feedbackStep values) := by
  refine explains_disabled.bind (fun _ _ => Explains.bind (Explains.forM (fun d _ => ?_)) (fun _ _ => ?_))
  · have known : BindingKey.contact d ∈ formKeys := by cases d <;> decide
    unfold chosenContact
    split_ifs
    · exact explains_ensure known (by decide)
    · exact Explains.ok ()
  split_ifs
  · refine (explains_ensure (by decide) (by decide)).bind (fun _ _ => Explains.forM (fun key here => explains_ensure ?_ (by decide)))
    revert key
    decide
  · exact Explains.ok ()

theorem formInputs_keys {step : GarageStep} : (formInputs values step).map (·.key) = formKeys := by
  simp [formInputs,formKeys,Function.comp_def,field]

theorem garageForm_made (step : GarageStep) (extra : List BindingKey) {errors : List (Option BindingKey × ConfigReason)}
    (hinted : (∃ item ∈ errors, item.2 = .operationTimeoutTooShort) → (timeoutHint values).isSome) :
    ∃ form, garageForm values step errors extra = some form ∧
      form.inputs = (formInputs values step).filter fun input => (garageFields values step ++ extra).contains input.key := by
  have made : ∃ placeholders, explanation values errors = some placeholders := by
    unfold explanation
    split_ifs with short
    · obtain ⟨item,member,same⟩ := List.any_eq_true.mp short
      obtain ⟨hint,found⟩ := Option.isSome_iff_exists.mp (hinted ⟨item,member,of_decide_eq_true same⟩)
      exact ⟨some hint,by rw [found]; rfl⟩
    · exact ⟨none,rfl⟩
  obtain ⟨placeholders,made⟩ := made
  exact ⟨_,congrArg (Option.map _) made,rfl⟩

theorem shows_garageForm {step : GarageStep} {errors : List (Option BindingKey × ConfigReason)} {extra : List BindingKey}
    (known : key ∈ formKeys) (visible : key ∈ garageFields values step ++ extra)
    (hinted : (∃ item ∈ errors, item.2 = .operationTimeoutTooShort) → (timeoutHint values).isSome) :
    Shows (garageForm values step errors extra) key := by
  obtain ⟨form,made,inputs⟩ := garageForm_made step extra hinted
  have listed : key ∈ (formInputs values step).map (·.key) := formInputs_keys.symm ▸ known
  obtain ⟨input,member,rfl⟩ := List.mem_map.mp listed
  refine ⟨form,made,List.mem_map_of_mem ?_⟩
  rw [inputs]
  exact List.mem_filter.mpr ⟨member,by simpa using visible⟩

theorem Explicable.hints {error : GarageConfigError} (explicable : Explicable values error) :
    (∃ item ∈ (none,error.reason) :: (error.field.map fun key => (some key,error.reason)).toList,
      item.2 = .operationTimeoutTooShort) → (timeoutHint values).isSome := by
  rintro ⟨item,member,short⟩
  apply explicable.hinted
  rcases List.mem_cons.mp member with rfl | named
  · exact short
  · obtain ⟨key,_,rfl⟩ := Option.map_eq_some_iff.mp (Option.mem_toList.mp named)
    exact short

theorem garageErrorForm_made {error : GarageConfigError} (explicable : Explicable values error) : (garageErrorForm values error).isSome := by
  have made (step : GarageStep) (extra : List BindingKey) : (garageForm values step ((none,error.reason) ::
      (error.field.map fun key => (some key,error.reason)).toList) extra).isSome := by
    obtain ⟨form,made,_⟩ := garageForm_made step extra explicable.hints
    exact Option.isSome_of_eq_some made
  unfold garageErrorForm
  dsimp only
  split
  · exact made _ _
  · split
    · exact made _ _
    · exact made _ _

/-- No submission of a draft ends in an exception instead of a form. -/
theorem steps_show_forms {form : Option Form} {reply : Reply} (replied : reply = .shows form)
    (step : reply ∈ [asyncStepGarage around flow duid values,asyncStepGarageFeedback values,asyncStepGarageTiming around flow duid values]) :
    form.isSome := by
  have none_short : (∃ item ∈ ([] : List (Option BindingKey × ConfigReason)), item.2 = .operationTimeoutTooShort) →
      (timeoutHint values).isSome := by simp
  have plain (step : GarageStep) : (garageForm values step [] []).isSome := by
    obtain ⟨form,made,_⟩ := garageForm_made step [] none_short
    exact Option.isSome_of_eq_some made
  subst replied
  simp only [List.mem_cons,List.not_mem_nil,or_false] at step
  rcases step with first | second | third
  · unfold asyncStepGarage at first
    split at first
    next error raised => exact Reply.shows.inj first ▸ garageErrorForm_made (explains_garageStep error raised)
    next => exact nomatch first
    next => exact Reply.shows.inj first ▸ plain _
  · unfold asyncStepGarageFeedback at second
    split at second
    next error raised => exact Reply.shows.inj second ▸ garageErrorForm_made (explains_feedbackStep error raised)
    next => exact Reply.shows.inj second ▸ plain _
  · unfold asyncStepGarageTiming at third
    split at third
    next error raised => exact Reply.shows.inj third ▸ garageErrorForm_made (explains_save error raised)
    next => exact nomatch third

theorem Raised.explicable {error : GarageConfigError} (raised : Raised around flow duid values error) : Explicable values error := by
  cases raised with
  | validation supported raised => exact explains_validateBinding error raised
  | garage raised => exact explains_garageStep error raised
  | feedback raised => exact explains_feedbackStep error raised
  | save raised => exact explains_save error raised

/-- No error leads to a form without the field that it rejects. -/
theorem garage_error_form_shows_field {error : GarageConfigError} (raised : Raised around flow duid values error)
    (named : error.field = some key) : Shows (garageErrorForm values error) key := by
  have known := raised.explicable.known key named
  have hinted := raised.explicable.hints
  unfold garageErrorForm
  simp only [named] at hinted ⊢
  split
  next step found =>
    have shown := List.find?_some found
    exact shows_garageForm known (List.mem_append_left _ (by simpa using shown)) hinted
  next => exact shows_garageForm known (List.mem_append_right _ List.mem_cons_self) hinted

/-- A contact kept from before the source was changed. -/
def retainedContact : Binding := Binding.ofList [(.source .toOpen,.str "timed"),(.contact .toOpen,.str "light.lamp")]

theorem retainedContact_shown : garageFeedbackFields retainedContact = [] ∧
    Shows (garageErrorForm retainedContact ⟨.invalidEntityReference,some (.contact .toOpen)⟩) (.contact .toOpen) := by
  have raised : Raised ⟨[],[],fun _ => none⟩ ⟨"entry",{},some "robot",some retainedContact⟩ "robot" retainedContact
      ⟨.invalidEntityReference,some (.contact .toOpen)⟩ := .validation true rfl
  exact ⟨by decide,garage_error_form_shows_field raised rfl⟩

end Steps

end ConfigFlow

end RoborockPlus
