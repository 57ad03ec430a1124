import RoborockPlus.DoorEvidence

/-! Validation of a garage binding. Every check is made in the order of the source
and names the field it rejects; nothing is coerced, and only the switch and the door
mode have defaults. -/
namespace RoborockPlus

inductive ConfigReason
  | invalidBinding | invalidBooleanValue | invalidNumericValue | missingSafetyConfiguration
  | invalidPositionThresholds | invalidEntityReference | invalidTaskDoorMode | invalidEvidenceSource
  | invalidContactConfiguration | invalidPositionConfiguration | duplicateEndpoint
  | unsupportedRobot | estimatedRiskNotAccepted | operationTimeoutTooShort | handoverRequired
  | missingControlledExitTarget | unsupportedConfigurationVersion | duplicateBinding | unsupportedCover
deriving DecidableEq

structure GarageConfigError where
  reason : ConfigReason
  field : Option BindingKey := none
deriving DecidableEq

namespace GarageConfig

abbrev Check := Except GarageConfigError Unit

def ensure (holds : Bool) (reason : ConfigReason) (field : Option BindingKey) : Check :=
  if holds then .ok () else .error ⟨reason,field⟩

/-- The keys of `NUMERIC_RANGES`, in its order. -/
def numericKeys : List BindingKey :=
  [.travelSeconds .toOpen,.travelSeconds .toClose,.travelMarginSeconds,.contactSettleSeconds,.positionSettleSeconds,
    .operationTimeoutSeconds,.dockSettleSeconds,.controlledExitX,.controlledExitY,.controlledExitTimeoutSeconds]

def numericRange : BindingKey → ℚ × ℚ
  | .travelSeconds _ => (1,600)
  | .travelMarginSeconds => (0,120)
  | .contactSettleSeconds | .positionSettleSeconds => (0,60)
  | .operationTimeoutSeconds => (1,1800)
  | .dockSettleSeconds => (1,300)
  | .controlledExitX | .controlledExitY => (0,65535)
  | .controlledExitTimeoutSeconds => (10,300)
  | _ => (0,100)

def number (binding : Binding) (key : BindingKey) : Except GarageConfigError ℚ :=
  match binding key with
  | none => .error ⟨.missingSafetyConfiguration,some key⟩
  | some value =>
    match RoborockPlus.number value (numericRange key).1 (some (numericRange key).2) with
    | some n => .ok n
    | none => .error ⟨.invalidNumericValue,some key⟩

def entityChar (c : Char) : Bool := decide (('a' ≤ c ∧ c ≤ 'z') ∨ ('0' ≤ c ∧ c ≤ '9') ∨ c = '_')

/-- The text before the dot, where the value is a full match of `[a-z0-9_]+\.[a-z0-9_]+`. -/
def entityDomain (value : String) : Option String :=
  match value.toList.span entityChar with
  | (domain,'.' :: name) =>
    if domain ≠ [] ∧ name ≠ [] ∧ name.all entityChar then some (String.ofList domain) else none
  | _ => none

def isEntity (domains : List String) : PyValue → Bool
  | .str value => (entityDomain value).any (domains.contains ·)
  | _ => false

def entity (binding : Binding) (domains : List String) (key : BindingKey) : Check :=
  ensure (isEntity domains (binding.get key)) .invalidEntityReference (some key)

def evidenceSources : List PyValue := [.str "contact",.str "position",.str "timed"]

def contactStates : List PyValue := [.str "on",.str "off"]

def positionKinds : List PyValue := [.str "measured",.str "estimated"]

def doorModes : List PyValue := [.str "hold_open",.str "after_exit"]

def permissionDomains : List String := ["input_boolean","binary_sensor"]

def blank (value : PyValue) : Bool := decide (value ∈ [.none,.str ""])

section
variable (binding : Binding)

/-- The source of this endpoint is inferred from the travel time of the door. -/
def travels (d : Direction) : Bool :=
  binding.get (.source d) == .str "timed" ||
    binding.get (.source d) == .str "position" && binding.get .positionKind == .str "estimated"

def uses (source : String) : Bool :=
  binding.get (.source .toOpen) == .str source || binding.get (.source .toClose) == .str source

def requiredTimingFields : List BindingKey :=
  numericKeys.filter fun
    | .operationTimeoutSeconds | .dockSettleSeconds => true
    | .contactSettleSeconds => uses binding "contact"
    | .positionSettleSeconds => uses binding "position"
    | .travelSeconds d => travels binding d
    | .travelMarginSeconds => travels binding .toOpen || travels binding .toClose
    | _ => false

def settleWait (d : Direction) : Except GarageConfigError ℚ :=
  if binding.get (.source d) = .str "contact" then number binding .contactSettleSeconds
  else if binding.get (.source d) = .str "position" then number binding .positionSettleSeconds
  else .ok 0

def travelWait (d : Direction) : Except GarageConfigError ℚ :=
  if travels binding d then do
    let travel ← number binding (.travelSeconds d)
    let margin ← number binding .travelMarginSeconds
    pure (travel+margin)
  else .ok 0

def endpointWait (d : Direction) : Except GarageConfigError ℚ := do
  ensure (decide (binding.get (.source d) ∈ evidenceSources)) .invalidEvidenceSource (some (.source d))
  let settle ← settleWait binding d
  let travel ← travelWait binding d
  pure (settle+travel)

def longestEndpointWait : Except GarageConfigError ℚ := do
  let opened ← endpointWait binding .toOpen
  let closed ← endpointWait binding .toClose
  pure (max opened closed)

def suppliedBoolean (key : BindingKey) : Check :=
  ensure (match binding key with | none | some (.bool _) => true | _ => false) .invalidBooleanValue (some key)

def suppliedNumber (key : BindingKey) : Check :=
  match binding key with
  | none => .ok ()
  | some _ => do
    let _ ← number binding key
    pure ()

def suppliedThresholds : Check :=
  if (binding (.threshold .toOpen)).isSome ∧ (binding (.threshold .toClose)).isSome then do
    let closed ← number binding (.threshold .toClose)
    let opened ← number binding (.threshold .toOpen)
    ensure (decide (closed < opened)) .invalidPositionThresholds (some (.threshold .toOpen))
  else .ok ()

def suppliedEntity (field : BindingKey × List String) : Check :=
  if blank (binding.get field.1) then .ok () else entity binding field.2 field.1

def suppliedChoice (field : BindingKey × List PyValue × ConfigReason) : Check :=
  ensure (blank (binding.get field.1) || decide (binding.get field.1 ∈ field.2.1)) field.2.2 (some field.1)

def suppliedEndpoints : Check :=
  ensure (!((binding.get (.contact .toOpen)).truthy &&
    binding.get (.contact .toOpen) == binding.get (.contact .toClose))) .duplicateEndpoint (some (.contact .toClose))

/-- Supplied values are checked whether or not the draft is complete. -/
def validateSuppliedFields : Check := do
  [.enabled,.allowEstimated,.handoverConfirmed,.controlledExitEnabled].forM (suppliedBoolean binding)
  numericKeys.forM (suppliedNumber binding)
  [.threshold .toOpen,.threshold .toClose].forM (suppliedNumber binding)
  suppliedThresholds binding
  [(.coverEntityId,["cover"]),(.closePermissionEntity,permissionDomains),(.contact .toOpen,["binary_sensor"]),
    (.contact .toClose,["binary_sensor"])].forM (suppliedEntity binding)
  [(.taskDoorMode,doorModes,.invalidTaskDoorMode),(.source .toOpen,evidenceSources,.invalidEvidenceSource),
    (.source .toClose,evidenceSources,.invalidEvidenceSource),
    (.contactState .toOpen,contactStates,.invalidContactConfiguration),
    (.contactState .toClose,contactStates,.invalidContactConfiguration),
    (.positionKind,positionKinds,.invalidPositionConfiguration)].forM (suppliedChoice binding)
  suppliedEndpoints binding

def validateCover : Check := do
  ensure (binding .coverEntityId).isSome .missingSafetyConfiguration (some .coverEntityId)
  entity binding ["cover"] .coverEntityId

def validateEndpoint (d : Direction) : Check := do
  ensure (binding (.source d)).isSome .missingSafetyConfiguration (some (.source d))
  ensure (decide (binding.get (.source d) ∈ evidenceSources)) .invalidEvidenceSource (some (.source d))
  if binding.get (.source d) = .str "contact" then do
    ensure ((binding.get (.contact d)).truthy && decide (binding.get (.contactState d) ∈ contactStates))
      .invalidContactConfiguration (some (.contact d))
    entity binding ["binary_sensor"] (.contact d)
  else pure ()

def validatePosition : Check :=
  if uses binding "position" then do
    ensure (decide (binding.get .positionKind ∈ positionKinds)) .invalidPositionConfiguration (some .positionKind)
    let closed ← number binding (.threshold .toClose)
    let opened ← number binding (.threshold .toOpen)
    ensure (decide (closed < opened)) .invalidPositionThresholds (some (.threshold .toOpen))
  else pure ()

def usesEstimate : Bool :=
  uses binding "timed" || uses binding "position" && binding.get .positionKind == .str "estimated"

def validateTimeout : Check := do
  let longest ← longestEndpointWait binding
  let timeout ← number binding .operationTimeoutSeconds
  ensure (decide (longest < timeout)) .operationTimeoutTooShort (some .operationTimeoutSeconds)

def exitNumber (key : BindingKey) : Check := do
  ensure (binding key).isSome .missingControlledExitTarget (some key)
  let _ ← number binding key

def validateControlledExit : Check :=
  if (binding.get .controlledExitEnabled).truthy then
    [.controlledExitX,.controlledExitY,.controlledExitTimeoutSeconds].forM (exitNumber binding)
  else .ok ()

def validateEnabled : Check := do
  ensure (decide (binding.get .taskDoorMode ∈ doorModes)) .invalidTaskDoorMode (some .taskDoorMode)
  validateCover binding
  validateEndpoint binding .toOpen
  validateEndpoint binding .toClose
  validatePosition binding
  ensure (!usesEstimate binding || (binding.get .allowEstimated).truthy) .estimatedRiskNotAccepted (some .allowEstimated)
  (requiredTimingFields binding).forM fun key => do let _ ← number binding key
  validateTimeout binding
  suppliedEntity binding (.closePermissionEntity,permissionDomains)
  ensure (binding.get .handoverConfirmed).truthy .handoverRequired (some .handoverConfirmed)
  validateControlledExit binding

end

def setDefault (key : BindingKey) (value : PyValue) (binding : Binding) : Binding :=
  if (binding key).isSome then binding else Function.update binding key (some value)

/-- A disabled draft is stored as it is, however incomplete. -/
def validateBinding (binding : Binding) (supported : Bool) : Except GarageConfigError Binding := do
  let result := setDefault .enabled (.bool false) binding
  validateSuppliedFields result
  if (result.get .enabled).truthy = false then pure result
  else do
    ensure supported .unsupportedRobot none
    let result := setDefault .taskDoorMode (.str "hold_open") result
    validateEnabled result
    pure result

section Accepts
variable {α β ε : Type} {binding raw : Binding} {key : BindingKey}

theorem bind_accepts {first : Except ε α} {next : α → Except ε β} {result : β} :
    first >>= next = .ok result ↔ ∃ value, first = .ok value ∧ next value = .ok result := by
  cases first with
  | error error => simp [bind,Except.bind]
  | ok value => simp [bind,Except.bind]

theorem ensure_accepts {holds : Bool} {reason : ConfigReason} {field : Option BindingKey} {value : Unit} :
    ensure holds reason field = .ok value ↔ holds = true := by
  cases holds <;> simp [ensure]

theorem forM_accepts {check : α → Except ε Unit} {items : List α} {value : Unit} :
    items.forM check = .ok value ↔ ∀ item ∈ items, check item = .ok () := by
  induction items with
  | nil => simp [pure,Except.pure]
  | cons item items ih =>
    change (check item >>= fun _ => items.forM check) = .ok value ↔ _
    rw [bind_accepts,List.forall_mem_cons]
    constructor
    · rintro ⟨_,first,rest⟩
      exact ⟨first,ih.mp rest⟩
    · exact fun ⟨first,rest⟩ => ⟨(),first,ih.mpr rest⟩

theorem number_accepts {n : ℚ} (accepted : number binding key = .ok n) :
    ∃ value, binding key = some value ∧
      RoborockPlus.number value (numericRange key).1 (some (numericRange key).2) = some n := by
  unfold number at accepted
  rcases found : binding key with _ | value
  · simp [found] at accepted
  · refine ⟨value,rfl,?_⟩
    rcases read : RoborockPlus.number value (numericRange key).1 (some (numericRange key).2) with _ | m
    · simp [found,read] at accepted
    · simpa [found,read] using accepted

theorem number_given {n : ℚ} (found : number binding key = .ok n) :
    RoborockPlus.number (binding.get key) (numericRange key).1 (some (numericRange key).2) = some n := by
  obtain ⟨value,given,read⟩ := number_accepts found
  rw [Binding.get,given]
  exact read

theorem uses_source {d : Direction} {source : String} (selected : binding.get (.source d) = .str source) :
    uses binding source = true := by
  cases d <;> simp [uses,selected]

theorem setDefault_get (key other : BindingKey) (value : PyValue) (binding : Binding) :
    setDefault key value binding other =
      if other = key then some ((binding key).getD value) else binding other := by
  unfold setDefault
  by_cases same : other = key
  · subst same
    rcases found : binding other with _ | value
    · simp
    · simp [found]
  · rw [if_neg same]
    split
    · rfl
    · rw [Function.update_of_ne same]

theorem suppliedBoolean_accepts (accepted : suppliedBoolean binding key = .ok ())
    (truthy : (binding.get key).truthy = true) : binding.get key = .bool true := by
  have held := ensure_accepts.mp accepted
  unfold Binding.get at truthy ⊢
  rcases found : binding key with _ | value
  · simp [found,PyValue.truthy] at truthy
  · cases value with
    | bool value => simpa [found,PyValue.truthy] using truthy
    | _ => simp [found] at held

/-- What an enabled binding is known to have once it is accepted. -/
structure Accepted (binding : Binding) : Prop where
  doorMode : binding.get .taskDoorMode ∈ doorModes
  cover : isEntity ["cover"] (binding.get .coverEntityId) = true
  source : ∀ d, binding.get (.source d) ∈ evidenceSources
  contact : ∀ d, binding.get (.source d) = .str "contact" →
    binding.get (.contactState d) ∈ contactStates ∧ isEntity ["binary_sensor"] (binding.get (.contact d)) = true
  distinct : (binding.get (.contact .toOpen)).truthy = true →
    binding.get (.contact .toOpen) ≠ binding.get (.contact .toClose)
  position : uses binding "position" = true → binding.get .positionKind ∈ positionKinds ∧
    ∃ closed opened, number binding (.threshold .toClose) = .ok closed ∧
      number binding (.threshold .toOpen) = .ok opened ∧ closed < opened
  estimate : usesEstimate binding = true → (binding.get .allowEstimated).truthy = true
  timing : ∀ key ∈ requiredTimingFields binding, ∃ n, number binding key = .ok n
  timeout : ∃ longest timeout, longestEndpointWait binding = .ok longest ∧
    number binding .operationTimeoutSeconds = .ok timeout ∧ longest < timeout
  permission : blank (binding.get .closePermissionEntity) = true ∨
    isEntity permissionDomains (binding.get .closePermissionEntity) = true
  handover : binding.get .handoverConfirmed = .bool true

theorem suppliedEntity_accepts {field : BindingKey × List String} (accepted : suppliedEntity binding field = .ok ()) :
    blank (binding.get field.1) = true ∨ isEntity field.2 (binding.get field.1) = true := by
  unfold suppliedEntity at accepted
  split_ifs at accepted with empty
  · exact Or.inl empty
  · exact Or.inr (ensure_accepts.mp accepted)

theorem validateEndpoint_accepts {d : Direction} (accepted : validateEndpoint binding d = .ok ()) :
    binding.get (.source d) ∈ evidenceSources ∧ (binding.get (.source d) = .str "contact" →
      binding.get (.contactState d) ∈ contactStates ∧ isEntity ["binary_sensor"] (binding.get (.contact d)) = true) := by
  obtain ⟨_,_,accepted⟩ := bind_accepts.mp accepted
  obtain ⟨_,known,accepted⟩ := bind_accepts.mp accepted
  refine ⟨of_decide_eq_true (ensure_accepts.mp known),fun contact => ?_⟩
  rw [if_pos contact] at accepted
  obtain ⟨_,stated,reference⟩ := bind_accepts.mp accepted
  have stated := ((Bool.and_eq_true _ _).mp (ensure_accepts.mp stated)).2
  exact ⟨of_decide_eq_true stated,ensure_accepts.mp reference⟩

theorem validatePosition_accepts (accepted : validatePosition binding = .ok ()) (used : uses binding "position" = true) :
    binding.get .positionKind ∈ positionKinds ∧ ∃ closed opened, number binding (.threshold .toClose) = .ok closed ∧
      number binding (.threshold .toOpen) = .ok opened ∧ closed < opened := by
  unfold validatePosition at accepted
  rw [if_pos used] at accepted
  obtain ⟨_,kind,accepted⟩ := bind_accepts.mp accepted
  obtain ⟨closed,low,accepted⟩ := bind_accepts.mp accepted
  obtain ⟨opened,high,apart⟩ := bind_accepts.mp accepted
  exact ⟨of_decide_eq_true (ensure_accepts.mp kind),closed,opened,low,high,of_decide_eq_true (ensure_accepts.mp apart)⟩

theorem validateSuppliedFields_accepts (accepted : validateSuppliedFields binding = .ok ()) :
    suppliedBoolean binding .handoverConfirmed = .ok () ∧ suppliedEndpoints binding = .ok () := by
  obtain ⟨_,booleans,rest⟩ := bind_accepts.mp accepted
  obtain ⟨_,_,rest⟩ := bind_accepts.mp rest
  obtain ⟨_,_,rest⟩ := bind_accepts.mp rest
  obtain ⟨_,_,rest⟩ := bind_accepts.mp rest
  obtain ⟨_,_,rest⟩ := bind_accepts.mp rest
  obtain ⟨_,_,apart⟩ := bind_accepts.mp rest
  exact ⟨forM_accepts.mp booleans _ (by simp),apart⟩

theorem validateEnabled_accepts (handed : suppliedBoolean binding .handoverConfirmed = .ok ())
    (apart : suppliedEndpoints binding = .ok ()) (accepted : validateEnabled binding = .ok ()) : Accepted binding := by
  obtain ⟨_,mode,accepted⟩ := bind_accepts.mp accepted
  obtain ⟨_,cover,accepted⟩ := bind_accepts.mp accepted
  obtain ⟨_,opens,accepted⟩ := bind_accepts.mp accepted
  obtain ⟨_,closes,accepted⟩ := bind_accepts.mp accepted
  obtain ⟨_,position,accepted⟩ := bind_accepts.mp accepted
  obtain ⟨_,estimate,accepted⟩ := bind_accepts.mp accepted
  obtain ⟨_,timing,accepted⟩ := bind_accepts.mp accepted
  obtain ⟨_,timeout,accepted⟩ := bind_accepts.mp accepted
  obtain ⟨_,permission,accepted⟩ := bind_accepts.mp accepted
  obtain ⟨_,handover,_⟩ := bind_accepts.mp accepted
  have endpoint (d : Direction) : validateEndpoint binding d = .ok () := by cases d <;> assumption
  obtain ⟨_,_,reference⟩ := bind_accepts.mp cover
  obtain ⟨longest,waits,timeout⟩ := bind_accepts.mp timeout
  obtain ⟨seconds,given,later⟩ := bind_accepts.mp timeout
  refine ⟨of_decide_eq_true (ensure_accepts.mp mode),ensure_accepts.mp reference,
    fun d => (validateEndpoint_accepts (endpoint d)).1,fun d => (validateEndpoint_accepts (endpoint d)).2,?_,
    validatePosition_accepts position,?_,?_,⟨longest,seconds,waits,given,of_decide_eq_true (ensure_accepts.mp later)⟩,
    suppliedEntity_accepts permission,?_⟩
  · intro present same
    have distinct := ensure_accepts.mp apart
    rw [present,same] at distinct
    simp at distinct
  · intro used
    have risk := ensure_accepts.mp estimate
    simpa [used] using risk
  · intro key member
    obtain ⟨n,found,_⟩ := bind_accepts.mp (forM_accepts.mp timing key member)
    exact ⟨n,found⟩
  · exact suppliedBoolean_accepts handed (ensure_accepts.mp handover)

/-- An accepted binding is the given one with the two defaults, and an enabled one has
passed every check. -/
theorem validateBinding_accepts {supported : Bool} (accepted : validateBinding raw supported = .ok binding)
    (enabled : (binding.get .enabled).truthy = true) :
    binding = setDefault .taskDoorMode (.str "hold_open") (setDefault .enabled (.bool false) raw) ∧ Accepted binding := by
  obtain ⟨_,supplied,rest⟩ := bind_accepts.mp accepted
  obtain ⟨handed,apart⟩ := validateSuppliedFields_accepts supplied
  split at rest
  next off =>
    obtain rfl := Except.ok.inj rest
    exact absurd (enabled.symm.trans off) (by simp)
  next =>
    obtain ⟨_,_,rest⟩ := bind_accepts.mp rest
    obtain ⟨_,passed,rest⟩ := bind_accepts.mp rest
    obtain rfl := Except.ok.inj rest
    refine ⟨rfl,validateEnabled_accepts ?_ ?_ passed⟩
    · unfold suppliedBoolean at handed ⊢
      rw [setDefault_get,if_neg (by simp)]
      exact handed
    · unfold suppliedEndpoints Binding.get at apart ⊢
      simpa only [setDefault_get,reduceCtorEq,if_false] using apart

theorem validateBinding_passes (enabled : (raw .enabled).isSome) (mode : (raw .taskDoorMode).isSome)
    (on : (raw.get .enabled).truthy = true) (supplied : validateSuppliedFields raw = .ok ())
    (passed : validateEnabled raw = .ok ()) : validateBinding raw true = .ok raw := by
  have switched : setDefault .enabled (.bool false) raw = raw := if_pos enabled
  have moded : setDefault .taskDoorMode (.str "hold_open") raw = raw := if_pos mode
  refine bind_accepts.mpr ⟨(),switched.symm ▸ supplied,?_⟩
  rw [switched,if_neg (by simp [on])]
  refine bind_accepts.mpr ⟨(),rfl,?_⟩
  rw [moded]
  exact bind_accepts.mpr ⟨(),passed,rfl⟩

end Accepts

end GarageConfig

def enabledBinding (mode : String) : Binding := Binding.ofList
  [(.enabled,.bool true),(.handoverConfirmed,.bool true),(.taskDoorMode,.str mode),(.coverEntityId,.str "cover.garage"),
    (.source .toOpen,.str "contact"),(.contact .toOpen,.str "binary_sensor.open"),(.contactState .toOpen,.str "on"),
    (.source .toClose,.str "contact"),(.contact .toClose,.str "binary_sensor.closed"),(.contactState .toClose,.str "on"),
    (.contactSettleSeconds,.int 0),(.operationTimeoutSeconds,.int 90),(.dockSettleSeconds,.int 5)]

end RoborockPlus
