import RoborockPlus.Polling
import RoborockPlus.CleanWatch

/-! The numbers of the options form and those who read them. The form names each number it refuses;
what it has taken, the coordinator, the position sampling, the watch and the stuck detector read
without raising. How Python reads a float from a text is left open. -/
namespace RoborockPlus.Monitoring

inductive Field
  | v1LocalStatusPollInterval | v1MapPositionPollInterval | cleanCommandWatchTimeout | v1StuckWindow | v1StuckRadius
deriving DecidableEq

inductive FieldError
  | requiredField | invalidMonitoringNumber
deriving DecidableEq

inductive BaseError
  | missingMonitoringFields | invalidMonitoringFields
deriving DecidableEq

def fields : List Field :=
  [.v1LocalStatusPollInterval,.v1MapPositionPollInterval,.cleanCommandWatchTimeout,.v1StuckWindow,.v1StuckRadius]

def numericRanges : Field → ℤ × ℤ
  | .v1LocalStatusPollInterval => (1,60)
  | .v1MapPositionPollInterval => (0,300)
  | .cleanCommandWatchTimeout => (0,CleanWatch.maxTimeout)
  | .v1StuckWindow => (Stuck.minWindow,Stuck.maxWindow)
  | .v1StuckRadius => (Stuck.minRadius,Stuck.maxRadius)

/-- The fields of the options; nothing where a key is missing. -/
abbrev Options := Field → Option PyValue

section Form
variable (parse : String → Option PyFloat)

/-- `float(value)`; nothing when it raises. -/
def asFloat : PyValue → Option PyFloat
  | .str text => parse text
  | value => pyFloat value

def isBool : PyValue → Bool
  | .bool _ => true
  | _ => false

def check (field : Field) (value : PyValue) : Except FieldError ℤ :=
  if value = .none ∨ value = .str "" then .error .requiredField
  else
    match asFloat parse value with
    | some (.finite number) =>
      if isBool value ∨ number.den ≠ 1 ∨ ¬((numericRanges field).1 ≤ number ∧ number ≤ (numericRanges field).2) then
        .error .invalidMonitoringNumber
      else .ok number.num
    | _ => .error .invalidMonitoringNumber

variable (entered : Field → PyValue)

/-- A number that is refused leaves the option as it was. -/
def submit (options : Options) : Options := fun field =>
  match check parse field (entered field) with
  | .ok number => some (.int number)
  | .error _ => options field

def invalidFields : List (Field × FieldError) := fields.filterMap fun field =>
  match check parse field (entered field) with
  | .ok _ => none
  | .error reason => some (field,reason)

def baseError : Option BaseError :=
  let invalid := invalidFields parse entered
  if invalid = [] then none
  else if invalid.all fun item => item.2 = .requiredField then some .missingMonitoringFields
  else some .invalidMonitoringFields

/-- The forms of one flow, the latest last. -/
def submits (forms : List (Field → PyValue)) (options : Options) : Options := forms.foldl (fun options form => submit parse form options) options

end Form

/-- The value is the number, and a box may hold it. -/
structure Holds (parse : String → Option PyFloat) (field : Field) (value : PyValue) (number : ℤ) : Prop where
  reads : asFloat parse value = some (.finite number)
  usable : isBool value = false ∧ value ≠ .str ""
  within : (numericRanges field).1 ≤ number ∧ number ≤ (numericRanges field).2

section Checks
variable {parse : String → Option PyFloat} {field : Field} {value : PyValue} {number : ℤ} {entered : Field → PyValue} {options : Options}

theorem check_ok : check parse field value = .ok number ↔ Holds parse field value number := by
  unfold check
  constructor
  · intro checked
    split_ifs at checked with missing
    split at checked
    next found reads =>
      split_ifs at checked with refused
      simp only [not_or,not_not,Bool.not_eq_true] at refused missing
      obtain ⟨free,whole,low,high⟩ := refused
      obtain rfl := Except.ok.inj checked
      have same : ((found.num : ℤ) : ℚ) = found := Rat.den_eq_one_iff found |>.mp whole
      refine ⟨by rw [same]; exact reads,⟨free,missing.2⟩,?_⟩
      rw [← same] at low high
      exact ⟨by exact_mod_cast low,by exact_mod_cast high⟩
    next => exact nomatch checked
  · rintro ⟨reads,⟨free,some⟩,low,high⟩
    have missing : ¬(value = .none ∨ value = .str "") := by
      rintro (rfl | rfl)
      · exact nomatch reads
      · exact some rfl
    rw [if_neg missing,reads]
    dsimp only
    rw [if_neg]
    · exact congrArg Except.ok (Rat.num_intCast number)
    · simp only [not_or,not_not,Bool.not_eq_true]
      exact ⟨free,Rat.den_intCast number,by exact_mod_cast low,by exact_mod_cast high⟩

theorem submit_ok (holds : Holds parse field (entered field) number) : submit parse entered options field = some (.int number) := by
  unfold submit
  rw [check_ok.mpr holds]

theorem submit_refused (refused : ∀ number, ¬Holds parse field (entered field) number) :
    submit parse entered options field = options field := by
  unfold submit
  split
  next checked => exact absurd (check_ok.mp checked) (refused _)
  next => rfl

theorem mem_fields (field : Field) : field ∈ fields := by
  cases field <;> decide

theorem accepted_holds (accepted : invalidFields parse entered = []) (field : Field) : ∃ number, Holds parse field (entered field) number := by
  have spared := List.filterMap_eq_nil_iff.mp accepted field (mem_fields field)
  split at spared
  next number checked => exact ⟨number,check_ok.mp checked⟩
  next => exact nomatch spared

theorem mem_invalidFields {reason : FieldError} : (field,reason) ∈ invalidFields parse entered ↔ check parse field (entered field) = .error reason := by
  constructor
  · intro listed
    obtain ⟨other,_,found⟩ := List.mem_filterMap.mp listed
    split at found
    next => exact nomatch found
    next why checked =>
      obtain ⟨rfl,rfl⟩ := Prod.mk.inj (Option.some.inj found)
      exact checked
  · intro checked
    exact List.mem_filterMap.mpr ⟨field,mem_fields field,by rw [checked]⟩

theorem check_error (unusable : ∀ number, ¬Holds parse field value number) : ∃ reason, check parse field value = .error reason := by
  cases checked : check parse field value with
  | ok number => exact absurd (check_ok.mp checked) (unusable number)
  | error reason => exact ⟨reason,rfl⟩

theorem check_missing : check parse field value = .error .requiredField ↔ value = .none ∨ value = .str "" := by
  unfold check
  constructor
  · intro checked
    split_ifs at checked with missing
    · exact missing
    · split at checked
      · split_ifs at checked
        exact nomatch checked
      · exact nomatch checked
  · exact fun missing => if_pos missing

/-- The errors name exactly the fields without a usable number, and the base error says whether all of these are empty. -/
theorem form_errors (parse : String → Option PyFloat) (entered : Field → PyValue) :
    (∀ field, (∃ reason, (field,reason) ∈ invalidFields parse entered) ↔ ∀ number, ¬Holds parse field (entered field) number) ∧
      (baseError parse entered = none ↔ ∀ field, ∃ number, Holds parse field (entered field) number) ∧
      (baseError parse entered = some .missingMonitoringFields ↔ invalidFields parse entered ≠ [] ∧
        ∀ field, (entered field = .none ∨ entered field = .str "") ∨ ∃ number, Holds parse field (entered field) number) := by
  refine ⟨fun field => ?_,?_,?_⟩
  · constructor
    · rintro ⟨reason,listed⟩ number holds
      exact nomatch (mem_invalidFields.mp listed).symm.trans (check_ok.mpr holds)
    · intro unusable
      obtain ⟨reason,checked⟩ := check_error unusable
      exact ⟨reason,mem_invalidFields.mpr checked⟩
  · constructor
    · intro none
      have accepted : invalidFields parse entered = [] := by
        unfold baseError at none
        by_contra some
        simp only [if_neg some] at none
        split_ifs at none
      exact accepted_holds accepted
    · intro holds
      have accepted : invalidFields parse entered = [] := by
        refine List.eq_nil_iff_forall_not_mem.mpr fun item listed => ?_
        obtain ⟨number,held⟩ := holds item.1
        exact nomatch (mem_invalidFields.mp listed).symm.trans (check_ok.mpr held)
      exact if_pos accepted
  · have all : (invalidFields parse entered).all (fun item => item.2 = .requiredField) = true ↔
        ∀ field, (entered field = .none ∨ entered field = .str "") ∨ ∃ number, Holds parse field (entered field) number := by
      rw [List.all_eq_true]
      constructor
      · intro required field
        by_cases usable : ∃ number, Holds parse field (entered field) number
        · exact Or.inr usable
        · obtain ⟨reason,checked⟩ := check_error (not_exists.mp usable)
          obtain rfl : reason = .requiredField := of_decide_eq_true (required _ (mem_invalidFields.mpr checked))
          exact Or.inl (check_missing.mp checked)
      · intro every item listed
        have checked := mem_invalidFields.mp listed
        rcases every item.1 with missing | ⟨number,holds⟩
        · have reason := (check_missing.mpr missing).symm.trans checked
          exact decide_eq_true (Except.error.inj reason).symm
        · exact nomatch checked.symm.trans (check_ok.mpr holds)
    rw [← all]
    unfold baseError
    dsimp only
    split_ifs with none required
    · simp [none]
    · exact iff_of_true rfl ⟨none,required⟩
    · exact iff_of_false (by simp) (fun both => required both.2)

theorem poll_read (holds : Holds parse .v1LocalStatusPollInterval value number) :
    ∃ within, getV1LocalStatusPollInterval (some (.int number)) = .ok ⟨number,within⟩ :=
  ⟨holds.within,dif_pos holds.within⟩

theorem position_read (holds : Holds parse .v1MapPositionPollInterval value number) (official : Bool) :
    resolveMapPositionIntervals official (.int number) = if number = 0 then getMapPositionIntervals official
      else
        let active : ℚ := if official then max number 30 else number
        (active,max (active*6) 60) := by
  obtain ⟨low,high⟩ := holds.within
  change 0 ≤ number at low
  change number ≤ 300 at high
  unfold resolveMapPositionIntervals
  simp only [min_eq_left high]
  exact if_congr (by omega) rfl rfl

theorem watch_read (holds : Holds parse .cleanCommandWatchTimeout value number) :
    CleanWatch.resolveCleanCommandWatchTimeout (.int number) = some (if number = 0 then 0 else max 10 number) := by
  obtain ⟨low,high⟩ := holds.within
  change 0 ≤ number at low
  change number ≤ CleanWatch.maxTimeout at high
  unfold CleanWatch.resolveCleanCommandWatchTimeout
  change some (if number ≤ 0 then 0 else max 10 (min number CleanWatch.maxTimeout)) = _
  rw [min_eq_left high]
  exact congrArg some (if_congr (by omega) rfl rfl)

theorem stuck_read {windowValue radiusValue : PyValue} {window radius : ℤ} (first : Holds parse .v1StuckWindow windowValue window)
    (second : Holds parse .v1StuckRadius radiusValue radius) (enabled : Option PyValue) : ∃ resolved,
      Stuck.resolveStuckOptions enabled (.int window) (.int radius) = some resolved ∧ resolved.window = window ∧ resolved.radius = radius := by
  obtain ⟨lowWindow,highWindow⟩ := first.within
  obtain ⟨lowRadius,highRadius⟩ := second.within
  refine ⟨_,rfl,?_,?_⟩
  · exact (congrArg _ (min_eq_left highWindow)).trans (max_eq_right lowWindow)
  · exact (congrArg _ (min_eq_left highRadius)).trans (max_eq_right lowRadius)

/-- A form without an error is read back as it was entered, and no reader raises; only a watch of less than ten seconds
is made longer, and an official server is asked for the map no more than twice a minute. -/
theorem accepted_read_back (accepted : invalidFields parse entered = []) (stored : Options) (enabled : Option PyValue) :
    let options := submit parse entered stored
    ∃ number : Field → ℤ, (∀ field, Holds parse field (entered field) (number field)) ∧
      (∃ within, getV1LocalStatusPollInterval (options .v1LocalStatusPollInterval) = .ok ⟨number .v1LocalStatusPollInterval,within⟩) ∧
      (∀ official, resolveMapPositionIntervals official ((options .v1MapPositionPollInterval).getD (.int 0)) =
        if number .v1MapPositionPollInterval = 0 then getMapPositionIntervals official
        else
          let active : ℚ := if official then max (number .v1MapPositionPollInterval) 30 else number .v1MapPositionPollInterval
          (active,max (active*6) 60)) ∧
      CleanWatch.resolveCleanCommandWatchTimeout ((options .cleanCommandWatchTimeout).getD .none) =
        some (if number .cleanCommandWatchTimeout = 0 then 0 else max 10 (number .cleanCommandWatchTimeout)) ∧
      ∃ resolved, Stuck.resolveStuckOptions enabled ((options .v1StuckWindow).getD .none) ((options .v1StuckRadius).getD .none) = some resolved ∧
        resolved.window = number .v1StuckWindow ∧ resolved.radius = number .v1StuckRadius := by
  intro options
  choose number holds using accepted_holds accepted
  have stands (field : Field) : options field = some (.int (number field)) := submit_ok (holds field)
  refine ⟨number,holds,?_,fun official => ?_,?_,?_⟩
  · rw [stands]
    exact poll_read (holds .v1LocalStatusPollInterval)
  · rw [stands]
    exact position_read (holds .v1MapPositionPollInterval) official
  · rw [stands]
    exact watch_read (holds .cleanCommandWatchTimeout)
  · rw [stands,stands]
    exact stuck_read (holds .v1StuckWindow) (holds .v1StuckRadius) enabled

/-- Over any forms of a flow, right or wrong: each option is what the last form with a usable number for it has entered,
or what it was before. -/
theorem submits_last (forms : List (Field → PyValue)) (stored : Options) (field : Field) :
    (submits parse forms stored field = stored field ∧ ∀ form ∈ forms, ∀ number, ¬Holds parse field (form field) number) ∨
      ∃ before form later number, forms = before++form :: later ∧ Holds parse field (form field) number ∧
        (∀ other ∈ later, ∀ number, ¬Holds parse field (other field) number) ∧
        submits parse forms stored field = some (.int number) := by
  unfold submits
  induction forms using List.reverseRecOn with
  | nil => exact Or.inl ⟨rfl,by simp⟩
  | append_singleton forms last ih =>
    rw [List.foldl_append,List.foldl_cons,List.foldl_nil]
    by_cases usable : ∃ number, Holds parse field (last field) number
    · obtain ⟨number,holds⟩ := usable
      exact Or.inr ⟨forms,last,[],number,rfl,holds,by simp,submit_ok holds⟩
    · have refused : ∀ number, ¬Holds parse field (last field) number := not_exists.mp usable
      rw [submit_refused refused]
      rcases ih with ⟨same,never⟩ | ⟨before,form,later,number,rfl,holds,after,same⟩
      · refine Or.inl ⟨same,fun form inside => ?_⟩
        rcases List.mem_append.mp inside with old | new
        · exact never form old
        · exact List.mem_singleton.mp new ▸ refused
      · refine Or.inr ⟨before,form,later++[last],number,by simp,holds,fun other inside => ?_,same⟩
        rcases List.mem_append.mp inside with old | new
        · exact after other old
        · exact List.mem_singleton.mp new ▸ refused

end Checks

/-- Texts and whole floats are as good as integers. -/
def evening : Field → PyValue
  | .v1LocalStatusPollInterval => .int 5
  | .v1MapPositionPollInterval => .str "10"
  | .cleanCommandWatchTimeout => .float (.finite 5)
  | .v1StuckWindow => .int 120
  | .v1StuckRadius => .int 200

def digits (text : String) : Option PyFloat := if text = "10" then some (.finite 10) else none

theorem accepted_read_back_evening : invalidFields digits evening = [] ∧
    CleanWatch.resolveCleanCommandWatchTimeout ((submit digits evening (fun _ => none) .cleanCommandWatchTimeout).getD .none) = some 10 := by
  have accepted : invalidFields digits evening = [] := by decide +kernel
  refine ⟨accepted,?_⟩
  obtain ⟨number,holds,_,_,watch,_⟩ := accepted_read_back accepted (fun _ => none) none
  have five : number .cleanCommandWatchTimeout = 5 := by
    have reads : (5 : ℚ) = (number .cleanCommandWatchTimeout : ℚ) :=
      PyFloat.finite.inj (Option.some.inj (holds .cleanCommandWatchTimeout).reads)
    exact_mod_cast reads.symm
  rw [watch,five]
  rfl

end RoborockPlus.Monitoring
