import RoborockPlus.ServerUrl

/-! Signing in to an account, and signing in to it again. Any number of flows are under way at a
time; each answers one form after another, and what the account's server says to it is left open. -/
namespace RoborockPlus.SignIn
open ServerUrl

/-- What the server's client raises; any other exception, and one that no handler sees. -/
inductive Fault
  | accountDoesNotExist | url | invalidEmail | tooFrequentCodeRequests | invalidCode | roborock
  | exception | cancelled
deriving DecidableEq

inductive FlowError
  | invalidUrlFormat | invalidEmail | unknownUrl | invalidEmailFormat | tooFrequentCodeRequests
  | invalidCode | invalidEmailOrRegion | unknownRoborock | unknown
deriving DecidableEq

inductive ErrorField
  | base | roborockServerUrl
deriving DecidableEq

inductive FlowStep
  | user | customUrl | code | reauthConfirm
deriving DecidableEq

inductive Region
  | auto | us | eu | ru | cn | custom
deriving DecidableEq

def Region.name : Region → String
  | .auto => "auto"
  | .us => "us"
  | .eu => "eu"
  | .ru => "ru"
  | .cn => "cn"
  | .custom => "custom"

/-- A client without a base URL finds the server of its account. -/
structure Client where
  username : String
  baseUrl : Option String
deriving DecidableEq

/-- `default`: the URL that the form begins with. -/
structure Form where
  step : FlowStep
  errors : List (ErrorField × FlowError)
  default : Option String

structure Entry (U : Type) where
  uniqueId : Option String
  username : String
  userData : U
  baseUrl : String
deriving DecidableEq

/-- What was asked of a server. -/
inductive Ask (U : Type)
  | requested (client : Client) (accepted : Bool)
  | login (client : Client) (code : String) (userData : Option U)
  | located (client : Client) (baseUrl : String)

inductive AbortReason
  | alreadyInProgress | alreadyConfigured | alreadyConfiguredAccount | wrongAccount
deriving DecidableEq

inductive Input
  | user (username : String) (region : Region)
  | customUrl (url : String)
  | code (code : String)
  | confirm

/-- `refused`: the input is not one of the form that is open. -/
inductive Answer (U : Type)
  | form (form : Form)
  | created (entry : Entry U)
  | updated (userData : U)
  | aborted (reason : AbortReason)
  | raised
  | refused

/-- What a submission is told: by the account's server, and of the other flows and entries. -/
structure Home (U : Type) where
  requestCode : Except Fault Unit
  codeLogin : Except Fault U
  baseUrl : Except Fault String
  inProgress : List String
  configured : List String

/-- A flow signs in again to the entry that is its source. -/
structure Flow (U : Type) where
  source : Option ℕ := none
  username : Option String := none
  client : Option Client := none
  uniqueId : Option String := none
  step : FlowStep
  finished : Bool := false
  asked : List (Ask U) := []

def officialUrl (region : Region) : String := "https://" ++ region.name ++ "iot.roborock.com"

def defaultServerUrl : String := "https://usiot.roborock.com"

/-- Nothing where the code request raises. -/
def requestErrors : Except Fault Unit → Option (List (ErrorField × FlowError))
  | .ok () => some []
  | .error .accountDoesNotExist => some [(.base,.invalidEmail)]
  | .error .url => some [(.base,.unknownUrl)]
  | .error .invalidEmail => some [(.base,.invalidEmailFormat)]
  | .error .tooFrequentCodeRequests => some [(.base,.tooFrequentCodeRequests)]
  | .error .invalidCode | .error .roborock => some [(.base,.unknownRoborock)]
  | .error .exception => some [(.base,.unknown)]
  | .error .cancelled => none

def loginErrors : Fault → Option (List (ErrorField × FlowError))
  | .invalidCode => some [(.base,.invalidCode)]
  | .accountDoesNotExist => some [(.base,.invalidEmailOrRegion)]
  | .url | .invalidEmail | .tooFrequentCodeRequests | .roborock => some [(.base,.unknownRoborock)]
  | .exception => some [(.base,.unknown)]
  | .cancelled => none

namespace Flow
variable {U : Type} (f : Flow U)

def showForm (form : Form) : Flow U × Answer U := ({f with step := form.step},.form form)

def abort (reason : AbortReason) : Flow U × Answer U := ({f with finished := true},.aborted reason)

def named : Bool := f.username.any (· != "")

/-- `async_step_code` without an input, and its assertions. -/
def asyncStepCode : Flow U × Answer U := if f.client.isSome && f.named then f.showForm ⟨.code,[],none⟩ else (f,.raised)

/-- `_request_code` and what follows it in each of its callers. -/
def requestCode (client : Client) (home : Home U) (form : List (ErrorField × FlowError) → Form) : Flow U × Answer U :=
  let f := {f with client := some client, asked := .requested client home.requestCode.isOk :: f.asked}
  match requestErrors home.requestCode with
  | none => (f,.raised)
  | some [] => f.asyncStepCode
  | some errors => f.showForm (form errors)

def asyncStepUser (home : Home U) (username : String) (region : Region) : Flow U × Answer U :=
  let f := {f with username := some username}
  match region with
  | .custom => if f.named then f.showForm ⟨.customUrl,[],some defaultServerUrl⟩ else (f,.raised)
  | .auto => f.requestCode ⟨username,none⟩ home fun errors => ⟨.user,errors,none⟩
  | region => f.requestCode ⟨username,some (officialUrl region)⟩ home fun errors => ⟨.user,errors,none⟩

def asyncStepCustomUrl (lib : UrlLib) (home : Home U) (url : String) : Flow U × Answer U :=
  match f.username with
  | none | some "" => (f,.raised)
  | some username =>
    match isValidServerUrl lib url with
    | .error _ => (f,.raised)
    | .ok false => f.showForm ⟨.customUrl,[(.roborockServerUrl,.invalidUrlFormat)],some url⟩
    | .ok true => f.requestCode ⟨username,some (normalizeServerUrl url)⟩ home fun errors => ⟨.customUrl,errors,some url⟩

def asyncStepReauthConfirm (home : Home U) : Flow U × Answer U :=
  match f.client with
  | none => (f,.raised)
  | some client => f.requestCode client home fun errors => ⟨.reauthConfirm,errors,none⟩

def createEntry (home : Home U) (client : Client) (username : String) (userData : U) : Flow U × Answer U :=
  match home.baseUrl with
  | .error _ => (f,.raised)
  | .ok baseUrl =>
    ({f with finished := true, asked := .located client baseUrl :: f.asked},.created ⟨f.uniqueId,username,userData,baseUrl⟩)

/-- The flow has the user data. `entry` is the one it signs in to again, unless that was removed. -/
def signedIn (rruid : U → String) (entry : Option (Entry U)) (home : Home U) (client : Client) (username : String) (userData : U) :
    Flow U × Answer U :=
  if home.inProgress.contains (rruid userData) then f.abort .alreadyInProgress
  else
    let f := {f with uniqueId := some (rruid userData)}
    match f.source, entry with
    | some _, none => (f,.raised)
    | some _, some entry =>
      if f.uniqueId ≠ entry.uniqueId then f.abort .wrongAccount else ({f with finished := true},.updated userData)
    | none, _ =>
      if home.configured.contains (rruid userData) then f.abort .alreadyConfiguredAccount
      else f.createEntry home client username userData

def asyncStepCodeInput (rruid : U → String) (entry : Option (Entry U)) (home : Home U) (code : String) : Flow U × Answer U :=
  match f.client, f.username with
  | some client, some username =>
    if username = "" then (f,.raised)
    else
      let f := {f with asked := .login client code home.codeLogin.toOption :: f.asked}
      match home.codeLogin with
      | .ok userData => f.signedIn rruid entry home client username userData
      | .error fault =>
        match loginErrors fault with
        | none => (f,.raised)
        | some errors => f.showForm ⟨.code,errors,none⟩
  | _, _ => (f,.raised)

/-- The form that is open gets an input. -/
def submit (lib : UrlLib) (rruid : U → String) (entry : Option (Entry U)) (home : Home U) (input : Input) : Flow U × Answer U :=
  match f.step, input with
  | .user, .user username region => f.asyncStepUser home username region
  | .customUrl, .customUrl url => f.asyncStepCustomUrl lib home url
  | .code, .code code => f.asyncStepCodeInput rruid entry home code
  | .reauthConfirm, .confirm => f.asyncStepReauthConfirm home
  | _, _ => (f,.refused)

/-- `async_step_reauth`; nothing when it raises. -/
def reauth (index : ℕ) (entry : Entry U) : Option (Flow U) :=
  if entry.username = "" then none
  else some {
    source := some index, username := some entry.username, client := some ⟨entry.username,some entry.baseUrl⟩, step := .reauthConfirm}

end Flow

/-- The entries and flows of a home, by the numbers they were given. -/
structure Registry (U : Type) where
  entries : ℕ → Option (Entry U)
  entryCount : ℕ
  flows : ℕ → Option (Flow U) := fun _ => none
  flowCount : ℕ := 0

inductive Step (U : Type)
  | user
  | dhcp (known : Bool)
  | reauth (entry : ℕ)
  | submit (flow : ℕ) (home : Home U) (input : Input)
  | removed (entry : ℕ)

namespace Registry
variable {U : Type} (r : Registry U)

def addFlow (flow : Flow U) : Registry U := {r with
  flows := Function.update r.flows r.flowCount (some flow), flowCount := r.flowCount+1}

def setFlow (index : ℕ) (flow : Flow U) : Registry U := {r with flows := Function.update r.flows index (some flow)}

def addEntry (entry : Entry U) : Registry U := {r with
  entries := Function.update r.entries r.entryCount (some entry), entryCount := r.entryCount+1}

/-- `async_update_reload_and_abort`, with new user data. -/
def updateEntry (index : ℕ) (userData : U) : Registry U := {r with
  entries := Function.update r.entries index ((r.entries index).map fun entry => {entry with userData := userData})}

@[simp] theorem updateEntry_entries (index : ℕ) (userData : U) : (r.updateEntry index userData).entries =
    Function.update r.entries index ((r.entries index).map fun entry => {entry with userData := userData}) := rfl

def finish (source : Option ℕ) : Answer U → Registry U
  | .created entry => r.addEntry entry
  | .updated userData => match source with
    | some index => r.updateEntry index userData
    | none => r
  | _ => r

def source (flow : Flow U) : Option (Entry U) := flow.source.bind r.entries

def step (lib : UrlLib) (rruid : U → String) (r : Registry U) : Step U → Registry U
  | .user => r.addFlow {step := .user}
  | .dhcp known => if known then r else r.addFlow {step := .user}
  | .reauth entry => match (r.entries entry).bind (Flow.reauth entry) with
    | none => r
    | some flow => r.addFlow flow
  | .submit index home input => match r.flows index with
    | none => r
    | some flow =>
      if flow.finished then r
      else
        let (next,answer) := flow.submit lib rruid (r.source flow) home input
        (r.setFlow index next).finish flow.source answer
  | .removed entry => {r with entries := Function.update r.entries entry none}

def run (lib : UrlLib) (rruid : U → String) (r : Registry U) (steps : List (Step U)) : Registry U :=
  steps.foldl (step lib rruid) r

end Registry

section Flows
variable {U : Type} {lib : UrlLib} {rruid : U → String} {f g : Flow U} {entry : Option (Entry U)} {home : Home U} {client : Client}

/-- The servers that a sign-in may turn to. -/
def Sited (lib : UrlLib) (client : Client) : Prop :=
  client.baseUrl = none ∨ (∃ region ∈ [Region.us,.eu,.ru,.cn], client.baseUrl = some (officialUrl region)) ∨
    ∃ url, isValidServerUrl lib url = .ok true ∧ client.baseUrl = some (normalizeServerUrl url)

/-- A code was asked for, the server has agreed, and since then only this code was tried, with the same client. -/
def Coded (client : Client) (asked : List (Ask U)) : Prop :=
  ∃ tries older, asked = tries++.requested client true :: older ∧ ∀ ask ∈ tries, ∃ code userData, ask = .login client code userData

theorem Coded.login {asked : List (Ask U)} (coded : Coded client asked) (code : String) (userData : Option U) :
    Coded client (.login client code userData :: asked) := by
  obtain ⟨tries,older,rfl,only⟩ := coded
  exact ⟨.login client code userData :: tries,older,rfl,List.forall_mem_cons.mpr ⟨⟨code,userData,rfl⟩,only⟩⟩

/-- What a flow's client and forms have to do with each other. -/
structure Tied (lib : UrlLib) (f : Flow U) : Prop where
  signing : f.step = .user ∨ f.step = .customUrl → f.source = none
  confirming : f.step = .reauthConfirm → f.source ≠ none ∧ ∃ client, f.client = some client ∧ f.username = some client.username
  coded : f.finished = false → f.step = .code → ∃ client, f.client = some client ∧ f.username = some client.username ∧
    (f.source = none → Sited lib client) ∧ Coded client f.asked

def Answer.done : Answer U → Bool
  | .created _ | .updated _ => true
  | _ => false

/-- The answer of a step that asks for a code. -/
structure Requests (lib : UrlLib) (f : Flow U) (client : Client) (result : Flow U × Answer U) : Prop where
  tied : Tied lib result.1
  source : result.1.source = f.source
  client : result.1.client = some client
  username : result.1.username = f.username
  step : result.1.step = f.step ∨ result.1.step = .code
  undone : result.2.done = false

theorem requested_ok {answer : Except Fault Unit} (quiet : requestErrors answer = some []) : answer.isOk = true := by
  cases answer with
  | ok => rfl
  | error fault => cases fault <;> simp [requestErrors] at quiet

theorem requests {form : List (ErrorField × FlowError) → Form} (tied : Tied lib f) (open_ : f.step ≠ .code)
    (named : f.username = some client.username) (sited : f.source = none → Sited lib client) (back : ∀ errors, (form errors).step = f.step) :
    Requests lib f client (f.requestCode client home form) := by
  have waits (g : Flow U) (source : g.source = f.source) (step : g.step = f.step) (same : g.client = some client)
      (username : g.username = f.username) : Tied lib g :=
    ⟨fun signing => source.trans (tied.signing (step ▸ signing)),
      fun confirming => ⟨source ▸ (tied.confirming (step ▸ confirming)).1,client,same,username.trans named⟩,
      fun _ coded => absurd (step.symm.trans coded) open_⟩
  unfold Flow.requestCode
  dsimp only
  split
  next => exact ⟨waits _ rfl rfl rfl rfl,rfl,rfl,rfl,Or.inl rfl,rfl⟩
  next quiet =>
    unfold Flow.asyncStepCode
    split
    next =>
      refine ⟨⟨by simp [Flow.showForm],by simp [Flow.showForm],fun _ _ => ⟨client,rfl,named,sited,[],f.asked,?_,by simp⟩⟩,rfl,rfl,rfl,Or.inr rfl,rfl⟩
      rw [requested_ok quiet]
      rfl
    next => exact ⟨waits _ rfl rfl rfl rfl,rfl,rfl,rfl,Or.inl rfl,rfl⟩
  next errors _ _ => exact ⟨waits _ rfl (back errors) rfl rfl,rfl,rfl,rfl,Or.inl (back errors),rfl⟩

/-- The user data of the entry came with a code from the account and the server that the entry names, and it is of the
account that the entry is kept for. -/
def Vouched (lib : UrlLib) (rruid : U → String) (entry : Entry U) (asked : List (Ask U)) : Prop :=
  entry.uniqueId = some (rruid entry.userData) ∧ ∃ client code older, entry.username = client.username ∧ Coded client older ∧
    (Sited lib client ∧ asked = .located client entry.baseUrl :: .login client code (some entry.userData) :: older ∨
      client.baseUrl = some entry.baseUrl ∧ asked = .login client code (some entry.userData) :: older)

/-- What comes of one submission. -/
structure Submitted (lib : UrlLib) (rruid : U → String) (entry : Option (Entry U)) (f : Flow U) (result : Flow U × Answer U) : Prop where
  tied : Tied lib result.1
  source : result.1.source = f.source
  again : f.source ≠ none → result.1.username = f.username ∧ result.1.client = f.client
  created : ∀ added, result.2 = .created added → result.1.finished = true ∧ Vouched lib rruid added result.1.asked
  updated : ∀ userData, result.2 = .updated userData → result.1.finished = true ∧ f.source ≠ none ∧
    (∀ kept ∈ entry, kept.uniqueId = some (rruid userData)) ∧
    ∃ client code older, f.client = some client ∧ f.username = some client.username ∧ Coded client older ∧
      result.1.asked = .login client code (some userData) :: older

theorem Submitted.quiet {result : Flow U × Answer U} (tied : Tied lib result.1) (source : result.1.source = f.source)
    (again : f.source ≠ none → result.1.username = f.username ∧ result.1.client = f.client) (undone : result.2.done = false) :
    Submitted lib rruid entry f result where
  tied := tied
  source := source
  again := again
  created added same := by
    rw [same] at undone
    exact nomatch undone
  updated userData same := by
    rw [same] at undone
    exact nomatch undone

theorem Requests.submitted {result : Flow U × Answer U} (requests : Requests lib f client result)
    (again : f.source ≠ none → f.client = some client) : Submitted lib rruid entry f result :=
  .quiet requests.tied requests.source (fun present => ⟨requests.username,requests.client.trans (again present).symm⟩) requests.undone

theorem submitted_user (tied : Tied lib f) (opened : f.step = .user) (username : String) (region : Region) :
    Submitted lib rruid entry f (f.asyncStepUser home username region) := by
  have first : f.source = none := tied.signing (Or.inl opened)
  have fresh : Tied lib {f with username := some username} :=
    ⟨fun _ => first,fun confirming => (nomatch opened.symm.trans confirming),fun _ coded => (nomatch opened.symm.trans coded)⟩
  have request (baseUrl : Option String) (sited : Sited lib ⟨username,baseUrl⟩) : Submitted lib rruid entry f
      (({f with username := some username} : Flow U).requestCode ⟨username,baseUrl⟩ home fun errors => ⟨.user,errors,none⟩) := by
    have asked : Requests lib {f with username := some username} ⟨username,baseUrl⟩
        (Flow.requestCode _ ⟨username,baseUrl⟩ home fun errors => ⟨.user,errors,none⟩) :=
      requests fresh (fun code => nomatch opened.symm.trans code) rfl (fun _ => sited) fun _ => opened.symm
    exact .quiet asked.tied asked.source (fun present => absurd first present) asked.undone
  cases region with
  | auto => exact request none (Or.inl rfl)
  | custom =>
    unfold Flow.asyncStepUser
    dsimp only
    split
    · exact .quiet ⟨fun _ => first,nofun,nofun⟩ rfl (fun present => absurd first present) rfl
    · exact .quiet fresh rfl (fun present => absurd first present) rfl
  | us | eu | ru | cn => exact request _ (Or.inr (Or.inl ⟨_,by simp,rfl⟩))

theorem submitted_customUrl (tied : Tied lib f) (opened : f.step = .customUrl) (url : String) :
    Submitted lib rruid entry f (f.asyncStepCustomUrl lib home url) := by
  have first : f.source = none := tied.signing (Or.inr opened)
  unfold Flow.asyncStepCustomUrl
  split
  next => exact .quiet tied rfl (fun _ => ⟨rfl,rfl⟩) rfl
  next => exact .quiet tied rfl (fun _ => ⟨rfl,rfl⟩) rfl
  next username _ named =>
    split
    next => exact .quiet tied rfl (fun _ => ⟨rfl,rfl⟩) rfl
    next => exact .quiet ⟨fun _ => first,nofun,nofun⟩ rfl (fun _ => ⟨rfl,rfl⟩) rfl
    next valid =>
      exact (requests tied (fun code => nomatch opened.symm.trans code) named (fun _ => Or.inr (Or.inr ⟨url,valid,rfl⟩))
        fun _ => opened.symm).submitted fun present => absurd first present

theorem submitted_confirm (tied : Tied lib f) (opened : f.step = .reauthConfirm) :
    Submitted lib rruid entry f (f.asyncStepReauthConfirm home) := by
  obtain ⟨present,client,same,named⟩ := tied.confirming opened
  unfold Flow.asyncStepReauthConfirm
  rw [same]
  exact (requests tied (fun code => nomatch opened.symm.trans code) named (fun first => absurd first present)
    fun _ => opened.symm).submitted fun _ => same

theorem submitted_signedIn {userData : U} {code : String} {older : List (Ask U)} (tied : Tied lib f) (same : f.client = some client)
    (named : f.username = some client.username) (sited : f.source = none → Sited lib client)
    (asked : f.asked = .login client code (some userData) :: older) (coded : Coded client older) :
    Submitted lib rruid entry f (f.signedIn rruid entry home client client.username userData) := by
  have stays : Tied lib {f with uniqueId := some (rruid userData)} := ⟨tied.signing,tied.confirming,tied.coded⟩
  unfold Flow.signedIn
  split
  · exact .quiet ⟨tied.signing,tied.confirming,nofun⟩ rfl (fun _ => ⟨rfl,rfl⟩) rfl
  dsimp only
  split
  next => exact .quiet stays rfl (fun _ => ⟨rfl,rfl⟩) rfl
  next index kept present =>
    split
    · exact .quiet ⟨tied.signing,tied.confirming,nofun⟩ rfl (fun _ => ⟨rfl,rfl⟩) rfl
    next equal =>
      refine ⟨⟨tied.signing,tied.confirming,nofun⟩,rfl,fun _ => ⟨rfl,rfl⟩,nofun,?_⟩
      rintro _ ⟨⟩
      refine ⟨rfl,by simp [present],?_,client,code,older,same,named,coded,asked⟩
      rintro _ ⟨⟩
      exact (not_not.mp equal).symm
  next first =>
    split
    · exact .quiet ⟨tied.signing,tied.confirming,nofun⟩ rfl (fun _ => ⟨rfl,rfl⟩) rfl
    unfold Flow.createEntry
    split
    next => exact .quiet stays rfl (fun _ => ⟨rfl,rfl⟩) rfl
    next baseUrl _ =>
      refine ⟨⟨tied.signing,tied.confirming,nofun⟩,rfl,fun _ => ⟨rfl,rfl⟩,?_,nofun⟩
      rintro _ ⟨⟩
      exact ⟨rfl,rfl,client,code,older,rfl,coded,Or.inl ⟨sited first,congrArg (List.cons _) asked⟩⟩

theorem submitted_code (tied : Tied lib f) (running : f.finished = false) (opened : f.step = .code) (code : String) :
    Submitted lib rruid entry f (f.asyncStepCodeInput rruid entry home code) := by
  obtain ⟨client,same,named,sited,coded⟩ := tied.coded running opened
  -- whatever else a code step changes, it stays with its client
  have stays (g : Flow U) (source : g.source = f.source) (step : g.step = .code) (kept : g.client = f.client)
      (username : g.username = f.username) (asked : Coded client g.asked) : Tied lib g :=
    ⟨fun signing => signing.elim (fun other => (nomatch step.symm.trans other)) fun other => (nomatch step.symm.trans other),
      fun confirming => (nomatch step.symm.trans confirming),
      fun _ _ => ⟨client,kept.trans same,username.trans named,fun first => sited (source ▸ first),asked⟩⟩
  have login (answer : Option U) := coded.login code answer
  unfold Flow.asyncStepCodeInput
  split
  next other username held spelled =>
    obtain rfl := Option.some.inj (same.symm.trans held)
    obtain rfl := Option.some.inj (named.symm.trans spelled)
    split
    · exact .quiet tied rfl (fun _ => ⟨rfl,rfl⟩) rfl
    dsimp only
    split
    next userData accepted =>
      have tried := stays {f with asked := .login client code (some userData) :: f.asked} rfl opened rfl rfl (login _)
      rw [accepted]
      have signed : Submitted lib rruid entry {f with asked := .login client code (some userData) :: f.asked}
          (Flow.signedIn _ rruid entry home client client.username userData) := submitted_signedIn tried same named sited rfl coded
      exact ⟨signed.tied,signed.source,signed.again,signed.created,signed.updated⟩
    next fault refused =>
      split
      · exact .quiet (stays _ rfl opened rfl rfl (login _)) rfl (fun _ => ⟨rfl,rfl⟩) rfl
      · exact .quiet (stays _ rfl rfl rfl rfl (login _)) rfl (fun _ => ⟨rfl,rfl⟩) rfl
  next => exact .quiet tied rfl (fun _ => ⟨rfl,rfl⟩) rfl

theorem submitted (tied : Tied lib f) (running : f.finished = false) (input : Input) :
    Submitted lib rruid entry f (f.submit lib rruid entry home input) := by
  unfold Flow.submit
  split
  next username region opened => exact submitted_user tied opened username region
  next url opened => exact submitted_customUrl tied opened url
  next code opened => exact submitted_code tied running opened code
  next opened => exact submitted_confirm tied opened
  next => exact .quiet tied rfl (fun _ => ⟨rfl,rfl⟩) rfl

end Flows

section Registries
variable {U : Type} {lib : UrlLib} {rruid : U → String} {start : List (Entry U)} {r next : Registry U} {f : Flow U} {i n : ℕ}

/-- A home with these entries, and no flows. -/
def Registry.init (entries : List (Entry U)) : Registry U where
  entries index := entries[index]?
  entryCount := entries.length

/-- A flow that signs in again does so to the server that its entry names. -/
structure Bound (r : Registry U) (f : Flow U) (i : ℕ) : Prop where
  known : i < r.entryCount
  entry : ∀ entry, r.entries i = some entry → f.username = some entry.username ∧ f.client = some ⟨entry.username,some entry.baseUrl⟩

/-- What an entry has come to since the start. -/
structure Kept (lib : UrlLib) (rruid : U → String) (start : List (Entry U)) (r : Registry U) (i : ℕ) (entry : Entry U) : Prop where
  same : ∀ first, start[i]? = some first →
    entry.uniqueId = first.uniqueId ∧ entry.username = first.username ∧ entry.baseUrl = first.baseUrl
  vouched : (∃ first, start[i]? = some first ∧ entry.userData = first.userData) ∨
    ∃ n f, r.flows n = some f ∧ f.finished = true ∧ Vouched lib rruid entry f.asked

structure Sound (lib : UrlLib) (rruid : U → String) (start : List (Entry U)) (r : Registry U) : Prop where
  tied : ∀ n f, r.flows n = some f → Tied lib f
  bound : ∀ n f i, r.flows n = some f → f.source = some i → Bound r f i
  fresh : ∀ i, r.entryCount ≤ i → r.entries i = none
  unused : ∀ n, r.flowCount ≤ n → r.flows n = none
  count : start.length ≤ r.entryCount
  kept : ∀ i entry, r.entries i = some entry → Kept lib rruid start r i entry

theorem Kept.mono {entry : Entry U} (kept : Kept lib rruid start r i entry)
    (later : ∀ n f, r.flows n = some f → f.finished = true → next.flows n = some f) : Kept lib rruid start next i entry := by
  refine ⟨kept.same,kept.vouched.imp_right ?_⟩
  rintro ⟨n,f,held,finished,vouched⟩
  exact ⟨n,f,later n f held finished,finished,vouched⟩

theorem sound_init (start : List (Entry U)) : Sound lib rruid start (.init start) where
  tied _ _ held := nomatch held
  bound _ _ _ held := nomatch held
  fresh i after := List.getElem?_eq_none after
  unused _ _ := rfl
  count := le_rfl
  kept i entry held := by
    refine ⟨fun first same => ?_,Or.inl ⟨entry,held,rfl⟩⟩
    obtain rfl := Option.some.inj (held.symm.trans same)
    exact ⟨rfl,rfl,rfl⟩

theorem Sound.known (sound : Sound lib rruid start r) {entry : Entry U} (held : r.entries i = some entry) : i < r.entryCount := by
  by_contra after
  exact nomatch held.symm.trans (sound.fresh i (not_lt.mp after))

/-- A flow takes its first or its next step. -/
theorem Sound.flow (sound : Sound lib rruid start r) (tied : Tied lib f) (bound : ∀ i, f.source = some i → Bound r f i)
    (running : ∀ g, r.flows n = some g → g.finished = false) (count : ℕ) (below : n < count) (more : r.flowCount ≤ count) :
    Sound lib rruid start {r with flows := Function.update r.flows n (some f), flowCount := count} := by
  have cases_on {m : ℕ} {g : Flow U} (held : Function.update r.flows n (some f) m = some g) : g = f ∨ r.flows m = some g := by
    by_cases same : m = n
    · subst same
      rw [Function.update_self] at held
      exact Or.inl (Option.some.inj held).symm
    · rw [Function.update_of_ne same] at held
      exact Or.inr held
  refine ⟨fun m g held => ?_,fun m g i held source => ?_,sound.fresh,fun m after => ?_,sound.count,fun i entry held => ?_⟩
  · rcases cases_on held with rfl | held
    · exact tied
    · exact sound.tied m g held
  · rcases cases_on held with rfl | held
    · exact ⟨(bound i source).known,(bound i source).entry⟩
    · exact ⟨(sound.bound m g i held source).known,(sound.bound m g i held source).entry⟩
  · have apart : m ≠ n := Nat.ne_of_gt (below.trans_le after)
    exact (Function.update_of_ne apart _ _).trans (sound.unused m (more.trans after))
  · refine (sound.kept i entry held).mono fun m g present finished => ?_
    have apart : m ≠ n := by
      rintro rfl
      exact nomatch finished.symm.trans (running g present)
    exact (Function.update_of_ne apart _ _).trans present

theorem Sound.addFlow (sound : Sound lib rruid start r) (tied : Tied lib f) (bound : ∀ i, f.source = some i → Bound r f i) :
    Sound lib rruid start (r.addFlow f) :=
  sound.flow tied bound (fun _ held => nomatch held.symm.trans (sound.unused _ le_rfl)) _ (Nat.lt_succ_self _) (Nat.le_succ _)

theorem tied_first : Tied lib ({step := .user} : Flow U) := ⟨fun _ => rfl,nofun,nofun⟩

theorem sound_reauth (sound : Sound lib rruid start r) {entry : Entry U} (held : r.entries i = some entry)
    (begun : Flow.reauth i entry = some f) : Sound lib rruid start (r.addFlow f) := by
  unfold Flow.reauth at begun
  split at begun
  · exact nomatch begun
  obtain rfl := Option.some.inj begun
  refine sound.addFlow ⟨by simp,fun _ => ⟨nofun,_,rfl,rfl⟩,nofun⟩ ?_
  rintro _ ⟨⟩
  refine ⟨sound.known held,fun other same => ?_⟩
  obtain rfl := Option.some.inj (held.symm.trans same)
  exact ⟨rfl,rfl⟩

/-- The entries change, each to one that may be there and that the flows are bound to. -/
theorem Sound.entries (sound : Sound lib rruid start r) {entries : ℕ → Option (Entry U)} {count : ℕ} (more : r.entryCount ≤ count)
    (fresh : ∀ i, count ≤ i → entries i = none) (kept : ∀ i entry, entries i = some entry → Kept lib rruid start r i entry)
    (bound : ∀ n f i, r.flows n = some f → f.source = some i → ∀ entry, entries i = some entry →
      f.username = some entry.username ∧ f.client = some ⟨entry.username,some entry.baseUrl⟩) :
    Sound lib rruid start {r with entries := entries, entryCount := count} where
  tied := sound.tied
  bound n f i held source := ⟨(sound.bound n f i held source).known.trans_le more,bound n f i held source⟩
  fresh := fresh
  unused := sound.unused
  count := sound.count.trans more
  kept i entry held := ⟨(kept i entry held).same,(kept i entry held).vouched⟩

theorem sound_removed (sound : Sound lib rruid start r) (gone : ℕ) :
    Sound lib rruid start {r with entries := Function.update r.entries gone none} := by
  have old {i : ℕ} {entry : Entry U} (held : Function.update r.entries gone none i = some entry) : r.entries i = some entry := by
    by_cases same : i = gone
    · subst same
      exact nomatch held.symm.trans (Function.update_self ..)
    · rwa [Function.update_of_ne same] at held
  refine sound.entries le_rfl (fun i after => ?_) (fun i entry held => sound.kept i entry (old held))
    fun n f i held source entry present => (sound.bound n f i held source).entry entry (old present)
  by_contra present
  obtain ⟨entry,held⟩ := Option.ne_none_iff_exists'.mp present
  exact nomatch (old held).symm.trans (sound.fresh i after)

theorem sound_addEntry (sound : Sound lib rruid start r) {entry : Entry U} (present : r.flows n = some f) (finished : f.finished = true)
    (vouched : Vouched lib rruid entry f.asked) : Sound lib rruid start (r.addEntry entry) := by
  refine sound.entries (Nat.le_succ _) (fun i after => ?_) (fun i other held => ?_) fun m g i held source other present => ?_
  · have apart : i ≠ r.entryCount := Nat.ne_of_gt after
    exact (Function.update_of_ne apart _ _).trans (sound.fresh i (Nat.le_of_succ_le after))
  · by_cases same : i = r.entryCount
    · subst same
      obtain rfl := Option.some.inj (held.symm.trans (Function.update_self ..))
      refine ⟨fun first old => ?_,Or.inr ⟨n,f,present,finished,vouched⟩⟩
      exact nomatch old.symm.trans (List.getElem?_eq_none sound.count)
    · rw [Function.update_of_ne same] at held
      exact sound.kept i other held
  · have bound := sound.bound m g i held source
    rw [Function.update_of_ne bound.known.ne] at present
    exact bound.entry other present

theorem sound_updateEntry (sound : Sound lib rruid start r) {userData : U} (present : r.flows n = some f) (finished : f.finished = true)
    (vouched : ∀ entry, r.entries i = some entry → Vouched lib rruid {entry with userData := userData} f.asked) :
    Sound lib rruid start (r.updateEntry i userData) := by
  have changed {j : ℕ} {entry : Entry U} (held : (r.updateEntry i userData).entries j = some entry) :
      ∃ old, r.entries j = some old ∧ (entry = old ∨ i = j ∧ entry = {old with userData := userData}) := by
    by_cases same : j = i
    · subst same
      rw [Registry.updateEntry_entries,Function.update_self] at held
      obtain ⟨old,here,rfl⟩ := Option.map_eq_some_iff.mp held
      exact ⟨old,here,Or.inr ⟨rfl,rfl⟩⟩
    · rw [Registry.updateEntry_entries,Function.update_of_ne same] at held
      exact ⟨entry,held,Or.inl rfl⟩
  refine sound.entries le_rfl (fun j after => ?_) (fun j entry held => ?_) fun m g j held source entry here => ?_
  · by_contra here
    obtain ⟨entry,held⟩ := Option.ne_none_iff_exists'.mp here
    obtain ⟨old,before,_⟩ := changed held
    exact nomatch before.symm.trans (sound.fresh j after)
  · obtain ⟨old,here,rfl | ⟨rfl,rfl⟩⟩ := changed held
    · exact sound.kept j entry here
    · exact ⟨(sound.kept i old here).same,Or.inr ⟨n,f,present,finished,vouched old here⟩⟩
  · obtain ⟨old,before,rfl | ⟨rfl,rfl⟩⟩ := changed here
    · exact (sound.bound m g j held source).entry entry before
    · exact (sound.bound m g i held source).entry old before

theorem sound_submit (sound : Sound lib rruid start r) (held : r.flows n = some f) (running : f.finished = false) (home : Home U)
    (input : Input) : Sound lib rruid start (r.step lib rruid (.submit n home input)) := by
  have before : n < r.flowCount := by
    by_contra after
    exact nomatch held.symm.trans (sound.unused n (not_lt.mp after))
  have result : Submitted lib rruid (r.source f) f (f.submit lib rruid (r.source f) home input) :=
    submitted (sound.tied n f held) running input
  simp only [Registry.step,held,running]
  generalize f.submit lib rruid (r.source f) home input = answered at result
  obtain ⟨after,answer⟩ := answered
  have taken : Sound lib rruid start (r.setFlow n after) := by
    refine sound.flow result.tied (fun i source => ?_) (fun g same => ?_) _ before le_rfl
    · have source : f.source = some i := result.source.symm.trans source
      have bound := sound.bound n f i held source
      obtain ⟨username,client⟩ := result.again (by simp [source])
      exact ⟨bound.known,fun entry present => ⟨username.trans (bound.entry entry present).1,client.trans (bound.entry entry present).2⟩⟩
    · rwa [← Option.some.inj (held.symm.trans same)]
  have present : (r.setFlow n after).flows n = some after := Function.update_self ..
  cases answer with
  | created added =>
    obtain ⟨finished,vouched⟩ := result.created added rfl
    exact sound_addEntry taken present finished vouched
  | updated userData =>
    obtain ⟨finished,again,unique,client,code,older,same,named,coded,asked⟩ := result.updated userData rfl
    obtain ⟨i,source⟩ := Option.ne_none_iff_exists'.mp again
    change Sound lib rruid start ((r.setFlow n after).finish f.source (.updated userData))
    rw [source,Registry.finish]
    refine sound_updateEntry taken present finished fun entry here => ?_
    have here : r.entries i = some entry := here
    have bound := (sound.bound n f i held source).entry entry here
    obtain rfl := Option.some.inj (same.symm.trans bound.2)
    have kept : r.source f = some entry := by rw [Registry.source,source,Option.bind_some,here]
    exact ⟨unique entry kept,_,code,older,rfl,coded,Or.inr ⟨rfl,asked⟩⟩
  | _ => exact taken

theorem sound_step (sound : Sound lib rruid start r) (step : Step U) : Sound lib rruid start (r.step lib rruid step) := by
  cases step with
  | user => exact sound.addFlow tied_first nofun
  | dhcp known =>
    cases known with
    | true => exact sound
    | false => exact sound.addFlow tied_first nofun
  | reauth i =>
    unfold Registry.step
    dsimp only
    split
    next => exact sound
    next flow begun =>
      obtain ⟨entry,held,begun⟩ := Option.bind_eq_some_iff.mp begun
      exact sound_reauth sound held begun
  | submit n home input =>
    rcases held : r.flows n with _ | f
    · rw [Registry.step,held]
      exact sound
    rcases running : f.finished with _ | _
    · exact sound_submit sound held running home input
    · rw [Registry.step,held]
      dsimp only
      rw [if_pos running]
      exact sound
  | removed gone => exact sound_removed sound gone

theorem sound_run (steps : List (Step U)) (sound : Sound lib rruid start r) : Sound lib rruid start (r.run lib rruid steps) := by
  induction steps generalizing r with
  | nil => exact sound
  | cons step steps ih => exact ih (sound_step sound step)

/-- In every run of any number of flows, an entry stays with the account and the server it was made for; and its user data
is what it had, or came with a code that the very same server was asked for and has accepted, for that account. -/
theorem entry_vouched (lib : UrlLib) (rruid : U → String) (start : List (Entry U)) (steps : List (Step U)) (i : ℕ) (entry : Entry U)
    (held : (Registry.run lib rruid (.init start) steps).entries i = some entry) :
    Kept lib rruid start (Registry.run lib rruid (.init start) steps) i entry :=
  (sound_run steps (sound_init start)).kept i entry held

/-- A server that gives out these user data, with the second code only. -/
def answering (userData : String × ℕ) (accepted : Bool) : Home (String × ℕ) where
  requestCode := .ok ()
  codeLogin := if accepted then .ok userData else .error .invalidCode
  baseUrl := .ok "https://euiot.roborock.com"
  inProgress := []
  configured := []

/-- An account is signed in to, and later again. -/
def twice : List (Step (String × ℕ)) :=
  [.user,.submit 0 (answering ("account",1) true) (.user "me" .auto),.submit 0 (answering ("account",1) false) (.code "1"),
    .submit 0 (answering ("account",1) true) (.code "2"),.reauth 0,.submit 1 (answering ("account",2) true) .confirm,
    .submit 1 (answering ("account",2) true) (.code "3")]

def plainUrls : UrlLib := ⟨id,fun _ => true,fun _ => true⟩

theorem entry_vouched_twice :
    let entry : Entry (String × ℕ) := ⟨some "account","me",("account",2),"https://euiot.roborock.com"⟩
    (Registry.run plainUrls Prod.fst (.init []) twice).entries 0 = some entry ∧
      Kept plainUrls Prod.fst [] (Registry.run plainUrls Prod.fst (.init []) twice) 0 entry := by
  have held : (Registry.run plainUrls Prod.fst (.init []) twice).entries 0 =
      some ⟨some "account","me",("account",2),"https://euiot.roborock.com"⟩ := by decide +kernel
  exact ⟨held,entry_vouched plainUrls Prod.fst [] twice 0 _ held⟩

end Registries

end RoborockPlus.SignIn
