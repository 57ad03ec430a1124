import RoborockPlus.Robot
import RoborockPlus.ServerUrl

/-! When the coordinator samples the map position. The cadence follows the server: what is
not known to be self-hosted is asked at most every half minute. -/
namespace RoborockPlus
open ServerUrl

def shouldRefreshV1MapPosition (now : ℚ) (lastAttempt : Option ℚ) (taskActive isOfficialCloud : Bool)
    (pollInterval : PyValue) : Bool :=
  let intervals := resolveMapPositionIntervals isOfficialCloud pollInterval
  let interval := if taskActive then intervals.1 else intervals.2
  match lastAttempt with
  | none => true
  | some last => decide (interval ≤ now-last)

/-- `_last_map_position_attempt`, and whether the task of the last sample is still running. -/
structure MapSampling where
  lastAttempt : Option ℚ := none
  running : Bool := false
deriving DecidableEq

/-- `now` and `started` are the two times a poll reads off the clock. -/
structure MapPoll where
  now : ℚ
  started : ℚ
  status : Status
  pollInterval : PyValue

inductive MapStep
  | poll (seen : MapPoll)
  | sampled
  | mapUpdated (now : ℚ)

namespace MapSampling
variable (lib : UrlLib) (baseUrl : PyValue)

def scheduleMapPositionUpdate (poll : MapPoll) (s : MapSampling) : Except UrlError (Option ℚ × MapSampling) :=
  (isOfficialCloudUrl lib baseUrl).map fun isOfficialCloud =>
    if shouldRefreshV1MapPosition poll.now s.lastAttempt (isV1TaskActive poll.status) isOfficialCloud poll.pollInterval = false then
      (none,s)
    else if s.running then (none,s)
    else (some poll.started,⟨some poll.started,true⟩)

/-- A poll whose URL raises ends there; a full map update counts as an attempt of its own. -/
def step (s : MapSampling) : MapStep → Option ℚ × MapSampling
  | .poll seen =>
    match scheduleMapPositionUpdate lib baseUrl seen s with
    | .ok next => next
    | .error _ => (none,s)
  | .sampled => (none,{s with running := false})
  | .mapUpdated now => (none,{s with lastAttempt := some now})

def samples (s : MapSampling) : List MapStep → List ℚ
  | [] => []
  | first :: rest => (step lib baseUrl s first).1.toList ++ samples (step lib baseUrl s first).2 rest

end MapSampling

def MapStep.readings : MapStep → List ℚ
  | .poll seen => [seen.now,seen.started]
  | .sampled => []
  | .mapUpdated now => [now]

section Cadence
variable {lib : UrlLib} {baseUrl : PyValue} {s : MapSampling} {last : ℚ}

theorem official_intervals (pollInterval : PyValue) :
    30 ≤ (resolveMapPositionIntervals true pollInterval).1 ∧ 30 ≤ (resolveMapPositionIntervals true pollInterval).2 := by
  unfold resolveMapPositionIntervals getMapPositionIntervals
  split
  next raw =>
    split
    · norm_num
    · simp only [if_true]
      exact ⟨le_max_right _ _,le_trans (by norm_num) (le_max_right _ _)⟩
  · norm_num

theorem schedule_official (official : isOfficialCloudUrl lib baseUrl = .ok true) (seen : MapPoll) :
    MapSampling.step lib baseUrl s (.poll seen) = (none,s) ∨
      MapSampling.step lib baseUrl s (.poll seen) = (some seen.started,⟨some seen.started,true⟩) ∧
        ∀ last, s.lastAttempt = some last → last+30 ≤ seen.now := by
  unfold MapSampling.step MapSampling.scheduleMapPositionUpdate
  simp only [official,Except.map]
  by_cases refresh : shouldRefreshV1MapPosition seen.now s.lastAttempt (isV1TaskActive seen.status) true seen.pollInterval = false
  · exact Or.inl (if_pos refresh)
  rw [if_neg refresh]
  split
  · exact Or.inl rfl
  refine Or.inr ⟨rfl,fun last attempted => ?_⟩
  obtain ⟨active,idle⟩ := official_intervals seen.pollInterval
  unfold shouldRefreshV1MapPosition at refresh
  simp only [attempted,decide_eq_false_iff_not,not_not] at refresh
  split_ifs at refresh <;> linarith

theorem samples_spaced (official : isOfficialCloudUrl lib baseUrl = .ok true) {steps : List MapStep}
    (ordered : (steps.flatMap MapStep.readings).Pairwise (· ≤ ·))
    (later : ∀ last, s.lastAttempt = some last → ∀ t ∈ steps.flatMap MapStep.readings, last ≤ t) :
    (∀ last, s.lastAttempt = some last → ∀ t ∈ MapSampling.samples lib baseUrl s steps, last+30 ≤ t) ∧
      (MapSampling.samples lib baseUrl s steps).Pairwise fun a b => a+30 ≤ b := by
  induction steps generalizing s with
  | nil => simp [MapSampling.samples]
  | cons made rest ih =>
    obtain ⟨_,after,apart⟩ := List.pairwise_append.mp (List.flatMap_cons ▸ ordered)
    have behind (last : ℚ) (attempted : s.lastAttempt = some last) (t : ℚ) (read : t ∈ rest.flatMap MapStep.readings) : last ≤ t :=
      later last attempted t (List.flatMap_cons ▸ List.mem_append_right _ read)
    cases made with
    | sampled => exact @ih {s with running := false} after behind
    | mapUpdated now =>
      have here (last : ℚ) (attempted : s.lastAttempt = some last) : last ≤ now :=
        later last attempted now (by simp [MapStep.readings])
      have next : ∀ last, some now = some last → ∀ t ∈ rest.flatMap MapStep.readings, last ≤ t := by
        rintro last ⟨⟩ t read
        exact apart now (by simp [MapStep.readings]) t read
      obtain ⟨spaced,pairwise⟩ := @ih ⟨some now,s.running⟩ after next
      exact ⟨fun last attempted t member => le_trans (by linarith [here last attempted]) (spaced now rfl t member),pairwise⟩
    | poll seen =>
      rcases @schedule_official _ _ s official seen with idle | ⟨started,waited⟩
      · rw [MapSampling.samples,idle]
        exact ih after behind
      have between : seen.now ≤ seen.started := by
        have both := (List.pairwise_append.mp (List.flatMap_cons ▸ ordered)).1
        simpa [MapStep.readings] using both
      have next : ∀ last, some seen.started = some last → ∀ t ∈ rest.flatMap MapStep.readings, last ≤ t := by
        rintro last ⟨⟩ t read
        exact apart seen.started (by simp [MapStep.readings]) t read
      obtain ⟨spaced,pairwise⟩ := @ih ⟨some seen.started,true⟩ after next
      rw [MapSampling.samples,started]
      refine ⟨fun last attempted t member => ?_,List.pairwise_cons.mpr ⟨fun t member => spaced _ rfl t member,pairwise⟩⟩
      have long := waited last attempted
      rcases List.mem_cons.mp member with rfl | further
      · linarith
      · linarith [spaced _ rfl t further]

/-- An official server is known as one, and asked for samples half a minute apart, exactly
when its URL is parsed and its host name has no dot behind it. -/
theorem official_server_spared {url : String} {steps : List MapStep} (points : pointsAtOfficial lib url = true)
    (ordered : (steps.flatMap MapStep.readings).Pairwise (· ≤ ·)) :
    isOfficialCloudUrl lib (.str url) = .ok true ∧
        ((MapSampling.samples lib (.str url) {} steps).Pairwise fun a b => a+30 ≤ b) ↔
      undotted lib url = true := by
  constructor
  · exact fun ⟨official,_⟩ => (official_url_iff points).mp official
  · intro undotted
    have official := (official_url_iff points).mpr undotted
    exact ⟨official,(samples_spaced official ordered (by simp)).2⟩

end Cadence

/-- The library as it is for URLs of plain characters. -/
def asciiLib : UrlLib := ⟨List.map Char.toLower,fun _ => true,fun _ => true⟩

def cleaningPolls (seconds : ℚ) : List MapStep :=
  [.poll ⟨0,0,⟨.cleaning,.int 1,.int 0⟩,.int 0⟩,.sampled,.poll ⟨seconds,seconds,⟨.cleaning,.int 1,.int 0⟩,.int 0⟩]

theorem official_server_spared_hourly :
    isOfficialCloudUrl asciiLib (.str " https://me@API.RoboRock.com:443/x ") = .ok true ∧
        ((MapSampling.samples asciiLib (.str " https://me@API.RoboRock.com:443/x ") {} (cleaningPolls 3600)).Pairwise
          fun a b => a+30 ≤ b) ↔
      undotted asciiLib " https://me@API.RoboRock.com:443/x " = true :=
  official_server_spared (by decide +kernel) (by decide +kernel)

/-- A dot behind the host name, and a URL that `urlsplit` refuses. -/
theorem official_server_missed :
    (pointsAtOfficial asciiLib "https://api.roborock.com." = true ∧
      isOfficialCloudUrl asciiLib (.str "https://api.roborock.com.") = .ok false ∧
      MapSampling.samples asciiLib (.str "https://api.roborock.com.") {} (cleaningPolls 5) = [0,5]) ∧
      pointsAtOfficial asciiLib "http://[" = true ∧ isOfficialCloudUrl asciiLib (.str "http://[") = .error .valueError := by
  decide +kernel

end RoborockPlus
