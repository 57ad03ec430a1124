import RoborockPlus.Python
import Mathlib.Tactic

/-! The tracker of a robot that should be moving and is not. Two rules judge the samples,
each from an anchor of its own, and share the verdict. -/
namespace RoborockPlus

namespace Stuck

def minWindow : ℤ := 30
def maxWindow : ℤ := 600
def defaultWindow : ℤ := 120
def minRadius : ℤ := 50
def maxRadius : ℤ := 2000
def defaultRadius : ℤ := 200
def backstopWindow : ℚ := 900
def backstopRadius : ℚ := 3000

/-- Resolved settings are within their limits. -/
structure StuckOptions where
  enabled : Bool
  window : ℤ
  radius : ℤ
  window_le : minWindow ≤ window ∧ window ≤ maxWindow
  radius_le : minRadius ≤ radius ∧ radius ≤ maxRadius

/-- Nothing for the floats that `int` raises for. -/
def asInt (default : ℤ) : PyValue → Option ℤ
  | .int value => some value
  | .float (.finite value) => some (value.num.tdiv value.den)
  | .float _ => none
  | _ => some default

/-- An option that is missing is read as `None`; only the switch is on without one. -/
def resolveStuckOptions (enabled : Option PyValue) (window radius : PyValue) : Option StuckOptions := do
  let window ← asInt defaultWindow window
  let radius ← asInt defaultRadius radius
  return {
    enabled := (enabled.getD (.bool true)).truthy
    window := max minWindow (min window maxWindow)
    radius := max minRadius (min radius maxRadius)
    window_le := ⟨le_max_left _ _,max_le (by decide) (min_le_right _ _)⟩
    radius_le := ⟨le_max_left _ _,max_le (by decide) (min_le_right _ _)⟩ }

structure Anchor where
  x : ℚ
  y : ℚ
  since : ℚ
deriving DecidableEq

/-- `hypot(…) > radius`, on the squares. -/
def Anchor.left (anchor sample : Anchor) (radius : ℚ) : Bool :=
  decide (radius^2 < (sample.x-anchor.x)^2+(sample.y-anchor.y)^2)

/-- The arguments of one call of `observe`. -/
structure Observation where
  now : ℚ
  sampleTime : Option ℚ
  x : Option ℚ
  y : Option ℚ
  shouldMove : Bool

namespace Observation
variable (o : Observation)

def observedAt : ℚ := o.sampleTime.getD o.now

def sample : Option Anchor := do
  let x ← o.x
  let y ← o.y
  return ⟨x,y,o.observedAt⟩

end Observation

structure StuckTracker where
  anchor : Option Anchor := none
  stuckSince : Option ℚ := none
  lastSampleTime : Option ℚ := none
  backstopAnchor : Option Anchor := none
  backstopSince : Option ℚ := none

namespace StuckTracker
variable (t : StuckTracker)

def isStuck : Bool := t.stuckSince.isSome

def observeBackstop (sample : Anchor) : StuckTracker :=
  match t.backstopAnchor with
  | none => {t with backstopAnchor := some sample}
  | some anchor =>
    if anchor.left sample backstopRadius then {t with backstopAnchor := some sample, backstopSince := none}
    else if backstopWindow ≤ sample.since-anchor.since then {t with
      backstopSince := some (t.backstopSince.getD anchor.since)
      stuckSince := some (t.stuckSince.getD anchor.since)}
    else t

/-- The part of `observe` after the checks, for a sample that is readable and new. -/
def judge (options : StuckOptions) (sample : Anchor) : StuckTracker :=
  match t.anchor with
  | none => {t with anchor := some sample, backstopAnchor := some (t.backstopAnchor.getD sample)}
  | some anchor =>
    if anchor.left sample options.radius then {t with anchor := some sample, stuckSince := none}.observeBackstop sample
    else if (options.window : ℚ) ≤ sample.since-anchor.since then {t with stuckSince := some (t.stuckSince.getD anchor.since)}
    else t.observeBackstop sample

def observe (options : StuckOptions) (o : Observation) : StuckTracker × Bool :=
  if o.shouldMove = false then ({},false)
  else
    match o.sample with
    | none =>
      let t := {t with anchor := none, lastSampleTime := o.sampleTime}
      (t,t.isStuck)
    | some sample =>
      if o.sampleTime.isSome ∧ o.sampleTime = t.lastSampleTime then (t,t.isStuck)
      else
        let t := {t with lastSampleTime := o.sampleTime}.judge options sample
        (t,t.isStuck)

end StuckTracker

/-- The tracker after a history of calls, the latest first. -/
def replay (options : StuckOptions) : List Observation → StuckTracker
  | [] => {}
  | o :: past => ((replay options past).observe options o).1

/-- A readable sample of a robot that was to move. -/
def Taken (history : List Observation) (sample : Anchor) : Prop := ∃ o ∈ history, o.shouldMove = true ∧ o.sample = some sample

/-- From the sample on the robot was to move, and whatever could be read lay in its region. -/
structure Confined (history : List Observation) (anchor : Anchor) : Prop where
  taken : Taken history anchor
  moving : ∀ o ∈ history, anchor.since ≤ o.observedAt → o.shouldMove = true
  inside : ∀ o ∈ history, anchor.since ≤ o.observedAt → ∀ sample ∈ o.sample, anchor.left sample backstopRadius = false

/-- What a call owes: a verdict that the track bears out, and no verdict from a region that the robot has left. -/
structure Justified (options : StuckOptions) (past : List Observation) (o : Observation) : Prop where
  borne : ((replay options past).observe options o).2 = true →
    ∃ anchor, ((replay options past).observe options o).1.stuckSince = some anchor.since ∧ Confined (o :: past) anchor
  cleared : ∀ anchor sample, (replay options past).stuckSince = some anchor.since → Taken past anchor → o.shouldMove = true →
    o.sample = some sample → anchor.left sample backstopRadius = true →
      ((replay options past).observe options o).1.stuckSince ≠ some anchor.since

def Observations : List Observation → Prop := List.Pairwise fun later earlier => earlier.observedAt ≤ later.observedAt

def StuckTracker.repeats (t : StuckTracker) (o : Observation) : Prop := o.sampleTime.isSome ∧ o.sampleTime = t.lastSampleTime

/-- A readable sample that no rule passes over: it is told apart from a repeat, and when it lies outside
the region of the verdict or of the backstop, the rules are in a state to see that. -/
structure Attended (options : StuckOptions) (past : List Observation) (o : Observation) (sample : Anchor) : Prop where
  repeated : (replay options past).repeats o → ∃ last ∈ past.head?, last.shouldMove = true ∧ last.sample = some sample
  fresh : ¬ (replay options past).repeats o → ∀ other ∈ past, (other.shouldMove = true → other.sample.isSome) → other.observedAt < sample.since
  verdict : ∀ anchor, (replay options past).stuckSince = some anchor.since → Taken past anchor →
    anchor.left sample backstopRadius = true → ∃ last ∈ (replay options past).anchor, last.left sample options.radius = true
  backstop : ∀ anchor ∈ (replay options past).backstopAnchor, anchor.left sample backstopRadius = true →
    ∃ last ∈ (replay options past).anchor, last.left sample options.radius = true ∨ sample.since-last.since < options.window

def Attentive (options : StuckOptions) : List Observation → Prop
  | [] => True
  | o :: past => (o.shouldMove = true → ∀ sample ∈ o.sample, Attended options past o sample) ∧ Attentive options past

section Observing
variable {options : StuckOptions} {o : Observation} {sample : Anchor} {t : StuckTracker}

theorem observe_idle (idle : o.shouldMove = false) : t.observe options o = ({},false) := if_pos idle

theorem observe_missing (moves : o.shouldMove = true) (missing : o.sample = none) :
    (t.observe options o).1 = {t with anchor := none, lastSampleTime := o.sampleTime} := by
  simp [StuckTracker.observe,moves,missing]

theorem observe_repeat (moves : o.shouldMove = true) (read : o.sample = some sample) (again : t.repeats o) :
    (t.observe options o).1 = t := by
  unfold StuckTracker.repeats at again
  unfold StuckTracker.observe
  rw [if_neg (by simp [moves]),read]
  dsimp only
  rw [if_pos again]

theorem observe_new (moves : o.shouldMove = true) (read : o.sample = some sample) (new : ¬ t.repeats o) :
    (t.observe options o).1 = {t with lastSampleTime := o.sampleTime}.judge options sample := by
  unfold StuckTracker.repeats at new
  unfold StuckTracker.observe
  rw [if_neg (by simp [moves]),read]
  dsimp only
  rw [if_neg new]

theorem observe_verdict : (t.observe options o).2 = (t.observe options o).1.isStuck := by
  unfold StuckTracker.observe
  by_cases idle : o.shouldMove = false
  · rw [if_pos idle]
    rfl
  · rw [if_neg idle]
    cases o.sample with
    | none => rfl
    | some sample =>
      dsimp only
      by_cases again : o.sampleTime.isSome ∧ o.sampleTime = t.lastSampleTime
      · rw [if_pos again]
      · rw [if_neg again]

end Observing

section Tracking
variable {options : StuckOptions} {history past : List Observation} {o : Observation} {anchor sample : Anchor} {t : StuckTracker}

theorem observedAt_of_sample (read : o.sample = some sample) : sample.since = o.observedAt := by
  simp only [Observation.sample,Option.bind_eq_bind,Option.bind_eq_some_iff] at read
  obtain ⟨x,_,y,_,last⟩ := read
  exact congrArg Anchor.since (Option.some.inj last).symm

@[simp] theorem left_self (radius : ℚ) : sample.left sample radius = false := by
  simp [Anchor.left,sq_nonneg]

theorem left_mono {inner outer : ℚ} (positive : 0 ≤ inner) (wider : inner ≤ outer) (within : anchor.left sample inner = false) :
    anchor.left sample outer = false := by
  simp only [Anchor.left,decide_eq_false_iff_not,not_lt] at within ⊢
  exact within.trans (pow_le_pow_left₀ positive wider 2)

theorem left_backstop (within : anchor.left sample options.radius = false) : anchor.left sample backstopRadius = false := by
  obtain ⟨low,high⟩ := options.radius_le
  have positive : (0 : ℚ) ≤ options.radius := by
    have : (0 : ℤ) ≤ options.radius := (by decide : (0 : ℤ) ≤ minRadius).trans low
    exact_mod_cast this
  have wider : (options.radius : ℚ) ≤ backstopRadius := by
    have : (options.radius : ℚ) ≤ (maxRadius : ℤ) := by exact_mod_cast high
    exact this.trans (by norm_num [maxRadius,backstopRadius])
  exact left_mono positive wider within

theorem Taken.cons (taken : Taken past sample) : Taken (o :: past) sample := by
  obtain ⟨other,read,rest⟩ := taken
  exact ⟨other,List.mem_cons_of_mem o read,rest⟩

theorem Confined.cons (confined : Confined past anchor) (moves : o.shouldMove = true)
    (inside : anchor.since ≤ o.observedAt → ∀ sample ∈ o.sample, anchor.left sample backstopRadius = false) :
    Confined (o :: past) anchor where
  taken := confined.taken.cons
  moving other read since := by
    rcases List.mem_cons.mp read with rfl | earlier
    · exact moves
    · exact confined.moving other earlier since
  inside other read since := by
    rcases List.mem_cons.mp read with rfl | earlier
    · exact inside since
    · exact confined.inside other earlier since

theorem confined_of_fresh (moves : o.shouldMove = true) (read : o.sample = some sample)
    (fresh : ∀ other ∈ past, (other.shouldMove = true → other.sample.isSome) → other.observedAt < sample.since) :
    Confined (o :: past) sample where
  taken := ⟨o,List.mem_cons_self,moves,read⟩
  moving other here since := by
    rcases List.mem_cons.mp here with rfl | earlier
    · exact moves
    · by_contra idle
      exact absurd (fresh other earlier (fun move => absurd move idle)) (not_lt.mpr since)
  inside other here since := by
    rcases List.mem_cons.mp here with rfl | earlier
    · intro same found
      obtain rfl := Option.some.inj (read.symm.trans found)
      exact left_self _
    · intro same found
      exact absurd (fresh other earlier (fun _ => Option.isSome_of_mem found)) (not_lt.mpr since)

/-- The anchors and the verdict stand for regions that the robot has not been seen to leave. -/
structure Tracked (t : StuckTracker) (history : List Observation) : Prop where
  anchor : ∀ anchor ∈ t.anchor, Confined history anchor
  backstop : ∀ anchor ∈ t.backstopAnchor, Confined history anchor
  verdict : ∀ since ∈ t.stuckSince, ∃ anchor : Anchor, anchor.since = since ∧ Confined history anchor

theorem Tracked.keep (tracked : Tracked t past) (keeps : ∀ anchor, Confined past anchor → Confined (o :: past) anchor) :
    Tracked t (o :: past) := by
  refine ⟨fun anchor here => keeps anchor (tracked.anchor anchor here),fun anchor here => keeps anchor (tracked.backstop anchor here),?_⟩
  intro since here
  obtain ⟨anchor,same,confined⟩ := tracked.verdict since here
  exact ⟨anchor,same,keeps anchor confined⟩

theorem tracked_observeBackstop (new : Confined history sample) (short : ∀ anchor ∈ t.anchor, Confined history anchor)
    (backstop : ∀ anchor ∈ t.backstopAnchor, anchor.left sample backstopRadius = false → Confined history anchor)
    (verdict : ∀ since ∈ t.stuckSince, ∃ anchor : Anchor, anchor.since = since ∧ Confined history anchor) :
    Tracked (t.observeBackstop sample) history := by
  unfold StuckTracker.observeBackstop
  cases held : t.backstopAnchor with
  | none => exact ⟨short,fun anchor here => Option.some.inj here ▸ new,verdict⟩
  | some anchor =>
    dsimp only
    split_ifs with gone elapsed
    · exact ⟨short,fun anchor here => Option.some.inj here ▸ new,verdict⟩
    · have confined := backstop anchor held (by simpa using gone)
      refine ⟨short,fun other here => Option.some.inj here ▸ confined,fun since here => ?_⟩
      obtain rfl := Option.some.inj here
      cases stands : t.stuckSince with
      | none => exact ⟨anchor,rfl,confined⟩
      | some since => exact verdict since stands
    · have confined := backstop anchor held (by simpa using gone)
      exact ⟨short,fun other here => Option.some.inj (held.symm.trans here) ▸ confined,verdict⟩

/-- The sample is judged: either the robot is seen to have moved away, or what stands keeps its region. -/
theorem tracked_judge (tracked : Tracked t past) (moves : o.shouldMove = true) (read : o.sample = some sample)
    (new : Confined (o :: past) sample)
    (verdict : ∀ anchor, t.stuckSince = some anchor.since → Taken past anchor → anchor.left sample backstopRadius = true →
      ∃ last ∈ t.anchor, last.left sample options.radius = true)
    (backstop : ∀ anchor ∈ t.backstopAnchor, anchor.left sample backstopRadius = true →
      ∃ last ∈ t.anchor, last.left sample options.radius = true ∨ sample.since-last.since < options.window) :
    Tracked (t.judge options sample) (o :: past) := by
  have keeps {anchor : Anchor} (confined : Confined past anchor) (within : anchor.left sample backstopRadius = false) :
      Confined (o :: past) anchor :=
    confined.cons moves (fun _ other found => Option.some.inj (read.symm.trans found) ▸ within)
  have stands (still : ∀ last ∈ t.anchor, last.left sample options.radius = false) :
      ∀ since ∈ t.stuckSince, ∃ anchor : Anchor, anchor.since = since ∧ Confined (o :: past) anchor := by
    intro since here
    obtain ⟨anchor,rfl,confined⟩ := tracked.verdict since here
    refine ⟨anchor,rfl,keeps confined (Bool.eq_false_iff.mpr (fun gone => ?_))⟩
    obtain ⟨last,held,moved⟩ := verdict anchor here confined.taken gone
    exact absurd moved (by simp [still last held])
  have watched : ∀ anchor ∈ t.backstopAnchor, anchor.left sample backstopRadius = false → Confined (o :: past) anchor :=
    fun anchor here within => keeps (tracked.backstop anchor here) within
  unfold StuckTracker.judge
  cases held : t.anchor with
  | none =>
    have kept : ∀ anchor ∈ t.backstopAnchor, Confined (o :: past) anchor := by
      intro anchor here
      refine watched anchor here (Bool.eq_false_iff.mpr (fun gone => ?_))
      obtain ⟨last,other,_⟩ := backstop anchor here gone
      exact nomatch held.symm.trans other
    refine ⟨fun anchor here => Option.some.inj here ▸ new,fun anchor here => ?_,stands (by simp [held])⟩
    obtain rfl := Option.some.inj here
    cases behind : t.backstopAnchor with
    | none => exact new
    | some anchor => exact kept anchor behind
  | some last =>
    dsimp only
    split_ifs with moved elapsed
    · exact tracked_observeBackstop new (fun anchor here => Option.some.inj here ▸ new) watched (fun since here => nomatch here)
    all_goals
      have still : last.left sample options.radius = false := by simpa using moved
      have only : ∀ anchor ∈ t.anchor, anchor.left sample options.radius = false :=
        fun anchor here => Option.some.inj (held.symm.trans here) ▸ still
      have near : Confined (o :: past) last := keeps (tracked.anchor last held) (left_backstop still)
      have short : ∀ anchor ∈ t.anchor, Confined (o :: past) anchor :=
        fun anchor here => Option.some.inj (held.symm.trans here) ▸ near
    · refine ⟨fun anchor here => Option.some.inj here ▸ near,fun anchor here => ?_,fun since here => ?_⟩
      · refine watched anchor here (Bool.eq_false_iff.mpr (fun gone => ?_))
        obtain ⟨other,same,looks⟩ := backstop anchor here gone
        obtain rfl := Option.some.inj (held.symm.trans same)
        rw [still] at looks
        exact absurd elapsed (not_le.mpr (looks.resolve_left (by simp)))
      · obtain rfl := Option.some.inj here
        cases before : t.stuckSince with
        | none => exact ⟨last,rfl,near⟩
        | some since => exact stands only since before
    · exact tracked_observeBackstop new short watched (stands only)

theorem tracked_observe (tracked : Tracked (replay options past) past)
    (attended : o.shouldMove = true → ∀ sample ∈ o.sample, Attended options past o sample) :
    Tracked ((replay options past).observe options o).1 (o :: past) := by
  by_cases moves : o.shouldMove = true
  · cases read : o.sample with
    | none =>
      have kept : Tracked (replay options past) (o :: past) :=
        tracked.keep fun anchor confined => confined.cons moves (fun _ other found => nomatch read.symm.trans found)
      rw [observe_missing moves read]
      exact ⟨fun _ here => (nomatch here),kept.backstop,kept.verdict⟩
    | some sample =>
      have seen := attended moves sample read
      by_cases same : (replay options past).repeats o
      · obtain ⟨last,here,moved,found⟩ := seen.repeated same
        have earlier : last ∈ past := List.mem_of_mem_head? here
        have time : last.observedAt = o.observedAt := (observedAt_of_sample found).symm.trans (observedAt_of_sample read)
        rw [observe_repeat moves read same]
        refine tracked.keep fun anchor confined => confined.cons moves (fun since other again => ?_)
        obtain rfl := Option.some.inj (read.symm.trans again)
        exact confined.inside last earlier (since.trans time.ge) sample found
      · have new := confined_of_fresh moves read (seen.fresh same)
        rw [observe_new moves read same]
        exact tracked_judge ⟨tracked.anchor,tracked.backstop,tracked.verdict⟩ moves read new seen.verdict seen.backstop
  · rw [observe_idle (by simpa using moves)]
    constructor <;> exact fun _ here => nomatch here

theorem tracked_replay (attentive : Attentive options history) : Tracked (replay options history) history := by
  induction history with
  | nil => constructor <;> exact fun _ here => nomatch here
  | cons o past ih =>
    obtain ⟨attended,before⟩ := attentive
    exact tracked_observe (ih before) attended

theorem taken_unique (attentive : Attentive options history) {first second : Anchor} (one : Taken history first)
    (other : Taken history second) (same : first.since = second.since) : first = second := by
  induction history generalizing first second with
  | nil =>
    obtain ⟨_,here,_⟩ := one
    exact nomatch here
  | cons o past ih =>
    obtain ⟨attended,before⟩ := attentive
    have latest {sample older : Anchor} (moves : o.shouldMove = true) (read : o.sample = some sample) (taken : Taken past older)
        (same : older.since = sample.since) : older = sample := by
      have seen := attended moves sample read
      obtain ⟨earlier,here,moved,found⟩ := taken
      by_cases again : (replay options past).repeats o
      · obtain ⟨last,head,moves,repeated⟩ := seen.repeated again
        exact ih before ⟨earlier,here,moved,found⟩ ⟨last,List.mem_of_mem_head? head,moves,repeated⟩ same
      · have strictly := seen.fresh again earlier here (fun _ => Option.isSome_of_mem found)
        rw [← observedAt_of_sample found,same] at strictly
        exact absurd strictly (lt_irrefl _)
    obtain ⟨a,memA,movesA,readA⟩ := one
    obtain ⟨b,memB,movesB,readB⟩ := other
    rcases List.mem_cons.mp memA with rfl | earlierA <;> rcases List.mem_cons.mp memB with rfl | earlierB
    · exact Option.some.inj (readA.symm.trans readB)
    · exact (latest movesA readA ⟨b,earlierB,movesB,readB⟩ same.symm).symm
    · exact latest movesB readB ⟨a,earlierA,movesA,readA⟩ same
    · exact ih before ⟨a,earlierA,movesA,readA⟩ ⟨b,earlierB,movesB,readB⟩ same

/-- A verdict is borne out by the track, and withdrawn by the first sample outside its region,
in every history in which no rule passes over a sample. -/
theorem stuck_justified (ordered : Observations (o :: past)) (attentive : Attentive options (o :: past)) : Justified options past o := by
  have tracked := tracked_replay attentive
  constructor
  · intro stuck
    rw [observe_verdict] at stuck
    obtain ⟨since,stands⟩ := Option.isSome_iff_exists.mp stuck
    obtain ⟨anchor,rfl,confined⟩ := tracked.verdict since stands
    exact ⟨anchor,stands,confined⟩
  · intro anchor sample _ taken moves read gone stands
    obtain ⟨other,same,confined⟩ := tracked.verdict anchor.since stands
    obtain rfl := taken_unique attentive confined.taken taken.cons same
    obtain ⟨earlier,here,_,found⟩ := taken
    have later : other.since ≤ o.observedAt := by
      rw [observedAt_of_sample found]
      exact (List.pairwise_cons.mp ordered).1 earlier here
    have within := confined.inside o List.mem_cons_self later sample read
    exact absurd gone (by simp [within])

def defaultOptions : StuckOptions := ⟨true,defaultWindow,defaultRadius,by decide,by decide⟩

def seen (time x : ℚ) : Observation := ⟨time,some time,some x,some 0,true⟩

def unseen (time : ℚ) : Observation := ⟨time,some time,none,none,true⟩

theorem seen_attended {time x : ℚ} {past : List Observation} (same : ¬ (replay options past).repeats (seen time x))
    (later : ∀ other ∈ past, other.observedAt < time)
    (verdict : ∀ anchor, (replay options past).stuckSince ≠ some (Anchor.since anchor))
    (backstop : ∀ anchor ∈ (replay options past).backstopAnchor, anchor.left ⟨x,0,time⟩ backstopRadius = false) :
    (seen time x).shouldMove = true → ∀ sample ∈ (seen time x).sample, Attended options past (seen time x) sample := by
  intro _ sample read
  obtain rfl : sample = ⟨x,0,time⟩ := (Option.some.inj read).symm
  exact ⟨fun again => absurd again same,fun _ other here _ => later other here,fun anchor stands => absurd stands (verdict anchor),
    fun anchor here gone => absurd gone (by simp [backstop anchor here])⟩

theorem standing_attentive : Attentive defaultOptions [seen 120 0,seen 0 0] := by
  refine ⟨?_,?_,trivial⟩
  · apply seen_attended
    · exact fun again => absurd again.2 (by decide +kernel)
    · intro other here
      obtain rfl := List.mem_singleton.mp here
      decide +kernel
    · exact fun anchor stands => nomatch stands
    · intro anchor here
      obtain rfl : anchor = ⟨0,0,0⟩ := (Option.some.inj here).symm
      decide +kernel
  · apply seen_attended
    · exact fun again => absurd again.2 (by decide)
    · exact fun other here => nomatch here
    · exact fun anchor stands => nomatch stands
    · exact fun anchor here => nomatch here

/-- Two minutes of standing still give a verdict, and the first sample far away clears it. -/
theorem standing_still_justified : (((replay defaultOptions [seen 0 0]).observe defaultOptions (seen 120 0)).2 = true ∧
      Justified defaultOptions [seen 0 0] (seen 120 0)) ∧
    ((replay defaultOptions [seen 120 0,seen 0 0]).observe defaultOptions (seen 180 5000)).2 = false ∧
      Justified defaultOptions [seen 120 0,seen 0 0] (seen 180 5000) := by
  refine ⟨⟨by decide +kernel,stuck_justified (List.pairwise_pair.mpr (by decide +kernel)) standing_attentive⟩,by decide +kernel,?_⟩
  refine stuck_justified (by unfold Observations; decide +kernel) ⟨?_,standing_attentive⟩
  intro _ sample read
  obtain rfl : sample = ⟨5000,0,180⟩ := (Option.some.inj read).symm
  have away : ∃ last ∈ (replay defaultOptions [seen 120 0,seen 0 0]).anchor, last.left ⟨5000,0,180⟩ defaultOptions.radius = true :=
    ⟨⟨0,0,0⟩,by decide +kernel,by decide +kernel⟩
  refine ⟨fun again => absurd again.2 (by decide +kernel),fun _ other here _ => ?_,fun _ _ _ _ => away,
    fun _ _ _ => away.imp fun _ both => ⟨both.1,.inl both.2⟩⟩
  exact (by decide +kernel : ∀ other ∈ [seen 120 0,seen 0 0], other.observedAt < 180) other here

/-- After a position is missing once, the next sample is far away; or the robot creeps out of the region of
the backstop, by less than the short radius. The verdict of before stands. -/
theorem escape_unnoticed :
    (Observations [seen 140 5000,unseen 130,seen 120 0,seen 0 0] ∧
      ¬ Justified defaultOptions [unseen 130,seen 120 0,seen 0 0] (seen 140 5000)) ∧
    Observations [seen 910 3100,seen 900 2950,seen 450 2600,seen 0 0] ∧
      ¬ Justified defaultOptions [seen 900 2950,seen 450 2600,seen 0 0] (seen 910 3100) := by
  have remains {past : List Observation} {time x : ℚ} (origin : seen 0 0 ∈ past) (stands : (replay defaultOptions past).stuckSince = some 0)
      (gone : Anchor.left ⟨0,0,0⟩ ⟨x,0,time⟩ backstopRadius = true)
      (after : ((replay defaultOptions past).observe defaultOptions (seen time x)).1.stuckSince = some 0) :
      ¬ Justified defaultOptions past (seen time x) :=
    fun justified => justified.cleared ⟨0,0,0⟩ ⟨x,0,time⟩ stands ⟨seen 0 0,origin,rfl,rfl⟩ rfl rfl gone after
  refine ⟨⟨?_,remains (by simp) (by decide +kernel) (by decide +kernel) (by decide +kernel)⟩,?_,
    remains (by simp) (by decide +kernel) (by decide +kernel) (by decide +kernel)⟩
  all_goals
    unfold Observations
    decide +kernel

end Tracking

/-- The anchor of a rule after a look that gives no verdict. -/
def Judged (window radius : ℚ) (before after : Option Anchor) (sample : Anchor) : Prop :=
  (∀ anchor ∈ before, anchor.left sample radius = true) ∧ after = some sample ∨
    ∃ anchor, before = some anchor ∧ after = some anchor ∧ sample.since-anchor.since < window

/-- A rule that looks at call after call, the latest first, and never gives a verdict. -/
inductive Course (window radius : ℚ) (before : Option Anchor) : List Observation → Option Anchor → Prop
  | start : Course window radius before [] before
  | look {run : List Observation} {o : Observation} {sample : Anchor} {last after : Option Anchor}
      (course : Course window radius before run last) (read : o.sample = some sample)
      (judged : Judged window radius last after sample) : Course window radius before (o :: run) after

/-- Every time that the tracker holds. -/
def StuckTracker.times (t : StuckTracker) : List (Option ℚ) :=
  [t.anchor.map (·.since),t.stuckSince,t.lastSampleTime,t.backstopAnchor.map (·.since),t.backstopSince]

/-- A run, the latest call first, of a robot that is to move and never gets away, in samples that
follow each other closely. -/
structure Lingers (t : StuckTracker) (radius gap : ℚ) (run : List Observation) : Prop where
  moving : ∀ o ∈ run, o.shouldMove = true
  readable : ∀ o ∈ run, o.sample.isSome
  increasing : run.Pairwise (fun later earlier => earlier.observedAt < later.observedAt)
  gaps : run.IsChain (fun later earlier => later.observedAt-earlier.observedAt ≤ gap)
  close : ∀ one ∈ run, ∀ other ∈ run, ∀ a ∈ one.sample, ∀ b ∈ other.sample, a.left b radius = false
  later : ∀ o ∈ run, ∀ time, some time ∈ t.times → time < o.observedAt

/-- Some call of the run says that the robot is stuck. -/
def Rings (options : StuckOptions) (past run : List Observation) : Prop :=
  ∃ later o earlier, run = later ++ o :: earlier ∧ ((replay options (earlier ++ past)).observe options o).2 = true

section Judging
variable {options : StuckOptions} {t : StuckTracker} {o : Observation} {sample : Anchor}

theorem observeBackstop_rest : (t.observeBackstop sample).anchor = t.anchor ∧
    (t.observeBackstop sample).lastSampleTime = t.lastSampleTime := by
  unfold StuckTracker.observeBackstop
  cases t.backstopAnchor with
  | none => exact ⟨rfl,rfl⟩
  | some anchor =>
    dsimp only
    split_ifs <;> exact ⟨rfl,rfl⟩

@[simp] theorem observeBackstop_anchor : (t.observeBackstop sample).anchor = t.anchor := observeBackstop_rest.1

@[simp] theorem observeBackstop_lastSampleTime : (t.observeBackstop sample).lastSampleTime = t.lastSampleTime :=
  observeBackstop_rest.2

theorem judged_observeBackstop (quiet : (t.observeBackstop sample).isStuck = false) :
    Judged backstopWindow backstopRadius t.backstopAnchor (t.observeBackstop sample).backstopAnchor sample := by
  unfold StuckTracker.observeBackstop at quiet ⊢
  cases held : t.backstopAnchor with
  | none => exact Or.inl ⟨fun _ here => (nomatch here),rfl⟩
  | some anchor =>
    simp only [held] at quiet
    dsimp only
    split_ifs with gone elapsed
    · exact Or.inl ⟨fun other here => Option.some.inj here ▸ gone,rfl⟩
    · rw [if_neg gone,if_pos elapsed] at quiet
      exact nomatch quiet
    · exact Or.inr ⟨anchor,rfl,held,not_le.mp elapsed⟩

@[simp] theorem judge_lastSampleTime : (t.judge options sample).lastSampleTime = t.lastSampleTime := by
  unfold StuckTracker.judge
  cases t.anchor with
  | none => rfl
  | some anchor =>
    dsimp only
    split_ifs
    · exact observeBackstop_lastSampleTime
    · rfl
    · exact observeBackstop_lastSampleTime

theorem judged_short (quiet : (t.judge options sample).isStuck = false) :
    Judged options.window options.radius t.anchor (t.judge options sample).anchor sample := by
  unfold StuckTracker.judge at quiet ⊢
  cases held : t.anchor with
  | none => exact Or.inl ⟨fun _ here => (nomatch here),rfl⟩
  | some anchor =>
    simp only [held] at quiet
    dsimp only
    split_ifs with gone elapsed
    · exact Or.inl ⟨fun other here => Option.some.inj here ▸ gone,observeBackstop_anchor⟩
    · rw [if_neg gone,if_pos elapsed] at quiet
      exact nomatch quiet
    · exact Or.inr ⟨anchor,rfl,observeBackstop_anchor.trans held,not_le.mp elapsed⟩

theorem judged_backstop (anchored : t.anchor.isSome) (quiet : (t.judge options sample).isStuck = false) :
    Judged backstopWindow backstopRadius t.backstopAnchor (t.judge options sample).backstopAnchor sample := by
  obtain ⟨anchor,held⟩ := Option.isSome_iff_exists.mp anchored
  unfold StuckTracker.judge at quiet ⊢
  simp only [held] at quiet ⊢
  split_ifs at quiet ⊢ with gone elapsed
  · exact judged_observeBackstop quiet
  · exact nomatch quiet
  · exact judged_observeBackstop quiet

theorem Judged.isSome {window radius : ℚ} {before after : Option Anchor} (judged : Judged window radius before after sample) :
    after.isSome := by
  rcases judged with ⟨_,rfl⟩ | ⟨_,_,rfl,_⟩ <;> rfl

theorem backstop_judge {anchor : Anchor} (after : (t.judge options sample).backstopAnchor = some anchor) :
    anchor = sample ∨ t.backstopAnchor = some anchor := by
  have looked {s : StuckTracker} (after : (s.observeBackstop sample).backstopAnchor = some anchor)
      (same : s.backstopAnchor = t.backstopAnchor) : anchor = sample ∨ t.backstopAnchor = some anchor := by
    unfold StuckTracker.observeBackstop at after
    rw [← same]
    cases held : s.backstopAnchor with
    | none =>
      rw [held] at after
      exact Or.inl (Option.some.inj after).symm
    | some other =>
      simp only [held] at after
      split_ifs at after
      · exact Or.inl (Option.some.inj after).symm
      · exact Or.inr after
      · exact Or.inr (held.symm.trans after)
  unfold StuckTracker.judge at after
  cases held : t.anchor with
  | none =>
    simp only [held] at after
    cases behind : t.backstopAnchor with
    | none =>
      rw [behind] at after
      exact Or.inl (Option.some.inj after).symm
    | some other =>
      rw [behind] at after
      exact Or.inr after
  | some last =>
    simp only [held] at after
    split_ifs at after
    · exact looked after rfl
    · exact Or.inr after
    · exact looked after rfl

theorem observe_lastSampleTime (moves : o.shouldMove = true) : (t.observe options o).1.lastSampleTime = o.sampleTime := by
  cases read : o.sample with
  | none => rw [observe_missing moves read]
  | some sample =>
    by_cases again : t.repeats o
    · rw [observe_repeat moves read again]
      exact again.2.symm
    · rw [observe_new moves read again,judge_lastSampleTime]

end Judging

section Latency
variable {options : StuckOptions} {past run : List Observation} {window radius gap : ℚ} {before after : Option Anchor} {o first : Observation}

/-- Old anchors are left or run out within a window, and one that is set in the course is never left. -/
theorem Course.waits (course : Course window radius before run after) (positive : 0 < window) (wide : 0 ≤ gap)
    (gaps : run.IsChain (fun later earlier => later.observedAt-earlier.observedAt ≤ gap))
    (close : ∀ one ∈ run, ∀ other ∈ run, ∀ a ∈ one.sample, ∀ b ∈ other.sample, a.left b radius = false)
    (old : ∀ anchor ∈ before, anchor.since < first.observedAt) (start : run.getLast? = some first) :
    ∃ anchor latest, after = some anchor ∧ run.head? = some latest ∧ latest.observedAt < anchor.since+window ∧
      anchor.since ≤ first.observedAt+window+gap ∧ (anchor.since < first.observedAt ∨ ∃ o ∈ run, o.sample = some anchor) := by
  induction course with
  | start => exact nomatch start
  | @look run o sample last after course read judged ih =>
    have time := observedAt_of_sample read
    cases run with
    | nil =>
      obtain rfl : o = first := by simpa using start
      cases course
      rcases judged with ⟨_,rfl⟩ | ⟨anchor,held,rfl,soon⟩
      · exact ⟨sample,o,rfl,rfl,by linarith,by linarith,Or.inr ⟨o,List.mem_cons_self,read⟩⟩
      · have earlier := old anchor held
        exact ⟨anchor,o,rfl,rfl,by linarith,by linarith,Or.inl earlier⟩
    | cons previous rest =>
      rw [List.getLast?_cons_cons] at start
      obtain ⟨step,further⟩ := List.isChain_cons_cons.mp gaps
      have near : ∀ one ∈ previous :: rest, ∀ other ∈ previous :: rest, ∀ a ∈ one.sample, ∀ b ∈ other.sample, a.left b radius = false :=
        fun one here other there => close one (List.mem_cons_of_mem _ here) other (List.mem_cons_of_mem _ there)
      obtain ⟨anchor,latest,held,head,soon,bound,origin⟩ := ih further near start
      obtain rfl : previous = latest := Option.some.inj head
      rcases judged with ⟨gone,rfl⟩ | ⟨same,kept,rfl,again⟩
      · have outside : anchor.since < first.observedAt := by
          refine origin.resolve_right (fun ⟨other,inside,set⟩ => ?_)
          have stays := close other (List.mem_cons_of_mem _ inside) o List.mem_cons_self anchor set sample read
          exact absurd (gone anchor held) (by simp [stays])
        exact ⟨sample,o,rfl,rfl,by linarith,by linarith,Or.inr ⟨o,List.mem_cons_self,read⟩⟩
      · obtain rfl : anchor = same := Option.some.inj (held.symm.trans kept)
        refine ⟨anchor,o,rfl,rfl,by linarith,bound,origin.imp_right ?_⟩
        rintro ⟨other,inside,set⟩
        exact ⟨other,List.mem_cons_of_mem _ inside,set⟩

theorem Lingers.tail (lingers : Lingers (replay options past) radius gap (o :: run)) : Lingers (replay options past) radius gap run where
  moving other here := lingers.moving other (List.mem_cons_of_mem _ here)
  readable other here := lingers.readable other (List.mem_cons_of_mem _ here)
  increasing := (List.pairwise_cons.mp lingers.increasing).2
  gaps := lingers.gaps.tail
  close one here other there := lingers.close one (List.mem_cons_of_mem _ here) other (List.mem_cons_of_mem _ there)
  later other here := lingers.later other (List.mem_cons_of_mem _ here)

theorem Rings.cons (rings : Rings options past run) : Rings options past (o :: run) := by
  obtain ⟨later,call,earlier,rfl,stuck⟩ := rings
  exact ⟨o :: later,call,earlier,rfl,stuck⟩

theorem Lingers.judged (lingers : Lingers (replay options past) radius gap (o :: run)) (quiet : ¬ Rings options past (o :: run)) :
    ∃ sample, o.sample = some sample ∧
      replay options (o :: run ++ past) = {replay options (run ++ past) with lastSampleTime := o.sampleTime}.judge options sample ∧
      (replay options (o :: run ++ past)).isStuck = false := by
  have moves := lingers.moving o List.mem_cons_self
  obtain ⟨sample,read⟩ := Option.isSome_iff_exists.mp (lingers.readable o List.mem_cons_self)
  have new : ¬ (replay options (run ++ past)).repeats o := by
    rintro ⟨timed,same⟩
    obtain ⟨time,set⟩ := Option.isSome_iff_exists.mp timed
    have own : o.observedAt = time := by rw [Observation.observedAt,set,Option.getD_some]
    cases run with
    | nil =>
      have held : some time ∈ (replay options past).times := by
        have last : some time = (replay options past).lastSampleTime := set.symm.trans same
        simp [StuckTracker.times,last]
      exact absurd (lingers.later o List.mem_cons_self time held) (by simp [own])
    | cons previous rest =>
      have last : (replay options (previous :: rest ++ past)).lastSampleTime = previous.sampleTime :=
        observe_lastSampleTime (lingers.moving previous (by simp))
      have strictly := (List.pairwise_cons.mp lingers.increasing).1 previous List.mem_cons_self
      have equal : previous.sampleTime = some time := last.symm.trans (same.symm.trans set)
      rw [own,Observation.observedAt,equal,Option.getD_some] at strictly
      exact absurd strictly (lt_irrefl _)
  refine ⟨sample,read,observe_new moves read new,?_⟩
  have silent : ((replay options (run ++ past)).observe options o).2 ≠ true := fun stuck => quiet ⟨[],o,run,rfl,stuck⟩
  rw [observe_verdict] at silent
  exact Bool.eq_false_iff.mpr silent

theorem course_short (lingers : Lingers (replay options past) radius gap run) (quiet : ¬ Rings options past run) :
    Course options.window options.radius (replay options past).anchor run (replay options (run ++ past)).anchor := by
  induction run with
  | nil => exact Course.start
  | cons o run ih =>
    obtain ⟨sample,read,next,calm⟩ := lingers.judged quiet
    have course := ih lingers.tail (fun rings => quiet rings.cons)
    rw [next] at calm ⊢
    exact Course.look course read (judged_short calm)

theorem course_backstop (lingers : Lingers (replay options past) radius gap (run ++ [first])) (quiet : ¬ Rings options past (run ++ [first])) :
    (replay options (run ++ first :: past)).anchor.isSome ∧
      (∀ anchor ∈ (replay options (first :: past)).backstopAnchor, anchor.since ≤ first.observedAt) ∧
      Course backstopWindow backstopRadius (replay options (first :: past)).backstopAnchor run
        (replay options (run ++ first :: past)).backstopAnchor := by
  induction run with
  | nil =>
    obtain ⟨sample,read,next,calm⟩ := lingers.judged quiet
    refine ⟨?_,fun anchor held => ?_,Course.start⟩
    · rw [next] at calm
      have anchored := (judged_short calm).isSome
      rwa [← next] at anchored
    · have set : (replay options (first :: past)).backstopAnchor = some anchor := held
      rw [show replay options (first :: past) = _ from next] at set
      rcases backstop_judge set with rfl | before
      · exact (observedAt_of_sample read).le
      · have older : (replay options past).backstopAnchor = some anchor := before
        exact (lingers.later first List.mem_cons_self anchor.since (by simp [StuckTracker.times,older])).le
  | cons o run ih =>
    rw [List.cons_append] at lingers quiet
    obtain ⟨sample,read,next,calm⟩ := lingers.judged quiet
    obtain ⟨anchored,old,course⟩ := ih lingers.tail (fun rings => quiet rings.cons)
    have whole : run ++ [first] ++ past = run ++ first :: past := by simp
    rw [List.cons_append,whole] at next calm
    rw [List.cons_append]
    rw [next] at calm ⊢
    exact ⟨(judged_short calm).isSome,old,Course.look course read
      (judged_backstop (t := {replay options (run ++ first :: past) with lastSampleTime := o.sampleTime}) anchored calm)⟩

/-- A robot that lingers in the region of a rule is found out by either rule, whatever the tracker holds. -/
theorem stuck_in_time {rule : ℚ × ℚ} (rules : rule ∈ [((options.window : ℚ),(options.radius : ℚ)),(backstopWindow,backstopRadius)])
    (wide : 0 ≤ gap) (lingers : Lingers (replay options past) rule.2 gap run) {latest : Observation}
    (start : run.getLast? = some first) (last : run.head? = some latest)
    (long : 2*rule.1+3*gap ≤ latest.observedAt-first.observedAt) : Rings options past run := by
  by_contra quiet
  have short : (0 : ℚ) < options.window := by
    have : (0 : ℤ) < options.window := (by decide : (0 : ℤ) < minWindow).trans_le options.window_le.1
    exact_mod_cast this
  simp only [List.mem_cons,List.not_mem_nil,or_false] at rules
  rcases rules with rfl | rfl
  · have old : ∀ anchor ∈ (replay options past).anchor, anchor.since < first.observedAt := by
      intro anchor held
      apply lingers.later first (List.mem_of_getLast? start)
      simp [StuckTracker.times,Option.mem_def.mp held]
    obtain ⟨anchor,newest,_,head,soon,bound,_⟩ :=
      (course_short lingers quiet).waits short wide lingers.gaps lingers.close old start
    obtain rfl := Option.some.inj (last.symm.trans head)
    dsimp only at long
    linarith
  · obtain ⟨rest,rfl⟩ : ∃ rest, run = rest ++ [first] := ⟨_,(List.dropLast_append_getLast? first start).symm⟩
    have single : rest ≠ [] := by
      rintro rfl
      obtain rfl : first = latest := Option.some.inj last
      norm_num [backstopWindow] at long
      linarith
    obtain ⟨second,next⟩ : ∃ second, rest.getLast? = some second := Option.isSome_iff_exists.mp (by simpa using single)
    have step := (List.isChain_append.mp lingers.gaps).2.2 second next first rfl
    have strictly := (List.pairwise_append.mp lingers.increasing).2.2 second (List.mem_of_getLast? next) first List.mem_cons_self
    obtain ⟨_,old,course⟩ := course_backstop lingers quiet
    have close : ∀ one ∈ rest, ∀ other ∈ rest, ∀ a ∈ one.sample, ∀ b ∈ other.sample, a.left b backstopRadius = false :=
      fun one here other there => lingers.close one (List.mem_append_left _ here) other (List.mem_append_left _ there)
    obtain ⟨anchor,newest,_,head,soon,bound,_⟩ := course.waits (by norm_num [backstopWindow]) wide
      (List.isChain_append.mp lingers.gaps).1 close (fun anchor held => (old anchor held).trans_lt strictly) next
    obtain rfl : latest = newest := by
      rw [List.head?_append,head] at last
      exact (Option.some.inj last).symm
    norm_num [backstopWindow] at long soon bound
    linarith

/-- Eight samples in seven minutes, a minute apart, at one place. -/
def minutes : List Observation := [seen 480 0,seen 420 0,seen 360 0,seen 300 0,seen 240 0,seen 180 0,seen 120 0,seen 60 0]

/-- Ten samples, five minutes apart, to and fro between two places that only the backstop takes for one. -/
def wanders : List Observation :=
  [seen 3000 1000,seen 2700 0,seen 2400 1000,seen 2100 0,seen 1800 1000,seen 1500 0,seen 1200 1000,seen 900 0,seen 600 1000,seen 300 0]

/-- The robot comes from elsewhere: both anchors are held already when it begins to linger. -/
theorem minutes_ring : Rings defaultOptions [seen 0 4000] minutes ∧ Rings defaultOptions [seen 0 4000] wanders := by
  have older {o : Observation} {time : ℚ} (after : 0 < o.observedAt)
      (held : some time ∈ (replay defaultOptions [seen 0 4000]).times) : time < o.observedAt := by
    have elsewhere : replay defaultOptions [seen 0 4000] = ⟨some ⟨4000,0,0⟩,none,some 0,some ⟨4000,0,0⟩,none⟩ := rfl
    obtain rfl : time = 0 := by simpa [StuckTracker.times,elsewhere] using held
    exact after
  have lingers : Lingers (replay defaultOptions [seen 0 4000]) 200 60 minutes :=
    ⟨by decide,by decide,by decide +kernel,by decide +kernel,by decide +kernel,
      fun o here time => older ((by decide +kernel : ∀ o ∈ minutes, 0 < o.observedAt) o here)⟩
  have drifts : Lingers (replay defaultOptions [seen 0 4000]) backstopRadius 300 wanders :=
    ⟨by decide,by decide,by decide +kernel,by decide +kernel,by decide +kernel,
      fun o here time => older ((by decide +kernel : ∀ o ∈ wanders, 0 < o.observedAt) o here)⟩
  have short : ((120 : ℚ),(200 : ℚ)) ∈
      [((defaultOptions.window : ℚ),(defaultOptions.radius : ℚ)),(backstopWindow,backstopRadius)] := by decide +kernel
  exact ⟨stuck_in_time short (by norm_num) lingers rfl rfl (by decide +kernel),
    stuck_in_time (List.mem_cons_of_mem _ List.mem_cons_self) (by norm_num) drifts rfl rfl (by decide +kernel)⟩

end Latency

end Stuck

end RoborockPlus
