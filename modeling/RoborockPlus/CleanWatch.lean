import RoborockPlus.Iteration.While
import RoborockPlus.StuckTracker
import RoborockPlus.Robot

/-! The watch over a clean command. It looks at the task state every few seconds until a task has
started or its window is over, and tells when none has. -/
namespace RoborockPlus.CleanWatch

def defaultTimeout : ℤ := 60
def minTimeout : ℤ := 10
def maxTimeout : ℤ := 600
def watchPollInterval : ℚ := 5

/-- Nothing for the floats that `int` raises for; zero turns the watch off. -/
def resolveCleanCommandWatchTimeout (option : PyValue) : Option ℤ :=
  (Stuck.asInt defaultTimeout option).map fun value => if value ≤ 0 then 0 else max minTimeout (min value maxTimeout)

/-- One turn's readings: whether a task is active, if that can be told, and the clock twice. -/
structure Look where
  active : Option Bool
  checked : ℚ
  before : ℚ

structure NotStarted where
  command : String
  timeout : ℤ
  entityId : Option String
  entryId : Option String
deriving DecidableEq

/-- An id that is missing or empty is left out. -/
def buildCleanCommandNotStartedData (entityId : Option String) (command : String) (timeout : ℤ) (entryId : Option String) : NotStarted :=
  ⟨command,timeout,entityId.filter fun text => text != "",entryId.filter fun text => text != ""⟩

/-- `data.status`, as far as there is one. -/
def taskActive (status : Option Status) : Option Bool := status.map isV1TaskActive

section Watch
variable (looks : ℕ → Look) (deadline : ℚ)

/-- The state of the loop is how many looks were taken, and whether one of them could be read. -/
def turn (s : ℕ × Bool) : Iteration.Turn (ℕ × Bool) Bool :=
  let look := looks s.1
  if look.active = some true then .done true
  else
    let sawState := s.2 || decide (look.active = some false)
    if deadline ≤ look.checked then .done !sawState else .next (s.1+1,sawState)

/-- How long the turn sleeps before the next. -/
def pause (look : Look) : ℚ := min watchPollInterval (max 0 (deadline-look.before))

/-- Nothing when the watch is still going after so many looks. -/
def asyncWatchUntilTaskStarts (timeout begun : ℚ) (turns : ℕ) : Option Bool :=
  if timeout ≤ 0 then some true else Iteration.run (turn looks (begun+timeout)) turns (0,false)

def asyncWatchCleanCommandStarted (timeout : ℤ) (begun : ℚ) (entityId : Option String) (command : String) (entryId : Option String)
    (turns : ℕ) : Option (Option NotStarted) :=
  if timeout ≤ 0 then some none
  else (asyncWatchUntilTaskStarts looks timeout begun turns).map fun started =>
    if started then none else some (buildCleanCommandNotStartedData entityId command timeout entryId)

end Watch

/-- The clock is never set back, and a sleep lasts as long as it was asked for. -/
structure Sleeps (looks : ℕ → Look) (begun deadline : ℚ) : Prop where
  first : begun ≤ (looks 0).checked
  between : ∀ k, (looks k).checked ≤ (looks k).before
  slept : ∀ k, (looks k).before+pause deadline (looks k) ≤ (looks (k+1)).checked

/-- Some look was readable, none saw a task, and the last was taken when the window was over, and only the last. -/
def Unstarted (looks : ℕ → Look) (deadline : ℚ) : Prop :=
  ∃ n, deadline ≤ (looks n).checked ∧ (∀ k < n, (looks k).checked < deadline) ∧
    (∀ k ≤ n, (looks k).active ≠ some true) ∧ ∃ k ≤ n, (looks k).active = some false

section Watching
variable {looks : ℕ → Look} {begun deadline : ℚ} {n k : ℕ} {saw : Bool}

theorem resolved_timeout {option : PyValue} {timeout : ℤ} (resolved : resolveCleanCommandWatchTimeout option = some timeout) :
    timeout = 0 ∨ minTimeout ≤ timeout ∧ timeout ≤ maxTimeout := by
  obtain ⟨value,_,rfl⟩ := Option.map_eq_some_iff.mp resolved
  split_ifs
  · exact Or.inl rfl
  · exact Or.inr ⟨le_max_left _ _,max_le (by decide) (min_le_right _ _)⟩

/-- Each turn takes a poll interval off the window, or ends it. -/
theorem Sleeps.reaches (sleeps : Sleeps looks begun deadline) (k : ℕ) : min (begun+k*watchPollInterval) deadline ≤ (looks k).checked := by
  induction k with
  | zero =>
    rw [Nat.cast_zero,zero_mul,add_zero]
    exact (min_le_left _ _).trans sleeps.first
  | succ k ih =>
    have between := sleeps.between k
    refine le_trans ?_ (sleeps.slept k)
    unfold pause
    push_cast
    have poll : (0 : ℚ) < watchPollInterval := by norm_num [watchPollInterval]
    rcases min_le_iff.mp ih with early | late
    · rcases le_total watchPollInterval (max 0 (deadline-(looks k).before)) with long | short
      · rw [min_eq_left long]
        exact (min_le_left _ _).trans (by linarith)
      · rw [min_eq_right short]
        exact (min_le_right _ _).trans (by linarith [le_max_right 0 (deadline-(looks k).before)])
    · have nonneg : 0 ≤ min watchPollInterval (max 0 (deadline-(looks k).before)) := le_min poll.le (le_max_left _ _)
      exact (min_le_right _ _).trans (by linarith)

/-- The window is over after as many looks as there are poll intervals in it. -/
theorem Sleeps.over {timeout : ℚ} (sleeps : Sleeps looks begun (begun+timeout)) :
    begun+timeout ≤ (looks ⌈timeout/watchPollInterval⌉₊).checked := by
  have reached := sleeps.reaches ⌈timeout/watchPollInterval⌉₊
  have poll : (0 : ℚ) < watchPollInterval := by norm_num [watchPollInterval]
  have enough : timeout ≤ ⌈timeout/watchPollInterval⌉₊*watchPollInterval := (div_le_iff₀ poll).mp (Nat.le_ceil _)
  rwa [min_eq_right (by linarith)] at reached

/-- From the look on, the watch runs up to the first that ends it. -/
theorem watch_runs (quiet : ∀ j, k ≤ j → j < n → (looks j).active ≠ some true ∧ (looks j).checked < deadline)
    (ends : (looks n).active = some true ∨ deadline ≤ (looks n).checked) (before : k ≤ n) {turns : ℕ} (enough : n < k+turns) :
    ∃ started, Iteration.run (turn looks deadline) turns (k,saw) = some started ∧ (started = false ↔
      (looks n).active ≠ some true ∧ (saw = true ∨ ∃ j, k ≤ j ∧ j ≤ n ∧ (looks j).active = some false)) := by
  induction turns generalizing k saw with
  | zero => omega
  | succ turns ih =>
    by_cases last : k = n
    · subst last
      by_cases started : (looks k).active = some true
      · refine ⟨true,Iteration.run_done (if_pos started),?_⟩
        simp [started]
      · have late := ends.resolve_left started
        have done : turn looks deadline (k,saw) = .done !(saw || decide ((looks k).active = some false)) := by
          unfold turn
          dsimp only
          rw [if_neg started,if_pos late]
        refine ⟨_,Iteration.run_done done,?_⟩
        rw [Bool.not_eq_false',Bool.or_eq_true,decide_eq_true_eq]
        refine ⟨fun seen => ⟨started,seen.imp_right fun read => ⟨k,le_rfl,le_rfl,read⟩⟩,fun seen => seen.2.imp_right ?_⟩
        rintro ⟨j,low,high,read⟩
        obtain rfl := le_antisymm low high
        exact read
    · obtain ⟨idle,early⟩ := quiet k le_rfl (by omega)
      have next : turn looks deadline (k,saw) = .next (k+1,saw || decide ((looks k).active = some false)) := by
        unfold turn
        dsimp only
        rw [if_neg idle,if_neg (not_le.mpr early)]
      obtain ⟨started,ran,told⟩ := @ih (k+1) (saw || decide ((looks k).active = some false))
        (fun j low => quiet j (by omega)) (by omega) (by omega)
      refine ⟨started,(Iteration.run_next next).trans ran,told.trans (and_congr_right fun _ => ?_)⟩
      rw [Bool.or_eq_true,decide_eq_true_eq,or_assoc]
      refine or_congr_right ⟨?_,?_⟩
      · rintro (read | ⟨j,low,high,read⟩)
        · exact ⟨k,le_rfl,before,read⟩
        · exact ⟨j,by omega,high,read⟩
      · rintro ⟨j,low,high,read⟩
        rcases Nat.eq_or_lt_of_le low with rfl | later
        · exact Or.inl read
        · exact Or.inr ⟨j,later,high,read⟩

theorem watch_ends {timeout : ℚ} (sleeps : Sleeps looks begun (begun+timeout)) {turns : ℕ} (enough : ⌈timeout/watchPollInterval⌉₊ < turns) :
    ∃ started, Iteration.run (turn looks (begun+timeout)) turns (0,false) = some started ∧
      (started = false ↔ Unstarted looks (begun+timeout)) := by
  have stops : ∃ n, (looks n).active = some true ∨ begun+timeout ≤ (looks n).checked := ⟨_,Or.inr sleeps.over⟩
  -- the first look that ends the watch
  obtain ⟨n,ends,first⟩ : ∃ n, ((looks n).active = some true ∨ begun+timeout ≤ (looks n).checked) ∧
      ∀ j < n, (looks j).active ≠ some true ∧ (looks j).checked < begun+timeout := by
    classical
    exact ⟨Nat.find stops,Nat.find_spec stops,fun j early => by simpa using Nat.find_min stops early⟩
  have soon : n ≤ ⌈timeout/watchPollInterval⌉₊ := by
    by_contra later
    exact absurd sleeps.over (not_le.mpr (first _ (not_le.mp later)).2)
  obtain ⟨started,ran,told⟩ := @watch_runs looks (begun+timeout) n 0 false (fun j _ => first j) ends (Nat.zero_le n) turns (by omega)
  refine ⟨started,ran,told.trans ⟨?_,?_⟩⟩
  · rintro ⟨idle,never | ⟨j,_,high,read⟩⟩
    · exact absurd never Bool.false_ne_true
    · refine ⟨n,ends.resolve_left idle,fun k early => (first k early).2,fun k upto => ?_,j,high,read⟩
      rcases Nat.eq_or_lt_of_le upto with rfl | early
      · exact idle
      · exact (first k early).1
  · rintro ⟨m,late,early,idle,j,high,read⟩
    obtain rfl : n = m := by
      rcases Nat.lt_trichotomy n m with less | same | more
      · exact absurd ends (not_or.mpr ⟨idle n less.le,not_le.mpr (early n less)⟩)
      · exact same
      · exact absurd late (not_le.mpr (first m more).2)
    exact ⟨idle n le_rfl,Or.inr ⟨j,Nat.zero_le j,high,read⟩⟩

/-- Whatever the options say and however long the sleeps take: the watch is over after 121 looks, and tells of the command
exactly when it is on, could read the state, and saw no task up to the look that found its window over. -/
theorem clean_watch_reports {option : PyValue} {timeout : ℤ} (resolved : resolveCleanCommandWatchTimeout option = some timeout)
    (sleeps : Sleeps looks begun (begun+timeout)) (entityId entryId : Option String) (command : String) :
    ∃ told, asyncWatchCleanCommandStarted looks timeout begun entityId command entryId 121 = some told ∧
      (told.isSome = true ↔ 0 < timeout ∧ Unstarted looks (begun+timeout)) := by
  unfold asyncWatchCleanCommandStarted asyncWatchUntilTaskStarts
  rcases le_or_gt timeout 0 with off | on
  · rw [if_pos off]
    exact ⟨none,rfl,iff_of_false (by simp) (by omega)⟩
  · have upper := ((resolved_timeout resolved).resolve_left (by omega)).2
    have enough : ⌈(timeout : ℚ)/watchPollInterval⌉₊ < 121 := by
      refine Nat.lt_succ_of_le (Nat.ceil_le.mpr ?_)
      have : (timeout : ℚ) ≤ 600 := by exact_mod_cast upper
      norm_num [watchPollInterval]
      linarith
    obtain ⟨started,ran,told⟩ := watch_ends sleeps enough
    rw [if_neg (not_le.mpr on),if_neg (not_le.mpr (by exact_mod_cast on)),ran]
    refine ⟨_,rfl,?_⟩
    rw [← told]
    cases started <;> simp [on]

/-- A robot that stays idle, looked at every five seconds of a minute. -/
def idleLooks (k : ℕ) : Look := ⟨some false,min (k*5) 60,min (k*5) 60⟩

theorem clean_watch_reports_idle :
    ∃ told, asyncWatchCleanCommandStarted idleLooks 60 0 (some "vacuum.robot") "app_start" none 121 = some told ∧
      (told.isSome = true ↔ (0 : ℤ) < 60 ∧ Unstarted idleLooks (0+(60 : ℤ))) := by
  refine @clean_watch_reports idleLooks 0 (.str "soon") 60 rfl ⟨by decide +kernel,fun k => le_rfl,fun k => ?_⟩ _ _ _
  unfold pause idleLooks watchPollInterval
  push_cast
  rcases le_total ((k : ℚ)*5) 60 with early | late
  · rw [min_eq_left early]
    rcases le_total (5 : ℚ) (max 0 (0+60-k*5)) with long | short
    · rw [min_eq_left long]
      refine le_min (by linarith) ?_
      have := long.trans_eq (max_eq_right (by linarith : (0 : ℚ) ≤ 0+60-k*5))
      linarith
    · rw [min_eq_right short,max_eq_right (by linarith)]
      have := (max_eq_right (by linarith : (0 : ℚ) ≤ 0+60-k*5)).symm.trans_le short
      exact le_min (by linarith) (by linarith)
  · rw [min_eq_right late,max_eq_left (by linarith),min_eq_right (by norm_num)]
    exact le_min (by linarith) (by linarith)

end Watching

end RoborockPlus.CleanWatch
