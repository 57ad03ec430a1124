import Mathlib.Logic.Relation
import Mathlib.Tactic

/-! A `while` loop as what one turn of it does. Cut off after a number of turns it may have no
result yet; a measure that every turn lowers says how many turns are enough. -/
namespace Iteration

/-- A turn goes on from another state or leaves the loop with a result. -/
inductive Turn (σ β : Type)
  | next (state : σ)
  | done (result : β)

variable {σ β : Type}

/-- Nothing when the loop is still running after so many turns. -/
def run (turn : σ → Turn σ β) : ℕ → σ → Option β
  | 0, _ => none
  | turns+1, s =>
    match turn s with
    | .next s' => run turn turns s'
    | .done result => some result

def Next (turn : σ → Turn σ β) (s s' : σ) : Prop := turn s = .next s'

variable {turn : σ → Turn σ β} {s s' : σ} {result : β} {turns : ℕ}

theorem run_next (next : turn s = .next s') : run turn (turns+1) s = run turn turns s' := by
  rw [run,next]

theorem run_done (done : turn s = .done result) : run turn (turns+1) s = some result := by
  rw [run,done]

/-- A result is the one with which the last state that was reached leaves the loop. -/
theorem run_reaches (ended : run turn turns s = some result) :
    ∃ last, Relation.ReflTransGen (Next turn) s last ∧ turn last = .done result := by
  induction turns generalizing s with
  | zero => simp [run] at ended
  | succ turns ih =>
    cases taken : turn s with
    | next s' =>
      rw [run_next taken] at ended
      obtain ⟨last,reached,done⟩ := ih ended
      exact ⟨last,.head taken reached,done⟩
    | done other =>
      rw [run_done taken] at ended
      exact ⟨s,.refl,taken.trans (congrArg _ (Option.some.inj ended))⟩

theorem run_ends {measure : σ → ℕ} (lowers : ∀ s s', turn s = .next s' → measure s' < measure s)
    (enough : measure s < turns) : ∃ result, run turn turns s = some result := by
  induction turns generalizing s with
  | zero => simp at enough
  | succ turns ih =>
    cases taken : turn s with
    | next s' =>
      have less := lowers s s' taken
      rw [run_next taken]
      exact ih (by omega)
    | done other => exact ⟨other,run_done taken⟩

end Iteration
