import Mathlib.Data.List.Infix
import Mathlib.Tactic

/-! Runs over a list of events, and the past of a run: what was marked at some event and has not been
cleared at any event since. A memory that marks fill and clears empty holds just that. -/
namespace Temporal
variable {σ ε : Type} (step : σ → ε → σ)

def run (s : σ) (events : List ε) : σ := events.foldl step s

/-- No event of the run clears anything. -/
def Never (clear : σ → ε → Prop) (s : σ) (events : List ε) : Prop :=
  ∀ before e, before ++ [e] <+: events → ¬ clear (run step s before) e

/-- Some event marks, and no event behind it clears. -/
def Since (mark clear : σ → ε → Prop) (s : σ) (events : List ε) : Prop :=
  ∃ before e, before ++ [e] <+: events ∧ mark (run step s before) e ∧
    ∀ later f, before ++ [e] <+: later → later ++ [f] <+: events → ¬ clear (run step s later) f

variable {step} {mark clear : σ → ε → Prop} {s : σ} {events : List ε} {e : ε}

@[simp] theorem run_nil : run step s [] = s := rfl

@[simp] theorem run_snoc : run step s (events ++ [e]) = step (run step s events) e := by
  simp [run]

@[simp] theorem never_nil : Never step clear s [] := by
  intro before e inside
  simp at inside

theorem never_snoc : Never step clear s (events ++ [e]) ↔ Never step clear s events ∧ ¬ clear (run step s events) e := by
  constructor
  · intro never
    refine ⟨fun before f inside => never before f ?_,never events e (List.prefix_refl _)⟩
    exact inside.trans (List.prefix_append _ _)
  · rintro ⟨never,last⟩ before f inside
    rcases List.prefix_concat_iff.mp inside with same | earlier
    · obtain ⟨rfl,rfl⟩ : before = events ∧ f = e := by simpa using same
      exact last
    · exact never before f earlier

@[simp] theorem not_since_nil : ¬ Since step mark clear s [] := by
  rintro ⟨before,e,inside,_⟩
  simp at inside

theorem since_snoc : Since step mark clear s (events ++ [e]) ↔
    mark (run step s events) e ∨ Since step mark clear s events ∧ ¬ clear (run step s events) e := by
  constructor
  · rintro ⟨before,f,inside,marked,quiet⟩
    rcases List.prefix_concat_iff.mp inside with same | earlier
    · obtain ⟨rfl,rfl⟩ : before = events ∧ f = e := by simpa using same
      exact Or.inl marked
    · refine Or.inr ⟨⟨before,f,earlier,marked,fun later g front inside => quiet later g front ?_⟩,quiet events e earlier (List.prefix_refl _)⟩
      exact inside.trans (List.prefix_append _ _)
  · rintro (marked | ⟨⟨before,f,earlier,marked,quiet⟩,last⟩)
    · refine ⟨events,e,List.prefix_refl _,marked,fun later f front inside => ?_⟩
      -- nothing stands behind the last event
      have short := front.length_le
      have long := inside.length_le
      simp only [List.length_append,List.length_singleton] at short long
      omega
    · refine ⟨before,f,earlier.trans (List.prefix_append _ _),marked,fun later g front inside => ?_⟩
      rcases List.prefix_concat_iff.mp inside with same | within
      · obtain ⟨rfl,rfl⟩ : later = events ∧ g = e := by simpa using same
        exact last
      · exact quiet later g front within

/-- A memory is full after a run when a mark since then, or since before the run, was not cleared. -/
theorem full_iff_since {full : σ → Prop} (writes : ∀ s e, full (step s e) ↔ mark s e ∨ full s ∧ ¬ clear s e) :
    full (run step s events) ↔ Since step mark clear s events ∨ full s ∧ Never step clear s events := by
  induction events using List.reverseRecOn with
  | nil => simp
  | append_singleton events e ih =>
    rw [run_snoc,writes,ih,since_snoc,never_snoc]
    tauto

end Temporal
