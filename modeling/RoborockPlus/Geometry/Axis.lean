import Mathlib.Algebra.Order.Round
import Mathlib.Tactic

/-! Coordinates read off two reference points. Such a map is affine and has an inverse of its own
kind; it may turn the line around, and then the ends of an interval change places. -/
namespace Geometry

/-- Two different places on one line, and two on another that they correspond to. -/
structure Axis (k : Type*) where
  source₀ : k
  source₁ : k
  target₀ : k
  target₁ : k
  source_ne : source₁ ≠ source₀
  target_ne : target₁ ≠ target₀

namespace Axis
variable {k : Type*} [Field k] (a : Axis k) (x y : k)

def place : k := a.target₀+(x-a.source₀)*(a.target₁-a.target₀)/(a.source₁-a.source₀)

def inverse : Axis k := ⟨a.target₀,a.target₁,a.source₀,a.source₁,a.target_ne,a.source_ne⟩

def slope : k := (a.target₁-a.target₀)/(a.source₁-a.source₀)

@[simp] theorem inverse_place : a.inverse.place (a.place x) = x := by
  have source : a.source₁-a.source₀ ≠ 0 := sub_ne_zero.mpr a.source_ne
  have target : a.target₁-a.target₀ ≠ 0 := sub_ne_zero.mpr a.target_ne
  simp only [place,inverse]
  field_simp
  ring

@[simp] theorem place_inverse : a.place (a.inverse.place x) = x := a.inverse.inverse_place x

theorem place_sub : a.place y-a.place x = a.slope*(y-x) := by
  simp only [place,slope]
  ring

theorem slope_ne_zero : a.slope ≠ 0 := div_ne_zero (sub_ne_zero.mpr a.target_ne) (sub_ne_zero.mpr a.source_ne)

variable [LinearOrder k] [IsStrictOrderedRing k]

theorem place_strict : StrictMono a.place ∨ StrictAnti a.place := by
  rcases lt_or_gt_of_ne a.slope_ne_zero with falling | rising
  · refine Or.inr fun x y less => ?_
    have lower := mul_neg_of_neg_of_pos falling (sub_pos.mpr less)
    rw [← place_sub] at lower
    exact sub_neg.mp lower
  · refine Or.inl fun x y less => ?_
    have higher := mul_pos rising (sub_pos.mpr less)
    rw [← place_sub] at higher
    exact sub_pos.mp higher

end Axis

section Intervals
variable {α β : Type*} [LinearOrder α] [LinearOrder β] {f : α → β} {g : β → α} {r : β → β} {x y : α}

/-- An interval is sorted on the other line, changed there by something that keeps the order, and
sorted again when it comes back. Its ends are the changed ends. -/
theorem interval_returns (there : ∀ y, f (g y) = y) (turns : StrictMono f ∨ StrictAnti f) (rounds : Monotone r) (ordered : x ≤ y) :
    f (min (g (r (min (f x) (f y)))) (g (r (max (f x) (f y))))) = r (f x) ∧
      f (max (g (r (min (f x) (f y)))) (g (r (max (f x) (f y))))) = r (f y) := by
  rcases turns with rising | falling
  · have image : f x ≤ f y := rising.monotone ordered
    have back : g (r (f x)) ≤ g (r (f y)) := by
      rw [← rising.le_iff_le,there,there]
      exact rounds image
    rw [min_eq_left image,max_eq_right image,min_eq_left back,max_eq_right back]
    exact ⟨there _,there _⟩
  · have image : f y ≤ f x := falling.antitone ordered
    have back : g (r (f x)) ≤ g (r (f y)) := by
      rw [← falling.le_iff_ge,there,there]
      exact rounds image
    rw [min_eq_right image,max_eq_left image,min_eq_right back,max_eq_left back]
    exact ⟨there _,there _⟩

theorem sorted_image (f : α → β) (x y : α) : min (f (min x y)) (f (max x y)) = min (f x) (f y) ∧
    max (f (min x y)) (f (max x y)) = max (f x) (f y) := by
  rcases le_total x y with ordered | turned
  · rw [min_eq_left ordered,max_eq_right ordered]
    exact ⟨rfl,rfl⟩
  · rw [min_eq_right turned,max_eq_left turned]
    exact ⟨min_comm _ _,max_comm _ _⟩

end Intervals

section Rounding
variable {k : Type*} [Field k] [LinearOrder k] [IsStrictOrderedRing k] [FloorRing k] {x y : k}

/-- A place at which rounding goes over to the next integer lies between the two. -/
def HalfBetween (x y : k) : Prop := ∃ n : ℤ, min x y < n-1/2 ∧ n-1/2 ≤ max x y

theorem round_mono : Monotone (round : k → ℤ) := by
  intro x y ordered
  rw [round_eq,round_eq]
  exact Int.floor_le_floor (by linarith)

theorem round_min_lt_round_max : round (min x y) < round (max x y) ↔ HalfBetween x y := by
  rw [round_eq,round_eq]
  constructor
  · intro less
    refine ⟨⌊max x y+1/2⌋,?_,?_⟩
    · have above := Int.floor_lt.mp less
      linarith
    · have below := Int.floor_le (max x y+1/2)
      linarith
  · rintro ⟨n,above,below⟩
    calc ⌊min x y+1/2⌋ < n := Int.floor_lt.mpr (by linarith)
      _ ≤ ⌊max x y+1/2⌋ := Int.le_floor.mpr (by linarith)

theorem round_mono_cast : Monotone fun x : k => ((round x : ℤ) : k) := fun _ _ ordered => Int.cast_le.mpr (round_mono ordered)

/-- An interval that is rounded on the other line comes back with its ends moved by no more there
than the rounding. -/
theorem Axis.rounded_returns (a : Axis k) (x y : k) :
    |a.place (min (a.inverse.place (round (min (a.place x) (a.place y)))) (a.inverse.place (round (max (a.place x) (a.place y)))))-
        a.place (min x y)| ≤ 1/2 ∧
      |a.place (max (a.inverse.place (round (min (a.place x) (a.place y)))) (a.inverse.place (round (max (a.place x) (a.place y)))))-
        a.place (max x y)| ≤ 1/2 := by
  have returned := interval_returns (f := a.place) (g := a.inverse.place) (r := fun t => ((round t : ℤ) : k)) a.place_inverse
    a.place_strict round_mono_cast (min_le_max : min x y ≤ max x y)
  rw [(sorted_image a.place x y).1,(sorted_image a.place x y).2] at returned
  rw [returned.1,returned.2,abs_sub_comm,abs_sub_comm _ (a.place (max x y))]
  exact ⟨abs_sub_round _,abs_sub_round _⟩

end Rounding

end Geometry
