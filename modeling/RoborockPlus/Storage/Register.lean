import Mathlib.Data.List.Infix
import Mathlib.Tactic

/-! Registers under a key each, written by numbered writers. Which values a register
may hold once some of the writes are acknowledged, and the versions of a file that
takes the writes over one by one. -/
namespace Storage

structure Write (κ β : Type) where
  writer : ℕ
  key : κ
  value : Option β

variable {κ β : Type}

/-- The first `k` writes take in every one that such a writer made. -/
def Covers (chosen : ℕ → Bool) (writes : List (Write κ β)) (k : ℕ) : Prop :=
  ∀ w older, w :: older <:+ writes → chosen w.writer = true → older.length < k

section Covers
variable {chosen chosen' : ℕ → Bool} {writes : List (Write κ β)} {w : Write κ β} {k k' : ℕ}

theorem Covers.full : Covers chosen writes writes.length := by
  intro w older suffix _
  exact Nat.lt_of_lt_of_le (Nat.lt_succ_self older.length) suffix.length_le

theorem Covers.mono (covers : Covers chosen writes k) (le : k ≤ k') : Covers chosen writes k' :=
  fun w older suffix taken => Nat.lt_of_lt_of_le (covers w older suffix taken) le

theorem Covers.cons (covers : Covers chosen writes k) (other : chosen w.writer = false) : Covers chosen (w :: writes) k := by
  intro v older suffix taken
  rcases List.suffix_cons_iff.mp suffix with same | before
  · obtain ⟨rfl,-⟩ := List.cons.inj same
    exact absurd (other.symm.trans taken) Bool.false_ne_true
  · exact covers v older before taken

theorem Covers.or (first : Covers chosen writes k) (second : Covers chosen' writes k) :
    Covers (fun t => chosen t || chosen' t) writes k := by
  intro w older suffix taken
  rcases Bool.or_eq_true_iff.mp taken with one | other
  · exact first w older suffix one
  · exact second w older suffix other

end Covers

variable [DecidableEq κ]

/-- The newest write of a key, or what was there before. The writes come newest first. -/
def latest (initial : κ → Option β) : List (Write κ β) → κ → Option β
  | [], key => initial key
  | w :: older, key => if w.key = key then w.value else latest initial older key

/-- A register may hold the newest acknowledged write of its key, or any write after it. -/
def admits [DecidableEq β] (initial : κ → Option β) (acknowledged : ℕ → Bool) (key : κ) (value : Option β) :
    List (Write κ β) → Bool
  | [] => value == initial key
  | w :: older =>
    if w.key = key then value == w.value || !acknowledged w.writer && admits initial acknowledged key value older
    else admits initial acknowledged key value older

def version (initial : κ → Option β) (writes : List (Write κ β)) (k : ℕ) : κ → Option β :=
  latest initial (writes.drop (writes.length-k))

variable {initial : κ → Option β} {writes : List (Write κ β)} {w : Write κ β} {k : ℕ}

@[simp] theorem latest_nil (key : κ) : latest initial [] key = initial key := rfl

theorem latest_cons (key : κ) :
    latest initial (w :: writes) key = if w.key = key then w.value else latest initial writes key := rfl

theorem version_all : version initial writes writes.length = latest initial writes := by
  simp [version]

theorem version_cons (inside : k ≤ writes.length) : version initial (w :: writes) k = version initial writes k := by
  have skipped : (w :: writes).length-k = (writes.length-k)+1 := by
    rw [List.length_cons]
    omega
  rw [version,skipped,List.drop_succ_cons,version]

section Admits
variable [DecidableEq β] {acknowledged : ℕ → Bool} {key : κ}

theorem admits_latest : admits initial acknowledged key (latest initial writes key) writes = true := by
  induction writes with
  | nil => simp [admits]
  | cons w older ih =>
    rw [admits,latest_cons]
    split
    · simp
    · exact ih

theorem admits_version (inside : k ≤ writes.length) (covers : Covers acknowledged writes k) :
    admits initial acknowledged key (version initial writes k key) writes = true := by
  induction writes with
  | nil => simp [admits,version]
  | cons w older ih =>
    rcases Nat.lt_or_ge older.length k with newest | earlier
    · obtain rfl : k = (w :: older).length := by
        rw [List.length_cons] at inside ⊢
        omega
      rw [version_all]
      exact admits_latest
    · -- the newest write is not taken over yet, so nobody has been told of it
      have pending : acknowledged w.writer = false := by
        cases told : acknowledged w.writer with
        | false => rfl
        | true => exact absurd (covers w older (List.suffix_refl _) told) (Nat.not_lt.mpr earlier)
      have rest := ih earlier fun v before suffix => covers v before (suffix.trans (List.suffix_cons _ _))
      rw [version_cons earlier,admits]
      simp [pending,rest]

end Admits

end Storage
