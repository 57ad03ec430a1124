import Mathlib.Data.Nat.Digits.Defs
import Mathlib.Tactic

/-! Byte strings: little-endian integers of a fixed width, with and without a sign, and
what slicing and writing leave of a string that is known in parts. -/
namespace Binary

abbrev Bytes := List UInt8

def fromBytes (bytes : Bytes) : ℕ := Nat.ofDigits 256 (bytes.map (·.toNat))

def toBytes : ℕ → ℕ → Bytes
  | 0, _ => []
  | width+1, n => UInt8.ofNat n :: toBytes width (n/256)

/-- Two's complement. -/
def fromSigned (bytes : Bytes) : ℤ :=
  if 2*fromBytes bytes < 256^bytes.length then fromBytes bytes else fromBytes bytes-256^bytes.length

def Fits (width : ℕ) (x : ℤ) : Prop := -256^width ≤ 2*x ∧ 2*x < 256^width

instance (width : ℕ) (x : ℤ) : Decidable (Fits width x) := inferInstanceAs (Decidable (_ ∧ _))

/-- Nothing when the integer does not fit. -/
def toSigned (width : ℕ) (x : ℤ) : Option Bytes :=
  if Fits width x then some (toBytes width (x % 256^width).toNat) else none

/-- `bytes[start:stop]`. -/
def slice (bytes : Bytes) (start stop : ℕ) : Bytes := (bytes.drop start).take (stop-start)

/-- `bytes[start:stop] = new`. -/
def overwrite (bytes : Bytes) (start stop : ℕ) (new : Bytes) : Bytes := bytes.take start ++ new ++ bytes.drop stop

section Integers
variable {width n : ℕ} {x : ℤ}

@[simp] theorem length_toBytes (width n : ℕ) : (toBytes width n).length = width := by
  induction width generalizing n with
  | zero => rfl
  | succ width ih => simp [toBytes,ih]

theorem fromBytes_toBytes (bound : n < 256^width) : fromBytes (toBytes width n) = n := by
  induction width generalizing n with
  | zero =>
    have none : n = 0 := by simpa using bound
    simp [toBytes,fromBytes,none]
  | succ width ih =>
    have rest : n/256 < 256^width := Nat.div_lt_of_lt_mul (by rwa [pow_succ'] at bound)
    have tail : Nat.ofDigits 256 ((toBytes width (n/256)).map (·.toNat)) = n/256 := ih rest
    simp only [toBytes,fromBytes,List.map_cons,Nat.ofDigits_cons,tail,UInt8.toNat_ofNat']
    exact Nat.mod_add_div n 256

theorem toSigned_fits (fits : Fits width x) : ∃ bytes, toSigned width x = some bytes ∧ bytes.length = width ∧ fromSigned bytes = x := by
  refine ⟨_,if_pos fits,length_toBytes _ _,?_⟩
  obtain ⟨low,high⟩ := fits
  have positive : (0 : ℤ) < 256^width := by positivity
  have inside : (x % 256^width).toNat < 256^width := by
    have below := Int.emod_lt_of_pos x positive
    have above := Int.emod_nonneg x positive.ne'
    zify
    rwa [Int.toNat_of_nonneg above]
  unfold fromSigned
  rw [length_toBytes,fromBytes_toBytes inside]
  have value : ((x % 256^width).toNat : ℤ) = x % 256^width := Int.toNat_of_nonneg (Int.emod_nonneg x positive.ne')
  rcases lt_or_ge x 0 with negative | natural
  · have wrapped : x % 256^width = x+256^width := by
      rw [← Int.add_emod_right]
      exact Int.emod_eq_of_lt (by linarith) (by linarith)
    rw [if_neg,value,wrapped]
    · ring
    · zify
      rw [value,wrapped]
      linarith
  · have same : x % 256^width = x := Int.emod_eq_of_lt natural (by linarith)
    rw [if_pos,value,same]
    zify
    rw [value,same]
    linarith

end Integers

section Parts
variable {bytes before middle after new : Bytes} {start : ℕ}

theorem slice_part (parts : bytes = before ++ (middle ++ after)) (at_ : before.length = start) :
    slice bytes start (start+middle.length) = middle := by
  subst parts at_
  simp [slice]

theorem overwrite_part (parts : bytes = before ++ (middle ++ after)) (at_ : before.length = start) :
    overwrite bytes start (start+middle.length) new = before ++ (new ++ after) := by
  subst parts at_
  simp [overwrite]

end Parts

section Places
variable {bytes other new : Bytes} {start stop inner outer i : ℕ}

theorem length_slice (inside : stop ≤ bytes.length) : (slice bytes start stop).length = stop-start := by
  rw [slice,List.length_take,List.length_drop]
  omega

theorem slice_congr (same : ∀ i, start ≤ i → i < stop → other[i]? = bytes[i]?) : slice other start stop = slice bytes start stop := by
  apply List.ext_getElem?
  intro i
  simp only [slice,List.getElem?_take,List.getElem?_drop]
  split_ifs with inside
  · exact same (start+i) (Nat.le_add_right start i) (by omega)
  · rfl

theorem slice_slice (inside : start+outer ≤ stop) :
    slice (slice bytes start stop) inner outer = slice bytes (start+inner) (start+outer) := by
  simp only [slice,List.drop_take,List.drop_drop,List.take_take]
  congr 1
  omega

theorem length_overwrite (ordered : start ≤ stop) (inside : stop ≤ bytes.length) (fits : new.length = stop-start) :
    (overwrite bytes start stop new).length = bytes.length := by
  simp only [overwrite,List.length_append,List.length_take,List.length_drop]
  omega

theorem overwrite_outside (ordered : start ≤ stop) (inside : stop ≤ bytes.length) (fits : new.length = stop-start)
    (outside : i < start ∨ stop ≤ i) : (overwrite bytes start stop new)[i]? = bytes[i]? := by
  have front : (bytes.take start).length = start := List.length_take_of_le (ordered.trans inside)
  have back : (bytes.take start ++ new).length = stop := by
    rw [List.length_append,front,fits]
    omega
  rcases outside with before | behind
  · rw [overwrite,List.append_assoc,List.getElem?_append_left (by omega),List.getElem?_take_of_lt before]
  · rw [overwrite,List.getElem?_append_right (by omega),back,List.getElem?_drop,Nat.add_sub_cancel' behind]

theorem slice_overwrite (ordered : start ≤ stop) (inside : stop ≤ bytes.length) (fits : new.length = stop-start)
    (within : inner ≤ stop) : slice (overwrite bytes start stop new) start inner = new.take (inner-start) := by
  have front : (bytes.take start).length = start := List.length_take_of_le (ordered.trans inside)
  rw [slice,overwrite,List.append_assoc,List.drop_left' front,List.take_append_of_le_length (by omega)]

theorem overwrite_overwrite {first second : Bytes} (ordered : start ≤ inner) (inside : stop ≤ bytes.length) (tight : inner ≤ stop)
    (fits : first.length = inner-start) :
    overwrite (overwrite bytes start inner first) inner stop second = overwrite bytes start stop (first ++ second) := by
  have front : (bytes.take start).length = start := List.length_take_of_le (by omega)
  have both : (bytes.take start ++ first).length = inner := by
    rw [List.length_append,front,fits]
    omega
  unfold overwrite
  rw [List.take_left' both,List.drop_append,List.drop_of_length_le (both.le.trans tight),both,List.drop_drop,Nat.add_sub_cancel' tight]
  simp

end Places

end Binary
