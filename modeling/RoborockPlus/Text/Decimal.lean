import Mathlib.Data.List.Basic
import Mathlib.Tactic

/-! Integers written in decimal, and read as a lenient reader reads them: with a sign, and with
single underscores between digits of any script. -/
namespace Decimal

/-- What counts as a digit; those of ASCII do, at their value. -/
structure Digits where
  value : Char → Option ℕ
  ascii : ∀ n < 10, value n.digitChar = some n

def text : ℤ → List Char
  | .ofNat n => Nat.toDigits 10 n
  | .negSucc n => '-' :: Nat.toDigits 10 (n+1)

section Reading
variable (digits : Digits)

def readFrom : ℕ → List Char → Option ℕ
  | total, [] => some total
  | total, '_' :: c :: rest => (digits.value c).bind fun digit => readFrom (10*total+digit) rest
  | total, c :: rest => (digits.value c).bind fun digit => readFrom (10*total+digit) rest

def readNat : List Char → Option ℕ
  | [] => none
  | c :: rest => (digits.value c).bind fun digit => readFrom digits digit rest

def read : List Char → Option ℤ
  | '-' :: rest => (readNat digits rest).map fun n => -(n : ℤ)
  | '+' :: rest => (readNat digits rest).map fun n => (n : ℤ)
  | characters => (readNat digits characters).map fun n => (n : ℤ)

variable {digits}

theorem exists_digit {c : Char} (digit : c.isDigit = true) : ∃ n < 10, c = n.digitChar := by
  have range : 48 ≤ c.toNat ∧ c.toNat ≤ 57 := by
    obtain ⟨low,high⟩ := (Bool.and_eq_true _ _).mp digit
    exact ⟨UInt32.le_iff_toNat_le.mp (of_decide_eq_true low),UInt32.le_iff_toNat_le.mp (of_decide_eq_true high)⟩
  have every : ∀ n < 10, (Char.ofNat (n+48)) = n.digitChar := by decide
  refine ⟨c.toNat-48,by omega,?_⟩
  rw [← every (c.toNat-48) (by omega),Nat.sub_add_cancel range.1,Char.ofNat_toNat]

theorem readFrom_digits {characters : List Char} (all : ∀ c ∈ characters, c.isDigit = true) (total : ℕ) :
    readFrom digits total characters = some (Nat.ofDigitChars 10 characters total) := by
  induction characters generalizing total with
  | nil => rw [readFrom,Nat.ofDigitChars_nil]
  | cons c rest ih =>
    obtain ⟨first,others⟩ := List.forall_mem_cons.mp all
    obtain ⟨n,small,rfl⟩ := exists_digit first
    have apart : n.digitChar ≠ '_' := fun same => by
      rw [same] at first
      exact absurd first (by decide)
    rw [readFrom,digits.ascii n small,Option.bind_some,ih others,Nat.ofDigitChars_cons_digitChar_of_lt_ten small]
    exact fun _ _ same => absurd same apart

theorem digit_of_mem {n : ℕ} {c : Char} (member : c ∈ Nat.toDigits 10 n) : c.isDigit = true :=
  Nat.isDigit_of_mem_toDigits (by decide) (by decide) member

@[simp] theorem readNat_toDigits (n : ℕ) : readNat digits (Nat.toDigits 10 n) = some n := by
  obtain ⟨c,rest,written⟩ := List.exists_cons_of_ne_nil (@Nat.toDigits_ne_nil n 10)
  have all : ∀ d ∈ c :: rest, d.isDigit = true := fun d member => digit_of_mem (written ▸ member)
  obtain ⟨d,small,rfl⟩ := exists_digit (all c List.mem_cons_self)
  have total := @Nat.ofDigitChars_ten_toDigits n
  rw [written,Nat.ofDigitChars_cons_digitChar_of_lt_ten small,Nat.mul_zero,Nat.zero_add] at total
  rw [written,readNat,digits.ascii d small,Option.bind_some,readFrom_digits fun d member => all d (List.mem_cons_of_mem _ member),total]

theorem mem_text {n : ℤ} {c : Char} (member : c ∈ text n) : c.isDigit = true ∨ c = '-' := by
  cases n with
  | ofNat n => exact Or.inl (digit_of_mem member)
  | negSucc n => exact (List.mem_cons.mp member).elim Or.inr fun inside => Or.inl (digit_of_mem inside)

theorem text_ne_nil (n : ℤ) : text n ≠ [] := by
  cases n with
  | ofNat n => exact Nat.toDigits_ne_nil
  | negSucc n => exact List.cons_ne_nil _ _

/-- What was written is read back. -/
@[simp] theorem read_text (n : ℤ) : read digits (text n) = some n := by
  cases n with
  | ofNat n =>
    obtain ⟨c,rest,written⟩ := List.exists_cons_of_ne_nil (@Nat.toDigits_ne_nil n 10)
    have digit : c.isDigit = true := digit_of_mem (n := n) (by simp [written])
    rw [text,read,readNat_toDigits]
    · rfl
    all_goals
      intro _ same
      obtain rfl := (List.cons.inj (written.symm.trans same)).1
      exact absurd digit (by decide)
  | negSucc n =>
    rw [text,read,readNat_toDigits]
    rfl

end Reading

end Decimal
