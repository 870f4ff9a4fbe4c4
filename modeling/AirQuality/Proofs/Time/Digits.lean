import AirQuality.Time.Iso
import AirQuality.Time.Text
import Mathlib.Algebra.Group.Nat.Defs

/-!
# Numbers with leading zeros

A number that is written with leading zeros up to a width has exactly that many digits, if it is not
too large, and the digits are read back as the number.

## Key results

- `toList_padded`: the digits of a number with leading zeros
- `Iso.digits?_digitsOf`: they are read back
- `Iso.eq_of_digits?`: nothing else is read as the number
-/

namespace AirQuality.Time

open AirQuality.Text (latinDigitValue?)

/-- The last digits of a number, as many as a width says. -/
def digitsOf : Nat → Nat → List Char
  | 0, _ => []
  | width + 1, n => digitsOf width (n / 10) ++ [(n % 10).digitChar]

/-- As many digits are written as the width says. -/
@[simp] theorem length_digitsOf (width n : Nat) : (digitsOf width n).length = width := by
  induction width generalizing n with
  | zero => rfl
  | succ width ih => simp [digitsOf, ih]

/-- All digits of zero are zeros. -/
private theorem digitsOf_zero (width : Nat) : digitsOf width 0 = List.replicate width '0' := by
  induction width with
  | zero => rfl
  | succ width ih =>
    rw [digitsOf, Nat.zero_div, ih, List.replicate_succ']
    rfl

/-- A number that is not too large is written with as many digits as its width says. -/
theorem toList_padded {width n : Nat} (pos : 0 < width) (small : n < 10 ^ width) :
    (padded width n).toList = digitsOf width n := by
  have digits (n : Nat) : (padded width n).toList =
      List.replicate (width - (Nat.toDigits 10 n).length) '0' ++ Nat.toDigits 10 n :=
    String.toList_ofList
  rw [digits n]
  clear digits
  -- On the width: the last digit is split off, in the numeral as in the digits.
  induction width generalizing n with
  | zero => omega
  | succ width ih =>
    by_cases single : n < 10
    · -- A single digit behind zeros.
      rw [Nat.toDigits_of_lt_base single, digitsOf, Nat.div_eq_of_lt single,
        Nat.mod_eq_of_lt single, digitsOf_zero]
      rfl
    · have front : 0 < width := by
        cases width with
        | zero => omega
        | succ _ => omega
      have fewer : n / 10 < 10 ^ width := by
        rw [Nat.pow_succ] at small
        omega
      rw [Nat.toDigits_of_base_le (by decide) (by omega), digitsOf, ← ih front fewer,
        List.length_append, List.length_singleton, Nat.add_sub_add_right, List.append_assoc]

/-- Two digits are enough below a hundred. -/
theorem toList_padded_two {n : Nat} (small : n < 100) : (padded 2 n).toList = digitsOf 2 n :=
  toList_padded (by decide) small

/-! ## Single digits -/

/-- A digit has its own value. -/
theorem latinDigitValue?_digitChar {d : Nat} (h : d < 10) :
    latinDigitValue? d.digitChar = some d := by
  -- Ten cases.
  have all : ∀ d : Fin 10, latinDigitValue? (d : Nat).digitChar = some (d : Nat) := by decide
  exact all ⟨d, h⟩

/-- A character with the value of a digit is this digit. -/
private theorem eq_digitChar_of_latinDigitValue? {c : Char} {d : Nat}
    (read : latinDigitValue? c = some d) :
    c = d.digitChar := by
  have all : ∀ d : Fin 10, (d : Nat).digitChar.toNat = 48 + d := by decide
  have code := all ⟨d, AirQuality.Text.latinDigitValue?_lt read⟩
  unfold latinDigitValue? at read
  split at read
  · rename_i digit
    have low : 48 ≤ c.toNat := digit.1
    have value : c.toNat - 48 = d := Option.some.inj read
    -- The code of the character is that of zero and the value, as it is for the digit.
    refine Char.ext (UInt32.toNat_inj.mp ?_)
    change c.toNat = d.digitChar.toNat
    rw [code]
    dsimp only
    omega
  · cases read

/-- What holds of the ten digits holds of every single digit of a number. -/
theorem digitChar_mod {p : Char → Prop} (h : ∀ d : Fin 10, p (d : Nat).digitChar) (n : Nat) :
    p (n % 10).digitChar := h ⟨n % 10, Nat.mod_lt n (by decide)⟩

/-- A digit is neither a hyphen nor the letter of weeks. -/
theorem Iso.digitChar_ne (n : Nat) : (n % 10).digitChar ≠ '-' ∧ (n % 10).digitChar ≠ 'W' :=
  digitChar_mod (p := fun c => c ≠ '-' ∧ c ≠ 'W') (by decide) n

/-- The characters of a number are digits. -/
private theorem exists_of_mem_digitsOf {width n : Nat} {c : Char} (mem : c ∈ digitsOf width n) :
    ∃ d < 10, c = d.digitChar := by
  induction width generalizing n with
  | zero => cases mem
  | succ width ih =>
    rcases List.mem_append.mp mem with front | last
    · exact ih front
    · exact ⟨n % 10, Nat.mod_lt n (by decide), List.mem_singleton.mp last⟩

/-- A property of the ten digits is one of the characters of any number. -/
theorem forall_digitsOf {p : Char → Prop} (h : ∀ d : Fin 10, p (d : Nat).digitChar) {width n : Nat} :
    ∀ c ∈ digitsOf width n, p c := by
  intro c mem
  obtain ⟨d, small, rfl⟩ := exists_of_mem_digitsOf mem
  exact h ⟨d, small⟩

/-! ## Reading back -/

/-- Reading one digit more is reading one digit behind the others. -/
private theorem Iso.go_succ (value width : Nat) (cs : List Char) :
    Iso.digits?.go value (width + 1) cs =
      (Iso.digits?.go value width cs).bind fun r => Iso.digits?.go r.1 1 r.2 := by
  -- On the width, with the value that has been read so far left open.
  induction width generalizing value cs with
  | zero => rfl
  | succ width ih =>
    cases cs with
    | nil => rfl
    | cons c cs =>
      cases digit : latinDigitValue? c with
      | none => simp [Iso.digits?.go, digit]
      | some d =>
        have step (n : Nat) : Iso.digits?.go value (n + 1) (c :: cs) =
            Iso.digits?.go (10 * value + d) n cs := by simp [Iso.digits?.go, digit]
        rw [step, step, ih]

/-- The digits are read behind any value that was read before them. -/
private theorem Iso.go_digitsOf {width n : Nat} (small : n < 10 ^ width) (value : Nat)
    (rest : List Char) :
    Iso.digits?.go value width (digitsOf width n ++ rest) = some (value * 10 ^ width + n, rest) := by
  induction width generalizing n rest with
  | zero =>
    obtain rfl : n = 0 := by omega
    simp [digitsOf, Iso.digits?.go]
  | succ width ih =>
    have fewer : n / 10 < 10 ^ width := by
      rw [Nat.pow_succ] at small
      omega
    -- The last digit is read after all others, by the lemma above.
    have last := latinDigitValue?_digitChar (Nat.mod_lt n (show 0 < 10 by decide))
    rw [Iso.go_succ, digitsOf, List.append_assoc, ih fewer]
    simp only [List.singleton_append, Option.bind_some, Iso.digits?.go, last, Option.some.injEq,
      Prod.mk.injEq, and_true]
    rw [Nat.pow_succ, Nat.mul_add, ← Nat.mul_assoc, Nat.mul_comm 10 value, Nat.mul_assoc,
      Nat.mul_comm 10 (10 ^ width), Nat.add_assoc, Nat.div_add_mod]

/-- The digits of a number that is not too large are read back as the number. -/
theorem Iso.digits?_digitsOf {width n : Nat} (small : n < 10 ^ width) (rest : List Char) :
    Iso.digits? width (digitsOf width n ++ rest) = some (n, rest) := by
  rw [Iso.digits?, Iso.go_digitsOf small, Nat.zero_mul, Nat.zero_add]

/-- They may as well be all that there is. -/
theorem Iso.digits?_alone {width n : Nat} (small : n < 10 ^ width) :
    Iso.digits? width (digitsOf width n) = some (n, []) := by
  have read := digits?_digitsOf small []
  rwa [List.append_nil] at read

private theorem Iso.eq_of_go {width value v : Nat} {cs rest : List Char}
    (read : Iso.digits?.go value width cs = some (v, rest)) :
    ∃ n < 10 ^ width, v = value * 10 ^ width + n ∧ cs = digitsOf width n ++ rest := by
  -- The last digit is read behind the others, as it is written behind them.
  induction width generalizing v rest with
  | zero =>
    obtain ⟨rfl, rfl⟩ := Prod.mk.inj (Option.some.inj read)
    exact ⟨0, by simp, by simp, rfl⟩
  | succ width ih =>
    rw [go_succ] at read
    obtain ⟨⟨front, behind⟩, first, last⟩ := Option.bind_eq_some_iff.mp read
    obtain ⟨n, small, rfl, rfl⟩ := ih first
    cases behind with
    | nil => cases last
    | cons c behind =>
      simp only [digits?.go] at last
      split at last
      -- The last character is a digit, so that it is the last digit of the number.
      · rename_i d digit
        obtain ⟨rfl, rfl⟩ := Prod.mk.inj (Option.some.inj last)
        have single := AirQuality.Text.latinDigitValue?_lt digit
        have char := eq_digitChar_of_latinDigitValue? digit
        refine ⟨10 * n + d, by rw [Nat.pow_succ]; omega, ?_, ?_⟩
        · rw [Nat.pow_succ, Nat.mul_add, ← Nat.mul_assoc, ← Nat.mul_assoc, Nat.mul_comm 10 value,
            Nat.mul_right_comm, Nat.add_assoc]
        · have quotient : (10 * n + d) / 10 = n := by omega
          have remainder : (10 * n + d) % 10 = d := by omega
          rw [digitsOf, quotient, remainder, char, List.append_assoc]
          rfl
      · cases last

/-- What is read as a number is its digits. -/
theorem Iso.eq_of_digits? {width v : Nat} {cs rest : List Char}
    (read : Iso.digits? width cs = some (v, rest)) :
    v < 10 ^ width ∧ cs = digitsOf width v ++ rest := by
  obtain ⟨n, small, value, chars⟩ := eq_of_go read
  rw [Nat.zero_mul, Nat.zero_add] at value
  exact ⟨value ▸ small, value ▸ chars⟩

end AirQuality.Time
