import AirQuality.Json.Reader
import AirQuality.Json.Writer
import AirQuality.Proofs.Number.Shortest

/-!
# Numbers in documents

A number that is written in a document is read back: a finite double from its shortest decimal,
whichever of its layouts is chosen, and an integer from its digits, unless there are too many of
them. What follows the number must not be taken for a part of it.

## Key results

- `layOut_eq`: every layout has parts that write the number of its digits
- `number_parts`: how a numeral with these parts is read
- `scalar_numberText`: which numbers are read back
-/

namespace AirQuality.Json

open Number (charValue ofDigits ofScientific signed withSign Dyadic FloatStyle exponentChars layOut
  digits_toDigits ofDigits_numeral ofDigits_append isDigit_iff)

/-- Whether what follows a number cannot be taken for a part of it. -/
def EndsNumber (rest : List Char) : Prop :=
  ∀ c ∈ rest.head?, c.isDigit = false ∧ c ≠ '.' ∧ c ≠ 'e' ∧ c ≠ 'E'

/-- No digit follows a number. -/
theorem EndsNumber.noDigit {rest : List Char} (ends : EndsNumber rest) :
    ∀ c ∈ rest.head?, c.isDigit = false := fun c mem => (ends c mem).1

/-! ## Runs of digits -/

/-- Digits are read up to the first character that is none. -/
private theorem plainDigits_append {ds rest : List Char} (digits : ∀ c ∈ ds, c.isDigit = true)
    (stops : ∀ c ∈ rest.head?, c.isDigit = false) :
    plainDigits (ds ++ rest) = (ds.map charValue, rest) := by
  -- Nothing of the rest is taken, as it does not begin with a digit.
  have none : rest.takeWhile Char.isDigit = [] ∧ rest.dropWhile Char.isDigit = rest := by
    cases rest with
    | nil => exact ⟨rfl, rfl⟩
    | cons c rest => simp [stops c rfl]
  rw [plainDigits, List.takeWhile_append_of_pos digits, List.dropWhile_append_of_pos digits, none.1,
    none.2, List.append_nil]
  rfl

/-- A digit is no sign, no point and no letter. -/
theorem ne_of_isDigit {c d : Char} (digit : c.isDigit = true) (other : d.isDigit = false) :
    c ≠ d := fun same => by
  rw [same, other] at digit
  cases digit

/-- The value of a digit is less than ten. -/
private theorem charValue_lt {c : Char} (digit : c.isDigit = true) : charValue c < 10 := by
  have bounds := isDigit_iff.mp digit
  have zero : '0'.toNat = 48 := rfl
  unfold charValue
  omega

/-- The digits in front of a point: a single zero, or digits that do not start with one. -/
structure IsWhole (whole : List Char) : Prop where
  digits : ∀ c ∈ whole, c.isDigit = true
  nonempty : whole ≠ []
  leading : whole = ['0'] ∨ whole.head? ≠ some '0'

/-- A point and the digits behind it, if there are any. -/
def pointChars (fraction : List Char) : List Char :=
  if fraction.isEmpty then [] else '.' :: fraction

/-- The letter of an exponent and the exponent, if there is one. -/
def exponentTail : Option Int → List Char
  | none => []
  | some e => 'e' :: exponentChars e

/-! ## Reading the parts -/

/-- Zeros write nothing. -/
private theorem ofDigits_zeros (n : Nat) : ofDigits ((List.replicate n '0').map charValue) = 0 := by
  induction n with
  | zero => rfl
  | succ n ih =>
    rw [List.replicate_succ, List.map_cons, Number.ofDigits_cons, ih, Nat.add_zero]
    exact Nat.zero_mul _

/-- An exponent is written with a sign and at least one digit. -/
private theorem digits_exponentChars (e : Int) :
    ∃ ds, exponentChars e = (if e < 0 then '-' else '+') :: ds ∧ (∀ c ∈ ds, c.isDigit = true) ∧
      ds ≠ [] ∧ ofDigits (ds.map charValue) = e.natAbs := by
  refine ⟨_, rfl, ?_, ?_, ?_⟩
  -- Zeros that fill up to two digits are digits as well.
  · intro c mem
    rcases List.mem_append.mp mem with zero | digit
    · rw [List.eq_of_mem_replicate zero]
      decide
    · exact digits_toDigits _ c digit
  · simp [Nat.toDigits_ne_nil]
  -- Zeros in front of a number do not change it.
  · rw [List.map_append, ofDigits_append, ofDigits_zeros, ofDigits_numeral, Nat.zero_mul,
      Nat.zero_add]

/-- An exponent is read up to what follows the number. -/
private theorem exponentPart?_tail {rest : List Char} (ends : EndsNumber rest) (tail : Option Int) :
    exponentPart? (exponentTail tail ++ rest) = tail.map fun e => (e, rest) := by
  -- Without an exponent nothing may be taken for one, and otherwise its sign decides.
  cases tail with
  | none =>
    cases rest with
    | nil => rfl
    | cons c rest =>
      obtain ⟨-, -, lower, upper⟩ := ends c rfl
      simp [exponentTail, exponentPart?, lower, upper]
  | some e =>
    -- An exponent has a sign, whatever it is.
    obtain ⟨ds, chars, digits, nonempty, value⟩ := digits_exponentChars e
    have read := plainDigits_append digits ends.noDigit
    have some : (ds.map charValue).isEmpty = false := by simpa using nonempty
    rw [exponentTail, chars]
    by_cases negative : e < 0
    · simp only [negative, if_true, List.cons_append, exponentPart?, true_or, Number.takeSign, read,
        some, Option.map_some]
      rw [value, signed, if_pos rfl, if_neg (by simp), ← Int.eq_neg_natAbs_of_nonpos negative.le]
    · simp only [negative, if_false, List.cons_append, exponentPart?, true_or, if_true,
        Number.takeSign, read, some, Option.map_some]
      rw [value, signed, if_neg (by simp), if_neg (by simp),
        Int.natAbs_of_nonneg (not_lt.mp negative)]

/-- A fraction is read up to the exponent or what follows the number. -/
private theorem fractionPart?_point {fraction rest : List Char}
    (digits : ∀ c ∈ fraction, c.isDigit = true) (stops : ∀ c ∈ rest.head?, c.isDigit = false)
    (noPoint : rest.head? ≠ some '.') :
    (fractionPart? (pointChars fraction ++ rest)).getD ([], pointChars fraction ++ rest) =
      (fraction.map charValue, rest) := by
  unfold pointChars
  -- Without a fraction there is no point, and what follows begins with none.
  cases fraction with
  | nil =>
    cases rest with
    | nil => rfl
    | cons c rest =>
      have other : c ≠ '.' := fun point => noPoint (by rw [point]; rfl)
      simp [fractionPart?, other]
  | cons d ds =>
    have point : pointChars (d :: ds) ++ rest = '.' :: (d :: ds ++ rest) := rfl
    rw [← pointChars, point, fractionPart?, plainDigits_append digits stops]
    rfl

/-- Behind the digits of a fraction there is no further digit, and no second point. -/
private theorem head?_exponentTail {rest : List Char} (ends : EndsNumber rest) (tail : Option Int) :
    (∀ c ∈ (exponentTail tail ++ rest).head?, c.isDigit = false) ∧
      (exponentTail tail ++ rest).head? ≠ some '.' := by
  cases tail with
  -- What follows a number begins with neither.
  | none => exact ⟨ends.noDigit, fun point => (ends '.' point).2.1 rfl⟩
  | some e =>
    refine ⟨fun c first => ?_, by simp [exponentTail]⟩
    obtain rfl : 'e' = c := by simpa [exponentTail] using first
    decide

/-- The digits in front of a point are read up to it. -/
private theorem wholePart_append {whole rest : List Char} (isWhole : IsWhole whole)
    (stops : ∀ c ∈ rest.head?, c.isDigit = false) :
    wholePart (whole ++ rest) = (whole.map charValue, rest) := by
  -- A zero in front stands alone; other digits are taken as far as they go.
  rcases isWhole.leading with rfl | notZero
  · rfl
  · have read := plainDigits_append isWhole.digits stops
    cases whole with
    | nil => exact absurd rfl isWhole.nonempty
    | cons c cs =>
      rw [← read, List.cons_append, wholePart]
      exact fun _ same => notZero (congrArg List.head? same)

/-- Behind the digits in front of a point there is no further digit. -/
private theorem head?_pointChars (fraction : List Char) {rest : List Char}
    (stops : ∀ c ∈ rest.head?, c.isDigit = false) :
    ∀ c ∈ (pointChars fraction ++ rest).head?, c.isDigit = false := by
  unfold pointChars
  cases fraction with
  | nil => exact stops
  | cons d ds =>
    -- A point is no digit.
    intro c first
    obtain rfl : '.' = c := by simpa using first
    decide

/-- A sign, if the number has one. -/
def signChars (negative : Bool) : List Char := if negative then ['-'] else []

/-- How a numeral with a whole part, a fraction and an exponent is read. -/
theorem number_parts (negative : Bool) {whole fraction rest : List Char} (tail : Option Int)
    (isWhole : IsWhole whole) (digits : ∀ c ∈ fraction, c.isDigit = true)
    (ends : EndsNumber rest) :
    number (signChars negative ++ (whole ++ (pointChars fraction ++ (exponentTail tail ++ rest)))) =
      if fraction = [] ∧ tail = none then
        if Number.maxIntegerDigits < whole.length then .error .integerTooLong
        else .ok (ofInt (signed negative (ofDigits (whole.map charValue))), rest)
      else
        .ok (ofFloat (withSign negative
          (ofScientific ((whole ++ fraction).map charValue)
            (tail.getD 0 - (fraction.length : Int)))), rest) := by
  -- Each part is read up to the next one.
  obtain ⟨stops, noPoint⟩ := head?_exponentTail ends tail
  have unsigned (rest : List Char) :
      takeMinus (signChars negative ++ (whole ++ rest)) = (negative, whole ++ rest) := by
    cases negative with
    -- A minus sign is taken; a digit is none.
    | true => rfl
    | false =>
      cases whole with
      | nil => exact absurd rfl isWhole.nonempty
      | cons c cs =>
        have digit : c ≠ '-' := ne_of_isDigit (isWhole.digits c List.mem_cons_self) (by decide)
        simp [signChars, takeMinus, digit]
  have wholeRead := wholePart_append isWhole (head?_pointChars fraction stops)
  have fractionRead := fractionPart?_point digits stops noPoint
  have tailRead := exponentPart?_tail ends tail
  have some : (whole.map charValue).isEmpty = false := by simpa using isWhole.nonempty
  unfold number
  simp only [unsigned, wholeRead, fractionRead, tailRead, some]
  -- An integer has neither a fraction nor an exponent; anything else is a float.
  cases fraction with
  | nil =>
    cases tail with
    | none => simp [exponentTail]
    | some e => simp
  | cons d ds =>
    cases tail with
    | none => simp [exponentTail]
    | some e => simp

/-! ## The layouts -/

/-- Zeros are digits. -/
private theorem digits_zeros (n : Nat) :
    ∀ c ∈ List.replicate n '0', c.isDigit = true := fun c mem => by
  rw [List.eq_of_mem_replicate mem]
  decide

/-- Digits with the same first one can stand in front of a point as well. -/
private theorem IsWhole.of_head {ds whole : List Char} (isWhole : IsWhole ds)
    (digits : ∀ c ∈ whole, c.isDigit = true) (same : whole.head? = ds.head?)
    (zero : ds = ['0'] → whole = ['0']) : IsWhole whole where
  digits := digits
  nonempty := fun none => isWhole.nonempty (List.head?_eq_none_iff.mp (same ▸ none ▸ rfl))
  leading := isWhole.leading.imp zero fun other => same ▸ other

/-- The parts of a layout: the digits in front of the point, those behind it, and the exponent. -/
structure Parts where
  whole : List Char
  fraction : List Char
  tail : Option Int

/-- The characters of a layout. -/
def Parts.chars (p : Parts) : List Char :=
  p.whole ++ (pointChars p.fraction ++ exponentTail p.tail)

/-- Whether the parts are those of a float, and write the number of some digits, the first of which
stands at a place. -/
structure Parts.Writes (p : Parts) (ds : List Char) (place : Int) : Prop where
  isWhole : IsWhole p.whole
  digits : ∀ c ∈ p.fraction, c.isDigit = true
  isFloat : ¬(p.fraction = [] ∧ p.tail = none)
  value : (ofDigits ((p.whole ++ p.fraction).map charValue) : ℚ) *
      10 ^ (p.tail.getD 0 - (p.fraction.length : Int)) =
    ofDigits (ds.map charValue) * 10 ^ (place + 1 - (ds.length : Int))

section Layouts

variable {ds : List Char} (isWhole : IsWhole ds)

include isWhole

/-- The first of some digits are digits. -/
private theorem IsWhole.digits_take (n : Nat) : ∀ c ∈ ds.take n, c.isDigit = true := fun c mem =>
  isWhole.digits c (List.mem_of_mem_take mem)

/-- The last of some digits are digits. -/
private theorem IsWhole.digits_drop (n : Nat) : ∀ c ∈ ds.drop n, c.isDigit = true := fun c mem =>
  isWhole.digits c (List.mem_of_mem_drop mem)

/-- Digits with zeros behind them are digits. -/
private theorem IsWhole.digits_append_zeros (n : Nat) :
    ∀ c ∈ ds ++ List.replicate n '0', c.isDigit = true :=
  List.forall_mem_append.mpr ⟨isWhole.digits, digits_zeros n⟩

omit isWhole in
/-- The first digit is kept when others are cut off. -/
private theorem head?_take_succ (n : Nat) :
    (ds.take (n + 1)).head? = ds.head? := by cases ds <;> rfl

/-- One digit stands in front of the point, and there is an exponent. -/
private theorem writes_scientific (place : Int) :
    Parts.Writes ⟨ds.take 1, ds.drop 1, some place⟩ ds place where
  -- A single digit keeps its place.
  isWhole := isWhole.of_head (isWhole.digits_take 1) (head?_take_succ 0) fun same => by
    rw [same]
    rfl
  digits := isWhole.digits_drop 1
  isFloat := by simp
  value := by
    have length : 0 < ds.length := List.length_pos_iff.mpr isWhole.nonempty
    -- Shifting the point and setting the exponent cancel each other out.
    rw [List.take_append_drop, List.length_drop, Option.getD_some]
    congr 2
    omega

/-- A number less than one starts with a zero, and all its digits stand behind the point. -/
private theorem writes_small {place : Int} (small : place < 0) :
    Parts.Writes ⟨['0'], List.replicate (-place - 1).toNat '0' ++ ds, none⟩ ds place where
  isWhole := ⟨List.forall_mem_singleton.mpr rfl, List.cons_ne_nil _ _, .inl rfl⟩
  digits := List.forall_mem_append.mpr ⟨digits_zeros _, isWhole.digits⟩
  isFloat := by simp [isWhole.nonempty]
  value := by
    -- The zero in front and those behind the point count for nothing.
    rw [← List.append_assoc, List.map_append, ofDigits_append,
      show ['0'] ++ List.replicate (-place - 1).toNat '0' =
        List.replicate ((-place - 1).toNat + 1) '0' from rfl, ofDigits_zeros, Nat.zero_mul,
      Nat.zero_add, List.length_append, List.length_replicate, Option.getD_none]
    congr 2
    omega

/-- All digits stand in front of the point, with zeros up to it. -/
private theorem writes_integral {place : Int} (large : 0 ≤ place) (zero : ds = ['0'] → place = 0)
    (short : ds.length ≤ place.toNat + 1) :
    Parts.Writes ⟨ds ++ List.replicate (place.toNat + 1 - ds.length) '0', ['0'], none⟩ ds place where
  isWhole := by
    -- Zero is written as it is, and zeros behind other digits do not change the first one.
    refine isWhole.of_head (isWhole.digits_append_zeros _) ?_ fun same => ?_
    · exact List.head?_append_of_ne_nil _ isWhole.nonempty
    · rw [zero same, same]
      rfl
  digits := List.forall_mem_singleton.mpr rfl
  isFloat := by simp
  value := by
    -- As many zeros as places, and one more behind the point
    have shift : (10 : ℚ) ^ ((place.toNat + 1 - ds.length : Nat) : Int) * 10 * 10 ^ (-1 : Int) =
        10 ^ (place + 1 - (ds.length : Int)) := by
      rw [mul_assoc, ← zpow_one_add₀ (by norm_num), ← zpow_add₀ (by norm_num)]
      congr 1
      omega
    rw [List.map_append, ofDigits_append, List.map_append, ofDigits_append, ofDigits_zeros, ← shift]
    simp [ofDigits, charValue]

/-- The point stands among the digits. -/
private theorem writes_pointed {place : Int} (large : 0 ≤ place)
    (long : place.toNat + 1 < ds.length) :
    Parts.Writes ⟨ds.take (place.toNat + 1), ds.drop (place.toNat + 1), none⟩ ds place where
  isWhole := isWhole.of_head (isWhole.digits_take _) (head?_take_succ _) fun same => by
    -- A single digit is too short for this layout.
    rw [same] at long
    simp at long
  digits := isWhole.digits_drop _
  isFloat := by simpa using long
  value := by
    -- As many digits as stand behind the point are taken back by the exponent.
    rw [List.take_append_drop, List.length_drop, Option.getD_none]
    congr 2
    omega

/-- Every layout of some digits has parts that write the number of the digits. -/
theorem layOut_eq (style : FloatStyle) (keeps : style.keepsPointZero = true) {place : Int}
    (zero : ds = ['0'] → place = 0) :
    ∃ p : Parts, layOut style ds place = p.chars ∧ p.Writes ds place := by
  unfold layOut
  split
  -- The four layouts: an exponent, zeros in front, zeros behind, a point among the digits
  · exact ⟨_, by simp [Parts.chars, pointChars, exponentTail], writes_scientific isWhole place⟩
  · split
    · rename_i small
      exact ⟨_, by simp [Parts.chars, pointChars, exponentTail, isWhole.nonempty],
        writes_small isWhole small⟩
    · rename_i large
      rw [not_lt] at large
      simp only [List.isEmpty_iff, List.drop_eq_nil_iff]
      split
      · rename_i short
        exact ⟨_, by simp [Parts.chars, pointChars, exponentTail, List.take_of_length_le short],
          writes_integral isWhole large zero short⟩
      · rename_i long
        rw [not_le] at long
        have none_missing := Nat.sub_eq_zero_of_le long.le
        exact ⟨_, by simp [Parts.chars, pointChars, exponentTail, none_missing, long],
          writes_pointed isWhole large long⟩

end Layouts

/-! ## Numbers that are read back -/

/-- Which numbers are read back from a document: finite doubles, and integers with at most 4300
digits. -/
def IsReadBack : Number → Prop
  | .int n => n.natAbs < 10 ^ Number.maxIntegerDigits
  | .float x => x.isFinite = true

/-- Only zero starts with a zero. -/
private theorem head?_toDigits {n : Nat} (pos : 0 < n) : (Nat.toDigits 10 n).head? ≠ some '0' := by
  -- Strong induction, as the last digit is taken off: the first one stays the same.
  induction n using Nat.strongRecOn with
  | ind n ih =>
    rcases Nat.lt_or_ge n 10 with small | large
    · have table : ∀ n < 10, 0 < n → [n.digitChar].head? ≠ some '0' := by decide
      rw [Nat.toDigits_of_lt_base small]
      exact table n small pos
    · rw [Nat.toDigits_of_base_le (by decide) large,
        List.head?_append_of_ne_nil _ Nat.toDigits_ne_nil]
      exact ih (n / 10) (by omega) (by omega)

/-- A numeral can stand in front of a point. -/
private theorem isWhole_toDigits (n : Nat) : IsWhole (Nat.toDigits 10 n) where
  digits := digits_toDigits n
  nonempty := Nat.toDigits_ne_nil
  leading := by
    -- Zero is the single zero, and no other number begins with one.
    rcases Nat.eq_zero_or_pos n with rfl | pos
    · exact .inl rfl
    · exact .inr (head?_toDigits pos)

/-- Only zero is written with a single zero. -/
theorem toDigits_eq_zero_iff {n : Nat} : Nat.toDigits 10 n = ['0'] ↔ n = 0 := by
  refine ⟨fun zero => ?_, fun zero => by rw [zero]; rfl⟩
  rw [← ofDigits_numeral n, zero]
  rfl

/-- A number is none of the words. -/
private theorem scalar_signed {negative : Bool} {c : Char} (cs : List Char)
    (digit : c.isDigit = true) :
    scalar (signChars negative ++ c :: cs) = number (signChars negative ++ c :: cs) := by
  have no (d : Char) (other : d.isDigit = false) : d ≠ c := (ne_of_isDigit digit other).symm
  -- Each word begins with a letter, or with a minus sign in front of one.
  have noWord : ∀ p ∈ words, afterWord? p.1 (signChars negative ++ c :: cs) = none := by
    cases negative with
    | false =>
      simp [words, afterWord?, signChars, no 'n' rfl, no 't' rfl, no 'f' rfl,
        no 'N' rfl, no 'I' rfl, no '-' rfl]
    | true => simp [words, afterWord?, signChars, no 'I' rfl]
  unfold scalar
  split
  · rename_i found
    obtain ⟨⟨word, value⟩, mem, read⟩ := List.exists_of_findSome?_eq_some found
    simp [noWord (word, value) mem] at read
  · rfl

/-- The characters of an integer are a sign and the digits of its magnitude. -/
private theorem toList_toString (n : Int) :
    (toString n).toList = signChars (decide (n < 0)) ++ Nat.toDigits 10 n.natAbs := by
  cases n with
  | ofNat n => exact Nat.toList_repr
  | negSucc n =>
    change ("-" ++ (n + 1).repr).toList = _
    rw [String.toList_append, Nat.toList_repr, decide_eq_true (Int.negSucc_lt_zero n)]
    rfl

/-- The text of a finite double is a sign and a layout whose digits are read as the double. -/
private theorem floatText_parts {x : Float} (finite : x.isFinite = true) :
    ∃ (negative : Bool) (p : Parts) (ds : List Char) (place : Int),
      (Number.floatText numberStyle x).toList = signChars negative ++ p.chars ∧ p.Writes ds place ∧
      withSign negative (ofScientific ((p.whole ++ p.fraction).map charValue)
        (p.tail.getD 0 - (p.fraction.length : Int))) = x := by
  obtain ⟨d, apart, double, rebuilt⟩ := Dyadic.ofFloat?_eq finite
  -- A zero has one digit at the first place, and so its layout is that of zero.
  have place_zero : Nat.toDigits 10 (Number.shortest d).digits = ['0'] →
      (Number.shortest d).exponent +
        ((Nat.toDigits 10 (Number.shortest d).digits).length : Int) - 1 = 0 := fun zero => by
    have nothing := toDigits_eq_zero_iff.mp zero
    have mantissa : d.mantissa = 0 := by
      by_contra nonzero
      exact (Dyadic.shortest_digits_pos double (Nat.pos_of_ne_zero nonzero)).ne' nothing
    rw [zero, Number.shortest, if_pos mantissa]
    rfl
  obtain ⟨p, chars, writes⟩ := layOut_eq (isWhole_toDigits _) numberStyle rfl place_zero
  have text : (Number.floatText numberStyle x).toList = signChars d.negative ++ p.chars := by
    simp only [Number.floatText, apart, String.toList_ofList, chars, signChars]
  have value := writes.value
  rw [ofDigits_numeral, show ∀ a b : Int, a + b - 1 + 1 - b = a by omega] at value
  -- The number that is written is the chosen decimal, and that is rounded to the double.
  have number : ofScientific ((p.whole ++ p.fraction).map charValue)
      (p.tail.getD 0 - (p.fraction.length : Int)) = Float.ofBits d.bits.toUInt64 := by
    -- A zero is read as zero; the decimal of any other double lies in its rounding interval.
    rcases Nat.eq_zero_or_pos d.mantissa with zero | pos
    · rw [double.ofBits_of_zero zero]
      refine Number.ofScientific_of_zero ?_ _
      have nothing : (Number.shortest d).digits = 0 := by rw [Number.shortest, if_pos zero]
      rw [nothing, Nat.cast_zero, zero_mul, mul_eq_zero, Nat.cast_eq_zero] at value
      exact value.resolve_right (by positivity)
    · refine Number.ofScientific_of_contains double pos ?_ ?_
      · intro v mem
        obtain ⟨c, char, rfl⟩ := List.mem_map.mp mem
        exact charValue_lt
          ((List.mem_append.mp char).elim (writes.isWhole.digits c) (writes.digits c))
      · rw [value]
        exact Dyadic.shortest_contains double pos
  exact ⟨d.negative, p, _, _, text, writes, number ▸ rebuilt⟩

/-- The text of a number is a numeral, and it is read as the number. -/
theorem numberText_parts {n : Number} (readBack : IsReadBack n) :
    ∃ negative whole others, (numberText n).toList = signChars negative ++ (whole ++ others) ∧
      IsWhole whole ∧ ∀ {rest}, EndsNumber rest →
        number ((numberText n).toList ++ rest) = .ok (num n, rest) := by
  cases n with
  -- An integer without fraction and exponent, if it is not too long
  | int n =>
    have short : (Nat.toDigits 10 n.natAbs).length ≤ Number.maxIntegerDigits :=
      (Nat.length_toDigits_le_iff (by decide) (by decide)).mpr readBack
    refine ⟨decide (n < 0), _, [], by rw [List.append_nil]; exact toList_toString n,
      isWhole_toDigits n.natAbs, fun ends => ?_⟩
    have noFraction : ∀ c ∈ ([] : List Char), c.isDigit = true := by simp
    have read := number_parts (decide (n < 0)) none (isWhole_toDigits n.natAbs) noFraction ends
    rw [if_pos ⟨rfl, rfl⟩, if_neg (Nat.not_lt.mpr short), ofDigits_numeral,
      Number.signed_natAbs] at read
    rw [numberText, toList_toString, List.append_assoc]
    exact read
  -- A layout of a double is never that of an integer.
  | float x =>
    obtain ⟨negative, p, ds, place, text, writes, value⟩ := floatText_parts readBack
    refine ⟨negative, p.whole, _, text, writes.isWhole, fun ends => ?_⟩
    have read := number_parts negative p.tail writes.isWhole writes.digits ends
    rw [if_neg writes.isFloat, value] at read
    simp only [numberText, text, Parts.chars, List.append_assoc]
    exact read

/-- The text of a number is read as the number. -/
theorem scalar_numberText {n : Number} (readBack : IsReadBack n) {rest : List Char}
    (ends : EndsNumber rest) : scalar ((numberText n).toList ++ rest) = .ok (num n, rest) := by
  obtain ⟨negative, whole, others, text, isWhole, read⟩ := numberText_parts readBack
  rw [← read ends, text]
  -- A numeral begins with a sign or a digit, so it is taken for a number.
  cases whole with
  | nil => exact absurd rfl isWhole.nonempty
  | cons c cs =>
    simp only [List.append_assoc, List.cons_append]
    exact scalar_signed _ (isWhole.digits c List.mem_cons_self)

end AirQuality.Json
