import AirQuality.Text.Blank

/-!
# Texts

A text is a sequence of code points. Documents can hold halves of surrogate pairs that stand alone,
so a code point is a character or such a half. A text without halves is well formed; it is then the
same as a `String`, and every `String` is a text.

* `Text.string?`: the string that a text is, and `string?_ofString`
* `Text.lossy`: a string for any text
* `Text.stripped`, `Text.substitute`: texts from texts
-/

namespace AirQuality

/-- A character, or half of a surrogate pair that stands alone. The halves are numbered from
`U+D800` on. -/
inductive CodePoint where
  | char (c : Char)
  | half (n : Fin 2048)
deriving Repr, DecidableEq

namespace CodePoint

/-- The number of the first half. -/
def firstHalf : Nat := 0xd800

/-- The code point with a number. -/
def ofNat (n : Nat) : CodePoint :=
  if h : firstHalf ≤ n ∧ n < firstHalf + 2048 then half ⟨n - firstHalf, by omega⟩
  else char (Char.ofNat n)

/-- The character, if it is one. -/
def char? : CodePoint → Option Char
  | char c => some c
  | half _ => none

/-- Whether it is a character. -/
def isChar : CodePoint → Bool
  | char _ => true
  | half _ => false

/-- Whether it is a character of a class. -/
def isIn (p : Char → Bool) : CodePoint → Bool
  | char c => p c
  | half _ => false

/-- The character, or the replacement character for a half. -/
def lossy : CodePoint → Char
  | char c => c
  | half _ => Char.ofNat 0xfffd

end CodePoint

/-- A sequence of code points. -/
structure Text where
  points : List CodePoint
deriving Repr, DecidableEq

namespace Text

/-- The text of some characters. -/
def ofChars (cs : List Char) : Text := ⟨cs.map .char⟩

/-- A string as a text. -/
def ofString (s : String) : Text := ofChars s.toList

instance : Coe String Text := ⟨ofString⟩

/-- Whether no half of a surrogate pair stands alone. -/
def isWellFormed (t : Text) : Bool := t.points.all CodePoint.isChar

/-- The characters of a well-formed text. -/
def chars? (t : Text) : Option (List Char) :=
  if t.isWellFormed then some (t.points.filterMap CodePoint.char?) else none

/-- The string that a well-formed text is. -/
def string? (t : Text) : Option String := t.chars?.map String.ofList

/-- The text as a string, with replacement characters for the halves that stand alone. -/
def lossy (t : Text) : String := String.ofList (t.points.map CodePoint.lossy)

instance : Append Text := ⟨fun s t => ⟨s.points ++ t.points⟩⟩

/-- Texts one after the other, with a separator between them. -/
def joined (sep : Text) (ts : List Text) : Text := ⟨sep.points.intercalate (ts.map points)⟩

/-- Whether there is nothing in the text. -/
def isEmpty (t : Text) : Bool := t.points.isEmpty

/-- How many code points there are. -/
def length (t : Text) : Nat := t.points.length

/-- The text without blank characters at its ends. -/
def stripped (t : Text) : Text := ⟨stripBy (CodePoint.isIn isBlank) t.points⟩

/-- The text with something in the place of each character. -/
def substitute (f : Char → List Char) (t : Text) : Text :=
  ⟨t.points.flatMap fun
    | .char c => (f c).map .char
    | .half n => [.half n]⟩

theorem chars?_ofChars (cs : List Char) : (ofChars cs).chars? = some cs := by
  simp [chars?, ofChars, isWellFormed, CodePoint.isChar, List.filterMap_map, Function.comp_def,
    CodePoint.char?]

/-- A text that has characters only is the text of these characters. -/
theorem chars?_eq_some_iff {t : Text} {cs : List Char} : t.chars? = some cs ↔ t = ofChars cs := by
  refine ⟨fun read => ?_, fun same => same ▸ chars?_ofChars cs⟩
  obtain ⟨points⟩ := t
  by_cases whole : points.all CodePoint.isChar = true
  · rw [chars?, isWellFormed, if_pos whole] at read
    obtain rfl := Option.some.inj read
    rw [ofChars, mk.injEq]
    clear read
    induction points with
    | nil => rfl
    | cons p points ih =>
      obtain ⟨first, rest⟩ := Bool.and_eq_true_iff.mp whole
      cases p with
      | char c => exact congrArg _ (ih rest)
      | half n => cases first
  · rw [chars?, isWellFormed, if_neg whole] at read
    cases read

/-- A string is read back from its text. -/
theorem string?_ofString (s : String) : (ofString s).string? = some s := by
  simp [string?, ofString, chars?_ofChars]

theorem ofString_inj {s t : String} : ofString s = ofString t ↔ s = t := by
  refine ⟨fun h => ?_, congrArg _⟩
  have read := string?_ofString s
  rw [h, string?_ofString] at read
  exact (Option.some.inj read).symm

end Text

end AirQuality
