import AirQuality.Text.Blank

/-!
# Caseless form of labels

Labels are compared without regard to case, and to blanks around them. The labels that are known
are written with the letters of Basic Latin, the space and `ł`, so folding has to be right only for
characters that fold to those: the capital letters, the long s, the Kelvin sign and the Latin
ligatures. Every other character stays as it is, which no known label contains. Composed and
decomposed spellings need no care: no character of a known label is a composition.

* `folded`: the caseless form of a text
* `folded_append_append`, `folded_capitals`: blanks around a text and the case of its letters do not
  matter
-/

namespace AirQuality.Text

/-- The caseless form of a character, where that form is made of Basic Latin letters and `ł`. -/
def foldChar (c : Char) : List Char :=
  if 'A' ≤ c ∧ c ≤ 'Z' then [Char.ofNat (c.toNat + 32)]
  else match c.toNat with
    | 0x141 => ['ł']
    | 0x17f => ['s']
    | 0x212a => ['k']
    | 0xdf | 0x1e9e => ['s', 's']
    | 0xfb00 => ['f', 'f']
    | 0xfb01 => ['f', 'i']
    | 0xfb02 => ['f', 'l']
    | 0xfb03 => ['f', 'f', 'i']
    | 0xfb04 => ['f', 'f', 'l']
    | 0xfb05 | 0xfb06 => ['s', 't']
    | _ => [c]

/-- The text without blanks at its ends and without distinctions of case. -/
def folded (s : String) : String :=
  String.ofList ((stripBy isBlank s.toList).flatMap foldChar)

/-- Blanks around a text do not matter. -/
theorem folded_append_append {front back : String} (infront : ∀ c ∈ front.toList, isBlank c = true)
    (behind : ∀ c ∈ back.toList, isBlank c = true) (s : String) :
    folded (front ++ s ++ back) = folded s := by
  rw [folded, String.toList_append, String.toList_append, List.append_assoc,
    stripBy_padded infront behind, folded]

/-- A letter of Basic Latin as a capital letter. -/
def capital (c : Char) : Char := if 'a' ≤ c ∧ c ≤ 'z' then Char.ofNat (c.toNat - 32) else c

/-- There are few letters of Basic Latin, so that each of them can be looked at. -/
private theorem forall_latin_letter {P : Char → Prop} (each : ∀ n : Fin 26, P (Char.ofNat (n + 97)))
    {c : Char} (letter : 'a' ≤ c ∧ c ≤ 'z') : P c := by
  have first : 97 ≤ c.toNat := letter.1
  have last : c.toNat ≤ 122 := letter.2
  have here := each ⟨c.toNat - 97, by omega⟩
  rwa [show c.toNat - 97 + 97 = c.toNat by omega, Char.ofNat_toNat] at here

theorem foldChar_capital (c : Char) : foldChar (capital c) = foldChar c := by
  rw [capital]
  split
  · rename_i letter
    exact forall_latin_letter (P := fun c => foldChar (Char.ofNat (c.toNat - 32)) = foldChar c)
      (by decide) letter
  · rfl

theorem isBlank_capital (c : Char) : isBlank (capital c) = isBlank c := by
  rw [capital]
  split
  · rename_i letter
    exact forall_latin_letter (P := fun c => isBlank (Char.ofNat (c.toNat - 32)) = isBlank c)
      (by decide) letter
  · rfl

/-- The case of the letters of Basic Latin does not matter. -/
theorem folded_capitals (s : String) : folded (s.map capital) = folded s := by
  rw [folded, String.toList_map, stripBy_map isBlank_capital, List.flatMap_map, folded]
  simp only [foldChar_capital]

end AirQuality.Text
