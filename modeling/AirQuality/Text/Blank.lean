/-!
# Blank characters

Two sets of blank characters occur in the data: the Unicode property `White_Space`, and the larger
set that also counts the four information separators `U+001C`–`U+001F`. Texts from the outside are
trimmed of the larger set, numbers in records of the smaller one.

* `isWhite_imp_isBlank`: every white-space character is blank
* `stripBy`: what is left when a class of items is trimmed off at both ends
* `stripBy_padded`: it is left of any text with items of the class around it
-/

namespace AirQuality.Text

/-- The Unicode property `White_Space`. -/
def isWhite (c : Char) : Bool :=
  let n := c.toNat
  (0x09 ≤ n && n ≤ 0x0d) || n == 0x20 || n == 0x85 || n == 0xa0 || n == 0x1680 ||
  (0x2000 ≤ n && n ≤ 0x200a) || n == 0x2028 || n == 0x2029 || n == 0x202f || n == 0x205f ||
  n == 0x3000

/-- White space and the four information separators. -/
def isBlank (c : Char) : Bool :=
  isWhite c || (0x1c ≤ c.toNat && c.toNat ≤ 0x1f)

theorem isWhite_imp_isBlank {c : Char} (h : isWhite c = true) : isBlank c = true := by
  simp [isBlank, h]

/-- The items up to the last one that is not in the class `p`. -/
def trimEndBy {α : Type} (p : α → Bool) (xs : List α) : List α :=
  (xs.reverse.dropWhile p).reverse

/-- The items between the first and the last one that is not in the class `p`. -/
def stripBy {α : Type} (p : α → Bool) (xs : List α) : List α :=
  trimEndBy p (xs.dropWhile p)

/-- What is in the class is trimmed off, however much of it there is. -/
theorem stripBy_padded {α : Type} {p : α → Bool} {front back : List α}
    (infront : ∀ x ∈ front, p x = true) (behind : ∀ x ∈ back, p x = true) (xs : List α) :
    stripBy p (front ++ (xs ++ back)) = stripBy p xs := by
  have atEnd (ys : List α) : trimEndBy p (ys ++ back) = trimEndBy p ys := by
    rw [trimEndBy, List.reverse_append,
      List.dropWhile_append_of_pos fun x mem => behind x (List.mem_reverse.mp mem), ← trimEndBy]
  rw [stripBy, stripBy, List.dropWhile_append_of_pos infront, List.dropWhile_append]
  split
  · -- Nothing else is there, and so nothing is left.
    rename_i nothing
    have all : back.dropWhile p = [] := by
      rw [← List.append_nil back, List.dropWhile_append_of_pos behind]
      rfl
    rw [all, List.isEmpty_iff.mp nothing]
  · exact atEnd _

/-- What is mapped to items of another class is left in the same places. -/
theorem stripBy_map {α β : Type} {p : α → Bool} {q : β → Bool} {f : α → β}
    (same : ∀ x, q (f x) = p x) (xs : List α) : stripBy q (xs.map f) = (stripBy p xs).map f := by
  have class_eq : q ∘ f = p := funext same
  simp only [stripBy, trimEndBy, List.dropWhile_map, ← List.map_reverse, class_eq]

/-- The text without blank characters at its ends. -/
def strip (s : String) : String :=
  String.ofList (stripBy isBlank s.toList)

/-- The text without slashes at its end. -/
def trimSlashes (s : String) : String := String.ofList (trimEndBy (· == '/') s.toList)

end AirQuality.Text
