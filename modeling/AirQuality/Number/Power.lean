/-!
# Powers

Powers of two and ten, which the digits of numbers stand for.
-/

namespace AirQuality.Number

/-- A power of two. -/
def twoTo (e : Nat) : Nat := Nat.pow 2 e

/-- A power of ten. -/
def tenTo (e : Nat) : Nat := Nat.pow 10 e

theorem twoTo_succ (e : Nat) : twoTo (e + 1) = twoTo e * 2 := rfl

theorem tenTo_succ (e : Nat) : tenTo (e + 1) = tenTo e * 10 := rfl

theorem tenTo_pos (e : Nat) : 0 < tenTo e := by
  induction e with
  | zero => decide
  | succ e ih => rw [tenTo_succ]; omega

end AirQuality.Number
