/-!
# UTF-8

Encoding, strict decoding, and a decoding that puts the replacement character `U+FFFD` in the place
of every maximal ill-formed piece.

* `decodeLossyChars`: never fails
* `decode?`: fails on any ill-formed piece; `decode?_encode` reads a text back
-/

namespace AirQuality.Text

/-- The bytes of a text. -/
def encode (s : String) : List UInt8 :=
  s.toUTF8.data.toList

/-- The text with exactly these bytes, if they are well formed. -/
def decode? (bytes : List UInt8) : Option String :=
  String.fromUTF8? (ByteArray.mk bytes.toArray)

/-- The bytes of a text are those of no other one. -/
theorem decode?_encode (s : String) : decode? (encode s) = some s := by
  have bytes : ByteArray.mk (encode s).toArray = s.toByteArray := by simp [encode, String.toUTF8]
  rw [decode?, bytes, String.fromUTF8?, dif_pos s.isValidUTF8]
  rfl

/-- What a leading byte announces: how many bytes follow, the bits it contributes, and the range
of the byte that comes next (which excludes overlong forms, surrogates and numbers above
`U+10FFFF`). -/
structure Lead where
  follow : Nat
  bits : Nat
  low : Nat
  high : Nat

/-- Reads a leading byte; `none` for a byte that cannot lead. -/
def Lead.ofByte? (b : UInt8) : Option Lead :=
  let n := b.toNat
  if n < 0x80 then some ⟨0, n, 0x80, 0xbf⟩
  else if 0xc2 ≤ n ∧ n ≤ 0xdf then some ⟨1, n - 0xc0, 0x80, 0xbf⟩
  else if n = 0xe0 then some ⟨2, 0, 0xa0, 0xbf⟩
  else if n = 0xed then some ⟨2, 13, 0x80, 0x9f⟩
  else if 0xe1 ≤ n ∧ n ≤ 0xef then some ⟨2, n - 0xe0, 0x80, 0xbf⟩
  else if n = 0xf0 then some ⟨3, 0, 0x90, 0xbf⟩
  else if 0xf1 ≤ n ∧ n ≤ 0xf3 then some ⟨3, n - 0xf0, 0x80, 0xbf⟩
  else if n = 0xf4 then some ⟨3, 4, 0x80, 0x8f⟩
  else none

/-- Reads the bytes after a leading byte as far as they fit. Gives the completed code point, or
`none` for a broken piece, and the bytes that are left. -/
def takeFollowing : Lead → List UInt8 → Option Nat × List UInt8
  | ⟨0, bits, _, _⟩, rest => (some bits, rest)
  | ⟨_ + 1, _, _, _⟩, [] => (none, [])
  | ⟨n + 1, bits, low, high⟩, b :: rest =>
    if low ≤ b.toNat ∧ b.toNat ≤ high then
      takeFollowing ⟨n, bits * 64 + (b.toNat - 0x80), 0x80, 0xbf⟩ rest
    else (none, b :: rest)

theorem length_takeFollowing_le (lead : Lead) (bytes : List UInt8) :
    (takeFollowing lead bytes).2.length ≤ bytes.length := by
  fun_induction takeFollowing lead bytes with
  | case1 => simp
  | case2 => simp
  | case3 _ _ _ _ _ _ _ ih => simp only [List.length_cons]; omega
  | case4 => simp

/-- The text of some bytes, with a replacement character for every ill-formed piece. -/
def decodeLossyChars : List UInt8 → List Char
  | [] => []
  | b :: rest =>
    match Lead.ofByte? b with
    | none => Char.ofNat 0xfffd :: decodeLossyChars rest
    | some lead =>
      have := length_takeFollowing_le lead rest
      let piece := takeFollowing lead rest
      Char.ofNat (piece.1.getD 0xfffd) :: decodeLossyChars piece.2
termination_by bytes => bytes.length
decreasing_by
  · simp
  · simp only [List.length_cons]; omega

end AirQuality.Text
