import AirQuality.Text.Digit
import AirQuality.Text.Quoted
import AirQuality.Text.Utf8

/-!
# Percent-encoding

A byte is written in an address as `%` and two hexadecimal digits. When an address is read, a `%`
without two digits stands for itself, and bytes that are no UTF-8 are replaced.

* `encode`: a text with everything escaped that may not stand in an address
* `decode`: a text with its escapes resolved
-/

namespace AirQuality.Web.Percent

/-- Whether a character may stand in an address as it is. -/
def isSafe (c : Char) : Bool :=
  c.isAlphanum || "_.-~:/%#?=@[]!$&'()*+,;".toList.contains c

/-- A byte as an escape. -/
def escape (b : UInt8) : List Char := '%' :: (Text.hexDigits 2 b.toNat).map Char.toUpper

/-- A text with everything escaped that may not stand in an address. -/
def encode (s : String) : String :=
  String.ofList (s.toList.flatMap fun c =>
    if isSafe c then [c] else (Text.encode (String.singleton c)).flatMap escape)

/-- A path with the signs escaped that would end it in an address. -/
def escapeEnds (path : String) : String :=
  String.ofList (path.toList.flatMap fun c =>
    if c = '?' ∨ c = '#' then escape c.toNat.toUInt8 else [c])

/-- The bytes of some characters of Basic Latin, with escapes resolved. -/
def bytes : List Char → List UInt8
  | '%' :: a :: b :: rest =>
    match Text.hexValue? a, Text.hexValue? b with
    | some x, some y => (16 * x + y).toUInt8 :: bytes rest
    -- Not an escape: the sign stands for itself.
    | _, _ => '%'.toNat.toUInt8 :: bytes (a :: b :: rest)
  | c :: rest => c.toNat.toUInt8 :: bytes rest
  | [] => []

/-- Whether a character is of Basic Latin. -/
def isLatin (c : Char) : Bool := c.toNat < 0x80

/-- Characters with the escapes in each run of Basic Latin resolved. -/
def decodeRuns (cs : List Char) : List Char :=
  match h : cs.dropWhile isLatin with
  | [] => Text.decodeLossyChars (bytes cs)
  | c :: rest =>
    have : rest.length < cs.length := by
      have := congrArg List.length (List.takeWhile_append_dropWhile (p := isLatin) (l := cs))
      rw [h] at this
      simp only [List.length_append, List.length_cons] at this
      omega
    Text.decodeLossyChars (bytes (cs.takeWhile isLatin)) ++ c :: decodeRuns rest
termination_by cs.length

/-- A text with its escapes resolved. -/
def decode (cs : List Char) : String := String.ofList (decodeRuns cs)

end AirQuality.Web.Percent
