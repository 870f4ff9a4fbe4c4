import AirQuality.Json.Basic
import AirQuality.Number.Reader

/-!
# Reading JSON

The grammar of JSON, with the words `NaN`, `Infinity` and `-Infinity` as numbers. Control characters
have to be escaped in strings, integers may have at most 4300 digits, and nothing may precede or
follow the value but spaces, tabulators and line ends. Half of a surrogate pair may stand alone.
Arrays and objects may not be nested too deep.

Reading spends one unit of fuel for each value and one for each item or pair; a document never
needs more units than twice its characters and one.
-/

namespace AirQuality.Json

open Text (hexValue?)

/-- Why a text is not read. -/
inductive ReadError where
  | malformed
  | integerTooLong
  | tooDeep
deriving Repr, DecidableEq

/-- The blanks between tokens. -/
def isSpace (c : Char) : Bool := c == ' ' || c == '\t' || c == '\n' || c == '\r'

/-- The characters from the next token on. -/
def skipSpace (cs : List Char) : List Char := cs.dropWhile isSpace

/-- The number written by four hexadecimal digits. -/
def unit? (a b c d : Char) : Option Nat := do
  return (((← hexValue? a) * 16 + (← hexValue? b)) * 16 + (← hexValue? c)) * 16 + (← hexValue? d)

/-- The character of an escape of one letter. -/
def shortEscape? (c : Char) : Option Char :=
  match c with
  | '"' | '/' => some c
  | 'b' => some (Char.ofNat 8)
  | 'f' => some (Char.ofNat 12)
  | 'n' => some '\n'
  | 'r' => some '\r'
  | 't' => some '\t'
  | _ => if c.toNat = 0x5c then some c else none

/-- The code point of a surrogate pair. -/
def joinSurrogates (high low : Nat) : Nat :=
  0x10000 + (high - 0xd800) * 0x400 + (low - 0xdc00)

/-- Reads the second half of a surrogate pair, if the characters after the first half hold one. -/
def secondHalf? (high : Nat) : List Char → Option (Nat × List Char)
  | b :: 'u' :: l₁ :: l₂ :: l₃ :: l₄ :: rest =>
    match unit? l₁ l₂ l₃ l₄ with
    | some low =>
      if b.toNat = 0x5c ∧ 0xd800 ≤ high ∧ high ≤ 0xdbff ∧ 0xdc00 ≤ low ∧ low ≤ 0xdfff then
        some (low, rest)
      else none
    | none => none
  | _ => none

/-- Reads an escape from behind its backslash: the code point it stands for, and what follows. -/
def escaped? : List Char → Option (CodePoint × List Char)
  | 'u' :: h₁ :: h₂ :: h₃ :: h₄ :: rest =>
    match unit? h₁ h₂ h₃ h₄ with
    | none => none
    | some high =>
      match secondHalf? high rest with
      | some (low, rest') => some (.char (Char.ofNat (joinSurrogates high low)), rest')
      | none => some (.ofNat high, rest)
  | e :: rest => (shortEscape? e).map fun c => (.char c, rest)
  | [] => none

theorem length_of_secondHalf? {high low : Nat} {cs rest : List Char}
    (h : secondHalf? high cs = some (low, rest)) : rest.length < cs.length := by
  unfold secondHalf? at h
  split at h
  · split at h
    · split at h
      · simp only [Option.some.injEq, Prod.mk.injEq] at h
        simp only [← h.2, List.length_cons]
        omega
      · exact absurd h (by simp)
    · exact absurd h (by simp)
  · exact absurd h (by simp)

theorem length_of_escaped? {p : CodePoint} {cs rest : List Char}
    (h : escaped? cs = some (p, rest)) : rest.length < cs.length := by
  unfold escaped? at h
  split at h
  · split at h
    · exact absurd h (by simp)
    · split at h
      · rename_i h'
        have := length_of_secondHalf? h'
        simp only [Option.some.injEq, Prod.mk.injEq] at h
        simp only [← h.2, List.length_cons]
        omega
      · simp only [Option.some.injEq, Prod.mk.injEq] at h
        simp only [← h.2, List.length_cons]
        omega
  · obtain ⟨e, -, he⟩ := Option.map_eq_some_iff.1 h
    simp only [Prod.mk.injEq] at he
    simp only [← he.2, List.length_cons]
    omega
  · exact absurd h (by simp)

/-- Reads a string from behind its opening quotation mark; `taken` holds its code points so far, the
last one first. -/
def stringTail (taken : List CodePoint) (cs : List Char) : Except ReadError (Text × List Char) :=
  match cs with
  | [] => .error .malformed
  | c :: cs =>
    if c = '"' then .ok (⟨taken.reverse⟩, cs)
    -- Control characters have to be escaped.
    else if c.toNat < 0x20 then .error .malformed
    else if c.toNat ≠ 0x5c then stringTail (.char c :: taken) cs
    else match h : escaped? cs with
      | some (point, rest) =>
        have := length_of_escaped? h
        stringTail (point :: taken) rest
      | none => .error .malformed
termination_by cs.length
decreasing_by
  · simp
  · simp only [List.length_cons]; omega

/-- The digits `0`–`9` at the start of the characters, and what follows them. -/
def plainDigits (cs : List Char) : List Nat × List Char :=
  ((cs.takeWhile Char.isDigit).map fun c => c.toNat - 48, cs.dropWhile Char.isDigit)

/-- Reads a fraction, if a point with at least one digit follows. -/
def fractionPart? : List Char → Option (List Nat × List Char)
  | '.' :: cs =>
    let (ds, rest) := plainDigits cs
    if ds.isEmpty then none else some (ds, rest)
  | _ => none

/-- Reads an exponent, if its letter with at least one digit follows. -/
def exponentPart? : List Char → Option (Int × List Char)
  | c :: cs =>
    if c = 'e' ∨ c = 'E' then
      let (negative, cs) := Number.takeSign cs
      let (ds, rest) := plainDigits cs
      if ds.isEmpty then none else some (Number.signed negative (Number.ofDigits ds), rest)
    else none
  | [] => none

/-- Reads a minus sign, if there is one. -/
def takeMinus : List Char → Bool × List Char
  | '-' :: cs => (true, cs)
  | cs => (false, cs)

/-- Reads the digits in front of a point: a zero has none behind it. -/
def wholePart : List Char → List Nat × List Char
  | '0' :: cs => ([0], cs)
  | cs => plainDigits cs

/-- Reads a number. A point or an exponent makes it a double. -/
def number (cs : List Char) : Except ReadError (Json × List Char) :=
  let (negative, cs) := takeMinus cs
  let (whole, rest) := wholePart cs
  if whole.isEmpty then .error .malformed
  else
    let (fraction, rest') := (fractionPart? rest).getD ([], rest)
    match fraction, exponentPart? rest' with
    | [], none =>
      if Number.maxIntegerDigits < whole.length then .error .integerTooLong
      else .ok (ofInt (Number.signed negative (Number.ofDigits whole)), rest')
    | fraction, tail =>
      let (e, rest'') := tail.getD (0, rest')
      let x := Number.ofScientific (whole ++ fraction) (e - fraction.length)
      .ok (ofFloat (Number.withSign negative x), rest'')

/-- The characters after a given word, if they start with it. -/
def afterWord? (word cs : List Char) : Option (List Char) :=
  if word.isPrefixOf cs then some (cs.drop word.length) else none

/-- The words that are values. -/
def words : List (List Char × Json) :=
  [(['n', 'u', 'l', 'l'], null), (['t', 'r', 'u', 'e'], bool true),
    (['f', 'a', 'l', 's', 'e'], bool false), (['N', 'a', 'N'], ofFloat Number.notANumber),
    (['I', 'n', 'f', 'i', 'n', 'i', 't', 'y'], ofFloat Number.infinity),
    (['-', 'I', 'n', 'f', 'i', 'n', 'i', 't', 'y'], ofFloat (-Number.infinity))]

/-- Reads a word or a number. -/
def scalar (cs : List Char) : Except ReadError (Json × List Char) :=
  match words.findSome? fun (word, value) => (afterWord? word cs).map fun rest => (value, rest) with
  | some found => .ok found
  | none => number cs

/-- The levels of nesting that are left inside an array or an object. -/
def inside : Nat → Except ReadError Nat
  | 0 => .error .tooDeep
  | levels + 1 => .ok levels

mutual

/-- Reads a value from its first character on, with at most so many levels of nesting. -/
def value : Nat → Nat → List Char → Except ReadError (Json × List Char)
  | _, 0, _ => .error .malformed
  | levels, fuel + 1, cs =>
    match cs with
    | '"' :: cs => do
      let (text, rest) ← stringTail [] cs
      return (str text, rest)
    | '[' :: cs => do
      let levels ← inside levels
      match skipSpace cs with
      | ']' :: rest => return (arr [], rest)
      | cs =>
        let (items, rest) ← itemsTail levels fuel cs
        return (arr items, rest)
    | c :: cs' =>
      if c.toNat = 0x7b then do
        let levels ← inside levels
        match skipSpace cs' with
        | d :: rest =>
          if d.toNat = 0x7d then return (obj [], rest)
          else
            let (pairs, rest) ← pairsTail levels fuel [] (d :: rest)
            return (obj pairs, rest)
        | [] => .error .malformed
      else scalar (c :: cs')
    | [] => .error .malformed

/-- Reads the items of an array up to its closing bracket, from the first character of an item
on. -/
def itemsTail : Nat → Nat → List Char → Except ReadError (List Json × List Char)
  | _, 0, _ => .error .malformed
  | levels, fuel + 1, cs => do
    let (item, rest) ← value levels fuel cs
    match skipSpace rest with
    | ',' :: rest =>
      let (items, rest) ← itemsTail levels fuel (skipSpace rest)
      return (item :: items, rest)
    | ']' :: rest => return ([item], rest)
    | _ => .error .malformed

/-- Reads the pairs of an object up to its closing brace, from the first character of a key on;
`pairs` are the ones in front. -/
def pairsTail : Nat → Nat → List (Text × Json) → List Char →
    Except ReadError (List (Text × Json) × List Char)
  | _, 0, _, _ => .error .malformed
  | levels, fuel + 1, pairs, cs =>
    match cs with
    | '"' :: cs => do
      let (key, rest) ← stringTail [] cs
      match skipSpace rest with
      | ':' :: rest =>
        let (item, rest) ← value levels fuel (skipSpace rest)
        let pairs := setPair key item pairs
        match skipSpace rest with
        | ',' :: rest => pairsTail levels fuel pairs (skipSpace rest)
        | c :: rest => if c.toNat = 0x7d then return (pairs, rest) else .error .malformed
        | [] => .error .malformed
      | _ => .error .malformed
    | _ => .error .malformed

end

/-- Reads a document with at most so many levels of nesting: one value, and nothing else. -/
def readWithin (levels : Nat) (s : String) : Except ReadError Json := do
  let cs := s.toList
  let (v, rest) ← value levels (2 * cs.length + 1) (skipSpace cs)
  if (skipSpace rest).isEmpty then return v else .error .malformed

/-- How many levels of nesting a file can have. The runtime lets calls be nested a thousand deep:
the reader makes one for each level, and the calls around it take the other twenty. -/
def maxNesting : Nat := 980

/-- Reads the document of a file. -/
def read (s : String) : Except ReadError Json := readWithin maxNesting s

end AirQuality.Json
