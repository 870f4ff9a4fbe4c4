import AirQuality.Text.CaseTable
import AirQuality.Text.CasedTable

/-!
# Upper and lower case of texts

Full case conversion: a character may turn into several (`ß` into `SS`), and a capital sigma at the
end of a word turns into the final form `ς`. A word goes on over marks and apostrophes, and it has
a letter in front of its end.
-/

namespace AirQuality.Text

private def shifted? (runs : Array CaseRun) (c : Char) : Option Char :=
  (runs.findSome? fun r => r.apply? c.toNat).map Char.ofNat

/-- The upper-case form of a character. -/
def upperChar (c : Char) : List Char :=
  match upperExpansions.find? fun e => e.1 == c.toNat with
  | some (_, codes) => codes.map Char.ofNat
  | none => [(shifted? upperRuns c).getD c]

/-- The lower-case form of a character, wherever it stands; the dotted capital I keeps its dot as a
combining mark. -/
def lowerChar (c : Char) : List Char :=
  if c.toNat = 0x130 then [Char.ofNat 0x69, Char.ofNat 0x307] else [(shifted? lowerRuns c).getD c]

/-- The text in upper case. -/
def upper (s : String) : String :=
  String.ofList (s.toList.flatMap upperChar)

/-- Whether a word ends in front of some characters: the first of them that is not ignorable has no
case, or there is none. -/
def endsWord (cs : List Char) : Bool :=
  !(cs.dropWhile isCaseIgnorable).head?.any isCased

/-- Lower case of characters that follow a letter of a word or not. -/
def lowerAfter (inWord : Bool) : List Char → List Char
  | [] => []
  | c :: cs =>
    let form :=
      if c.toNat = 0x3a3 then [Char.ofNat (if inWord && endsWord cs then 0x3c2 else 0x3c3)]
      else lowerChar c
    form ++ lowerAfter (if isCaseIgnorable c then inWord else isCased c) cs

/-- The text in lower case. -/
def lower (s : String) : String :=
  String.ofList (lowerAfter false s.toList)

end AirQuality.Text
