import AirQuality.Proofs.Json.Numerals

/-!
# Documents are read back

A value that is written as a document, one item a line, is read back as it was: texts because every
character that has a meaning in a string is escaped, numbers by their numerals, and arrays and
objects by their brackets, commas and colons. The reader has fuel for two units a character, and
every item that it goes into has at least one character less to read.

## Key results

- `stringTail_escaped`: texts are read back
- `IsReadable`: what a value has to be to be read back
- `reads`: a value at any level of indentation, in front of anything
- `read_indented`: a document
-/

namespace AirQuality.Json

/-! ## Texts -/

/-- The backslash. -/
def backslash : Char := Char.ofNat 0x5c

/-- A quotation mark ends a text. -/
private theorem stringTail_quote (taken : List CodePoint) (rest : List Char) :
    stringTail taken ('"' :: rest) = .ok (⟨taken.reverse⟩, rest) := by
  rw [stringTail, if_pos rfl]

/-- A character that needs no escape stands for itself. -/
private theorem stringTail_plain {c : Char} (taken : List CodePoint) (rest : List Char)
    (noQuote : c ≠ '"') (printable : 0x20 ≤ c.toNat) (noEscape : c.toNat ≠ 0x5c) :
    stringTail taken (c :: rest) = stringTail (.char c :: taken) rest := by
  rw [stringTail, if_neg noQuote, if_neg (Nat.not_lt.mpr printable), if_pos noEscape]

/-- An escape stands for the character that it is read as. -/
private theorem stringTail_escape {p : CodePoint} {cs rest : List Char} (taken : List CodePoint)
    (read : escaped? cs = some (p, rest)) :
    stringTail taken (backslash :: cs) = stringTail (p :: taken) rest := by
  -- The backslash is none of the characters that come before it in the definition.
  rw [stringTail, if_neg (by decide), if_neg (by decide), if_neg (by decide)]
  split
  · rename_i found
    rw [read] at found
    cases found
    rfl
  · rename_i missing
    rw [read] at missing
    cases missing

/-- A control character is read from its four hexadecimal digits. -/
private theorem escaped?_hexDigits {n : Nat} (control : n < 0x20) (rest : List Char) :
    escaped? ('u' :: (Text.hexDigits 4 n ++ rest)) = some (.ofNat n, rest) := by
  have table : ∀ n < 0x20,
      Text.hexDigits 4 n = ['0', '0', Nat.digitChar (n / 16), Nat.digitChar (n % 16)] ∧
        unit? '0' '0' (Nat.digitChar (n / 16)) (Nat.digitChar (n % 16)) = some n := by decide
  obtain ⟨chars, value⟩ := table n control
  -- A control character is not the first half of a pair, whatever follows.
  have single : secondHalf? n rest = none := by
    unfold secondHalf?
    split
    · split
      · rw [if_neg (by omega)]
      · rfl
    · rfl
  rw [chars]
  simp [escaped?, value, single]

/-- A character is read back from an escape of one letter. -/
private theorem stringTail_short {c d : Char} {n : Nat} (number : c.toNat = n)
    (read : ∀ rest, escaped? (d :: rest) = some (.char (Char.ofNat n), rest))
    (taken : List CodePoint) (rest : List Char) :
    stringTail taken ([backslash, d] ++ rest) = stringTail (.char c :: taken) rest := by
  rw [← Char.ofNat_toNat c, number]
  exact stringTail_escape taken (read rest)

/-- A character is read back from the way it is written in a string. -/
private theorem stringTail_escapeChar (c : Char) (taken : List CodePoint) (rest : List Char) :
    stringTail taken (escapeChar c ++ rest) = stringTail (.char c :: taken) rest := by
  have same {n : Nat} (number : c.toNat = n) : c = Char.ofNat n := by
    rw [← number, Char.ofNat_toNat]
  unfold escapeChar
  -- Seven characters have an escape of one letter, and the others are written by their code or as
  -- they are.
  split
  · rename_i quote
    exact stringTail_short quote (fun _ => by rw [same quote]; rfl) taken rest
  · rename_i slash
    exact stringTail_short slash (fun _ => by rw [same slash]; rfl) taken rest
  · rename_i letter
    exact stringTail_short letter (fun _ => rfl) taken rest
  · rename_i letter
    exact stringTail_short letter (fun _ => rfl) taken rest
  · rename_i letter
    exact stringTail_short letter (fun _ => rfl) taken rest
  · rename_i letter
    exact stringTail_short letter (fun _ => rfl) taken rest
  · rename_i letter
    exact stringTail_short letter (fun _ => rfl) taken rest
  · rename_i quote slash _ _ _ _ _
    -- A control character is read from its hexadecimal digits, and any other one stands for itself.
    split
    · rename_i control
      have point : CodePoint.ofNat c.toNat = .char c := by
        rw [CodePoint.ofNat, dif_neg (by simp [CodePoint.firstHalf]; omega), Char.ofNat_toNat]
      have read := escaped?_hexDigits control rest
      rw [point] at read
      exact stringTail_escape taken read
    · rename_i printable
      refine stringTail_plain taken rest ?_ (Nat.not_lt.mp printable) slash
      rintro rfl
      exact quote rfl

/-- A text is read back up to its closing quotation mark. -/
theorem stringTail_escaped {points : List CodePoint} (wellFormed : points.all CodePoint.isChar = true)
    (taken : List CodePoint) (rest : List Char) :
    stringTail taken (points.flatMap escapePoint ++ '"' :: rest) =
      .ok (⟨taken.reverse ++ points⟩, rest) := by
  -- Induction on the characters, for any number that has been read before
  induction points generalizing taken with
  | nil => simp [stringTail_quote]
  | cons p points ih =>
    rw [List.all_cons, Bool.and_eq_true] at wellFormed
    cases p with
    -- Half of a pair is not well formed.
    | half n => exact absurd wellFormed.1 Bool.false_ne_true
    | char c =>
      rw [List.flatMap_cons, List.append_assoc, escapePoint, stringTail_escapeChar,
        ih wellFormed.2]
      simp

/-- A text is read back from the way it is written, up to the closing quotation mark. -/
private theorem stringTail_stringText {t : Text} (wellFormed : t.isWellFormed = true)
    (rest : List Char) :
    ∃ cs, (stringText t).toList ++ rest = '"' :: cs ∧ stringTail [] cs = .ok (t, rest) := by
  refine ⟨t.points.flatMap escapePoint ++ '"' :: rest, ?_, stringTail_escaped wellFormed [] rest⟩
  simp [stringText]

/-! ## Blanks -/

/-- A token is not skipped. -/
private theorem skipSpace_cons {c : Char} (cs : List Char) (token : isSpace c = false) :
    skipSpace (c :: cs) = c :: cs := by
  simp [skipSpace, token]

/-- A line end and an indentation are skipped. -/
private theorem skipSpace_lineBreak (level : Nat) (cs : List Char) :
    skipSpace ((lineBreak level).toList ++ cs) = skipSpace cs := by
  -- A line break and the blanks of the indentation are all skipped.
  have blank : ∀ c ∈ (lineBreak level).toList, isSpace c = true := by
    simp only [lineBreak, String.toList_ofList, List.mem_cons, List.mem_replicate]
    rintro c (rfl | ⟨-, rfl⟩)
    · decide
    · decide
  exact List.dropWhile_append_of_pos blank

/-- A line break has two blanks for each level. -/
private theorem length_lineBreak (level : Nat) :
    (lineBreak level).toList.length = 2 * level + 1 := by
  simp [lineBreak]

/-! ## Values -/

mutual

/-- What a value has to be to be read back with at most so many levels of nesting: its texts well
formed, its numbers finite and not too long, and the keys of each object distinct. -/
def IsReadable : Nat → Json → Prop
  | _, null => True
  | _, bool _ => True
  | _, num n => IsReadBack n
  | _, str t => t.isWellFormed = true
  | 0, arr _ => False
  | levels + 1, arr items => AreReadable levels items
  | 0, obj _ => False
  | levels + 1, obj pairs => (pairs.map Prod.fst).Nodup ∧ ArePairsReadable levels pairs

/-- As `IsReadable`, for the items of an array. -/
def AreReadable : Nat → List Json → Prop
  | _, [] => True
  | levels, v :: rest => IsReadable levels v ∧ AreReadable levels rest

/-- As `IsReadable`, for the pairs of an object. -/
def ArePairsReadable : Nat → List (Text × Json) → Prop
  | _, [] => True
  | levels, (k, v) :: rest =>
    k.isWellFormed = true ∧ IsReadable levels v ∧ ArePairsReadable levels rest

end

/-- A key that is not there is set at the end. -/
private theorem setPair_of_not_mem {key : Text} {value : Json} {pairs : List (Text × Json)}
    (new : key ∉ pairs.map Prod.fst) : setPair key value pairs = pairs ++ [(key, value)] := by
  -- Induction on the pairs that the key is compared with
  induction pairs with
  | nil => rfl
  | cons p pairs ih =>
    simp only [List.map_cons, List.mem_cons, not_or] at new
    rw [setPair, if_neg (Ne.symm new.1), ih new.2, List.cons_append]

/-- The text between the brackets of an array or an object: items, one a line. -/
def lines (level : Nat) (items : List String) : List Char :=
  (("," ++ lineBreak level).intercalate items).toList

/-- A single item fills one line. -/
private theorem lines_single (level : Nat) (item : String) : lines level [item] = item.toList := by
  rw [lines, String.intercalate_singleton]

/-- A comma and a line break stand between two items. -/
private theorem lines_cons (level : Nat) (item next : String) (items : List String) :
    lines level (item :: next :: items) =
      item.toList ++ ',' :: ((lineBreak level).toList ++ lines level (next :: items)) := by
  rw [lines, String.intercalate_cons_cons, String.toList_append, String.toList_append,
    String.toList_append, List.append_assoc, List.append_assoc]
  rfl

/-- The items of a block stand on lines of their own, one level further in. -/
private theorem toList_block (level : Nat) (left right item : String) (items : List String) :
    (block level left right (item :: items)).toList =
      left.toList ++ ((lineBreak (level + 1)).toList ++ (lines (level + 1) (item :: items) ++
        ((lineBreak level).toList ++ right.toList))) := by
  simp only [block, lines, List.isEmpty_cons, Bool.false_eq_true, if_false, String.toList_append,
    List.append_assoc]

/-- What a line can start with: no blank, and nothing that closes an array or an object. -/
def StartsLine (cs : List Char) : Prop :=
  ∃ c rest, cs = c :: rest ∧ isSpace c = false ∧ c ≠ ']' ∧ c.toNat ≠ 0x7d

/-- What a line starts with does not depend on how it goes on. -/
theorem StartsLine.append {cs : List Char} (starts : StartsLine cs) (others : List Char) :
    StartsLine (cs ++ others) := by
  obtain ⟨c, rest, rfl, token, open₁, open₂⟩ := starts
  exact ⟨c, rest ++ others, rfl, token, open₁, open₂⟩

/-- Several lines start as the first one does. -/
theorem StartsLine.lines {item : String} (starts : StartsLine item.toList) (level : Nat)
    (items : List String) : StartsLine (lines level (item :: items)) := by
  -- One item, or a first one with a comma behind it
  cases items with
  | nil => rwa [lines_single]
  | cons next items =>
    rw [lines_cons]
    exact starts.append _

/-- No blank is skipped in front of a line. -/
private theorem StartsLine.skipSpace_eq {cs : List Char} (starts : StartsLine cs) :
    skipSpace cs = cs := by
  obtain ⟨c, rest, rfl, token, -, -⟩ := starts
  exact skipSpace_cons rest token

/-- What follows a number that stands in front of a line end. -/
private theorem endsNumber_lineBreak (level : Nat) (rest : List Char) :
    EndsNumber ((lineBreak level).toList ++ rest) := by
  intro c first
  obtain rfl : '\n' = c := by simpa [lineBreak] using first
  decide

/-- What follows a number that stands in front of another item. -/
private theorem endsNumber_comma (rest : List Char) : EndsNumber (',' :: rest) := by
  intro c first
  obtain rfl : ',' = c := by simpa using first
  decide

/-- A text starts with a quotation mark. -/
private theorem startsLine_stringText (t : Text) : StartsLine (stringText t).toList :=
  ⟨'"', t.points.flatMap escapePoint ++ ['"'], by simp [stringText], by decide, by decide,
    by decide⟩

/-- A numeral starts with a digit or a minus sign. -/
private theorem exists_first_numberText {n : Number} (readBack : IsReadBack n) :
    ∃ c cs, (numberText n).toList = c :: cs ∧ (c.isDigit = true ∨ c = '-') := by
  obtain ⟨negative, whole, others, text, isWhole, -⟩ := numberText_parts readBack
  rw [text]
  -- The sign is what a negative number starts with.
  cases negative with
  | true => exact ⟨'-', whole ++ others, rfl, .inr rfl⟩
  | false =>
    cases whole with
    | nil => exact absurd rfl isWhole.nonempty
    | cons c cs => exact ⟨c, cs ++ others, rfl, .inl (isWhole.digits c List.mem_cons_self)⟩

/-- A digit or a minus sign is no other character. -/
private theorem ne_of_numeral {c : Char} (numeral : c.isDigit = true ∨ c = '-') (d : Char)
    (noDigit : d.isDigit = false) (noMinus : d ≠ '-') : c ≠ d := by
  rcases numeral with digit | rfl
  · exact ne_of_isDigit digit noDigit
  · exact noMinus.symm

/-- A number starts with a digit or a minus sign. -/
private theorem startsLine_numberText {n : Number} (readBack : IsReadBack n) :
    StartsLine (numberText n).toList := by
  obtain ⟨c, cs, text, numeral⟩ := exists_first_numberText readBack
  have no := ne_of_numeral numeral
  refine ⟨c, cs, text, ?_, no _ (by decide) (by decide), fun brace => ?_⟩
  -- A digit or a minus sign is no blank.
  · simp [isSpace, no ' ' (by decide) (by decide), no '\t' (by decide) (by decide),
      no '\n' (by decide) (by decide), no '\r' (by decide) (by decide)]
  · apply no (Char.ofNat 0x7d) (by decide) (by decide)
    rw [← brace, Char.ofNat_toNat]

/-- The text of a value can start a line. -/
private theorem startsLine_indented {levels : Nat} {v : Json} (readable : IsReadable levels v)
    (level : Nat) : StartsLine (indented level v).toList := by
  -- Each kind of value has a first character of its own.
  cases v with
  | null => exact ⟨'n', ['u', 'l', 'l'], by simp [indented], by decide, by decide, by decide⟩
  | bool b =>
    cases b with
    | false => exact ⟨'f', ['a', 'l', 's', 'e'], by simp [indented], by decide, by decide, by decide⟩
    | true => exact ⟨'t', ['r', 'u', 'e'], by simp [indented], by decide, by decide, by decide⟩
  | num n => exact startsLine_numberText readable
  | str t => exact startsLine_stringText t
  | arr items =>
    rw [indented]
    -- Empty arrays and objects are closed on the same line.
    cases indentedItems (level + 1) items with
    | nil => exact ⟨'[', [']'], by simp [block], by decide, by decide, by decide⟩
    | cons item items =>
      rw [toList_block]
      exact ⟨'[', _, rfl, by decide, by decide, by decide⟩
  | obj pairs =>
    rw [indented]
    cases indentedPairs (level + 1) pairs with
    | nil =>
      exact ⟨Char.ofNat 0x7b, [Char.ofNat 0x7d], by simp [block, openBrace, closeBrace], by decide,
        by decide, by decide⟩
    | cons pair pairs =>
      rw [toList_block]
      exact ⟨Char.ofNat 0x7b, _, rfl, by decide, by decide, by decide⟩

/-! ## Reading with some fuel -/

/-- Whether this fuel is enough for every value whose text has at most half as many characters. -/
def ReadsValues (fuel : Nat) : Prop :=
  ∀ {levels v} (level : Nat) (rest : List Char), IsReadable levels v →
    2 * (indented level v).toList.length ≤ fuel → EndsNumber rest →
      value levels fuel ((indented level v).toList ++ rest) = .ok (v, rest)

/-- The same for the items of an array, up to its closing bracket. -/
def ReadsItems (fuel : Nat) : Prop :=
  ∀ {levels v items} (level outer : Nat) (rest : List Char), AreReadable levels (v :: items) →
    2 * (lines level (indentedItems level (v :: items))).length < fuel →
      itemsTail levels fuel (lines level (indentedItems level (v :: items)) ++
        ((lineBreak outer).toList ++ ']' :: rest)) = .ok (v :: items, rest)

/-- The same for the pairs of an object, up to its closing brace. -/
def ReadsPairs (fuel : Nat) : Prop :=
  ∀ {levels p pairs} (level outer : Nat) (front : List (Text × Json)) (rest : List Char),
    ArePairsReadable levels (p :: pairs) → ((front ++ p :: pairs).map Prod.fst).Nodup →
      2 * (lines level (indentedPairs level (p :: pairs))).length < fuel →
        pairsTail levels fuel front (lines level (indentedPairs level (p :: pairs)) ++
          ((lineBreak outer).toList ++ (closeBrace.toList ++ rest))) =
            .ok (front ++ p :: pairs, rest)

variable {fuel : Nat}

/-- Items are read with one more unit of fuel, if the first one is read and those after it are. -/
private theorem readsItems_succ (values : ReadsValues fuel) (tails : ReadsItems fuel) :
    ReadsItems (fuel + 1) := by
  intro levels v items level outer rest readable enough
  -- The last item is followed by the closing bracket, any other one by a comma.
  cases items with
  | nil =>
    simp only [indentedItems, lines_single] at enough ⊢
    have close : skipSpace ((lineBreak outer).toList ++ ']' :: rest) = ']' :: rest := by
      rw [skipSpace_lineBreak, skipSpace_cons _ (by decide)]
    rw [itemsTail, values level _ readable.1 (by omega) (endsNumber_lineBreak outer _)]
    simp only [close, bind, Except.bind, pure, Except.pure]
  | cons w items =>
    simp only [indentedItems, lines_cons, List.length_append, List.length_cons] at enough ⊢
    simp only [List.append_assoc, List.cons_append]
    have next := (startsLine_indented readable.2.1 level).lines level (indentedItems level items)
    -- The comma and the line break leave enough fuel for the others.
    have others := tails level outer rest readable.2 (by
      simp only [indentedItems]
      omega)
    rw [itemsTail, values level _ readable.1 (by omega) (endsNumber_comma _)]
    simp only [indentedItems] at others
    simp only [skipSpace_cons _ (show isSpace ',' = false by decide), skipSpace_lineBreak,
      (next.append _).skipSpace_eq, others, bind, Except.bind, pure, Except.pure]

/-- A key and its value, in front of anything. -/
private theorem pairsTail_pair {levels : Nat} {k : Text} {v : Json} {front : List (Text × Json)}
    {rest : List Char} (level : Nat) (values : ReadsValues fuel) (key : k.isWellFormed = true)
    (readable : IsReadable levels v) (enough : 2 * (indented level v).toList.length ≤ fuel)
    (new : k ∉ front.map Prod.fst) (ends : EndsNumber rest) :
    pairsTail levels (fuel + 1) front
        ((stringText k ++ ": " ++ indented level v).toList ++ rest) =
      match skipSpace rest with
      | ',' :: rest => pairsTail levels fuel (front ++ [(k, v)]) (skipSpace rest)
      | c :: rest =>
        if c.toNat = 0x7d then .ok (front ++ [(k, v)], rest) else .error .malformed
      | [] => .error .malformed := by
  obtain ⟨cs, text, keyRead⟩ := stringTail_stringText key
    (':' :: ' ' :: ((indented level v).toList ++ rest))
  -- A text, a colon, a blank and the value
  have chars : (stringText k ++ ": " ++ indented level v).toList ++ rest = '"' :: cs := by
    rw [← text]
    simp
  have itemRead := values level rest readable enough ends
  have starts := (startsLine_indented readable level).append rest
  have blank : skipSpace (' ' :: ((indented level v).toList ++ rest)) =
      (indented level v).toList ++ rest := starts.skipSpace_eq
  rw [chars, pairsTail]
  simp only [keyRead, skipSpace_cons _ (show isSpace ':' = false by decide), blank, itemRead,
    setPair_of_not_mem new, bind, Except.bind]
  rfl

/-- Pairs are read with one more unit of fuel, if the first one is read and those after it are. -/
private theorem readsPairs_succ (values : ReadsValues fuel) (tails : ReadsPairs fuel) :
    ReadsPairs (fuel + 1) := by
  rintro levels ⟨k, v⟩ pairs level outer front rest ⟨key, readable, others⟩ distinct enough
  -- The key is not among the ones read before, so its pair goes to the end.
  have new : k ∉ front.map Prod.fst := by
    rw [List.map_append, List.map_cons] at distinct
    exact fun mem => (List.nodup_append.mp distinct).2.2 k mem k List.mem_cons_self rfl
  -- The last pair is followed by the closing brace, any other one by a comma.
  cases pairs with
  | nil =>
    simp only [indentedPairs, lines_single, String.toList_append, List.length_append] at enough
    rw [indentedPairs, indentedPairs, lines_single,
      pairsTail_pair level values key readable (by omega) new (endsNumber_lineBreak outer _)]
    rw [skipSpace_lineBreak]
    rfl
  | cons next pairs =>
    obtain ⟨k', v'⟩ := next
    simp only [indentedPairs, lines_cons, String.toList_append, List.length_append,
      List.length_cons] at enough
    -- The next key starts the next line.
    have next := ((startsLine_stringText k').append (": " ++ indented level v').toList)
    rw [← String.toList_append, ← String.append_assoc] at next
    have last := tails level outer (front ++ [(k, v)]) rest others (by simpa using distinct) (by
        simp only [indentedPairs]
        omega)
    simp only [indentedPairs, lines_cons, List.append_assoc, List.cons_append] at last ⊢
    rw [pairsTail_pair level values key readable (by omega) new (endsNumber_comma _),
      skipSpace_cons _ (by decide)]
    simp only [skipSpace_lineBreak, ((next.lines level _).append _).skipSpace_eq]
    rw [last, List.nil_append]

/-- The items of an array that is not empty are read up to its closing bracket. -/
private theorem value_of_items {levels : Nat} {cs rest : List Char} {items : List Json}
    (level : Nat) (starts : StartsLine cs) (read : itemsTail levels fuel cs = .ok (items, rest)) :
    value (levels + 1) (fuel + 1) ("[".toList ++ ((lineBreak level).toList ++ cs)) =
      .ok (arr items, rest) := by
  -- The line break is skipped, and the bracket is not closed at once.
  have first : skipSpace ((lineBreak level).toList ++ cs) = cs := by
    rw [skipSpace_lineBreak, starts.skipSpace_eq]
  obtain ⟨c, others, rfl, -, noBracket, -⟩ := starts
  change value (levels + 1) (fuel + 1) ('[' :: ((lineBreak level).toList ++ c :: others)) = _
  rw [value]
  simp only [inside, bind, Except.bind, first]
  split
  · rename_i empty
    exact absurd (List.cons.inj empty).1 noBracket
  · rw [read]
    rfl

/-- The pairs of an object that is not empty are read up to its closing brace. -/
private theorem value_of_pairs {levels : Nat} {cs rest : List Char} {pairs : List (Text × Json)}
    (level : Nat) (starts : StartsLine cs)
    (read : pairsTail levels fuel [] cs = .ok (pairs, rest)) :
    value (levels + 1) (fuel + 1) (openBrace.toList ++ ((lineBreak level).toList ++ cs)) =
      .ok (obj pairs, rest) := by
  -- As for arrays; the brace is not closed at once.
  have first : skipSpace ((lineBreak level).toList ++ cs) = cs := by
    rw [skipSpace_lineBreak, starts.skipSpace_eq]
  obtain ⟨c, others, rfl, -, -, noBrace⟩ := starts
  have brace : (Char.ofNat 0x7b).toNat = 0x7b := by decide
  change value (levels + 1) (fuel + 1)
    (Char.ofNat 0x7b :: ((lineBreak level).toList ++ c :: others)) = _
  rw [value]
  · simp only [brace, if_true, inside, bind, Except.bind, first, if_neg noBrace, read]
    rfl
  · decide
  · decide

/-- What does not start a text, an array or an object is a word or a number. -/
private theorem value_of_scalar {levels : Nat} {c : Char} (cs : List Char) (noQuote : c ≠ '"')
    (noBracket : c ≠ '[') (noBrace : c.toNat ≠ 0x7b) :
    value levels (fuel + 1) (c :: cs) = scalar (c :: cs) := by
  simp [value, noBrace]

/-- A number is read back. -/
private theorem value_numberText {levels : Nat} {n : Number} {rest : List Char}
    (readBack : IsReadBack n) (ends : EndsNumber rest) :
    value levels (fuel + 1) ((numberText n).toList ++ rest) = .ok (num n, rest) := by
  have read := scalar_numberText readBack ends
  obtain ⟨c, cs, text, numeral⟩ := exists_first_numberText readBack
  rw [text] at read ⊢
  -- A numeral starts none of the other kinds.
  refine (value_of_scalar _ ?_ ?_ fun brace => ?_).trans read
  · exact ne_of_numeral numeral _ (by decide) (by decide)
  · exact ne_of_numeral numeral _ (by decide) (by decide)
  · apply ne_of_numeral numeral (Char.ofNat 0x7b) (by decide) (by decide)
    rw [← brace, Char.ofNat_toNat]

/-- An array is read back if its items are. -/
private theorem ReadsItems.value_arr (reads : ReadsItems fuel) {levels level : Nat}
    {rest : List Char} {items : List Json} (readable : IsReadable levels (arr items))
    (enough : 2 * (indented level (arr items)).toList.length ≤ fuel + 1) :
    value levels (fuel + 1) ((indented level (arr items)).toList ++ rest) =
      .ok (arr items, rest) := by
  -- There is no array without a level for it.
  cases levels with
  | zero => exact readable.elim
  | succ levels =>
    cases items with
    -- An empty array needs no fuel for its items.
    | nil => simp [indented, indentedItems, block, value, inside, skipSpace, isSpace, bind,
        Except.bind, pure, Except.pure]
    | cons v vs =>
      have starts := (startsLine_indented readable.1 (level + 1)).lines (level + 1)
        (indentedItems (level + 1) vs)
      rw [indented, indentedItems, toList_block] at enough ⊢
      -- The brackets and the line breaks leave enough fuel for the items.
      simp only [List.length_append, length_lineBreak] at enough
      have read := reads (level + 1) level rest readable (by
        rw [indentedItems]
        omega)
      rw [indentedItems] at read
      simp only [List.append_assoc]
      exact value_of_items (level + 1) (starts.append _) read

/-- An object is read back if its pairs are. -/
private theorem ReadsPairs.value_obj (reads : ReadsPairs fuel) {levels level : Nat}
    {rest : List Char} {pairs : List (Text × Json)} (readable : IsReadable levels (obj pairs))
    (enough : 2 * (indented level (obj pairs)).toList.length ≤ fuel + 1) :
    value levels (fuel + 1) ((indented level (obj pairs)).toList ++ rest) =
      .ok (obj pairs, rest) := by
  -- There is no object without a level for it.
  cases levels with
  | zero => exact readable.elim
  | succ levels =>
    cases pairs with
    | nil => simp [indented, indentedPairs, block, openBrace, closeBrace, value, inside, skipSpace,
        isSpace, bind, Except.bind, pure, Except.pure]
    | cons p ps =>
      obtain ⟨k, v⟩ := p
      obtain ⟨distinct, readable⟩ := readable
      -- An object that is not empty starts with its first key.
      have starts := ((startsLine_stringText k).append (": " ++ indented (level + 1) v).toList)
      rw [← String.toList_append, ← String.append_assoc] at starts
      replace starts := starts.lines (level + 1) (indentedPairs (level + 1) ps)
      rw [indented, indentedPairs, toList_block] at enough ⊢
      simp only [List.length_append, length_lineBreak] at enough
      have read := reads (level + 1) level [] rest readable distinct (by
        rw [indentedPairs]
        omega)
      rw [indentedPairs] at read
      simp only [List.append_assoc]
      exact value_of_pairs (level + 1) (starts.append _) read

/-- A value is read with one more unit of fuel, if what is inside an array or an object is. -/
private theorem readsValues_succ (items : ReadsItems fuel) (pairs : ReadsPairs fuel) :
    ReadsValues (fuel + 1) := by
  intro levels v level rest readable enough ends
  -- Words and numbers end where they end, and the others at their closing character.
  cases v with
  | null => simp [indented, value, scalar, words, afterWord?]
  | bool b =>
    cases b with
    | false => simp [indented, value, scalar, words, afterWord?]
    | true => simp [indented, value, scalar, words, afterWord?]
  | num n => exact value_numberText readable ends
  | str t =>
    rw [IsReadable] at readable
    obtain ⟨cs, text, read⟩ := stringTail_stringText readable rest
    rw [indented, text, value, read]
    rfl
  | arr vs => exact items.value_arr readable enough
  | obj ps => exact pairs.value_obj readable enough

/-- Values, items and pairs are read back together: each spends one unit of fuel before it goes on to
one of the others. -/
theorem reads (fuel : Nat) : ReadsValues fuel ∧ ReadsItems fuel ∧ ReadsPairs fuel := by
  -- Induction on the fuel for all three at once
  induction fuel with
  | zero =>
    -- No text is empty, so there is nothing that could be read without fuel.
    refine ⟨?_, ?_, ?_⟩
    · intro levels v level rest readable enough
      obtain ⟨c, cs, text, -⟩ := startsLine_indented readable level
      rw [text, List.length_cons] at enough
      omega
    · intro levels v items level outer rest readable enough
      omega
    · intro levels p pairs level outer front rest readable distinct enough
      omega
  | succ fuel ih =>
    obtain ⟨values, items, pairs⟩ := ih
    exact ⟨readsValues_succ items pairs, readsItems_succ values items,
      readsPairs_succ values pairs⟩

/-! ## Documents -/

/-- A document is read as the value that was written. -/
theorem read_indented {v : Json} (readable : IsReadable maxNesting v) :
    read (v.indented 0) = .ok v := by
  -- Fuel is twice the length of the text, and nothing follows the value.
  have starts := startsLine_indented readable 0
  have found := (reads (2 * (v.indented 0).toList.length + 1)).1 0 [] readable (Nat.le_succ _)
    fun c first => nomatch first
  rw [List.append_nil] at found
  rw [read, readWithin, starts.skipSpace_eq, found]
  rfl

end AirQuality.Json
