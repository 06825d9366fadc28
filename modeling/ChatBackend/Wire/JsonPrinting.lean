import ChatBackend.Realtime.JsonTexts

/-!
# `JSON.stringify`

The text of a JSON value, without any white space, and the round trip:
`JSON.parse` reads the text of a value back as the value.

Two things are not printed by `JSON.stringify`: a number whose text is not a
JSON number, and an object with the same name twice.  `Printable` excludes
them, and the induction of the round trip is on it.
-/

namespace ChatBackend.Wire.JsonPrinting

open ChatBackend.Realtime.ServerFrames
open ChatBackend.Realtime.JsonTexts

/-! ## Texts -/

/-- The character of a hexadecimal digit. -/
def hexCharacter (digit : Nat) : Char :=
  if digit < 10 then Char.ofNat (0x30 + digit)
  else Char.ofNat (0x61 + (digit - 10))

/-- How a character stands in a quoted string. -/
def quoteCharacter (character : Char) : List Char :=
  if character = '\x22' then ['\x5c', '\x22']
  else if character = '\x5c' then ['\x5c', '\x5c']
  else if character.toNat = 0x08 then ['\x5c', 'b']
  else if character.toNat = 0x09 then ['\x5c', 't']
  else if character.toNat = 0x0A then ['\x5c', 'n']
  else if character.toNat = 0x0C then ['\x5c', 'f']
  else if character.toNat = 0x0D then ['\x5c', 'r']
  else if character.toNat < 0x20 then
    ['\x5c', 'u', '0', '0', hexCharacter (character.toNat / 16),
      hexCharacter (character.toNat % 16)]
  else [character]

/-- The characters of a string between its quotes. -/
def quoteCharacters (characters : List Char) : List Char :=
  characters.flatMap quoteCharacter

/-- A string with its quotes. -/
def quote (text : String) : List Char :=
  '\x22' :: quoteCharacters text.toList ++ ['\x22']

mutual

/-- The characters of a value. -/
def print : Json → List Char
  | .null => ['n', 'u', 'l', 'l']
  | .bool true => ['t', 'r', 'u', 'e']
  | .bool false => ['f', 'a', 'l', 's', 'e']
  | .number text => text.toList
  | .string text => quote text
  | .array items => '\x5b' :: printItems items ++ ['\x5d']
  | .object fields => '\x7b' :: printFields fields ++ ['\x7d']

/-- The items of an array, with the commas between them. -/
def printItems : List Json → List Char
  | [] => []
  | [item] => print item
  | item :: next :: rest => print item ++ '\x2c' :: printItems (next :: rest)

/-- The fields of an object, with the commas between them. -/
def printFields : List (String × Json) → List Char
  | [] => []
  | [(name, item)] => quote name ++ ':' :: print item
  | (name, item) :: next :: rest =>
      quote name ++ ':' :: print item ++ '\x2c' :: printFields (next :: rest)

end

/-- `JSON.stringify`. -/
def stringify (value : Json) : String :=
  String.ofList (print value)

example :
    stringify (.object [("online", .bool true), ("users", .array [.null])]) =
      "\x7b\"online\":true,\"users\":[null]\x7d" := by
  decide

/-! ## Characters -/

/-- A character is no surrogate. -/
theorem toNat_not_surrogate (character : Char) :
    character.toNat < 0xD800 ∨ 0xDFFF < character.toNat := by
  rcases character.valid with low | ⟨high, _⟩
  · exact Or.inl low
  · exact Or.inr high

theorem toNat_lt (character : Char) : character.toNat < 0x110000 := by
  rcases character.valid with low | ⟨_, high⟩
  · exact low.trans (by decide)
  · exact high

/-- A hexadecimal digit is read back. -/
theorem hexDigit_hexCharacter {digit : Nat} (small : digit < 16) :
    hexDigit (hexCharacter digit) = some digit := by
  revert digit
  decide

/-- The units of a character are read back as the character. -/
theorem ofUnits_units (character : Char) (more : List Nat) :
    ofUnits (units character ++ more) = character :: ofUnits more := by
  have noSurrogate := toNat_not_surrogate character
  have bounded := toNat_lt character
  by_cases basic : character.toNat < 0x10000
  · have notHigh : isHigh character.toNat = false := by
      simp only [isHigh, Bool.and_eq_false_iff, decide_eq_false_iff_not]
      omega
    have notLow : isLow character.toNat = false := by
      simp only [isLow, Bool.and_eq_false_iff, decide_eq_false_iff_not]
      omega
    have alone : ofUnit character.toNat = character := by
      simp [ofUnit, notHigh, notLow]
    simp only [units, basic, if_true, List.cons_append, List.nil_append]
    cases more with
    | nil => simp [ofUnits, alone]
    | cons second rest => simp [ofUnits, notHigh, alone]
  · have first :
        isHigh (0xD800 + (character.toNat - 0x10000) / 0x400) = true := by
      simp only [isHigh, Bool.and_eq_true, decide_eq_true_eq]
      omega
    have second :
        isLow (0xDC00 + (character.toNat - 0x10000) % 0x400) = true := by
      simp only [isLow, Bool.and_eq_true, decide_eq_true_eq]
      omega
    have joined :
        0x10000 +
              (0xD800 + (character.toNat - 0x10000) / 0x400 - 0xD800) *
                0x400 +
            (0xDC00 + (character.toNat - 0x10000) % 0x400 - 0xDC00) =
          character.toNat := by
      omega
    simp only [units, basic, if_false, List.cons_append, List.nil_append,
      ofUnits, first, second, Bool.and_self, if_true, joined,
      Char.ofNat_toNat]

/-- The units of a text make the text again. -/
theorem ofUnits_flatMap_units (characters : List Char) :
    ofUnits (characters.flatMap units) = characters := by
  induction characters with
  | nil => rfl
  | cons first rest induction =>
      rw [List.flatMap_cons, ofUnits_units, induction]

/-! ## Strings -/

theorem units_of_lt
    {character : Char} (small : character.toNat < 0x10000) :
    units character = [character.toNat] := by
  simp [units, small]

/-- A letter that is not `u` after a backslash stands for one unit. -/
theorem stringUnits_escape
    {letter : Char} {unit : Nat} (known : escape letter = some unit)
    (rest : List Char) :
    stringUnits ('\x5c' :: letter :: rest) =
      (stringUnits rest).map fun read => (unit :: read.1, read.2) := by
  have notUnit : letter ≠ 'u' := by
    rintro rfl
    cases known
  rw [stringUnits]
  · rw [known]
    cases stringUnits rest <;> rfl
  · intro first second third fourth more isUnit
    exact absurd isUnit notUnit

theorem hexUnit_control {code : Nat} (small : code < 0x20) :
    hexUnit '0' '0' (hexCharacter (code / 16)) (hexCharacter (code % 16)) =
      some code := by
  have first : hexDigit '0' = some 0 := rfl
  simp only [hexUnit, first,
    hexDigit_hexCharacter (show code / 16 < 16 by omega),
    hexDigit_hexCharacter (show code % 16 < 16 by omega),
    Option.bind_eq_bind, Option.bind_some, pure, Option.some.injEq]
  omega

/-- A quoted character is read as its units. -/
theorem stringUnits_quoteCharacter
    (character : Char) (rest : List Char) :
    stringUnits (quoteCharacter character ++ rest) =
      (stringUnits rest).map fun read =>
        (units character ++ read.1, read.2) := by
  by_cases isQuote : character = '\x22'
  · subst isQuote
    exact stringUnits_escape rfl rest
  by_cases isBackslash : character = '\x5c'
  · subst isBackslash
    exact stringUnits_escape rfl rest
  unfold quoteCharacter
  rw [if_neg isQuote, if_neg isBackslash]
  by_cases isControl : character.toNat < 0x20
  · rw [units_of_lt (by omega)]
    split_ifs with back tab line form carriage
    · exact stringUnits_escape (back ▸ rfl) rest
    · exact stringUnits_escape (tab ▸ rfl) rest
    · exact stringUnits_escape (line ▸ rfl) rest
    · exact stringUnits_escape (form ▸ rfl) rest
    · exact stringUnits_escape (carriage ▸ rfl) rest
    · simp only [List.cons_append, List.nil_append, stringUnits,
        hexUnit_control isControl]
      cases stringUnits rest <;> rfl
  · rw [if_neg (by omega), if_neg (by omega), if_neg (by omega),
      if_neg (by omega), if_neg (by omega), if_neg isControl,
      List.singleton_append, stringUnits]
    · rw [if_neg isControl]
      cases stringUnits rest <;> rfl
    · exact isQuote
    · intro first second third fourth more same
      exact absurd same isBackslash
    · intro letter more same
      exact absurd same isBackslash

/-- A quoted string is read back as its units. -/
theorem stringUnits_quoteCharacters
    (characters rest : List Char) :
    stringUnits (quoteCharacters characters ++ '\x22' :: rest) =
      some (characters.flatMap units, rest) := by
  induction characters with
  | nil => simp [quoteCharacters, stringUnits]
  | cons first more induction =>
      rw [quoteCharacters, List.flatMap_cons, List.append_assoc,
        ← quoteCharacters, stringUnits_quoteCharacter, induction]
      rfl

/-- A quoted string is read back. -/
theorem stringUnits_quote (text : String) (rest : List Char) :
    ∃ read,
      stringUnits ((quote text).tail ++ rest) = some (read, rest) ∧
        String.ofList (ofUnits read) = text := by
  refine ⟨text.toList.flatMap units, ?_, ?_⟩
  · rw [quote, List.cons_append, List.tail_cons, List.append_assoc]
    exact stringUnits_quoteCharacters text.toList rest
  · rw [ofUnits_flatMap_units, String.ofList_toList]

/-! ## Numbers -/

/-- The text is a JSON number, and nothing else. -/
def IsNumber (text : String) : Prop :=
  number text.toList = some (.number text, [])

/-- What follows does not continue a number. -/
def Delimited (rest : List Char) : Prop :=
  ∀ character ∈ rest.head?,
    isDigit character = false ∧ character ≠ '.' ∧ character ≠ 'e' ∧
      character ≠ 'E'

theorem Delimited.nil : Delimited [] := by
  intro character member
  cases member

section Numbers

variable {input read after rest : List Char}

theorem span_append (delimited : Delimited rest) :
    (input ++ rest).takeWhile isDigit = input.takeWhile isDigit ∧
      (input ++ rest).dropWhile isDigit =
        input.dropWhile isDigit ++ rest := by
  induction input with
  | nil =>
      cases rest with
      | nil => exact ⟨rfl, rfl⟩
      | cons first more =>
          have noDigit := (delimited first rfl).1
          simp [noDigit]
  | cons first more induction =>
      cases digit : isDigit first with
      | true => simp [digit, induction]
      | false => simp [digit]

/-- Digits end where they ended before. -/
theorem digits_append
    (delimited : Delimited rest)
    (found : digits input = some (read, after)) :
    digits (input ++ rest) = some (read, after ++ rest) := by
  rcases (span_append delimited : _ ∧ (input ++ rest).dropWhile _ = _)
    with ⟨taken, dropped⟩
  unfold digits at found ⊢
  rw [taken, dropped]
  split at found
  · cases found
  · rename_i some
    cases found
    rw [if_neg some]

/-- So does a whole number. -/
theorem whole_append
    (delimited : Delimited rest)
    (found : whole input = some (read, after)) :
    whole (input ++ rest) = some (read, after ++ rest) := by
  simp only [whole, Option.bind_eq_bind, Option.bind_eq_some_iff] at found ⊢
  rcases found with ⟨⟨front, tail⟩, isDigits, same⟩
  refine ⟨(front, tail ++ rest), digits_append delimited isDigits, ?_⟩
  dsimp only at same ⊢
  split at same
  · cases same
  · cases same
    simp [*]

/-- So does a fraction. -/
theorem fraction_append
    (delimited : Delimited rest)
    (found : fraction input = some (read, after)) :
    fraction (input ++ rest) = some (read, after ++ rest) := by
  unfold fraction at found
  split at found
  · rename_i more
    simp only [Option.bind_eq_bind, Option.bind_eq_some_iff] at found
    rcases found with ⟨⟨front, tail⟩, isDigits, same⟩
    cases same
    simp [fraction, digits_append delimited isDigits]
  · rename_i noPoint
    cases found
    cases input with
    | nil =>
        cases rest with
        | nil => rfl
        | cons first more =>
            rw [List.nil_append, fraction]
            intro later same
            cases same
            exact (delimited '.' rfl).2.1 rfl
    | cons first more =>
        rw [List.cons_append, fraction]
        intro later same
        cases same
        exact noPoint _ rfl

theorem sign_append (nonempty : input ≠ []) :
    sign (input ++ rest) = ((sign input).1, (sign input).2 ++ rest) := by
  cases input with
  | nil => exact absurd rfl nonempty
  | cons first more =>
      rw [List.cons_append]
      by_cases plus : first = '+'
      · subst plus
        rfl
      · by_cases minus : first = '-'
        · subst minus
          rfl
        · simp [sign, plus, minus]

/-- So does an exponent. -/
theorem exponent_append
    (delimited : Delimited rest)
    (found : exponent input = some (read, after)) :
    exponent (input ++ rest) = some (read, after ++ rest) := by
  cases input with
  | nil =>
      cases found
      cases rest with
      | nil => rfl
      | cons first more =>
          have noLetter := (delimited first rfl).2.2
          simp [exponent, noLetter.1, noLetter.2]
  | cons letter more =>
      rw [List.cons_append]
      simp only [exponent] at found ⊢
      split at found
      · rename_i isLetter
        simp only [Option.bind_eq_bind, Option.bind_eq_some_iff] at found
        rcases found with ⟨⟨front, tail⟩, isDigits, same⟩
        cases same
        have nonempty : more ≠ [] := by
          rintro rfl
          cases isDigits
        rw [if_pos isLetter, sign_append nonempty]
        simp [digits_append delimited isDigits]
      · rename_i noLetter
        cases found
        rw [if_neg noLetter]
        rfl

theorem minus_append (nonempty : input ≠ []) :
    minus (input ++ rest) = ((minus input).1, (minus input).2 ++ rest) := by
  cases input with
  | nil => exact absurd rfl nonempty
  | cons first more =>
      rw [List.cons_append]
      by_cases isMinus : first = '-'
      · subst isMinus
        rfl
      · simp [minus, isMinus]

/-- A number is read up to what delimits it. -/
theorem number_append
    {result : Json} (delimited : Delimited rest)
    (found : number input = some (result, after)) :
    number (input ++ rest) = some (result, after ++ rest) := by
  have nonempty : input ≠ [] := by
    rintro rfl
    cases found
  simp only [number, Option.bind_eq_bind,
    Option.bind_eq_some_iff] at found ⊢
  rcases found with
    ⟨⟨front, afterWhole⟩, isWhole, ⟨middle, afterFraction⟩, isFraction,
      ⟨back, tail⟩, isExponent, same⟩
  cases same
  rw [minus_append nonempty]
  exact
    ⟨(front, afterWhole ++ rest), whole_append delimited isWhole,
      (middle, afterFraction ++ rest),
      fraction_append delimited isFraction,
      (back, tail ++ rest), exponent_append delimited isExponent, rfl⟩

end Numbers

/-! ## Values -/

/-- What `JSON.stringify` prints. -/
inductive Printable : Json → Prop where
  | null : Printable .null
  | bool (value : Bool) : Printable (.bool value)
  | number (text : String) : IsNumber text → Printable (.number text)
  | string (text : String) : Printable (.string text)
  | array (items : List Json) :
      (∀ item ∈ items, Printable item) → Printable (.array items)
  | object (fields : List (String × Json)) :
      (fields.map Prod.fst).Nodup →
        (∀ field ∈ fields, Printable field.2) →
          Printable (.object fields)

/-- The value is read from its text, with any bound that is large enough. -/
def ReadsBack (item : Json) : Prop :=
  ∀ bound rest, 2 * (print item).length + 1 ≤ bound → Delimited rest →
    value bound (print item ++ rest) = some (item, rest)

theorem head_of_digits
    {input read after : List Char}
    (found : digits input = some (read, after)) :
    ∃ first rest, input = first :: rest ∧ isDigit first = true := by
  unfold digits at found
  split at found
  · cases found
  · rename_i some
    cases input with
    | nil => exact absurd rfl some
    | cons first rest =>
        refine ⟨first, rest, rfl, ?_⟩
        by_contra noDigit
        rw [Bool.not_eq_true] at noDigit
        simp [noDigit] at some

/-- A number starts with a digit or a minus sign. -/
theorem head_of_number
    {input after : List Char} {result : Json}
    (found : number input = some (result, after)) :
    ∃ first rest,
      input = first :: rest ∧ (isDigit first = true ∨ first = '-') := by
  simp only [number, whole, Option.bind_eq_bind,
    Option.bind_eq_some_iff] at found
  rcases found with ⟨_, ⟨_, isDigits, _⟩, _⟩
  rcases head_of_digits isDigits with ⟨first, rest, same, isDigit⟩
  unfold minus at same
  split at same
  · exact ⟨_, _, rfl, Or.inr rfl⟩
  · exact ⟨first, rest, same, Or.inl isDigit⟩

theorem skipSpace_cons
    {first : Char} (noSpace : isSpace first = false) (rest : List Char) :
    skipSpace (first :: rest) = first :: rest := by
  simp [skipSpace, noSpace]

theorem plain_of_start
    {first : Char} (starts : isDigit first = true ∨ first = '-') :
    isSpace first = false ∧ first ≠ '\x5d' ∧ first ≠ '\x7d' := by
  rcases starts with isDigit | rfl
  · refine ⟨?_, ?_, ?_⟩
    · by_contra space
      simp only [isSpace, Bool.not_eq_false, Bool.or_eq_true,
        beq_iff_eq] at space
      rcases space with ((rfl | rfl) | rfl) | rfl <;>
        exact absurd isDigit (by decide)
    · rintro rfl
      exact absurd isDigit (by decide)
    · rintro rfl
      exact absurd isDigit (by decide)
  · exact ⟨rfl, by decide, by decide⟩

/-- A value that begins like a number is read as one. -/
theorem value_of_number
    {first : Char} (starts : isDigit first = true ∨ first = '-')
    (bound : Nat) (rest : List Char) :
    value (bound + 1) (first :: rest) = number (first :: rest) := by
  simp only [value, skipSpace_cons (plain_of_start starts).1]
  split
  all_goals
    first
    | rfl
    | rename_i same
      cases same
      rcases starts with isDigit | isMinus
      · exact absurd isDigit (by decide)
      · exact absurd isMinus (by decide)

/-- The first character of a text is no space and closes nothing. -/
theorem print_head {item : Json} (printable : Printable item) :
    ∃ first rest,
      print item = first :: rest ∧ isSpace first = false ∧
        first ≠ '\x5d' ∧ first ≠ '\x7d' := by
  cases printable with
  | null => exact ⟨_, _, rfl, rfl, by decide, by decide⟩
  | bool value =>
      cases value
      · exact ⟨_, _, rfl, rfl, by decide, by decide⟩
      · exact ⟨_, _, rfl, rfl, by decide, by decide⟩
  | number text isNumber =>
      rcases head_of_number isNumber with ⟨first, rest, same, starts⟩
      exact ⟨first, rest, same, plain_of_start starts⟩
  | string text => exact ⟨_, _, rfl, rfl, by decide, by decide⟩
  | array items _ => exact ⟨_, _, rfl, rfl, by decide, by decide⟩
  | object fields _ _ => exact ⟨_, _, rfl, rfl, by decide, by decide⟩

theorem delimited_cons
    {first : Char}
    (ends :
      isDigit first = false ∧ first ≠ '.' ∧ first ≠ 'e' ∧ first ≠ 'E')
    (rest : List Char) : Delimited (first :: rest) := by
  intro character member
  cases member
  exact ends

/-- The items of an array are read up to its closing bracket. -/
theorem elements_printItems
    {items : List Json} (nonempty : items ≠ [])
    (readBack : ∀ item ∈ items, ReadsBack item) :
    ∀ bound rest, 2 * (printItems items).length + 2 ≤ bound →
      elements bound (printItems items ++ '\x5d' :: rest) =
        some (items, rest) := by
  induction items with
  | nil => exact absurd rfl nonempty
  | cons item others induction =>
      rintro (_ | bound) rest enough
      · omega
      have reads := readBack item List.mem_cons_self
      cases others with
      | nil =>
          rw [printItems] at enough ⊢
          rw [elements, reads bound ('\x5d' :: rest) (by omega)
            (delimited_cons (by decide) rest)]
          rfl
      | cons next more =>
          rw [printItems, List.length_append, List.length_cons] at enough
          rw [printItems, List.append_assoc, List.cons_append, elements,
            reads bound _ (by omega) (delimited_cons (by decide) _)]
          have later :=
            induction (by simp)
              (fun other member =>
                readBack other (List.mem_cons_of_mem _ member))
              bound rest (by omega)
          simp [skipSpace_cons, isSpace, later]

/-- A field with a new name comes last. -/
theorem setField_append
    {fields : List (String × Json)} {name : String}
    (fresh : name ∉ fields.map Prod.fst) (item : Json) :
    setField fields name item = fields ++ [(name, item)] := by
  unfold setField
  rw [if_neg]
  intro known
  rw [List.any_eq_true] at known
  rcases known with ⟨field, member, same⟩
  exact fresh (List.mem_map.mpr ⟨field, member, beq_iff_eq.mp same⟩)

/-- One field is read, with the comma or the brace after it left. -/
theorem members_field
    {bound : Nat} {item : Json} {tail : List Char}
    (read : value bound (print item ++ tail) = some (item, tail))
    (before : List (String × Json)) (name : String) :
    members (bound + 1) before
        (quote name ++ ':' :: (print item ++ tail)) =
      match skipSpace tail with
      | '\x2c' :: rest => members bound (setField before name item) rest
      | '\x7d' :: after => some (setField before name item, after)
      | _ => none := by
  rcases stringUnits_quote name (':' :: (print item ++ tail)) with
    ⟨units, isString, isName⟩
  have opened :
      quote name ++ ':' :: (print item ++ tail) =
        '\x22' :: ((quote name).tail ++ ':' :: (print item ++ tail)) := rfl
  rw [opened, members, skipSpace_cons (by decide)]
  simp only [isString, Option.bind_eq_bind, Option.bind_some,
    skipSpace_cons (show isSpace ':' = false by decide), read, isName]
  rfl

/-- The fields of an object are read up to its closing brace. -/
theorem members_printFields
    {fields : List (String × Json)} (nonempty : fields ≠ [])
    (readBack : ∀ field ∈ fields, ReadsBack field.2) :
    ∀ bound before rest, ((before ++ fields).map Prod.fst).Nodup →
      2 * (printFields fields).length + 2 ≤ bound →
        members bound before (printFields fields ++ '\x7d' :: rest) =
          some (before ++ fields, rest) := by
  induction fields with
  | nil => exact absurd rfl nonempty
  | cons field others induction =>
      rcases field with ⟨name, item⟩
      rintro (_ | bound) before rest distinct enough
      · omega
      have reads : ReadsBack item :=
        readBack (name, item) List.mem_cons_self
      have fresh : name ∉ before.map Prod.fst := by
        rw [List.map_append, List.nodup_append] at distinct
        intro member
        exact distinct.2.2 name member name (by simp) rfl
      cases others with
      | nil =>
          rw [printFields, List.length_append, List.length_cons] at enough
          rw [printFields, List.append_assoc, List.cons_append,
            members_field
              (reads bound _ (by omega) (delimited_cons (by decide) rest)),
            setField_append fresh, skipSpace_cons (by decide)]
          rfl
      | cons next more =>
          rw [printFields, List.length_append, List.length_append,
            List.length_cons, List.length_cons] at enough
          have moved :
              before ++ (name, item) :: next :: more =
                (before ++ [(name, item)]) ++ next :: more := by
            simp
          have later :=
            induction (by simp)
              (fun other member =>
                readBack other (List.mem_cons_of_mem _ member))
              bound (before ++ [(name, item)]) rest (moved ▸ distinct)
              (by omega)
          rw [printFields, List.append_assoc, List.append_assoc,
            List.cons_append, List.cons_append,
            members_field
              (reads bound _ (by omega) (delimited_cons (by decide) _)),
            setField_append fresh, skipSpace_cons (by decide), moved]
          exact later

/-- The text of a value is read back as the value. -/
theorem value_print {item : Json} (printable : Printable item) :
    ReadsBack item := by
  induction printable with
  | null =>
      rintro (_ | bound) rest enough delimited
      · omega
      · rfl
  | bool value =>
      rintro (_ | bound) rest enough delimited
      · omega
      · cases value <;> rfl
  | number text isNumber =>
      rintro (_ | bound) rest enough delimited
      · omega
      · rcases head_of_number isNumber with ⟨first, more, same, starts⟩
        have read := number_append delimited isNumber
        rw [print, same, List.cons_append, value_of_number starts,
          ← List.cons_append, ← same, read]
        rfl
  | string text =>
      rintro (_ | bound) rest enough delimited
      · omega
      · rcases stringUnits_quote text rest with ⟨units, isString, isText⟩
        have opened :
            quote text ++ rest = '\x22' :: ((quote text).tail ++ rest) :=
          rfl
        rw [print, opened, value, skipSpace_cons (by decide)]
        simp [isString, isText]
  | array items printable readBack =>
      rintro (_ | bound) rest enough delimited
      · omega
      cases items with
      | nil => rfl
      | cons first more =>
          rcases print_head (printable first List.mem_cons_self) with
            ⟨head, tail, same, noSpace, notClosed, _⟩
          have starts :
              ∃ others,
                printItems (first :: more) ++ '\x5d' :: rest =
                  head :: others := by
            cases more <;> simp [printItems, same]
          rcases starts with ⟨others, starts⟩
          have read :=
            elements_printItems (List.cons_ne_nil first more) readBack
              bound rest (by
                simp only [print, List.length_append,
                  List.length_cons] at enough
                omega)
          rw [print, List.append_assoc, List.cons_append,
            List.cons_append, List.nil_append, value,
            skipSpace_cons (by decide)]
          simp only [starts, skipSpace_cons noSpace]
          rw [starts] at read
          split
          · rename_i after closed
            cases closed
            exact absurd rfl notClosed
          · simp [read]
  | object fields distinct printable readBack =>
      rintro (_ | bound) rest enough delimited
      · omega
      cases fields with
      | nil => rfl
      | cons first more =>
          have starts :
              ∃ others,
                printFields (first :: more) ++ '\x7d' :: rest =
                  '\x22' :: others := by
            cases more <;> simp [printFields, quote]
          rcases starts with ⟨others, starts⟩
          have read :=
            members_printFields (List.cons_ne_nil first more) readBack
              bound [] rest distinct (by
                simp only [print, List.length_append,
                  List.length_cons] at enough
                omega)
          rw [print, List.append_assoc, List.cons_append,
            List.cons_append, List.nil_append, value,
            skipSpace_cons (by decide)]
          rw [starts] at read
          simp [starts, skipSpace_cons, isSpace, read]

/-- `JSON.parse` of `JSON.stringify` is the value. -/
theorem parse_stringify {item : Json} (printable : Printable item) :
    parse (stringify item) = some item := by
  have read :=
    value_print printable (2 * (print item).length + 2) [] (by omega)
      Delimited.nil
  rw [List.append_nil] at read
  rw [parse, stringify, String.toList_ofList, read]
  rfl

end ChatBackend.Wire.JsonPrinting
