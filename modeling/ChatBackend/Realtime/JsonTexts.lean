import ChatBackend.Realtime.ServerFrames

/-!
# `JSON.parse`

The grammar of JSON texts, read from the left.  A string is a sequence of
UTF-16 units to JavaScript; here it is a `String` at the end, in which the
replacement character stands for a surrogate without its partner.  A name
that occurs twice in an object keeps its place and gets the later value.

The readers of values count down a bound on their calls.  Every call uses
up a character, and `value_of_le` says that a larger bound changes nothing.
-/

namespace ChatBackend.Realtime.JsonTexts

open ChatBackend.Realtime.ServerFrames

/-! ## Characters -/

def isSpace (character : Char) : Bool :=
  character == ' ' || character == '\t' || character == '\n' ||
    character == '\r'

def skipSpace (input : List Char) : List Char :=
  input.dropWhile isSpace

def isDigit (character : Char) : Bool :=
  '0' ≤ character && character ≤ '9'

def hexDigit (character : Char) : Option Nat :=
  if isDigit character then some (character.toNat - 0x30)
  else if 'a' ≤ character && character ≤ 'f' then
    some (character.toNat - 0x61 + 10)
  else if 'A' ≤ character && character ≤ 'F' then
    some (character.toNat - 0x41 + 10)
  else none

/-- The units of one character. -/
def units (character : Char) : List Nat :=
  let code := character.toNat
  if code < 0x10000 then [code]
  else
    [0xD800 + (code - 0x10000) / 0x400,
      0xDC00 + (code - 0x10000) % 0x400]

def isHigh (unit : Nat) : Bool :=
  0xD800 ≤ unit && unit < 0xDC00

def isLow (unit : Nat) : Bool :=
  0xDC00 ≤ unit && unit < 0xE000

def ofUnit (unit : Nat) : Char :=
  if isHigh unit || isLow unit then Char.ofNat 0xFFFD
  else Char.ofNat unit

def ofUnits : List Nat → List Char
  | [] => []
  | [unit] => [ofUnit unit]
  | first :: second :: rest =>
      if isHigh first && isLow second then
        Char.ofNat
            (0x10000 + (first - 0xD800) * 0x400 + (second - 0xDC00)) ::
          ofUnits rest
      else ofUnit first :: ofUnits (second :: rest)

/-! ## Strings and numbers -/

/-- The character that a letter after a backslash stands for. -/
def escape (letter : Char) : Option Nat :=
  if letter == '\x22' || letter == '\x5c' || letter == '/' then
    some letter.toNat
  else if letter == 'b' then some 0x08
  else if letter == 'f' then some 0x0C
  else if letter == 'n' then some 0x0A
  else if letter == 'r' then some 0x0D
  else if letter == 't' then some 0x09
  else none

def hexUnit (first second third fourth : Char) : Option Nat := do
  let first ← hexDigit first
  let second ← hexDigit second
  let third ← hexDigit third
  let fourth ← hexDigit fourth
  return ((first * 16 + second) * 16 + third) * 16 + fourth

/-- A string after its opening quote, with what follows the closing one. -/
def stringUnits : List Char → Option (List Nat × List Char)
  | [] => none
  | '\x22' :: rest => some ([], rest)
  | '\x5c' :: 'u' :: first :: second :: third :: fourth :: rest => do
      let unit ← hexUnit first second third fourth
      let (more, after) ← stringUnits rest
      return (unit :: more, after)
  | '\x5c' :: letter :: rest => do
      let unit ← escape letter
      let (more, after) ← stringUnits rest
      return (unit :: more, after)
  | character :: rest => do
      if character.toNat < 0x20 then none
      else
        let (more, after) ← stringUnits rest
        return (units character ++ more, after)

/-- One digit or more. -/
def digits (input : List Char) : Option (List Char × List Char) :=
  if (input.takeWhile isDigit).isEmpty then none
  else some (input.takeWhile isDigit, input.dropWhile isDigit)

/-- The digits before the point: a leading zero stands alone. -/
def whole (input : List Char) : Option (List Char × List Char) := do
  let (read, after) ← digits input
  if read.head? == some '0' && 1 < read.length then none
  else return (read, after)

def fraction : List Char → Option (List Char × List Char)
  | '.' :: rest => do
      let (read, after) ← digits rest
      return ('.' :: read, after)
  | input => some ([], input)

def sign : List Char → List Char × List Char
  | '+' :: rest => (['+'], rest)
  | '-' :: rest => (['-'], rest)
  | input => ([], input)

def exponent : List Char → Option (List Char × List Char)
  | letter :: rest =>
      if letter == 'e' || letter == 'E' then do
        let (read, after) ← digits (sign rest).2
        return (letter :: (sign rest).1 ++ read, after)
      else some ([], letter :: rest)
  | [] => some ([], [])

def minus : List Char → List Char × List Char
  | '-' :: rest => (['-'], rest)
  | input => ([], input)

def number (input : List Char) : Option (Json × List Char) := do
  let (front, afterWhole) ← whole (minus input).2
  let (middle, afterFraction) ← fraction afterWhole
  let (back, after) ← exponent afterFraction
  let read := (minus input).1 ++ front ++ middle ++ back
  return (.number (String.ofList read), after)

/-! ## Values -/

/-- A later field of the same name replaces the value. -/
def setField
    (fields : List (String × Json)) (name : String) (value : Json) :
    List (String × Json) :=
  if fields.any fun field => field.1 == name then
    fields.map fun field =>
      if field.1 == name then (name, value) else field
  else fields ++ [(name, value)]

mutual

def value : Nat → List Char → Option (Json × List Char)
  | 0, _ => none
  | bound + 1, input =>
      match skipSpace input with
      | 'n' :: 'u' :: 'l' :: 'l' :: rest => some (.null, rest)
      | 't' :: 'r' :: 'u' :: 'e' :: rest => some (.bool true, rest)
      | 'f' :: 'a' :: 'l' :: 's' :: 'e' :: rest =>
          some (.bool false, rest)
      | '\x22' :: rest => do
          let (read, after) ← stringUnits rest
          return (.string (String.ofList (ofUnits read)), after)
      | '\x5b' :: rest =>
          match skipSpace rest with
          | '\x5d' :: after => some (.array [], after)
          | _ => do
              let (items, after) ← elements bound rest
              return (.array items, after)
      | '\x7b' :: rest =>
          match skipSpace rest with
          | '\x7d' :: after => some (.object [], after)
          | _ => do
              let (fields, after) ← members bound [] rest
              return (.object fields, after)
      | other => number other

/-- The elements of an array, up to its closing bracket. -/
def elements : Nat → List Char → Option (List Json × List Char)
  | 0, _ => none
  | bound + 1, input => do
      let (item, afterItem) ← value bound input
      match skipSpace afterItem with
      | '\x2c' :: rest =>
          let (items, after) ← elements bound rest
          return (item :: items, after)
      | '\x5d' :: after => return ([item], after)
      | _ => none

/-- The members of an object after the fields that have been read. -/
def members :
    Nat → List (String × Json) → List Char →
      Option (List (String × Json) × List Char)
  | 0, _, _ => none
  | bound + 1, fields, input =>
      match skipSpace input with
      | '\x22' :: rest => do
          let (read, afterName) ← stringUnits rest
          match skipSpace afterName with
          | ':' :: afterColon =>
              let (item, afterItem) ← value bound afterColon
              let name := String.ofList (ofUnits read)
              match skipSpace afterItem with
              | '\x2c' :: rest =>
                  members bound (setField fields name item) rest
              | '\x7d' :: after =>
                  return (setField fields name item, after)
              | _ => none
          | _ => none
      | _ => none

end

/-- `JSON.parse`; `none` is its `SyntaxError`. -/
def parse (text : String) : Option Json :=
  match value (2 * text.toList.length + 2) text.toList with
  | some (result, rest) =>
      if (skipSpace rest).isEmpty then some result else none
  | none => none

example : parse "null" = some .null := rfl

/-! ## Progress -/

theorem skipSpace_length (input : List Char) :
    (skipSpace input).length ≤ input.length :=
  (List.dropWhile_suffix _).length_le

theorem stringUnits_length
    {input after : List Char} {read : List Nat}
    (result : stringUnits input = some (read, after)) :
    after.length < input.length := by
  induction input using stringUnits.induct generalizing read with
  | case1 => simp [stringUnits] at result
  | case2 rest =>
      simp only [stringUnits, Option.some.injEq, Prod.mk.injEq] at result
      simp [result.2]
  | case3 first second third fourth rest induction =>
      simp only [stringUnits, Option.bind_eq_bind,
        Option.bind_eq_some_iff] at result
      rcases result with ⟨unit, _, ⟨more, tail⟩, later, same⟩
      cases same
      have shorter : tail.length < rest.length := induction later
      simp only [List.length_cons]
      omega
  | case4 letter rest notUnit induction =>
      rw [stringUnits] at result
      · simp only [Option.bind_eq_bind, Option.bind_eq_some_iff] at result
        rcases result with ⟨unit, _, ⟨more, tail⟩, later, same⟩
        cases same
        have shorter : tail.length < rest.length := induction later
        simp only [List.length_cons]
        omega
      · exact notUnit
  | case5 character rest notQuote notUnit notEscape control =>
      rw [stringUnits] at result
      · simp [control] at result
      · exact notQuote
      · exact notUnit
      · exact notEscape
  | case6 character rest notQuote notUnit notEscape plain induction =>
      rw [stringUnits] at result
      · simp only [plain, if_false, Option.bind_eq_bind,
          Option.bind_eq_some_iff] at result
        rcases result with ⟨⟨more, tail⟩, later, same⟩
        cases same
        have shorter : tail.length < rest.length := induction later
        simp only [List.length_cons]
        omega
      · exact notQuote
      · exact notUnit
      · exact notEscape

theorem dropWhile_isDigit_length (input : List Char) :
    (input.dropWhile isDigit).length ≤ input.length :=
  (List.dropWhile_suffix _).length_le

theorem digits_length
    {input read after : List Char}
    (result : digits input = some (read, after)) :
    after.length < input.length := by
  unfold digits at result
  split at result
  · cases result
  · rename_i some
    cases result
    cases input with
    | nil => simp at some
    | cons first rest =>
        have isFirst : isDigit first = true := by
          cases isFirst : isDigit first with
          | true => rfl
          | false => simp [isFirst] at some
        have shorter := dropWhile_isDigit_length rest
        simp only [List.dropWhile_cons, isFirst, if_true, List.length_cons]
        omega

theorem whole_length
    {input read after : List Char}
    (result : whole input = some (read, after)) :
    after.length < input.length := by
  simp only [whole, Option.bind_eq_bind,
    Option.bind_eq_some_iff] at result
  rcases result with ⟨⟨front, rest⟩, isDigits, same⟩
  split at same
  · cases same
  · cases same
    exact digits_length isDigits

theorem fraction_length
    {input read after : List Char}
    (result : fraction input = some (read, after)) :
    after.length ≤ input.length := by
  unfold fraction at result
  split at result
  · simp only [Option.bind_eq_bind, Option.bind_eq_some_iff] at result
    rcases result with ⟨⟨front, rest⟩, isDigits, same⟩
    cases same
    have shorter := digits_length isDigits
    simp only [List.length_cons]
    omega
  · cases result
    exact Nat.le_refl _

theorem exponent_length
    {input read after : List Char}
    (result : exponent input = some (read, after)) :
    after.length ≤ input.length := by
  unfold exponent at result
  split at result
  · rename_i letter rest
    have afterSign : (sign rest).2.length ≤ rest.length := by
      unfold sign
      split <;> simp
    split at result
    · simp only [Option.bind_eq_bind, Option.bind_eq_some_iff] at result
      rcases result with ⟨⟨front, tail⟩, isDigits, same⟩
      cases same
      have shorter := digits_length isDigits
      simp only [List.length_cons]
      omega
    · cases result
      exact Nat.le_refl _
  · cases result
    exact Nat.le_refl _

theorem number_length
    {input after : List Char} {result : Json}
    (read : number input = some (result, after)) :
    after.length < input.length := by
  simp only [number, Option.bind_eq_bind,
    Option.bind_eq_some_iff] at read
  rcases read with
    ⟨⟨front, afterWhole⟩, isWhole, ⟨middle, afterFraction⟩, isFraction,
      ⟨back, rest⟩, isExponent, same⟩
  cases same
  have afterMinus : (minus input).2.length ≤ input.length := by
    unfold minus
    split <;> simp
  have first : afterWhole.length < (minus input).2.length :=
    whole_length isWhole
  have second : afterFraction.length ≤ afterWhole.length :=
    fraction_length isFraction
  have third : rest.length ≤ afterFraction.length :=
    exponent_length isExponent
  change rest.length < input.length
  omega

/-! ## The bound -/

/-- Readers that agree on a smaller input, with what they leave of it. -/
structure Bounded (bound : Nat) : Prop where
  ofValue :
    ∀ input, 2 * input.length + 1 ≤ bound →
      value (bound + 1) input = value bound input
  ofElements :
    ∀ input, 2 * input.length + 2 ≤ bound →
      elements (bound + 1) input = elements bound input
  ofMembers :
    ∀ fields input, 2 * input.length + 2 ≤ bound →
      members (bound + 1) fields input = members bound fields input

/-- Readers leave less than they were given. -/
structure Shrinking (bound : Nat) : Prop where
  ofValue :
    ∀ input result after, value bound input = some (result, after) →
      after.length < input.length
  ofElements :
    ∀ input items after, elements bound input = some (items, after) →
      after.length < input.length
  ofMembers :
    ∀ fields input read after,
      members bound fields input = some (read, after) →
        after.length < input.length

theorem skipped
    {input rest : List Char} {character : Char}
    (same : skipSpace input = character :: rest) :
    rest.length < input.length := by
  have shorter := skipSpace_length input
  rw [same, List.length_cons] at shorter
  omega

theorem Shrinking.nextValue
    {bound : Nat} (shrinking : Shrinking bound)
    {input after : List Char} {result : Json}
    (read : value (bound + 1) input = some (result, after)) :
    after.length < input.length := by
  simp only [value] at read
  split at read
  · rename_i rest same
    have shorter := skipped same
    cases read
    simp only [List.length_cons] at shorter
    omega
  · rename_i rest same
    have shorter := skipped same
    cases read
    simp only [List.length_cons] at shorter
    omega
  · rename_i rest same
    have shorter := skipped same
    cases read
    simp only [List.length_cons] at shorter
    omega
  · rename_i rest same
    have shorter := skipped same
    simp only [Option.bind_eq_bind, Option.bind_eq_some_iff] at read
    rcases read with ⟨⟨content, tail⟩, isString, result⟩
    cases result
    exact (stringUnits_length isString).trans shorter
  · rename_i rest same
    have shorter := skipped same
    split at read
    · rename_i tail closed
      cases read
      exact (skipped closed).trans shorter
    · simp only [Option.bind_eq_bind, Option.bind_eq_some_iff] at read
      rcases read with ⟨⟨items, tail⟩, isElements, result⟩
      cases result
      exact (shrinking.ofElements _ _ _ isElements).trans shorter
  · rename_i rest same
    have shorter := skipped same
    split at read
    · rename_i tail closed
      cases read
      exact (skipped closed).trans shorter
    · simp only [Option.bind_eq_bind, Option.bind_eq_some_iff] at read
      rcases read with ⟨⟨fields, tail⟩, isMembers, result⟩
      cases result
      exact (shrinking.ofMembers _ _ _ _ isMembers).trans shorter
  · exact (number_length read).trans_le (skipSpace_length input)

theorem Shrinking.nextElements
    {bound : Nat} (shrinking : Shrinking bound)
    {input after : List Char} {items : List Json}
    (read : elements (bound + 1) input = some (items, after)) :
    after.length < input.length := by
  simp only [elements, Option.bind_eq_bind,
    Option.bind_eq_some_iff] at read
  rcases read with ⟨⟨item, afterItem⟩, isItem, read⟩
  have first : afterItem.length < input.length :=
    shrinking.ofValue _ _ _ isItem
  dsimp only at read
  split at read
  · rename_i rest same
    simp only [Option.bind_eq_some_iff] at read
    rcases read with ⟨⟨more, tail⟩, isElements, result⟩
    cases result
    have later : tail.length < rest.length :=
      shrinking.ofElements _ _ _ isElements
    exact later.trans ((skipped same).trans first)
  · rename_i rest same
    cases read
    exact (skipped same).trans first
  · cases read

theorem Shrinking.nextMembers
    {bound : Nat} (shrinking : Shrinking bound)
    {fields : List (String × Json)} {input after : List Char}
    {result : List (String × Json)}
    (read : members (bound + 1) fields input = some (result, after)) :
    after.length < input.length := by
  simp only [members] at read
  split at read
  · rename_i rest same
    simp only [Option.bind_eq_bind, Option.bind_eq_some_iff] at read
    rcases read with ⟨⟨name, afterName⟩, isName, read⟩
    have first : afterName.length < input.length :=
      (stringUnits_length isName).trans (skipped same)
    dsimp only at read
    split at read
    · rename_i afterColon colon
      simp only [Option.bind_eq_some_iff] at read
      rcases read with ⟨⟨item, afterItem⟩, isItem, read⟩
      have second : afterItem.length < input.length :=
        (shrinking.ofValue _ _ _ isItem).trans
          ((skipped colon).trans first)
      dsimp only at read
      split at read
      · rename_i tail comma
        exact
          (shrinking.ofMembers _ _ _ _ read).trans
            ((skipped comma).trans second)
      · rename_i tail closed
        cases read
        exact (skipped closed).trans second
      · cases read
    · cases read
  · cases read

theorem shrinking (bound : Nat) : Shrinking bound := by
  induction bound with
  | zero =>
      constructor
      · intro input result after read
        simp [value] at read
      · intro input items after read
        simp [elements] at read
      · intro fields input items after read
        simp [members] at read
  | succ bound induction =>
      constructor
      · intro input result after read
        exact induction.nextValue read
      · intro input items after read
        exact induction.nextElements read
      · intro fields input items after read
        exact induction.nextMembers read

theorem bounded (bound : Nat) : Bounded bound := by
  induction bound with
  | zero =>
      constructor
      · intro input impossible
        omega
      · intro input impossible
        omega
      · intro fields input impossible
        omega
  | succ bound induction =>
      constructor
      · intro input enough
        simp only [value]
        split
        · rfl
        · rfl
        · rfl
        · rfl
        · rename_i rest same
          have shorter := skipped same
          rw [induction.ofElements rest (by omega)]
        · rename_i rest same
          have shorter := skipped same
          rw [induction.ofMembers [] rest (by omega)]
        · rfl
      · intro input enough
        rw [elements, elements, induction.ofValue input (by omega)]
        cases isItem : value bound input with
        | none => rfl
        | some read =>
            rcases read with ⟨item, afterItem⟩
            have first := (shrinking bound).ofValue _ _ _ isItem
            dsimp only [Option.bind_eq_bind, Option.bind_some]
            split
            · rename_i rest same
              have shorter := skipped same
              rw [induction.ofElements rest (by omega)]
            · rfl
            · rfl
      · intro fields input enough
        simp only [members]
        split
        · rename_i rest same
          cases isName : stringUnits rest with
          | none => rfl
          | some read =>
              rcases read with ⟨name, afterName⟩
              have first :=
                (stringUnits_length isName).trans (skipped same)
              dsimp only [Option.bind_eq_bind, Option.bind_some]
              split
              · rename_i afterColon colon
                have second := skipped colon
                rw [induction.ofValue afterColon (by omega)]
                cases isItem : value bound afterColon with
                | none => rfl
                | some read =>
                    rcases read with ⟨item, afterItem⟩
                    have third :=
                      (shrinking bound).ofValue _ _ _ isItem
                    dsimp only [Option.bind_some]
                    split
                    · rename_i tail comma
                      have fourth := skipped comma
                      exact induction.ofMembers _ tail (by omega)
                    · rfl
                    · rfl
              · rfl
        · rfl

/-- No larger bound changes what a text is read as. -/
theorem value_of_le
    {input : List Char} {bound : Nat}
    (enough : 2 * input.length + 2 ≤ bound) :
    value bound input = value (2 * input.length + 2) input := by
  induction bound, enough using Nat.le_induction with
  | base => rfl
  | succ bound enough induction =>
      rw [(bounded bound).ofValue input (by omega)]
      exact induction

end ChatBackend.Realtime.JsonTexts
