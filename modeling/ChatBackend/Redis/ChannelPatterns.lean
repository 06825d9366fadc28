import ChatBackend.Foundation.ClassPatterns

/-!
# Channel patterns

`matchesPattern` turns a pattern with stars into the text of a regular
expression: it puts a backslash before every character with a meaning, and
`.*` for a star.  `compile` reads such a text as `new RegExp` does.

A star stands for any characters but line terminators, and every other
character for itself: `matchesPattern_iff`.
-/

namespace ChatBackend.Redis.ChannelPatterns

open ChatBackend.Foundation.ClassPatterns

/-! ## The text of the expression -/

/-- The characters of the class in the first `replace`. -/
def hasMeaning (character : Char) : Bool :=
  ['.', '+', '?', '^', '$', '\x7b', '\x7d', '(', ')', '|', '\x5b', '\x5d',
    '\x5c'].contains character

/-- The first `replace`: a backslash before characters with a meaning. -/
def escapeMeanings (pattern : List Char) : List Char :=
  pattern.flatMap fun character =>
    if hasMeaning character then ['\x5c', character] else [character]

/-- The second `replace`: a point before each star. -/
def replaceStars (text : List Char) : List Char :=
  text.flatMap fun character =>
    if character = '*' then ['.', '*'] else [character]

/-- The source of the regular expression for a pattern. -/
def escaped (pattern : List Char) : List Char :=
  replaceStars (escapeMeanings pattern)

/-! ## Regular expressions -/

/-- The characters that a point does not match. -/
def isLineTerminator (character : Char) : Bool :=
  character == '\n' || character == '\r' ||
    character.toNat == 0x2028 || character.toNat == 0x2029

/-- What a dot accepts. -/
def anyCharacter (character : Char) : Bool :=
  !isLineTerminator character

/-- What a regular expression of this kind is made of. -/
inductive Token where
  | atom (accepts : Char → Bool)
  | star

/--
The tokens of an expression without groups, classes and alternatives; the
rest of the grammar is not read.  A backslash before a character with a
meaning lets it stand for itself.
-/
def tokens : List Char → Option (List Token)
  | [] => some []
  | '\x5c' :: character :: rest => do
      let later ← tokens rest
      if hasMeaning character then
        return .atom (· == character) :: later
      else none
  | '.' :: rest => do return .atom anyCharacter :: (← tokens rest)
  | '*' :: rest => do return .star :: (← tokens rest)
  | character :: rest => do
      let later ← tokens rest
      if hasMeaning character then none
      else return .atom (· == character) :: later

/-- A star repeats the atom before it. -/
def repeats : List Token → Option (List (Repeat Char))
  | [] => some []
  | .atom accepts :: .star :: rest => do
      return .star accepts :: (← repeats rest)
  | .atom accepts :: rest => do return .once accepts :: (← repeats rest)
  | .star :: _ => none

/-- `new RegExp` for a text between `^` and `$`. -/
def compile (text : List Char) : Option (List (Repeat Char)) := do
  repeats (← tokens text)

def matchesPattern (pattern channel : String) : Bool :=
  match compile (escaped pattern.toList) with
  | none => false
  | some items => test items channel.toList

example : matchesPattern "room:*:events" "room:r1:events" = true := by
  decide +kernel

/-! ## What a pattern matches -/

/-- One character of a pattern. -/
def patternItem (character : Char) : Repeat Char :=
  if character = '*' then .star anyCharacter
  else .once (· == character)

/-- The tokens that one character of a pattern becomes. -/
def patternTokens (character : Char) : List Token :=
  if character = '*' then [.atom anyCharacter, .star]
  else [.atom (· == character)]

/-- A pattern is escaped character by character. -/
theorem escaped_cons (character : Char) (pattern : List Char) :
    escaped (character :: pattern) =
      escaped [character] ++ escaped pattern := by
  simp [escaped, escapeMeanings, replaceStars]

/-- The source of the expression is read as the tokens of the pattern. -/
theorem tokens_escaped (pattern : List Char) :
    tokens (escaped pattern) = some (pattern.flatMap patternTokens) := by
  induction pattern with
  | nil => rfl
  | cons character pattern induction =>
      rw [escaped_cons, List.flatMap_cons]
      by_cases isStar : character = '*'
      · subst isStar
        have piece : escaped ['*'] = ['.', '*'] := rfl
        simp [piece, tokens, induction, patternTokens]
      · cases meaning : hasMeaning character with
        | true =>
            have piece : escaped [character] = ['\x5c', character] := by
              simp [escaped, escapeMeanings, replaceStars, meaning,
                isStar]
            simp [piece, tokens, induction, patternTokens, meaning,
              isStar]
        | false =>
            have piece : escaped [character] = [character] := by
              simp [escaped, escapeMeanings, replaceStars, meaning,
                isStar]
            rw [piece, List.singleton_append]
            rw [tokens]
            · simp [induction, meaning, patternTokens, isStar]
            · rintro other more rfl
              cases meaning
            · rintro rfl
              cases meaning
            · exact isStar

/-- The tokens of a pattern's character begin with an atom. -/
theorem patternTokens_ne_star
    (pattern : List Char) (rest : List Token) :
    pattern.flatMap patternTokens ≠ .star :: rest := by
  cases pattern with
  | nil => simp
  | cons character more =>
      rw [List.flatMap_cons]
      by_cases isStar : character = '*'
      · simp [patternTokens, isStar]
      · simp [patternTokens, isStar]

theorem repeats_patternTokens (pattern : List Char) :
    repeats (pattern.flatMap patternTokens) =
      some (pattern.map patternItem) := by
  induction pattern with
  | nil => rfl
  | cons character pattern induction =>
      rw [List.flatMap_cons, List.map_cons]
      by_cases isStar : character = '*'
      · rw [patternTokens, if_pos isStar, patternItem, if_pos isStar,
          List.cons_append, List.singleton_append, repeats, induction]
        rfl
      · rw [patternTokens, if_neg isStar, patternItem, if_neg isStar,
          List.singleton_append, repeats]
        · rw [induction]
          rfl
        · exact patternTokens_ne_star pattern

/-- The expression repeats one class for each character. -/
theorem compile_escaped (pattern : List Char) :
    compile (escaped pattern) = some (pattern.map patternItem) := by
  rw [compile, tokens_escaped]
  exact repeats_patternTokens pattern

/-- What a pattern with stars stands for. -/
inductive Globs : List Char → List Char → Prop where
  | nil : Globs [] []
  | star {pattern between rest : List Char} :
      (∀ character ∈ between, isLineTerminator character = false) →
        Globs pattern rest → Globs ('*' :: pattern) (between ++ rest)
  | self {character : Char} {pattern rest : List Char} :
      character ≠ '*' → Globs pattern rest →
        Globs (character :: pattern) (character :: rest)

/-- What the expression accepts is what the pattern means. -/
theorem matches_patternItems_iff (pattern word : List Char) :
    Matches (pattern.map patternItem) word ↔ Globs pattern word := by
  induction pattern generalizing word with
  | nil =>
      rw [List.map_nil, matches_nil_iff]
      constructor
      · rintro rfl
        exact .nil
      · rintro ⟨⟩
        rfl
  | cons character pattern induction =>
      rw [List.map_cons]
      by_cases isStar : character = '*'
      · subst isStar
        rw [patternItem, if_pos rfl, matches_cons_iff]
        constructor
        · rintro ⟨between, rest, rfl, admits, later⟩
          refine .star ?_ ((induction rest).mp later)
          simpa [admits_star_iff, anyCharacter] using admits
        · intro globs
          cases globs with
          | star plain later =>
              refine ⟨_, _, rfl, ?_, (induction _).mpr later⟩
              simpa [admits_star_iff, anyCharacter] using plain
          | self notStar _ => exact absurd rfl notStar
      · rw [patternItem, if_neg isStar, matches_once_iff]
        constructor
        · rintro ⟨first, rest, rfl, same, later⟩
          rw [beq_iff_eq] at same
          subst same
          exact .self isStar ((induction rest).mp later)
        · intro globs
          cases globs with
          | star _ _ => exact absurd rfl isStar
          | self _ later =>
              exact
                ⟨character, _, rfl, beq_self_eq_true character,
                  (induction _).mpr later⟩

/-- The regular expression matches what the pattern stands for. -/
theorem matchesPattern_iff (pattern channel : String) :
    matchesPattern pattern channel = true ↔
      Globs pattern.toList channel.toList := by
  rw [matchesPattern, compile_escaped]
  exact test_iff.trans (matches_patternItems_iff _ _)

end ChatBackend.Redis.ChannelPatterns
