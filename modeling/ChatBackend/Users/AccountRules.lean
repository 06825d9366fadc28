import ChatBackend.Chats.ChatReads
import ChatBackend.Foundation.ClassPatterns
import ChatBackend.Wire.EventTexts

/-!
# The rules for accounts

What `register` and `updateMe` check of a request before their first query.
A `Registration` carries the rules that its texts satisfy, so the later steps
need not check them again.

The patterns are read by `ClassPatterns`.  A character outside the basic
plane is two units to JavaScript; both units are in the classes of the email
pattern, and the length of a password counts units.
-/

namespace ChatBackend.Users.AccountRules

open ChatBackend.Foundation.ClassPatterns
open ChatBackend.Storage.Schema
open ChatBackend.Realtime.ServerFrames
open ChatBackend.Realtime.JsonTexts
open ChatBackend.Chats.ChatReads
open ChatBackend.Wire.EventTexts

/-! ## Patterns -/

/-- The class of `USERNAME_RE`. -/
def isUsernameCharacter (character : Char) : Bool :=
  ('a' ≤ character && character ≤ 'z') ||
    ('A' ≤ character && character ≤ 'Z') || isDigit character ||
    character == '_' || character == '-'

/-- `USERNAME_RE`. -/
def usernamePattern : List (Repeat Char) :=
  [{ accepts := isUsernameCharacter, atLeast := 3, atMost := some 32 }]

/-- Neither white space nor the sign between the parts of an address. -/
def isEmailCharacter (character : Char) : Bool :=
  !isTrimmed character && character != '@'

/-- `EMAIL_RE`. -/
def emailPattern : List (Repeat Char) :=
  [.plus isEmailCharacter, .once (· == '@'), .plus isEmailCharacter,
    .once (· == '.'), .plus isEmailCharacter]

/-- `USERNAME_RE.test`. -/
def isUsername (username : String) : Bool :=
  test usernamePattern username.toList

/-- `EMAIL_RE.test`. -/
def isEmail (email : String) : Bool :=
  test emailPattern email.toList

/-- The `length` of a string. -/
def jsLength (value : String) : Nat :=
  (value.toList.flatMap units).length

example :
    isUsername "ann_1" && !isUsername "an" && isEmail "a@b.c" &&
      !isEmail "a@b" = true := by
  decide

/-- What a username is, without the search of a matcher. -/
theorem isUsername_iff (username : String) :
    isUsername username = true ↔
      3 ≤ username.toList.length ∧ username.toList.length ≤ 32 ∧
        ∀ character ∈ username.toList,
          isUsernameCharacter character = true := by
  rw [isUsername, test_iff, usernamePattern, matches_singleton_iff]
  simp [Repeat.Admits]

/-- An email has a name, a host and a last label, without white space. -/
theorem isEmail_iff (email : String) :
    isEmail email = true ↔
      ∃ name host label : List Char,
        email.toList = name ++ '@' :: (host ++ '.' :: label) ∧
          (name ≠ [] ∧ host ≠ [] ∧ label ≠ []) ∧
          ∀ character ∈ name ++ host ++ label,
            isEmailCharacter character = true := by
  rw [isEmail, test_iff, emailPattern]
  simp only [matches_cons_iff, admits_once_iff, admits_plus_iff,
    matches_nil_iff, beq_iff_eq]
  constructor
  · rintro
      ⟨name, _, split, ⟨hasName, inName⟩, _, _, rfl, ⟨_, rfl, rfl⟩,
        host, _, rfl, ⟨hasHost, inHost⟩, _, _, rfl, ⟨_, rfl, rfl⟩,
        label, _, rfl, ⟨hasLabel, inLabel⟩, rfl⟩
    refine
      ⟨name, host, label, by simpa using split,
        ⟨hasName, hasHost, hasLabel⟩, ?_⟩
    intro character member
    simp only [List.mem_append] at member
    rcases member with (member | member) | member
    · exact inName character member
    · exact inHost character member
    · exact inLabel character member
  · rintro
      ⟨name, host, label, split, ⟨hasName, hasHost, hasLabel⟩, inAll⟩
    exact
      ⟨name, _, split,
        ⟨hasName, fun other member => inAll other (by simp [member])⟩,
        ['@'], _, rfl, ⟨'@', rfl, rfl⟩, host, _, rfl,
        ⟨hasHost, fun other member => inAll other (by simp [member])⟩,
        ['.'], _, rfl, ⟨'.', rfl, rfl⟩, label, [],
        (List.append_nil label).symm,
        ⟨hasLabel, fun other member => inAll other (by simp [member])⟩,
        rfl⟩

/-! ## Registrations -/

/-- The texts of a registration that `register` has checked. -/
structure Registration where
  username : String
  email : String
  password : String
  displayName : String
  isUsername : isUsername username = true
  isEmail : isEmail email = true
  isPassword : 8 ≤ jsLength password
  hasDisplayName : displayName ≠ ""

/-- The error for a body that breaks a rule. -/
def validationFailed (message : String) : AppError where
  statusCode := 400
  code := "VALIDATION_FAILED"
  message := message

/-- `REGISTER_REQUIRED_MESSAGE`. -/
def registerRequiredMessage : String :=
  "username, email, password, display_name are required"

/-- `USERNAME_RULE_MESSAGE`. -/
def usernameRuleMessage : String :=
  "username must be 3-32 characters and contain only letters, numbers, " ++
    "\"_\" or \"-\""

/-- `EMAIL_RULE_MESSAGE`. -/
def emailRuleMessage : String :=
  "email must be a valid email address"

/-- `PASSWORD_RULE_MESSAGE`. -/
def passwordRuleMessage : String :=
  "password must be at least 8 characters"

/-- `isNonEmptyString`, with the string. -/
def nonEmptyString (value : Option Json) : Option String :=
  truthy (text value)

theorem ne_of_nonEmptyString {value : Option Json} {found : String}
    (isString : nonEmptyString value = some found) : found ≠ "" := by
  rw [nonEmptyString, truthy, Option.filter_eq_some_iff] at isString
  exact bne_iff_ne.mp isString.2

/-- The checks of `register`; reading a field of `null` throws. -/
def checkRegistration
    (body : Json) : Except TypeError (Except AppError Registration) := do
  let username ← body.field "username"
  let email ← body.field "email"
  let password ← body.field "password"
  let displayName ← body.field "display_name"
  match nonEmptyString username, nonEmptyString email,
    nonEmptyString password, shown : nonEmptyString displayName with
  | some username, some email, some password, some displayName =>
      if isUsername : isUsername username = true then
        if isEmail : isEmail email = true then
          if isPassword : 8 ≤ jsLength password then
            return .ok
              { username := username
                email := email
                password := password
                displayName := displayName
                isUsername := isUsername
                isEmail := isEmail
                isPassword := isPassword
                hasDisplayName := ne_of_nonEmptyString shown }
          else return .error (validationFailed passwordRuleMessage)
        else return .error (validationFailed emailRuleMessage)
      else return .error (validationFailed usernameRuleMessage)
  | _, _, _, _ =>
      return .error (validationFailed registerRequiredMessage)

/-! ## Profiles -/

/--
`String(value)`, where `numberText` is the text of a number.  The conversion
throws for an object with a field `toString`, which is no function.
-/
def stringOf (numberText : String → String) : Json → Option String
  | .null => some "null"
  | .bool true => some "true"
  | .bool false => some "false"
  | .number value => some (numberText value)
  | .string value => some value
  | .array items => (itemTexts items).map (String.intercalate ",")
  | .object fields =>
      if fields.any fun field => field.1 == "toString" then none
      else some "[object Object]"
where
  itemTexts : List Json → Option (List String)
    | [] => some []
    | .null :: rest => (itemTexts rest).map fun texts => "" :: texts
    | item :: rest =>
        (stringOf numberText item).bind fun first =>
          (itemTexts rest).map fun texts => first :: texts

/-- The message of `updateMe` for a body without both fields. -/
def updateRequiredMessage : String :=
  "At least one of display_name or avatar_url is required"

/-- The new display name of `updateMe`, if it gets one. -/
def checkProfile
    (numberText : String → String) (body : Json) :
    Except TypeError (Except AppError (Option String)) := do
  let displayName ← body.field "display_name"
  let avatarUrl ← body.field "avatar_url"
  if !isTruthy displayName && !isTruthy avatarUrl then
    return .error (validationFailed updateRequiredMessage)
  else if isTruthy displayName then
    match stringOf numberText (displayName.getD .null) with
    | none => throw .cannotReadProperties
    | some name => return .ok (some name)
  else return .ok none

end ChatBackend.Users.AccountRules
