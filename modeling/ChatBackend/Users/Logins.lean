import ChatBackend.Users.AccountRuns

/-!
# Logins

A login that succeeds was given the email of an account and a text that the
hash of its password accepts, the one that was given at the registration of
the account.  Conversely, the password of a registration is never refused,
whatever runs in between: accounts stay as they are, and no second account
can have the email.
-/

namespace ChatBackend.Users.Logins

open ChatBackend.Foundation.EventRuns
open ChatBackend.Storage.Schema
open ChatBackend.Realtime.ServerFrames
open ChatBackend.Chats.ChatReads
open ChatBackend.Users.AccountRules
open ChatBackend.Users.AccountCalls
open ChatBackend.Users.AccountSteps
open ChatBackend.Users.AccountRuns

variable {outside : Outside}

/-! ## Genuine logins -/

/-- The data of an account, as it was when a response was sent. -/
structure Describes (dto : UserDto) (user : User) : Prop where
  id : dto.id = user.id
  username : dto.username = user.username
  email : dto.email = user.email
  createdAt : dto.createdAt = user.createdAt

/-- A description stays true of the account. -/
theorem Describes.same
    {dto : UserDto} {old new : User} (describes : Describes dto old)
    (same : Same old new) : Describes dto new where
  id := describes.id.trans same.id.symm
  username := describes.username.trans same.username.symm
  email := describes.email.trans same.email.symm
  createdAt := describes.createdAt.trans same.createdAt.symm

/-- An account whose hash accepts a password, with its answer. -/
def Genuine
    (outside : Outside) (users : List User) (email password : String)
    (token : String) (dto : UserDto) : Prop :=
  ∃ user ∈ users,
    user.email = email ∧
      outside.compare password user.password = true ∧
        Describes dto user ∧
          ∃ issuedAt,
            token = outside.signToken user.id user.username issuedAt

/-- A genuine login stays genuine. -/
theorem genuine_kept
    {users later : List User} {email password token : String}
    {dto : UserDto}
    (genuine : Genuine outside users email password token dto)
    (kept : Kept users later) :
    Genuine outside later email password token dto := by
  rcases genuine with
    ⟨user, member, isEmail, accepts, describes, issuedAt, rfl⟩
  rcases kept user member with ⟨new, inLater, same⟩
  refine
    ⟨new, inLater, same.email.trans isEmail, ?_, describes.same same,
      issuedAt, ?_⟩
  · rw [same.password]
    exact accepts
  · rw [same.id, same.username]

/-- Where a call of `login` can be, beside the accounts. -/
inductive LoginStage
    (outside : Outside) (users : List User) (body : Json) :
    Stage → Prop where
  | finding {email : String} {password : Option String} :
      checkLogin body = .ok (.ok (some email, password)) →
        LoginStage outside users body (.findingByEmail email password)
  | comparing {email password : String} {row user : User} :
      checkLogin body = .ok (.ok (some email, some password)) →
        user ∈ users → Same row user → row.email = email →
          LoginStage outside users body (.comparing row password)
  | refused (error : AppError) :
      LoginStage outside users body (.answered (.error error))
  | accepted {email password token : String} {dto : UserDto} :
      checkLogin body = .ok (.ok (some email, some password)) →
        Genuine outside users email password token dto →
          LoginStage outside users body (.answered (.auth 200 token dto))

/-- A login begins with the search for its email. -/
theorem loginStage_first
    (outside : Outside) (now : Timestamp) (users : List User)
    (body : Json) :
    LoginStage outside users body
      (firstStage outside now (.login body)) := by
  apply afterCheck_cases (LoginStage outside users body)
  · exact .refused _
  · intro error _
    exact .refused error
  · rintro ⟨_ | email, password⟩ checked
    · exact .refused _
    · exact .finding checked

/-- What is known of a login stays true. -/
theorem LoginStage.kept
    {users later : List User} {body : Json} {stage : Stage}
    (login : LoginStage outside users body stage)
    (kept : Kept users later) : LoginStage outside later body stage := by
  cases login with
  | finding checked => exact .finding checked
  | comparing checked member same isEmail =>
      rcases kept _ member with ⟨new, inLater, again⟩
      exact .comparing checked inLater (same.trans again) isEmail
  | refused error => exact .refused error
  | accepted checked genuine =>
      exact .accepted checked (genuine_kept genuine kept)

theorem describes_toUserDto (user : User) :
    Describes (toUserDto user) user :=
  ⟨rfl, rfl, rfl, rfl⟩

/-- One command of a login. -/
theorem LoginStage.runs
    {now : Timestamp} {users later : List User} {body : Json}
    {stage next : Stage}
    (login : LoginStage outside users body stage)
    (runs : Runs outside now users stage later next) :
    LoginStage outside later body next := by
  cases login with
  | finding checked =>
      cases runs with
      | lost => exact .refused _
      | unknown => exact .refused _
      | noPassword => exact .refused _
      | found password member isEmail =>
          exact .comparing checked member (.refl _) isEmail
  | @comparing email password row user checked member same isEmail =>
      cases runs with
      | lost queries => cases queries
      | accepted accepts =>
          refine .accepted checked ⟨user, member, ?_, ?_, ?_, now, ?_⟩
          · exact same.email.trans isEmail
          · rw [same.password]
            exact accepts
          · exact (describes_toUserDto row).same same
          · rw [same.id, same.username]
      | rejected => exact .refused _
  | refused error =>
      cases runs with
      | lost queries => cases queries
      | answered => exact .refused error
  | accepted checked genuine =>
      cases runs with
      | lost queries => cases queries
      | answered => exact .accepted checked genuine

/-- Every login is where it can be. -/
def LoginsGenuine (outside : Outside) (state : State) : Prop :=
  ∀ call ∈ state.calls, ∀ body, call.request = .login body →
    LoginStage outside state.users body call.stage

/-- One event. -/
theorem LoginsGenuine.steps {state next : State}
    (genuine : LoginsGenuine outside state)
    (steps : Steps outside state next) : LoginsGenuine outside next := by
  intro call member body isLogin
  cases steps with
  | requested request =>
      rcases List.mem_append.mp member with old | new
      · exact genuine call old body isLogin
      · rw [List.mem_singleton] at new
        subst new
        simp only at isLogin
        subst isLogin
        exact loginStage_first outside state.clock state.users body
  | ran found runs =>
      rcases List.mem_or_eq_of_mem_set member with old | rfl
      · exact (genuine call old body isLogin).kept (runs_kept runs)
      · exact
          (genuine _ (List.mem_of_getElem? found) body isLogin).runs runs
  | ticked elapsed => exact genuine call member body isLogin
  | idle => exact genuine call member body isLogin

/-- Every run. -/
theorem reached_loginsGenuine
    (outside : Outside) (clock : Timestamp) (events : List Event) :
    LoginsGenuine outside (reached outside clock events) :=
  run_invariant (LoginsGenuine outside)
    (fun _ event genuine => genuine.steps (step_steps _ event))
    (by intro call member; cases member) events

/--
Every login that succeeds named the email of an account.  One of the requests
was the registration that this account was made for, and the login gave a text
that the hash of its password accepts.  The token is one of that account.
-/
theorem logins_genuine
    (outside : Outside) (clock : Timestamp) (events : List Event)
    {body : Json} {statusCode : Nat} {token : String} {dto : UserDto}
    (member :
      { request := .login body
        stage := .answered (.auth statusCode token dto) } ∈
        (reached outside clock events).calls) :
    ∃ email password user issuedAt registerBody form salt,
      checkLogin body = .ok (.ok (some email, some password)) ∧
        user ∈ (reached outside clock events).users ∧
        user.email = email ∧ Describes dto user ∧
        token = outside.signToken user.id user.username issuedAt ∧
        (∃ call ∈ (reached outside clock events).calls,
          call.request = .register registerBody) ∧
        checkRegistration registerBody = .ok (.ok form) ∧
        user.username = form.username ∧ user.email = form.email ∧
        user.password = outside.hash salt form.password ∧
        8 ≤ jsLength form.password ∧
        outside.compare password (outside.hash salt form.password) =
          true := by
  have login :=
    reached_loginsGenuine outside clock events _ member body rfl
  cases login with
  | accepted checked genuine =>
      rcases genuine with
        ⟨user, inUsers, isEmail, accepts, describes, issuedAt, isToken⟩
      rcases (reached_sound outside clock events).origins user inUsers with
        ⟨registerBody, form, isRequest, isForm, made⟩
      rcases made.password with ⟨salt, isHash⟩
      rw [isHash] at accepts
      exact
        ⟨_, _, user, issuedAt, registerBody, form, salt, checked, inUsers,
          isEmail, describes, isToken, List.mem_map.mp isRequest,
          isForm, made.username, made.email, isHash, form.isPassword,
          accepts⟩

/-- The body of a login of the first registration. -/
def exampleLogin : Json :=
  .object
    [("email", .string "ann@b.c"), ("password", .string "password")]

/-- The registrations of the other example, and a login of one of them. -/
def exampleSession : List Event :=
  exampleEvents ++
    [.request (.login exampleLogin), .proceed 2 {}, .proceed 2 {}]

theorem exampleSession_login :
    (reached plainOutside 0 exampleSession).calls[2]? =
      some
        { request := .login exampleLogin
          stage :=
            .answered (.auth 200 "u1.ann" (exampleDto "u1" "ann")) } := by
  rfl

theorem logins_genuine_ann :
    ∃ email password user issuedAt registerBody form salt,
      checkLogin exampleLogin = .ok (.ok (some email, some password)) ∧
        user ∈ (reached plainOutside 0 exampleSession).users ∧
        user.email = email ∧ Describes (exampleDto "u1" "ann") user ∧
        "u1.ann" =
            plainOutside.signToken user.id user.username issuedAt ∧
        (∃ call ∈ (reached plainOutside 0 exampleSession).calls,
          call.request = .register registerBody) ∧
        checkRegistration registerBody = .ok (.ok form) ∧
        user.username = form.username ∧ user.email = form.email ∧
        user.password = plainOutside.hash salt form.password ∧
        8 ≤ jsLength form.password ∧
        plainOutside.compare password
            (plainOutside.hash salt form.password) =
          true :=
  logins_genuine plainOutside 0 exampleSession
    (List.mem_of_getElem? exampleSession_login)

/-! ## Logins after a registration -/

/-- Where a login with the right password can be. -/
inductive Admitted
    (outside : Outside) (row : User) (password : String) :
    Stage → Prop where
  | finding :
      Admitted outside row password
        (.findingByEmail row.email (some password))
  | comparing {found : User} :
      Same row found →
        Admitted outside row password (.comparing found password)
  | accepted {found : User} (issuedAt : Timestamp) :
      Same row found →
        Admitted outside row password
          (authenticated outside issuedAt 200 found)
  | internal : Admitted outside row password internalError

/-- One command of the login: no other account has the email. -/
theorem Admitted.runs
    {row : User} {password : String} {now : Timestamp}
    {users later : List User} {stage next : Stage}
    (accounts : Accounts outside users)
    (isAccount : ∃ user ∈ users, Same row user)
    (accepts : outside.compare password row.password = true)
    (admitted : Admitted outside row password stage)
    (runs : Runs outside now users stage later next) :
    Admitted outside row password next := by
  cases admitted with
  | finding =>
      rcases isAccount with ⟨user, member, same⟩
      cases runs with
      | lost => exact .internal
      | unknown _ missing => exact absurd same.email (missing user member)
      | @found _ other _ otherMember isEmail =>
          have sameUser : other = user :=
            List.inj_on_of_nodup_map accounts.emails otherMember member
              (isEmail.trans same.email.symm)
          exact .comparing (sameUser ▸ same)
  | comparing same =>
      cases runs with
      | lost queries => cases queries
      | accepted _ => exact .accepted now same
      | rejected refuses =>
          rw [same.password, accepts] at refuses
          cases refuses
  | accepted issuedAt same =>
      cases runs with
      | lost queries => cases queries
      | answered => exact .accepted issuedAt same
  | internal =>
      cases runs with
      | lost queries => cases queries
      | answered => exact .internal

/-- An account, and a call that logs in to it. -/
structure LoggingIn
    (outside : Outside) (row : User) (password : String) (index : Nat)
    (state : State) : Prop where
  sound : Sound outside state
  isAccount : ∃ user ∈ state.users, Same row user
  call :
    ∃ call, state.calls[index]? = some call ∧
      Admitted outside row password call.stage

/-- One event: the account stays, and the call goes on or waits. -/
theorem LoggingIn.steps
    {row : User} {password : String} {index : Nat} {state next : State}
    (accepts : outside.compare password row.password = true)
    (loggingIn : LoggingIn outside row password index state)
    (steps : Steps outside state next) :
    LoggingIn outside row password index next where
  sound := loggingIn.sound.steps steps
  isAccount := by
    rcases loggingIn.isAccount with ⟨user, member, same⟩
    rcases steps_kept steps user member with ⟨new, inNext, again⟩
    exact ⟨new, inNext, same.trans again⟩
  call := by
    rcases loggingIn.call with ⟨call, found, admitted⟩
    cases steps with
    | requested request =>
        exact
          ⟨call, List.getElem?_append_left
              (List.getElem?_eq_some_iff.mp found).1 ▸ found,
            admitted⟩
    | @ran position other users stage otherFound runs =>
        by_cases same : position = index
        · subst same
          rw [otherFound, Option.some.injEq] at found
          subst found
          refine ⟨{ other with stage := stage }, ?_, ?_⟩
          · rw [List.getElem?_set_self
              (List.getElem?_eq_some_iff.mp otherFound).1]
          · exact
              admitted.runs loggingIn.sound.accounts loggingIn.isAccount
                accepts runs
        · refine ⟨call, ?_, admitted⟩
          simp only [List.getElem?_set_ne same]
          exact found
    | ticked elapsed => exact ⟨call, found, admitted⟩
    | idle => exact ⟨call, found, admitted⟩

/--
A login with the email and the password of a registration that has succeeded
is never refused, whatever other calls do before and in between: when it is
answered, then with a token and the data of that account, or with an internal
error.
-/
theorem login_never_refused
    (accepts :
      ∀ salt password,
        outside.compare password (outside.hash salt password) = true)
    (clock : Timestamp) (events later : List Event)
    {body loginBody : Json} {statusCode : Nat} {token : String}
    {dto : UserDto} {form : Registration}
    (registered :
      { request := .register body
        stage := .answered (.auth statusCode token dto) } ∈
        (reached outside clock events).calls)
    (checked : checkRegistration body = .ok (.ok form))
    (credentials :
      checkLogin loginBody =
        .ok (.ok (some form.email, some form.password))) :
    let before := reached outside clock events
    let after :=
      run (step outside) before (.request (.login loginBody) :: later)
    ∃ call,
      after.calls[before.calls.length]? = some call ∧
        ∀ response, call.stage = .answered response →
          (∃ issuedAt answer,
              response =
                  .auth 200
                    (outside.signToken dto.id dto.username issuedAt)
                    answer ∧
                answer.id = dto.id ∧ answer.username = dto.username ∧
                  answer.email = dto.email) ∨
            .answered response = internalError := by
  intro before after
  have sound : Sound outside before := reached_sound outside clock events
  have register := sound.registers _ registered body rfl
  cases register with
  | @registered otherForm row _ _ otherChecked inUsers made =>
      have sameForm : otherForm = form := by
        rw [checked] at otherChecked
        cases otherChecked
        rfl
      subst sameForm
      have rowAccepts :
          outside.compare otherForm.password row.password = true := by
        rcases made.password with ⟨salt, isHash⟩
        rw [isHash]
        exact accepts salt otherForm.password
      have isFirst :
          firstStage outside before.clock (.login loginBody) =
            .findingByEmail row.email (some otherForm.password) := by
        rw [firstStage, credentials, made.email.2]
        rfl
      have started :
          LoggingIn outside row otherForm.password before.calls.length
            (step outside before (.request (.login loginBody))) :=
        { sound := sound.steps (step_steps before _)
          isAccount := ⟨row, inUsers, .refl row⟩
          call :=
            ⟨{ request := .login loginBody
               stage := firstStage outside before.clock (.login loginBody) },
              List.getElem?_concat_length, isFirst ▸ .finding⟩ }
      have arrived :
          LoggingIn outside row otherForm.password before.calls.length
            after :=
        run_invariant (LoggingIn outside row otherForm.password _)
          (fun _ event loggingIn =>
            loggingIn.steps rowAccepts (step_steps _ event))
          started later
      rcases arrived.call with ⟨call, found, admitted⟩
      refine ⟨call, found, ?_⟩
      intro response answered
      rw [answered] at admitted
      generalize isStage : Stage.answered response = current at admitted
      cases admitted with
      | finding => cases isStage
      | comparing => cases isStage
      | @accepted user issuedAt same =>
          rw [authenticated, Stage.answered.injEq] at isStage
          refine .inl ⟨issuedAt, toUserDto user, ?_, ?_, ?_, ?_⟩
          · rw [isStage, same.id, same.username, made.id,
              made.username.1, made.username.2]
          · exact same.id.trans made.id.symm
          · exact
              same.username.trans
                (made.username.2.trans made.username.1.symm)
          · exact same.email.trans (made.email.2.trans made.email.1.symm)
      | internal => exact .inr rfl

def exampleForm : Registration where
  username := "ann"
  email := "ann@b.c"
  password := "password"
  displayName := "A"
  isUsername := by decide
  isEmail := by decide
  isPassword := by decide
  hasDisplayName := by decide

theorem login_never_refused_ann :
    ∃ call,
      (run (step plainOutside) (reached plainOutside 0 exampleEvents)
              [.request (.login exampleLogin), .proceed 2 {}, .tick 5,
                .proceed 2 {}]).calls[(reached plainOutside 0
                  exampleEvents).calls.length]? =
          some call ∧
        ∀ response, call.stage = .answered response →
          (∃ issuedAt answer,
              response =
                  .auth 200
                    (plainOutside.signToken (exampleDto "u1" "ann").id
                      (exampleDto "u1" "ann").username issuedAt)
                    answer ∧
                answer.id = (exampleDto "u1" "ann").id ∧
                  answer.username = (exampleDto "u1" "ann").username ∧
                  answer.email = (exampleDto "u1" "ann").email) ∨
            .answered response = internalError :=
  login_never_refused (by simp [plainOutside]) 0 exampleEvents
    [.proceed 2 {}, .tick 5, .proceed 2 {}]
    (List.mem_of_getElem? exampleEvents_ann)
    (show checkRegistration (exampleBody "ann") = .ok (.ok exampleForm)
      from rfl)
    rfl

end ChatBackend.Users.Logins
