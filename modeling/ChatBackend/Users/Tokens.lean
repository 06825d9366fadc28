import ChatBackend.Users.Logins

/-!
# Tokens

A token names an account, and nothing but the token says who makes a request.
Suppose that a token verifies only to what was signed, and that a client has
no token but one that it got from the service.  Then every token leads to the
account that it was issued for: this account is still there, under the same
username, so that `refresh`, `getMe` and `updateMe` never miss it.
-/

namespace ChatBackend.Users.Tokens

open ChatBackend.Foundation.EventRuns
open ChatBackend.Storage.Schema
open ChatBackend.Realtime.ServerFrames
open ChatBackend.Chats.ChatReads
open ChatBackend.Users.AccountRules
open ChatBackend.Users.AccountCalls
open ChatBackend.Users.AccountSteps
open ChatBackend.Users.AccountRuns
open ChatBackend.Users.Logins

variable {outside : Outside}

/-! ## Signatures -/

/-- A token that verifies gives the payload that was signed. -/
def Signs (outside : Outside) : Prop :=
  ∀ userId username issuedAt now payload,
    outside.verifyToken
          (outside.signToken userId username issuedAt) now =
        some payload →
      payload = { userId := userId, username := username }

/-- The token of a response. -/
def issuedToken (call : Call) : Option String :=
  match call.stage with
  | .answered (.auth _ token _) => some token
  | .answered (.token token) => some token
  | _ => none

/-- The header that a request comes with. -/
def authorizationOf : Request → Option String
  | .register _ | .login _ => none
  | .refresh authorization | .getMe authorization
  | .updateMe authorization _ | .getUserById authorization _ =>
      authorization

/-- A token of a request that verifies was issued before. -/
def Presents (outside : Outside) (state : State) : Event → Prop
  | .request request =>
      ∀ token payload,
        Verified outside state.clock (authorizationOf request) token
            payload →
          ∃ call ∈ state.calls, issuedToken call = some token
  | _ => True

/-- A token of an account. -/
def IsToken
    (outside : Outside) (users : List User) (token : String) : Prop :=
  ∃ user ∈ users, ∃ issuedAt,
    token = outside.signToken user.id user.username issuedAt

/-- A token stays one of its account. -/
theorem isToken_kept
    {users later : List User} {token : String}
    (isToken : IsToken outside users token) (kept : Kept users later) :
    IsToken outside later token := by
  rcases isToken with ⟨user, member, issuedAt, rfl⟩
  rcases kept user member with ⟨new, inLater, same⟩
  exact ⟨new, inLater, issuedAt, by rw [same.id, same.username]⟩

/-! ## Requests about one's own account -/

/-- The header of a request about one's own account. -/
def ownAuthorization : Request → Option (Option String)
  | .refresh authorization | .getMe authorization
  | .updateMe authorization _ => some authorization
  | _ => none

/-- The header of a request holds a token of the account. -/
def Holds
    (outside : Outside) (authorization : Option String) (user : User) :
    Prop :=
  ∃ issuedAt,
    bearerToken authorization =
      some (outside.signToken user.id user.username issuedAt)

/-- The header stays one of the account. -/
theorem holds_same
    {authorization : Option String} {old new : User}
    (holds : Holds outside authorization old) (same : Same old new) :
    Holds outside authorization new := by
  rcases holds with ⟨issuedAt, given⟩
  exact ⟨issuedAt, by rw [same.id, same.username]; exact given⟩

/-- The errors of such a request: a missing account is none of them. -/
def IsOwnError (error : AppError) : Prop :=
  error.statusCode ∈ [400, 401, 500]

/-- Where such a request can be, beside the accounts. -/
inductive OwnStage
    (outside : Outside) (users : List User)
    (authorization : Option String) : Stage → Prop where
  | refused {error : AppError} :
      IsOwnError error →
        OwnStage outside users authorization (.answered (.error error))
  | refreshing {userId : UserId} {user : User} :
      user ∈ users → user.id = userId →
        Holds outside authorization user →
          OwnStage outside users authorization (.refreshing userId)
  | reading {userId : UserId} {user : User} :
      user ∈ users → user.id = userId →
        Holds outside authorization user →
          OwnStage outside users authorization (.reading userId)
  | updating
      {userId : UserId} {user : User} (displayName : Option String) :
      user ∈ users → user.id = userId →
        Holds outside authorization user →
          OwnStage outside users authorization
            (.updating userId displayName)
  | token {token : String} {user : User} (issuedAt : Timestamp) :
      user ∈ users → Holds outside authorization user →
        token = outside.signToken user.id user.username issuedAt →
          OwnStage outside users authorization
            (.answered (.token token))
  | user {dto : UserDto} {user : User} :
      user ∈ users → Holds outside authorization user →
        Describes dto user →
          OwnStage outside users authorization (.answered (.user dto))

/-- What is known of such a request stays true. -/
theorem OwnStage.kept
    {users later : List User} {authorization : Option String}
    {stage : Stage} (own : OwnStage outside users authorization stage)
    (kept : Kept users later) :
    OwnStage outside later authorization stage := by
  cases own with
  | refused isError => exact .refused isError
  | refreshing member isId holds =>
      rcases kept _ member with ⟨new, inLater, same⟩
      exact
        .refreshing inLater (same.id.trans isId) (holds_same holds same)
  | reading member isId holds =>
      rcases kept _ member with ⟨new, inLater, same⟩
      exact .reading inLater (same.id.trans isId) (holds_same holds same)
  | updating displayName member isId holds =>
      rcases kept _ member with ⟨new, inLater, same⟩
      exact
        .updating displayName inLater (same.id.trans isId)
          (holds_same holds same)
  | token issuedAt member holds isToken =>
      rcases kept _ member with ⟨new, inLater, same⟩
      refine .token issuedAt inLater (holds_same holds same) ?_
      rw [same.id, same.username]
      exact isToken
  | user member holds describes =>
      rcases kept _ member with ⟨new, inLater, same⟩
      exact .user inLater (holds_same holds same) (describes.same same)

/-- One command of such a request. -/
theorem OwnStage.runs
    {now : Timestamp} {users later : List User}
    {authorization : Option String} {stage next : Stage}
    (accounts : Accounts outside users)
    (own : OwnStage outside users authorization stage)
    (runs : Runs outside now users stage later next) :
    OwnStage outside later authorization next := by
  have internal :
      OwnStage outside later authorization internalError :=
    .refused (by simp [IsOwnError])
  cases own with
  | refused isError =>
      cases runs with
      | lost queries => cases queries
      | answered => exact .refused isError
  | refreshing member isId holds =>
      cases runs with
      | lost => exact internal
      | noRefresh missing => exact absurd isId (missing _ member)
      | refreshed rowMember rowId =>
          have sameRow :=
            List.inj_on_of_nodup_map accounts.ids rowMember member
              (rowId.trans isId.symm)
          subst sameRow
          exact .token now member holds rfl
  | reading member isId holds =>
      cases runs with
      | lost => exact internal
      | noUser missing => exact absurd isId (missing _ member)
      | read rowMember rowId =>
          have sameRow :=
            List.inj_on_of_nodup_map accounts.ids rowMember member
              (rowId.trans isId.symm)
          subst sameRow
          exact .user member holds (describes_toUserDto _)
  | updating displayName member isId holds =>
      cases runs with
      | lost => exact internal
      | updatedLost => exact internal
      | updated _ rowMember rowId =>
          have sameRow :=
            List.inj_on_of_nodup_map accounts.ids rowMember member
              (rowId.trans isId.symm)
          subst sameRow
          rcases kept_updateUser users _ displayName _ member with
            ⟨new, inLater, same⟩
          exact
            .user inLater (holds_same holds same)
              ⟨same.id.symm, same.username.symm, same.email.symm,
                same.createdAt.symm⟩
  | token issuedAt member holds isToken =>
      cases runs with
      | lost queries => cases queries
      | answered => exact .token issuedAt member holds isToken
  | user member holds describes =>
      cases runs with
      | lost queries => cases queries
      | answered => exact .user member holds describes

/-! ## Runs -/

/-- What holds of tokens in every run. -/
structure TokensSound (outside : Outside) (state : State) : Prop where
  sound : Sound outside state
  comparing :
    ∀ call ∈ state.calls, ∀ row password,
      call.stage = .comparing row password →
        ∃ user ∈ state.users, Same row user
  issued :
    ∀ call ∈ state.calls, ∀ token ∈ issuedToken call,
      IsToken outside state.users token
  own :
    ∀ call ∈ state.calls, ∀ authorization,
      ownAuthorization call.request = some authorization →
        OwnStage outside state.users authorization call.stage

/-- The row of a login is one of the users, before and after. -/
theorem comparing_of_runs
    {now : Timestamp} {users later : List User} {stage : Stage}
    {row : User} {password : String}
    (runs : Runs outside now users stage later (.comparing row password)) :
    ∃ user ∈ later, Same row user := by
  cases runs with
  | found password member isEmail => exact ⟨row, member, .refl row⟩

/-- A new token is one of the account that the stage knows. -/
theorem isToken_of_runs
    {now : Timestamp} {users later : List User} {stage next : Stage}
    {request : Request}
    (comparing :
      ∀ row password, stage = .comparing row password →
        ∃ user ∈ users, Same row user)
    (issued :
      ∀ token ∈ issuedToken { request := request, stage := stage },
        IsToken outside users token)
    (runs : Runs outside now users stage later next) {token : String}
    (isIssued :
      issuedToken { request := request, stage := next } = some token) :
    IsToken outside later token := by
  cases runs with
  | created answer form hashed fresh =>
      cases isIssued
      exact ⟨_, List.mem_append_right _ (List.mem_singleton_self _), now, rfl⟩
  | accepted accepts =>
      cases isIssued
      rcases comparing _ _ rfl with ⟨user, member, same⟩
      exact ⟨user, member, now, by rw [same.id, same.username]⟩
  | refreshed member isId =>
      cases isIssued
      exact ⟨_, member, now, rfl⟩
  | answered response => exact issued token isIssued
  | _ => cases isIssued

/-- What a check of `updateMe` answers. -/
theorem checkProfile_error
    {numberText : String → String} {body : Json} {error : AppError}
    (checked : checkProfile numberText body = .ok (.error error)) :
    error = validationFailed updateRequiredMessage := by
  rw [checkProfile] at checked
  cases shown : body.field "display_name" with
  | error thrown => simp [shown, bind, Except.bind] at checked
  | ok displayName =>
      cases pictured : body.field "avatar_url" with
      | error thrown =>
          simp [shown, pictured, bind, Except.bind] at checked
      | ok avatarUrl =>
          simp only [shown, pictured, bind, Except.bind] at checked
          split at checked
          · cases checked
            rfl
          · split at checked
            · split at checked <;> cases checked
            · cases checked

/-- The token of such a request leads to an account. -/
theorem ownStage_first
    (signs : Signs outside) {state : State}
    (tokensSound : TokensSound outside state) {request : Request}
    (presents : Presents outside state (.request request))
    {authorization : Option String}
    (own : ownAuthorization request = some authorization) :
    OwnStage outside state.users authorization
      (firstStage outside state.clock request) := by
  -- The account of a token that the middleware lets pass.
  have holder : ∀ token payload,
      Verified outside state.clock authorization token payload →
        authorizationOf request = authorization →
          ∃ user ∈ state.users,
            user.id = payload.userId ∧ Holds outside authorization user := by
    intro token payload verified same
    subst same
    rcases presents token payload verified with ⟨call, member, issued⟩
    rcases tokensSound.issued call member token issued with
      ⟨user, inUsers, issuedAt, rfl⟩
    have signed := signs _ _ _ _ _ verified.verifies
    exact
      ⟨user, inUsers, by rw [signed], issuedAt, verified.given⟩
  have unauthorized : ∀ message,
      OwnStage outside state.users authorization
        (.fail 401 "AUTH_REQUIRED" message) :=
    fun message => .refused (by simp [IsOwnError])
  cases request with
  | refresh given =>
      cases own
      refine authMiddleware_cases _ unauthorized ?_
      intro token payload verified
      rcases holder token payload verified rfl with
        ⟨user, member, isId, holds⟩
      split
      · exact unauthorized _
      · exact .refreshing member isId holds
  | getMe given =>
      cases own
      refine authMiddleware_cases _ unauthorized ?_
      intro token payload verified
      rcases holder token payload verified rfl with
        ⟨user, member, isId, holds⟩
      exact .reading member isId holds
  | updateMe given body =>
      cases own
      refine authMiddleware_cases _ unauthorized ?_
      intro token payload verified
      rcases holder token payload verified rfl with
        ⟨user, member, isId, holds⟩
      refine afterCheck_cases _ ?_ ?_ ?_
      · exact .refused (by simp [IsOwnError])
      · intro error checked
        rw [checkProfile_error checked]
        exact .refused (by simp [IsOwnError, validationFailed])
      · intro displayName _
        exact .updating displayName member isId holds
  | register body => cases own
  | login body => cases own
  | getUserById given userId => cases own

/-- No request is answered with a token at once. -/
theorem issuedToken_first
    (outside : Outside) (now : Timestamp) (request : Request) :
    issuedToken
        { request := request, stage := firstStage outside now request } =
      none := by
  have starts := firstStage_starts outside now request
  generalize firstStage outside now request = stage at starts
  cases starts <;> rfl

/-- A new request, whose token was issued before. -/
theorem TokensSound.requested
    {state : State} (tokensSound : TokensSound outside state)
    (signs : Signs outside) {request : Request}
    (presents : Presents outside state (.request request)) :
    TokensSound outside
      { state with
        calls :=
          state.calls ++
            [{ request := request
               stage := firstStage outside state.clock request }] } where
  sound := tokensSound.sound.requested request
  comparing := by
    intro call member row password isComparing
    rcases List.mem_append.mp member with old | new
    · exact tokensSound.comparing call old row password isComparing
    · rw [List.mem_singleton] at new
      subst new
      have starts := firstStage_starts outside state.clock request
      simp only at isComparing
      rw [isComparing] at starts
      cases starts
  issued := by
    intro call member token issued
    rcases List.mem_append.mp member with old | new
    · exact tokensSound.issued call old token issued
    · rw [List.mem_singleton] at new
      rw [new, issuedToken_first] at issued
      cases issued
  own := by
    intro call member authorization isOwn
    rcases List.mem_append.mp member with old | new
    · exact tokensSound.own call old authorization isOwn
    · rw [List.mem_singleton] at new
      subst new
      exact ownStage_first signs tokensSound presents isOwn

/-- The next command of a call. -/
theorem TokensSound.ran
    {state : State} (tokensSound : TokensSound outside state)
    {index : Nat} {call : Call}
    (found : state.calls[index]? = some call) {users : List User}
    {stage : Stage}
    (runs : Runs outside state.clock state.users call.stage users stage) :
    TokensSound outside
      { state with
        users := users
        calls := state.calls.set index { call with stage := stage } } where
  sound := tokensSound.sound.ran found runs
  comparing := by
    intro other member row password isComparing
    rcases List.mem_or_eq_of_mem_set member with old | rfl
    · rcases tokensSound.comparing other old row password isComparing with
        ⟨user, inUsers, same⟩
      rcases runs_kept runs user inUsers with ⟨new, inLater, again⟩
      exact ⟨new, inLater, same.trans again⟩
    · simp only at isComparing
      subst isComparing
      exact comparing_of_runs runs
  issued := by
    intro other member token issued
    rcases List.mem_or_eq_of_mem_set member with old | rfl
    · exact
        isToken_kept (tokensSound.issued other old token issued)
          (runs_kept runs)
    · have inCalls := List.mem_of_getElem? found
      exact
        isToken_of_runs (tokensSound.comparing call inCalls)
          (tokensSound.issued call inCalls) runs issued
  own := by
    intro other member authorization isOwn
    rcases List.mem_or_eq_of_mem_set member with old | rfl
    · exact
        (tokensSound.own other old authorization isOwn).kept
          (runs_kept runs)
    · exact
        (tokensSound.own call (List.mem_of_getElem? found) authorization
              isOwn).runs
          tokensSound.sound.accounts runs

/-- One event. -/
theorem TokensSound.step
    (signs : Signs outside) (state : State) (event : Event)
    (tokensSound : TokensSound outside state)
    (presents : Presents outside state event) :
    TokensSound outside (step outside state event) := by
  cases event with
  | request request => exact tokensSound.requested signs presents
  | proceed index answer =>
      simp only [AccountCalls.step]
      cases found : state.calls[index]? with
      | none => exact tokensSound
      | some call =>
          exact
            tokensSound.ran found
              (runCommand_runs outside state.clock state.users answer
                call.stage)
  | tick elapsed =>
      exact
        { sound := tokensSound.sound.steps (.ticked elapsed)
          comparing := tokensSound.comparing
          issued := tokensSound.issued
          own := tokensSound.own }

theorem tokensSound_start (outside : Outside) (clock : Timestamp) :
    TokensSound outside { clock := clock } where
  sound := sound_start outside clock
  comparing := by intro call member; cases member
  issued := by intro call member; cases member
  own := by intro call member; cases member

/--
In every run in which clients have no tokens but those that they were given,
each token of the service is one of an account, and a request about one's own
account that is answered without an error of status 400, 401 or 500 is
answered for the account that its token was issued for.
-/
theorem tokens_lead_to_their_accounts
    (signs : Signs outside) {clock : Timestamp} {events : List Event}
    (presented :
      EveryStep (step outside) (Presents outside) { clock := clock }
        events) :
    let state := reached outside clock events
    (∀ call ∈ state.calls, ∀ token ∈ issuedToken call,
        IsToken outside state.users token) ∧
      ∀ call ∈ state.calls, ∀ authorization response,
        ownAuthorization call.request = some authorization →
          call.stage = .answered response →
            (∃ error, response = .error error ∧ IsOwnError error) ∨
              ∃ user ∈ state.users,
                Holds outside authorization user ∧
                  ((∃ issuedAt,
                      response =
                        .token
                          (outside.signToken user.id user.username
                            issuedAt)) ∨
                    ∃ dto, response = .user dto ∧ Describes dto user) := by
  intro state
  have tokensSound : TokensSound outside state :=
    run_guarded (TokensSound.step signs)
      (tokensSound_start outside clock) presented
  refine ⟨tokensSound.issued, ?_⟩
  intro call member authorization response isOwn answered
  have own := tokensSound.own call member authorization isOwn
  rw [answered] at own
  cases own with
  | refused isError => exact .inl ⟨_, rfl, isError⟩
  | token issuedAt inUsers holds isToken =>
      exact .inr ⟨_, inUsers, holds, .inl ⟨issuedAt, by rw [isToken]⟩⟩
  | user inUsers holds describes =>
      exact .inr ⟨_, inUsers, holds, .inr ⟨_, rfl, describes⟩⟩

/-- Libraries that sign for one account only. -/
def oneAccount : Outside :=
  { plainOutside with
    signToken := fun userId username _ =>
      if userId = "u1" ∧ username = "ann" then "t1" else ""
    verifyToken := fun token _ =>
      if token = "t1" then some { userId := "u1", username := "ann" }
      else none }

theorem oneAccount_signs : Signs oneAccount := by
  intro userId username issuedAt now payload verifies
  simp only [oneAccount] at verifies
  by_cases isAnn : userId = "u1" ∧ username = "ann"
  · rw [if_pos isAnn, if_pos rfl] at verifies
    cases verifies
    rw [isAnn.1, isAnn.2]
  · rw [if_neg isAnn, if_neg (by decide)] at verifies
    cases verifies

/-- A registration, and a request with its token. -/
def exampleVisit : List Event :=
  [.request (.register (exampleBody "ann")), .proceed 0 {}, .proceed 0 {},
    .proceed 0 { uuid := "u1" }, .request (.getMe (some "Bearer t1")),
    .proceed 1 {}]

theorem exampleVisit_registered :
    (run (step oneAccount) { clock := 0 } (exampleVisit.take 4)).calls =
      [{ request := .register (exampleBody "ann")
         stage :=
           .answered (.auth 201 "t1" (exampleDto "u1" "ann")) }] := by
  rfl

theorem exampleVisit_presented :
    EveryStep (step oneAccount) (Presents oneAccount) { clock := 0 }
      exampleVisit := by
  refine ⟨?_, trivial, trivial, trivial, ?_, trivial, trivial⟩
  · intro token payload verified
    cases verified.given
  · intro token payload verified
    have given : bearerToken (some "Bearer t1") = some token :=
      verified.given
    have isToken : token = "t1" :=
      (Option.some.inj given).symm
    have registered := exampleVisit_registered
    refine ⟨_, registered ▸ List.mem_singleton_self _, ?_⟩
    rw [isToken]
    rfl

theorem tokens_lead_to_their_accounts_ann :
    let state := reached oneAccount 0 exampleVisit
    (∀ call ∈ state.calls, ∀ token ∈ issuedToken call,
        IsToken oneAccount state.users token) ∧
      ∀ call ∈ state.calls, ∀ authorization response,
        ownAuthorization call.request = some authorization →
          call.stage = .answered response →
            (∃ error, response = .error error ∧ IsOwnError error) ∨
              ∃ user ∈ state.users,
                Holds oneAccount authorization user ∧
                  ((∃ issuedAt,
                      response =
                        .token
                          (oneAccount.signToken user.id user.username
                            issuedAt)) ∨
                    ∃ dto, response = .user dto ∧ Describes dto user) :=
  tokens_lead_to_their_accounts oneAccount_signs exampleVisit_presented

end ChatBackend.Users.Tokens
