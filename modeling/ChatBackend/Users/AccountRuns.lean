import ChatBackend.Users.AccountSteps

/-!
# Runs of the user service

Registrations look for a user before they create one, with the hash of the
password in between, so several of them can find a name free.  In every run
the accounts are distinct all the same, at most one registration gets a name,
and an account never loses what it was registered with.
-/

namespace ChatBackend.Users.AccountRuns

open ChatBackend.Foundation.EventRuns
open ChatBackend.Storage.Schema
open ChatBackend.Realtime.ServerFrames
open ChatBackend.Chats.ChatReads
open ChatBackend.Users.AccountRules
open ChatBackend.Users.AccountCalls
open ChatBackend.Users.AccountSteps

variable {outside : Outside}

/-! ## Accounts -/

/-- A row that a registration has made. -/
structure Account (outside : Outside) (user : User) : Prop where
  isUsername : isUsername user.username = true
  isEmail : isEmail user.email = true
  password :
    ∃ salt password,
      8 ≤ jsLength password ∧ user.password = outside.hash salt password

/-- The unique keys hold, and every row is an account. -/
structure Accounts (outside : Outside) (users : List User) : Prop where
  ids : (users.map User.id).Nodup
  usernames : (users.map User.username).Nodup
  emails : (users.map User.email).Nodup
  each : ∀ user ∈ users, Account outside user

/-- What an account keeps. -/
structure Same (old new : User) : Prop where
  id : new.id = old.id
  username : new.username = old.username
  email : new.email = old.email
  password : new.password = old.password
  createdAt : new.createdAt = old.createdAt

theorem Same.refl (user : User) : Same user user :=
  ⟨rfl, rfl, rfl, rfl, rfl⟩

theorem Same.trans {first second third : User}
    (one : Same first second) (two : Same second third) :
    Same first third :=
  ⟨two.id.trans one.id, two.username.trans one.username,
    two.email.trans one.email, two.password.trans one.password,
    two.createdAt.trans one.createdAt⟩

/-- An account stays an account. -/
theorem Same.account {old new : User} (same : Same old new)
    (account : Account outside old) : Account outside new where
  isUsername := same.username ▸ account.isUsername
  isEmail := same.email ▸ account.isEmail
  password := same.password ▸ account.password

/-- Every account is still there. -/
def Kept (users later : List User) : Prop :=
  ∀ user ∈ users, ∃ kept ∈ later, Same user kept

theorem Kept.refl (users : List User) : Kept users users :=
  fun user member => ⟨user, member, .refl user⟩

theorem Kept.trans {first second third : List User}
    (one : Kept first second) (two : Kept second third) :
    Kept first third := by
  intro user member
  rcases one user member with ⟨middle, inSecond, same⟩
  rcases two middle inSecond with ⟨last, inThird, again⟩
  exact ⟨last, inThird, same.trans again⟩

/-- A new row leaves the others. -/
theorem kept_append (users : List User) (row : User) :
    Kept users (users ++ [row]) :=
  fun user member => ⟨user, by simp [member], .refl user⟩

/-- An update writes nothing but the display name. -/
theorem same_update (id : UserId) (displayName : Option String)
    (user : User) :
    Same user
      (if user.id = id then renamed displayName user else user) := by
  split <;> exact ⟨rfl, rfl, rfl, rfl, rfl⟩

theorem kept_updateUser (users : List User) (id : UserId)
    (displayName : Option String) :
    Kept users (updateUser users id displayName) :=
  fun user member =>
    ⟨_, List.mem_map_of_mem member, same_update id displayName user⟩

/-- A column that no update writes. -/
theorem map_updateUser
    {Column : Type} (column : User → Column) (users : List User)
    (id : UserId) (displayName : Option String)
    (kept : ∀ user, column (renamed displayName user) = column user) :
    (updateUser users id displayName).map column = users.map column := by
  rw [updateUser, List.map_map]
  apply List.map_congr_left
  intro user _
  rw [Function.comp_apply]
  split
  · exact kept user
  · rfl

/-- A new display name disturbs no account. -/
theorem Accounts.updateUser
    {users : List User} (accounts : Accounts outside users)
    (id : UserId) (displayName : Option String) :
    Accounts outside (updateUser users id displayName) where
  ids := by
    rw [map_updateUser User.id users id displayName fun _ => rfl]
    exact accounts.ids
  usernames := by
    rw [map_updateUser User.username users id displayName fun _ => rfl]
    exact accounts.usernames
  emails := by
    rw [map_updateUser User.email users id displayName fun _ => rfl]
    exact accounts.emails
  each := by
    intro user member
    rcases List.mem_map.mp member with ⟨old, inUsers, rfl⟩
    exact
      (same_update id displayName old).account (accounts.each old inUsers)

/-- A column in which the new row has a value of its own. -/
theorem nodup_append_row
    {Column : Type} {column : User → Column} {users : List User}
    {row : User} (distinct : (users.map column).Nodup)
    (fresh : ∀ user ∈ users, column user ≠ column row) :
    ((users ++ [row]).map column).Nodup := by
  rw [List.map_append, List.nodup_append]
  refine ⟨distinct, List.nodup_singleton _, ?_⟩
  intro value inUsers other isRow
  rcases List.mem_map.mp inUsers with ⟨user, member, rfl⟩
  rw [List.map_singleton, List.mem_singleton] at isRow
  rw [isRow]
  exact fresh user member

/-- A fresh row can be added to the accounts. -/
theorem Accounts.append
    {users : List User} {row : User} (accounts : Accounts outside users)
    (fresh : Fresh users row) (account : Account outside row) :
    Accounts outside (users ++ [row]) where
  ids := nodup_append_row accounts.ids fun user member =>
    (fresh user member).1
  usernames := nodup_append_row accounts.usernames fun user member =>
    (fresh user member).2.1
  emails := nodup_append_row accounts.emails fun user member =>
    (fresh user member).2.2
  each := by
    intro user member
    rcases List.mem_append.mp member with old | new
    · exact accounts.each user old
    · exact List.mem_singleton.mp new ▸ account

/-! ## Persistence -/

/-- No command loses an account. -/
theorem runs_kept
    {now : Timestamp} {users later : List User} {stage next : Stage}
    (runs : Runs outside now users stage later next) :
    Kept users later := by
  cases runs with
  | created answer form hashed fresh => exact kept_append _ _
  | createdLost answer form hashed fresh => exact kept_append _ _
  | updated displayName member same => exact kept_updateUser _ _ _
  | updatedLost userId displayName => exact kept_updateUser _ _ _
  | _ => exact .refl _

/-- No event loses an account. -/
theorem steps_kept {state next : State}
    (steps : Steps outside state next) : Kept state.users next.users := by
  cases steps with
  | ran found runs => exact runs_kept runs
  | _ => exact .refl _

/-- A row was there before the command, or the command has made it. -/
theorem row_of_runs
    {now : Timestamp} {users later : List User} {stage next : Stage}
    (runs : Runs outside now users stage later next) {user : User}
    (member : user ∈ later) :
    (∃ old ∈ users, Same old user) ∨
      ∃ answer form hashed,
        stage = .creating form hashed ∧
          user = registeredRow now answer form hashed := by
  have appended : ∀ answer form hashed,
      user ∈ users ++ [registeredRow now answer form hashed] →
        stage = .creating form hashed →
          (∃ old ∈ users, Same old user) ∨
            ∃ answer form hashed,
              stage = .creating form hashed ∧
                user = registeredRow now answer form hashed := by
    intro answer form hashed inLater isStage
    rcases List.mem_append.mp inLater with old | new
    · exact .inl ⟨user, old, .refl user⟩
    · exact
        .inr ⟨answer, form, hashed, isStage, List.mem_singleton.mp new⟩
  have renamed : ∀ id displayName,
      user ∈ updateUser users id displayName →
        ∃ old ∈ users, Same old user := by
    intro id displayName inLater
    rcases List.mem_map.mp inLater with ⟨old, inUsers, rfl⟩
    exact ⟨old, inUsers, same_update id displayName old⟩
  cases runs with
  | created answer form hashed fresh =>
      exact appended answer form hashed member rfl
  | createdLost answer form hashed fresh =>
      exact appended answer form hashed member rfl
  | updated displayName rowMember same => exact .inl (renamed _ _ member)
  | updatedLost userId displayName => exact .inl (renamed _ _ member)
  | _ => exact .inl ⟨user, member, .refl user⟩

/-! ## Origins -/

/-- A registration that an account was made for. -/
structure MadeFor
    (outside : Outside) (form : Registration) (user : User) : Prop where
  username : user.username = form.username
  email : user.email = form.email
  password : ∃ salt, user.password = outside.hash salt form.password

theorem MadeFor.same
    {form : Registration} {old new : User}
    (made : MadeFor outside form old) (same : Same old new) :
    MadeFor outside form new where
  username := same.username.trans made.username
  email := same.email.trans made.email
  password := same.password ▸ made.password

/-- One of the requests was a registration for an account. -/
def HasOrigin
    (outside : Outside) (requests : List Request) (user : User) : Prop :=
  ∃ body form,
    Request.register body ∈ requests ∧
      checkRegistration body = .ok (.ok form) ∧
        MadeFor outside form user

/-- An origin is not lost when more requests come. -/
theorem hasOrigin_append
    {requests : List Request} {user : User}
    (origin : HasOrigin outside requests user) (later : List Request) :
    HasOrigin outside (requests ++ later) user := by
  rcases origin with ⟨body, form, member, checked, made⟩
  exact ⟨body, form, List.mem_append_left later member, checked, made⟩

/-- The registration that a row is about to be made for. -/
def CreatesFrom
    (outside : Outside) (requests : List Request) (stage : Stage) : Prop :=
  ∀ form hashed, stage = .creating form hashed →
    ∃ body salt,
      Request.register body ∈ requests ∧
        checkRegistration body = .ok (.ok form) ∧
          hashed = outside.hash salt form.password

/-- Every row has an origin, those that a command has made as well. -/
theorem hasOrigin_of_runs
    {now : Timestamp} {users later : List User} {stage next : Stage}
    {requests : List Request}
    (origins : ∀ user ∈ users, HasOrigin outside requests user)
    (creates : CreatesFrom outside requests stage)
    (runs : Runs outside now users stage later next) :
    ∀ user ∈ later, HasOrigin outside requests user := by
  intro user member
  rcases row_of_runs runs member with
    ⟨old, inUsers, same⟩ | ⟨answer, form, hashed, isStage, rfl⟩
  · rcases origins old inUsers with ⟨body, form, inCalls, checked, made⟩
    exact ⟨body, form, inCalls, checked, made.same same⟩
  · rcases creates form hashed isStage with
      ⟨body, salt, inCalls, checked, rfl⟩
    exact ⟨body, form, inCalls, checked, ⟨rfl, rfl, salt, rfl⟩⟩

/-! ## Registrations -/

/-- The account that a registration has made, with its response. -/
structure Registered
    (outside : Outside) (form : Registration) (user : User)
    (token : String) (dto : UserDto) : Prop where
  token :
    ∃ issuedAt,
      token = outside.signToken user.id user.username issuedAt
  id : dto.id = user.id
  username : dto.username = form.username ∧ user.username = form.username
  email : dto.email = form.email ∧ user.email = form.email
  displayName : dto.displayName = form.displayName
  password : ∃ salt, user.password = outside.hash salt form.password
  createdAt : dto.createdAt = user.createdAt

/-- An answer stays true of the account. -/
theorem Registered.same
    {form : Registration} {old new : User} {token : String}
    {dto : UserDto} (registered : Registered outside form old token dto)
    (same : Same old new) : Registered outside form new token dto where
  token := by
    rw [same.id, same.username]
    exact registered.token
  id := registered.id.trans same.id.symm
  username :=
    ⟨registered.username.1, same.username.trans registered.username.2⟩
  email := ⟨registered.email.1, same.email.trans registered.email.2⟩
  displayName := registered.displayName
  password := same.password ▸ registered.password
  createdAt := registered.createdAt.trans same.createdAt.symm

/-- Where a call of `register` can be, beside the accounts. -/
inductive RegisterStage
    (outside : Outside) (users : List User) (body : Json) :
    Stage → Prop where
  | finding {form : Registration} :
      checkRegistration body = .ok (.ok form) →
        RegisterStage outside users body (.findingExisting form)
  | hashing {form : Registration} :
      checkRegistration body = .ok (.ok form) →
        RegisterStage outside users body (.hashing form)
  | creating {form : Registration} (salt : String) :
      checkRegistration body = .ok (.ok form) →
        RegisterStage outside users body
          (.creating form (outside.hash salt form.password))
  | invalid {error : AppError} :
      checkRegistration body = .ok (.error error) →
        RegisterStage outside users body (.answered (.error error))
  | internal : RegisterStage outside users body internalError
  | taken {form : Registration} {user : User} {field : String} :
      checkRegistration body = .ok (.ok form) → user ∈ users →
        Taken form user field →
          RegisterStage outside users body (alreadyTaken field)
  | registered
      {form : Registration} {user : User} {token : String}
      {dto : UserDto} :
      checkRegistration body = .ok (.ok form) → user ∈ users →
        Registered outside form user token dto →
          RegisterStage outside users body
            (.answered (.auth 201 token dto))

/-- A field that is taken stays taken. -/
theorem taken_same
    {form : Registration} {old new : User} {field : String}
    (taken : Taken form old field) (same : Same old new) :
    Taken form new field := by
  cases taken with
  | username equal => exact .username (same.username.trans equal)
  | email equal => exact .email (same.email.trans equal)

/-- What is known of a registration stays true. -/
theorem RegisterStage.kept
    {users later : List User} {body : Json} {stage : Stage}
    (register : RegisterStage outside users body stage)
    (kept : Kept users later) :
    RegisterStage outside later body stage := by
  cases register with
  | finding checked => exact .finding checked
  | hashing checked => exact .hashing checked
  | creating salt checked => exact .creating salt checked
  | invalid checked => exact .invalid checked
  | internal => exact .internal
  | taken checked member taken =>
      rcases kept _ member with ⟨user, inLater, same⟩
      exact .taken checked inLater (taken_same taken same)
  | registered checked member registered =>
      rcases kept _ member with ⟨user, inLater, same⟩
      exact .registered checked inLater (registered.same same)

/-- A registration begins with its checks. -/
theorem registerStage_first
    (outside : Outside) (now : Timestamp) (users : List User) (body : Json) :
    RegisterStage outside users body
      (firstStage outside now (.register body)) := by
  simp only [firstStage, afterCheck]
  split
  · exact .internal
  · exact .invalid ‹_›
  · exact .finding ‹_›

/-- The new row of a registration. -/
theorem registered_row
    (now : Timestamp) (answer : Answer) (form : Registration)
    (salt : String) :
    let row :=
      registeredRow now answer form (outside.hash salt form.password)
    Registered outside form row
        (outside.signToken row.id row.username now) (toUserDto row) ∧
      Account outside row :=
  ⟨⟨⟨now, rfl⟩, rfl, ⟨rfl, rfl⟩, ⟨rfl, rfl⟩, rfl, ⟨salt, rfl⟩, rfl⟩,
    ⟨form.isUsername, form.isEmail,
      ⟨salt, form.password, form.isPassword, rfl⟩⟩⟩

/-- One command of a registration. -/
theorem RegisterStage.runs
    {now : Timestamp} {users later : List User} {body : Json}
    {stage next : Stage}
    (register : RegisterStage outside users body stage)
    (runs : Runs outside now users stage later next) :
    RegisterStage outside later body next := by
  cases register with
  | finding checked =>
      cases runs with
      | lost => exact .internal
      | free => exact .hashing checked
      | taken member taken => exact .taken checked member taken
  | hashing checked =>
      cases runs with
      | lost queries => cases queries
      | hashed form salt => exact .creating salt checked
  | @creating form salt checked =>
      cases runs with
      | lost => exact .internal
      | created answer form hashed fresh =>
          let row :=
            registeredRow now answer form (outside.hash salt form.password)
          have member : row ∈ users ++ [row] := by simp
          exact
            .registered checked member
              (registered_row now answer form salt).1
      | createdLost => exact .internal
  | invalid checked =>
      cases runs with
      | lost queries => cases queries
      | answered => exact .invalid checked
  | internal =>
      cases runs with
      | lost queries => cases queries
      | answered => exact .internal
  | taken checked member taken =>
      cases runs with
      | lost queries => cases queries
      | answered => exact .taken checked member taken
  | registered checked member registered =>
      cases runs with
      | lost queries => cases queries
      | answered => exact .registered checked member registered

/-- A call that answers with an account had answered before, or its
account is new. -/
theorem RegisterStage.new_of_runs
    {now : Timestamp} {users later : List User} {body : Json}
    {stage : Stage} {statusCode : Nat} {token : String} {dto : UserDto}
    (register : RegisterStage outside users body stage)
    (runs :
      Runs outside now users stage later
        (.answered (.auth statusCode token dto))) :
    stage = .answered (.auth statusCode token dto) ∨
      ∀ user ∈ users, user.id ≠ dto.id := by
  cases runs with
  | created answer form hashed fresh =>
      exact .inr fun user member => (fresh user member).1
  | accepted matching => cases register
  | answered => exact .inl rfl

/-! ## The service -/

/-- The account that a call of `register` has answered with. -/
def registeredId (call : Call) : Option UserId :=
  match call.request, call.stage with
  | .register _, .answered (.auth _ _ dto) => some dto.id
  | _, _ => none

/-- Such a call is a registration that has been answered. -/
theorem registeredId_eq_some
    {call : Call} {id : UserId} (registered : registeredId call = some id) :
    ∃ body statusCode token dto,
      call.request = .register body ∧
        call.stage = .answered (.auth statusCode token dto) ∧
        dto.id = id := by
  rcases call with ⟨request, stage⟩
  simp only [registeredId] at registered
  split at registered
  · cases registered
    exact ⟨_, _, _, _, rfl, rfl, rfl⟩
  · cases registered

/-- What holds of the users and the calls in every run. -/
structure Sound (outside : Outside) (state : State) : Prop where
  accounts : Accounts outside state.users
  origins :
    ∀ user ∈ state.users,
      HasOrigin outside (state.calls.map Call.request) user
  registering :
    ∀ call ∈ state.calls, isRegistering call.stage = true →
      ∃ body, call.request = .register body
  registers :
    ∀ call ∈ state.calls, ∀ body, call.request = .register body →
      RegisterStage outside state.users body call.stage
  winners :
    ∀ (first second : Nat) (call other : Call) (id : UserId),
      state.calls[first]? = some call →
        state.calls[second]? = some other →
          registeredId call = some id → registeredId other = some id →
            first = second

/-- The account of a registration is among the users. -/
theorem Sound.registered
    {state : State} (sound : Sound outside state) {call : Call}
    (member : call ∈ state.calls) {id : UserId}
    (registered : registeredId call = some id) :
    ∃ user ∈ state.users, user.id = id := by
  rcases registeredId_eq_some registered with
    ⟨body, statusCode, token, dto, request, stage, rfl⟩
  have register := sound.registers call member body request
  rw [stage] at register
  cases register with
  | registered checked inUsers made => exact ⟨_, inUsers, made.id.symm⟩

/-- A password is hashed before its account is created. -/
theorem Sound.createsFrom
    {state : State} (sound : Sound outside state) {call : Call}
    (member : call ∈ state.calls) :
    CreatesFrom outside (state.calls.map Call.request) call.stage := by
  intro form hashed isCreating
  rcases sound.registering call member (isCreating ▸ rfl) with
    ⟨body, isRegister⟩
  have register := sound.registers call member body isRegister
  rw [isCreating] at register
  cases register with
  | creating salt checked =>
      exact
        ⟨body, salt, List.mem_map.mpr ⟨call, member, isRegister⟩, checked,
          rfl⟩

theorem registeredId_first
    (outside : Outside) (now : Timestamp) (request : Request) :
    registeredId
        { request := request, stage := firstStage outside now request } =
      none := by
  rw [Option.eq_none_iff_forall_ne_some]
  intro id registered
  rcases registeredId_eq_some registered with
    ⟨body, statusCode, token, dto, isRegister, stage, _⟩
  have starts := firstStage_starts outside now request
  simp only at stage
  rw [stage] at starts
  cases starts

/-- A new request disturbs nothing. -/
theorem Sound.requested
    {state : State} (sound : Sound outside state) (request : Request) :
    Sound outside
      { state with
        calls :=
          state.calls ++
            [{ request := request
               stage := firstStage outside state.clock request }] } where
  accounts := sound.accounts
  origins := by
    intro user member
    rw [List.map_append]
    exact hasOrigin_append (sound.origins user member) _
  registering := by
    intro call member registering
    rcases List.mem_append.mp member with old | new
    · exact sound.registering call old registering
    · rw [List.mem_singleton] at new
      subst new
      exact isRegistering_first registering
  registers := by
    intro call member body isRegister
    rcases List.mem_append.mp member with old | new
    · exact sound.registers call old body isRegister
    · rw [List.mem_singleton] at new
      subst new
      simp only at isRegister
      subst isRegister
      exact registerStage_first outside state.clock state.users body
  winners := by
    have old : ∀ (index : Nat) (call : Call) (id : UserId),
        (state.calls ++
            [{ request := request
               stage := firstStage outside state.clock request }])[index]? =
          some call →
        registeredId call = some id → state.calls[index]? = some call := by
      intro index call id found registered
      rw [List.getElem?_append] at found
      split at found
      · exact found
      · have isNew := List.mem_singleton.mp (List.mem_of_getElem? found)
        rw [isNew, registeredId_first] at registered
        cases registered
    intro first second call other id foundFirst foundSecond one two
    exact
      sound.winners first second call other id
        (old first call id foundFirst one)
        (old second other id foundSecond two) one two

/-- The call that has run, if it now answers with an account. -/
theorem Sound.new_of_ran
    {state : State} (sound : Sound outside state) {call : Call}
    (member : call ∈ state.calls) {users : List User} {stage : Stage}
    (runs : Runs outside state.clock state.users call.stage users stage)
    {id : UserId}
    (registered : registeredId { call with stage := stage } = some id) :
    registeredId call = some id ∨ ∀ user ∈ state.users, user.id ≠ id := by
  rcases registeredId_eq_some registered with
    ⟨body, statusCode, token, dto, isRegister, answered, rfl⟩
  simp only at isRegister answered
  subst answered
  have register := sound.registers call member body isRegister
  rcases register.new_of_runs runs with same | new
  · left
    simp [registeredId, isRegister, same]
  · exact .inr new

/-- The row that a registration creates is an account. -/
theorem registeredRow_account
    {now : Timestamp} {answer : Answer} {form : Registration}
    {hashed : String} {requests : List Request}
    (creates : CreatesFrom outside requests (.creating form hashed)) :
    Account outside (registeredRow now answer form hashed) := by
  rcases creates form hashed rfl with ⟨body, salt, _, _, rfl⟩
  exact (registered_row now answer form salt).2

/-- One command keeps the accounts. -/
theorem Accounts.runs
    {now : Timestamp} {users later : List User} {stage next : Stage}
    {requests : List Request} (accounts : Accounts outside users)
    (creates : CreatesFrom outside requests stage)
    (runs : Runs outside now users stage later next) :
    Accounts outside later := by
  cases runs with
  | created answer form hashed fresh =>
      exact accounts.append fresh (registeredRow_account creates)
  | createdLost answer form hashed fresh =>
      exact accounts.append fresh (registeredRow_account creates)
  | updated displayName member same => exact accounts.updateUser _ _
  | updatedLost userId displayName => exact accounts.updateUser _ _
  | _ => exact accounts

/-- A call goes on with the request that it began with. -/
theorem requests_set
    {calls : List Call} {index : Nat} {call : Call}
    (found : calls[index]? = some call) (stage : Stage) :
    (calls.set index { call with stage := stage }).map Call.request =
      calls.map Call.request := by
  rw [List.map_set]
  apply List.ext_getElem?
  intro position
  rw [List.getElem?_set]
  split
  · rename_i same
    rw [← same, List.getElem?_map, found]
    simp [(List.getElem?_eq_some_iff.mp found).1]
  · rfl

/-- The next command of a call. -/
theorem Sound.ran
    {state : State} (sound : Sound outside state) {index : Nat}
    {call : Call} (found : state.calls[index]? = some call)
    {users : List User} {stage : Stage}
    (runs : Runs outside state.clock state.users call.stage users stage) :
    Sound outside
      { state with
        users := users
        calls := state.calls.set index { call with stage := stage } } where
  accounts :=
    sound.accounts.runs
      (sound.createsFrom (List.mem_of_getElem? found)) runs
  origins := by
    rw [requests_set found]
    exact
      hasOrigin_of_runs sound.origins
        (sound.createsFrom (List.mem_of_getElem? found)) runs
  registering := by
    intro other member registering
    rcases List.mem_or_eq_of_mem_set member with old | rfl
    · exact sound.registering other old registering
    · exact
        sound.registering call (List.mem_of_getElem? found)
          (isRegistering_of_runs runs registering)
  registers := by
    intro other member body isRegister
    rcases List.mem_or_eq_of_mem_set member with old | rfl
    · exact (sound.registers other old body isRegister).kept (runs_kept runs)
    · exact
        (sound.registers call (List.mem_of_getElem? found) body
          isRegister).runs runs
  winners := by
    have member := List.mem_of_getElem? found
    -- A new account differs from the accounts of all other calls.
    have alone : ∀ (position : Nat) (other : Call) (id : UserId),
        position ≠ index → state.calls[position]? = some other →
          registeredId other = some id →
            registeredId { call with stage := stage } ≠ some id := by
      intro position other id different there isOther isNew
      rcases sound.new_of_ran member runs isNew with before | fresh
      · exact
          different
            (sound.winners position index other call id there found isOther
              before)
      · rcases sound.registered (List.mem_of_getElem? there) isOther with
          ⟨user, inUsers, same⟩
        exact fresh user inUsers same
    intro first second one other id foundFirst foundSecond isOne isOther
    rw [List.getElem?_set] at foundFirst foundSecond
    by_cases isFirst : index = first
    · by_cases isSecond : index = second
      · exact isFirst.symm.trans isSecond
      · rw [if_neg isSecond] at foundSecond
        rw [if_pos isFirst] at foundFirst
        split at foundFirst
        · cases foundFirst
          exact
            absurd isOne
              (alone second other id (Ne.symm isSecond) foundSecond isOther)
        · cases foundFirst
    · rw [if_neg isFirst] at foundFirst
      by_cases isSecond : index = second
      · rw [if_pos isSecond] at foundSecond
        split at foundSecond
        · cases foundSecond
          exact
            absurd isOther
              (alone first one id (Ne.symm isFirst) foundFirst isOne)
        · cases foundSecond
      · rw [if_neg isSecond] at foundSecond
        exact
          sound.winners first second one other id foundFirst foundSecond
            isOne isOther

theorem Sound.steps {state next : State} (sound : Sound outside state)
    (steps : Steps outside state next) : Sound outside next := by
  cases steps with
  | requested request => exact sound.requested request
  | ran found runs => exact sound.ran found runs
  | ticked elapsed =>
      exact
        { accounts := sound.accounts
          origins := sound.origins
          registering := sound.registering
          registers := sound.registers
          winners := sound.winners }
  | idle => exact sound

theorem sound_start (outside : Outside) (clock : Timestamp) :
    Sound outside { clock := clock } where
  accounts :=
    { ids := .nil
      usernames := .nil
      emails := .nil
      each := by intro user member; cases member }
  origins := by intro user member; cases member
  registering := by intro call member; cases member
  registers := by intro call member; cases member
  winners := by intro first second call other id found; cases found

/-- Every run, by induction over its events. -/
theorem reached_sound
    (outside : Outside) (clock : Timestamp) (events : List Event) :
    Sound outside (reached outside clock events) :=
  run_invariant (Sound outside)
    (fun _ event sound => sound.steps (step_steps _ event))
    (sound_start outside clock) events

/--
However the commands of concurrent registrations follow each other, no two
accounts share an id, a username or an email, and every account satisfies the
rules of `register`.  Two registrations that both succeed have different
usernames and different emails.
-/
theorem accounts_distinct
    (outside : Outside) (clock : Timestamp) (events : List Event) :
    let state := reached outside clock events
    Accounts outside state.users ∧
      ∀ (first second : Nat) (body other : Json)
        (statusCode otherCode : Nat) (token otherToken : String)
        (dto otherDto : UserDto),
        state.calls[first]? =
            some
              { request := .register body
                stage := .answered (.auth statusCode token dto) } →
          state.calls[second]? =
              some
                { request := .register other
                  stage := .answered (.auth otherCode otherToken otherDto) } →
            first ≠ second →
              dto.id ≠ otherDto.id ∧ dto.username ≠ otherDto.username ∧
                dto.email ≠ otherDto.email := by
  intro state
  have sound : Sound outside state := reached_sound outside clock events
  refine ⟨sound.accounts, ?_⟩
  intro first second body other statusCode otherCode token otherToken dto
    otherDto foundFirst foundSecond different
  have ids : dto.id ≠ otherDto.id := fun same =>
    different
      (sound.winners first second _ _ dto.id foundFirst foundSecond rfl
        (congrArg some same.symm))
  have isFirst :=
    sound.registers _ (List.mem_of_getElem? foundFirst) body rfl
  have isSecond :=
    sound.registers _ (List.mem_of_getElem? foundSecond) other rfl
  cases isFirst with
  | @registered form user _ _ checked member made =>
      cases isSecond with
      | @registered otherForm otherUser _ _ otherChecked otherMember
          otherMade =>
          refine ⟨ids, fun same => ids ?_, fun same => ids ?_⟩
          · have sameName : user.username = otherUser.username :=
              made.username.2.trans
                (made.username.1.symm.trans
                  (same.trans
                    (otherMade.username.1.trans
                      otherMade.username.2.symm)))
            have sameUser :=
              List.inj_on_of_nodup_map sound.accounts.usernames member
                otherMember sameName
            rw [made.id, otherMade.id, sameUser]
          · have sameEmail : user.email = otherUser.email :=
              made.email.2.trans
                (made.email.1.symm.trans
                  (same.trans
                    (otherMade.email.1.trans otherMade.email.2.symm)))
            have sameUser :=
              List.inj_on_of_nodup_map sound.accounts.emails member
                otherMember sameEmail
            rw [made.id, otherMade.id, sameUser]

/-- Libraries that hide nothing. -/
def plainOutside : Outside where
  hash := fun _ password => "hash of " ++ password
  compare := fun password hashed => hashed == "hash of " ++ password
  signToken := fun userId username _ => userId ++ "." ++ username
  verifyToken := fun _ _ => none
  numberText := id

/-- The body of a registration. -/
def exampleBody (username : String) : Json :=
  .object
    [("username", .string username),
      ("email", .string (username ++ "@b.c")),
      ("password", .string "password"), ("display_name", .string "A")]

/-- Two registrations, each command of one between commands of the other. -/
def exampleEvents : List Event :=
  [.request (.register (exampleBody "ann")),
    .request (.register (exampleBody "bob")), .proceed 0 {},
    .proceed 1 {}, .proceed 0 {}, .proceed 1 {},
    .proceed 1 { uuid := "u2" }, .proceed 0 { uuid := "u1" }]

/-- The account of such a registration. -/
def exampleDto (id username : String) : UserDto where
  id := id
  username := username
  email := username ++ "@b.c"
  displayName := "A"
  createdAt := 0

theorem exampleEvents_ann :
    (reached plainOutside 0 exampleEvents).calls[0]? =
      some
        { request := .register (exampleBody "ann")
          stage :=
            .answered (.auth 201 "u1.ann" (exampleDto "u1" "ann")) } := by
  rfl

theorem exampleEvents_bob :
    (reached plainOutside 0 exampleEvents).calls[1]? =
      some
        { request := .register (exampleBody "bob")
          stage :=
            .answered (.auth 201 "u2.bob" (exampleDto "u2" "bob")) } := by
  rfl

theorem accounts_distinct_two :
    (exampleDto "u1" "ann").id ≠ (exampleDto "u2" "bob").id ∧
      (exampleDto "u1" "ann").username ≠
          (exampleDto "u2" "bob").username ∧
        (exampleDto "u1" "ann").email ≠ (exampleDto "u2" "bob").email :=
  (accounts_distinct plainOutside 0 exampleEvents).2 0 1
    (exampleBody "ann") (exampleBody "bob") 201 201 "u1.ann" "u2.bob"
    (exampleDto "u1" "ann") (exampleDto "u2" "bob") exampleEvents_ann
    exampleEvents_bob (by decide)

/--
What a registration answers is true, then and for ever: the account that it
returns exists with the data and the password of the request, the token is
signed for this account, a field that it calls taken belongs to an account,
and a request that it calls invalid breaks a rule.  Everything else is an
internal error.
-/
theorem registrations_truthful
    (outside : Outside) (clock : Timestamp) (events : List Event)
    {call : Call} (member : call ∈ (reached outside clock events).calls)
    {body : Json} (isRegister : call.request = .register body)
    {response : Response} (answered : call.stage = .answered response) :
    let users := (reached outside clock events).users
    (∃ form token dto user,
        checkRegistration body = .ok (.ok form) ∧
          response = .auth 201 token dto ∧ user ∈ users ∧
            Registered outside form user token dto) ∨
      (∃ form field user,
        checkRegistration body = .ok (.ok form) ∧
          .answered response = alreadyTaken field ∧ user ∈ users ∧
            Taken form user field) ∨
      (∃ error,
        checkRegistration body = .ok (.error error) ∧
          response = .error error) ∨
      .answered response = internalError := by
  have register :=
    (reached_sound outside clock events).registers call member body
      isRegister
  rw [answered] at register
  generalize stage : Stage.answered response = current at register
  cases register with
  | finding => cases stage
  | hashing => cases stage
  | creating => cases stage
  | invalid checked =>
      cases stage
      exact .inr (.inr (.inl ⟨_, checked, rfl⟩))
  | internal => exact .inr (.inr (.inr rfl))
  | taken checked inUsers taken =>
      exact .inr (.inl ⟨_, _, _, checked, rfl, inUsers, taken⟩)
  | registered checked inUsers made =>
      cases stage
      exact .inl ⟨_, _, _, _, checked, rfl, inUsers, made⟩

theorem registrations_truthful_ann :
    let users := (reached plainOutside 0 exampleEvents).users
    let response := Response.auth 201 "u1.ann" (exampleDto "u1" "ann")
    (∃ form token dto user,
        checkRegistration (exampleBody "ann") = .ok (.ok form) ∧
          response = .auth 201 token dto ∧ user ∈ users ∧
            Registered plainOutside form user token dto) ∨
      (∃ form field user,
        checkRegistration (exampleBody "ann") = .ok (.ok form) ∧
          .answered response = alreadyTaken field ∧ user ∈ users ∧
            Taken form user field) ∨
      (∃ error,
        checkRegistration (exampleBody "ann") = .ok (.error error) ∧
          response = .error error) ∨
      .answered response = internalError :=
  registrations_truthful plainOutside 0 exampleEvents
    (List.mem_of_getElem? exampleEvents_ann) rfl rfl

end ChatBackend.Users.AccountRuns
