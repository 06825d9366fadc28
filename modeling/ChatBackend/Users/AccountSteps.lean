import ChatBackend.Users.AccountCalls
import Mathlib.Data.List.Rotate

/-!
# What a command of an account does

`Runs` lists every way in which one command of a call can change the users
and its stage, with what is known of the users then.  The invariants of the
user service are cases over it; `runCommand_runs` is the only proof that
looks into the commands.
-/

namespace ChatBackend.Users.AccountSteps

open ChatBackend.Storage.Schema
open ChatBackend.Realtime.ServerFrames
open ChatBackend.Chats.ChatReads
open ChatBackend.Users.AccountRules
open ChatBackend.Users.AccountCalls

/-! ## Queries -/

section Queries

variable {users : List User}

theorem findUserById_some {id : UserId} {row : User}
    (found : findUserById users id = some row) :
    row ∈ users ∧ row.id = id :=
  ⟨List.mem_of_find?_eq_some found, by simpa using List.find?_some found⟩

theorem findUserById_none {id : UserId}
    (missing : findUserById users id = none) :
    ∀ user ∈ users, user.id ≠ id := by
  simpa [findUserById] using missing

theorem findUserByEmail_some {email : String} {row : User}
    (found : findUserByEmail users email = some row) :
    row ∈ users ∧ row.email = email :=
  ⟨List.mem_of_find?_eq_some found, by simpa using List.find?_some found⟩

theorem findUserByEmail_none {email : String}
    (missing : findUserByEmail users email = none) :
    ∀ user ∈ users, user.email ≠ email := by
  simpa [findUserByEmail] using missing

/-- The rows whose key or unique column a new row would take. -/
def Fresh (users : List User) (row : User) : Prop :=
  ∀ user ∈ users,
    user.id ≠ row.id ∧ user.username ≠ row.username ∧
      user.email ≠ row.email

/-- A row is inserted only where none of its keys is in use. -/
theorem createUser_some {row : User} {created : List User}
    (isCreated : createUser users row = some created) :
    created = users ++ [row] ∧ Fresh users row := by
  rw [createUser] at isCreated
  split at isCreated
  · cases isCreated
  · rename_i free
    refine ⟨(Option.some.inj isCreated).symm, ?_⟩
    intro user member
    simp only [List.any_eq_true, Bool.or_eq_true, beq_iff_eq, not_exists,
      not_and, not_or] at free
    rcases free user member with ⟨⟨id, username⟩, email⟩
    exact ⟨id, username, email⟩

theorem mem_of_rotate_head? {rows : List User} {order : Nat} {row : User}
    (first : (rows.rotate order).head? = some row) : row ∈ rows :=
  List.mem_rotate.mp (List.mem_of_mem_head? first)

end Queries

/-! ## Commands -/

/-- Why `register` answers that a field is taken. -/
inductive Taken (form : Registration) (existing : User) : String → Prop where
  | username :
      existing.username = form.username → Taken form existing "username"
  | email :
      existing.email = form.email → Taken form existing "email"

/-- Every way in which a command can go, with what is known then. -/
inductive Runs
    (outside : Outside) (now : Timestamp) (users : List User) :
    Stage → List User → Stage → Prop where
  | lost {stage : Stage} :
      stage.queries = true →
        Runs outside now users stage users internalError
  | free (form : Registration) :
      Runs outside now users (.findingExisting form) users (.hashing form)
  | taken
      {form : Registration} {existing : User} {field : String} :
      existing ∈ users → Taken form existing field →
        Runs outside now users (.findingExisting form) users
          (alreadyTaken field)
  | hashed (form : Registration) (salt : String) :
      Runs outside now users (.hashing form) users
        (.creating form (outside.hash salt form.password))
  | created
      (answer : Answer) (form : Registration) (hashed : String) :
      Fresh users (registeredRow now answer form hashed) →
        Runs outside now users (.creating form hashed)
          (users ++ [registeredRow now answer form hashed])
          (authenticated outside now 201
            (registeredRow now answer form hashed))
  | createdLost
      (answer : Answer) (form : Registration) (hashed : String) :
      Fresh users (registeredRow now answer form hashed) →
        Runs outside now users (.creating form hashed)
          (users ++ [registeredRow now answer form hashed]) internalError
  | unknown {email : String} (password : Option String) :
      (∀ user ∈ users, user.email ≠ email) →
        Runs outside now users (.findingByEmail email password) users
          invalidCredentials
  | noPassword (email : String) :
      Runs outside now users (.findingByEmail email none) users
        invalidCredentials
  | found {email : String} {row : User} (password : String) :
      row ∈ users → row.email = email →
        Runs outside now users (.findingByEmail email (some password))
          users (.comparing row password)
  | accepted {row : User} {password : String} :
      outside.compare password row.password = true →
        Runs outside now users (.comparing row password) users
          (authenticated outside now 200 row)
  | rejected {row : User} {password : String} :
      outside.compare password row.password = false →
        Runs outside now users (.comparing row password) users
          invalidCredentials
  | noRefresh {userId : UserId} :
      (∀ user ∈ users, user.id ≠ userId) →
        Runs outside now users (.refreshing userId) users userNotFound
  | refreshed {userId : UserId} {row : User} :
      row ∈ users → row.id = userId →
        Runs outside now users (.refreshing userId) users
          (.answered (.token (outside.signToken row.id row.username now)))
  | noUser {userId : UserId} :
      (∀ user ∈ users, user.id ≠ userId) →
        Runs outside now users (.reading userId) users userNotFound
  | read {userId : UserId} {row : User} :
      row ∈ users → row.id = userId →
        Runs outside now users (.reading userId) users
          (.answered (.user (toUserDto row)))
  | updated
      {userId : UserId} {row : User} (displayName : Option String) :
      row ∈ users → row.id = userId →
        Runs outside now users (.updating userId displayName)
          (updateUser users userId displayName)
          (.answered (.user (toUserDto (renamed displayName row))))
  | updatedLost (userId : UserId) (displayName : Option String) :
      Runs outside now users (.updating userId displayName)
        (updateUser users userId displayName) internalError
  | answered (response : Response) :
      Runs outside now users (.answered response) users
        (.answered response)

section Commands

variable (outside : Outside) (now : Timestamp) (users : List User)
  (answer : Answer)

/-- A command whose connection is kept. -/
theorem execute_runs (stage : Stage) :
    Runs outside now users stage
      (execute outside now users answer stage).users
      (execute outside now users answer stage).stage := by
  cases stage with
  | findingExisting form =>
      simp only [execute]
      cases first :
          ((usersByEmailOrUsername users form.email
              form.username).rotate answer.order).head? with
      | none => exact .free form
      | some existing =>
          have member := mem_of_rotate_head? first
          rw [usersByEmailOrUsername, List.mem_filter, Bool.or_eq_true,
            beq_iff_eq, beq_iff_eq] at member
          refine .taken member.1 ?_
          split
          · exact .username ‹_›
          · exact .email (member.2.resolve_right ‹_›)
  | hashing form => exact .hashed form answer.salt
  | creating form hashed =>
      simp only [execute]
      cases created :
          createUser users (registeredRow now answer form hashed) with
      | none => exact .lost rfl
      | some after =>
          rcases createUser_some created with ⟨rfl, fresh⟩
          exact .created answer form hashed fresh
  | findingByEmail email password =>
      simp only [execute]
      cases found : findUserByEmail users email with
      | none => exact .unknown password (findUserByEmail_none found)
      | some row =>
          rcases findUserByEmail_some found with ⟨member, same⟩
          cases password with
          | none => exact .noPassword email
          | some password => exact .found password member same
  | comparing row password =>
      simp only [execute]
      split
      · exact .accepted ‹_›
      · exact .rejected (Bool.eq_false_iff.mpr ‹_›)
  | refreshing userId =>
      simp only [execute]
      cases found : findUserById users userId with
      | none => exact .noRefresh (findUserById_none found)
      | some row =>
          rcases findUserById_some found with ⟨member, same⟩
          exact .refreshed member same
  | reading userId =>
      simp only [execute]
      cases found : findUserById users userId with
      | none => exact .noUser (findUserById_none found)
      | some row =>
          rcases findUserById_some found with ⟨member, same⟩
          exact .read member same
  | updating userId displayName =>
      simp only [execute]
      cases found : findUserById users userId with
      | none => exact .lost rfl
      | some row =>
          rcases findUserById_some found with ⟨member, same⟩
          exact .updated displayName member same
  | answered response => exact .answered response

/-- A command whose answer is lost has run all the same. -/
theorem execute_runs_lost
    {stage : Stage} (queries : stage.queries = true) :
    Runs outside now users stage
      (execute outside now users answer stage).users internalError := by
  cases stage with
  | creating form hashed =>
      simp only [execute]
      cases created :
          createUser users (registeredRow now answer form hashed) with
      | none => exact .lost rfl
      | some after =>
          rcases createUser_some created with ⟨rfl, fresh⟩
          exact .createdLost answer form hashed fresh
  | updating userId displayName =>
      simp only [execute]
      split
      · exact .lost rfl
      · exact .updatedLost userId displayName
  | hashing form => cases queries
  | comparing row password => cases queries
  | answered response => cases queries
  | _ => exact .lost rfl

/-- A command, whatever happens to its connection. -/
theorem runCommand_runs (stage : Stage) :
    Runs outside now users stage
      (runCommand outside now users answer stage).users
      (runCommand outside now users answer stage).stage := by
  rw [runCommand]
  split
  · rename_i queries
    cases answer.connection with
    | kept => exact execute_runs outside now users answer stage
    | lostBefore => exact .lost queries
    | lostAfter => exact execute_runs_lost outside now users answer queries
  · exact execute_runs outside now users answer stage

end Commands

/-! ## First stages -/

/-- The three ways in which a check ends. -/
theorem afterCheck_cases
    (holds : Stage → Prop) {Form : Type}
    {checked : Except TypeError (Except AppError Form)}
    {next : Form → Stage} (internal : holds internalError)
    (invalid :
      ∀ error, checked = .ok (.error error) →
        holds (.answered (.error error)))
    (valid : ∀ form, checked = .ok (.ok form) → holds (next form)) :
    holds (afterCheck checked next) := by
  unfold afterCheck
  split
  · exact internal
  · exact invalid _ rfl
  · exact valid _ rfl

/-- A header with a token that the middleware lets pass. -/
structure Verified
    (outside : Outside) (now : Timestamp) (authorization : Option String)
    (token : String) (payload : JwtPayload) : Prop where
  given : bearerToken authorization = some token
  verifies : outside.verifyToken token now = some payload

/-- The two ways in which the middleware ends. -/
theorem authMiddleware_cases
    (holds : Stage → Prop) {outside : Outside} {now : Timestamp}
    {authorization : Option String} {next : JwtPayload → Stage}
    (refused : ∀ message, holds (.fail 401 "AUTH_REQUIRED" message))
    (passed :
      ∀ token payload, Verified outside now authorization token payload →
        holds (next payload)) :
    holds (authMiddleware outside now authorization next) := by
  unfold authMiddleware
  split
  · exact refused _
  · split
    · exact refused _
    · exact passed _ _ ⟨‹_›, ‹_›⟩

/-- The stages in which a request can begin. -/
inductive Starts (request : Request) : Stage → Prop where
  | findingExisting {body : Json} (form : Registration) :
      request = .register body →
        Starts request (.findingExisting form)
  | findingByEmail (email : String) (password : Option String) :
      Starts request (.findingByEmail email password)
  | refreshing (userId : UserId) : Starts request (.refreshing userId)
  | reading (userId : UserId) : Starts request (.reading userId)
  | updating (userId : UserId) (displayName : Option String) :
      Starts request (.updating userId displayName)
  | refused (error : AppError) :
      Starts request (.answered (.error error))

/-- Every request begins in one of these stages. -/
theorem firstStage_starts
    (outside : Outside) (now : Timestamp) (request : Request) :
    Starts request (firstStage outside now request) := by
  have unauthorized : ∀ message,
      Starts request (.fail 401 "AUTH_REQUIRED" message) :=
    fun message => .refused _
  cases request with
  | register body =>
      exact
        afterCheck_cases (Starts _) (.refused _)
          (fun error _ => .refused error)
          fun form _ => .findingExisting form rfl
  | login body =>
      refine
        afterCheck_cases (Starts _) (.refused _)
          (fun error _ => .refused error) ?_
      rintro ⟨_ | email, password⟩ _
      · exact .refused _
      · exact .findingByEmail email password
  | refresh authorization =>
      refine authMiddleware_cases (Starts _) unauthorized ?_
      intro token payload _
      split
      · exact .refused _
      · exact .refreshing payload.userId
  | getMe authorization =>
      exact
        authMiddleware_cases (Starts _) unauthorized fun _ payload _ =>
          .reading payload.userId
  | updateMe authorization body =>
      exact
        authMiddleware_cases (Starts _) unauthorized fun _ payload _ =>
          afterCheck_cases (Starts _) (.refused _)
            (fun error _ => .refused error)
            fun displayName _ => .updating payload.userId displayName
  | getUserById authorization userId =>
      exact
        authMiddleware_cases (Starts _) unauthorized fun _ _ _ =>
          .reading userId

/-! ## Registrations under way -/

/-- The stages of `register` before its response. -/
def isRegistering : Stage → Bool
  | .findingExisting _ | .hashing _ | .creating _ _ => true
  | _ => false

/-- Only a call of `register` comes to these stages. -/
theorem isRegistering_first
    {outside : Outside} {now : Timestamp} {request : Request}
    (registering : isRegistering (firstStage outside now request) = true) :
    ∃ body, request = .register body := by
  have starts := firstStage_starts outside now request
  generalize firstStage outside now request = stage at starts registering
  cases starts with
  | findingExisting form isRegister => exact ⟨_, isRegister⟩
  | _ => cases registering

/-- They follow each other. -/
theorem isRegistering_of_runs
    {outside : Outside} {now : Timestamp} {users later : List User}
    {stage next : Stage}
    (runs : Runs outside now users stage later next)
    (registering : isRegistering next = true) :
    isRegistering stage = true := by
  cases runs with
  | free form => rfl
  | hashed form salt => rfl
  | _ => cases registering

/-! ## Steps -/

variable {outside : Outside}

/-- What one event does. -/
inductive Steps (outside : Outside) (state : State) : State → Prop where
  | requested (request : Request) :
      Steps outside state
        { state with
          calls :=
            state.calls ++
              [{ request := request
                 stage := firstStage outside state.clock request }] }
  | ran
      {index : Nat} {call : Call} {users : List User} {stage : Stage} :
      state.calls[index]? = some call →
        Runs outside state.clock state.users call.stage users stage →
          Steps outside state
            { state with
              users := users
              calls :=
                state.calls.set index { call with stage := stage } }
  | ticked (elapsed : Nat) :
      Steps outside state
        { state with clock := state.clock + elapsed }
  | idle : Steps outside state state

/-- Every event is one of these steps. -/
theorem step_steps (state : State) (event : Event) :
    Steps outside state (step outside state event) := by
  cases event with
  | request request => exact .requested request
  | proceed index answer =>
      simp only [step]
      cases call : state.calls[index]? with
      | none => exact .idle
      | some found =>
          exact
            .ran call
              (runCommand_runs outside state.clock state.users answer
                found.stage)
  | tick elapsed => exact .ticked elapsed

end ChatBackend.Users.AccountSteps
