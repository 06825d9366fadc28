import ChatBackend.Chats.ChatQueries
import ChatBackend.Foundation.EventRuns
import ChatBackend.Users.AccountRules

/-!
# Accounts

The calls of the user service, each of which goes from one awaited command to
the next while other calls run in between.  `register` looks for a user with
the same email or username, hashes the password and creates the user; only
the unique keys of the table protect it from another registration.

`Outside` is what the service uses of its libraries: the hash of passwords,
the signature of tokens, and the text of a number.
-/

namespace ChatBackend.Users.AccountCalls

open ChatBackend.Foundation.EventRuns
open ChatBackend.Storage.Schema
open ChatBackend.Realtime.ServerFrames
open ChatBackend.Chats.ChatQueries
open ChatBackend.Chats.ChatReads
open ChatBackend.Wire.EventTexts
open ChatBackend.Users.AccountRules

/-! ## Libraries -/

/-- The fields of a token. -/
structure JwtPayload where
  userId : UserId
  username : String
deriving DecidableEq, Repr

/-- The functions of the libraries; the first text of `hash` is the salt. -/
structure Outside where
  hash : String → String → String
  compare : String → String → Bool
  signToken : UserId → String → Timestamp → String
  verifyToken : String → Timestamp → Option JwtPayload
  numberText : String → String

/-! ## Requests -/

/-- The requests of the routes, with what they read of the header and the
body. -/
inductive Request where
  | register (body : Json)
  | login (body : Json)
  | refresh (authorization : Option String)
  | getMe (authorization : Option String)
  | updateMe (authorization : Option String) (body : Json)
  | getUserById (authorization : Option String) (userId : UserId)

/-- What a route answers. -/
inductive Response where
  | error (error : AppError)
  | auth (statusCode : Nat) (token : String) (user : UserDto)
  | token (token : String)
  | user (user : UserDto)
deriving DecidableEq, Repr

/-- The command that a call waits for, or its response. -/
inductive Stage where
  | findingExisting (form : Registration)
  | hashing (form : Registration)
  | creating (form : Registration) (hashed : String)
  | findingByEmail (email : String) (password : Option String)
  | comparing (row : User) (password : String)
  | refreshing (userId : UserId)
  | reading (userId : UserId)
  | updating (userId : UserId) (displayName : Option String)
  | answered (response : Response)

/-- A request that is being answered, or has been. -/
structure Call where
  request : Request
  stage : Stage

/-- Answer with an error. -/
def Stage.fail (statusCode : Nat) (code message : String) : Stage :=
  .answered
    (.error
      { statusCode := statusCode, code := code, message := message })

/-- What the error middleware answers to anything but an `AppError`. -/
def internalError : Stage :=
  .fail 500 "INTERNAL" "Internal server error"

/-- The one error of a login that fails. -/
def invalidCredentials : Stage :=
  .fail 401 "AUTH_REQUIRED" "Invalid email or password"

/-- The error for an id without a user. -/
def userNotFound : Stage :=
  .fail 404 "NOT_FOUND" "User not found"

/-- The error of `register` for a field in use. -/
def alreadyTaken (field : String) : Stage :=
  .fail 409 "CONFLICT" (field ++ " already taken")

/-! ## Authorization -/

/-- `authHeader.split(' ')[1]` of a header that starts with `Bearer `. -/
def bearerToken (authorization : Option String) : Option String := do
  let header ← truthy authorization
  if "Bearer ".toList.isPrefixOf header.toList then
    some
      (String.ofList
        ((header.toList.drop "Bearer ".length).takeWhile (· != ' ')))
  else none

/-- Go on with the payload of a valid token. -/
def authMiddleware
    (outside : Outside) (now : Timestamp)
    (authorization : Option String) (next : JwtPayload → Stage) : Stage :=
  match bearerToken authorization with
  | none => .fail 401 "AUTH_REQUIRED" "Missing or invalid token"
  | some token =>
      match outside.verifyToken token now with
      | none => .fail 401 "AUTH_REQUIRED" "Token expired or invalid"
      | some payload => next payload

/-! ## First stages -/

/-- Go on with what a check has read; an error of JavaScript is internal. -/
def afterCheck
    {Form : Type} (checked : Except TypeError (Except AppError Form))
    (next : Form → Stage) : Stage :=
  match checked with
  | .error _ => internalError
  | .ok (.error error) => .answered (.error error)
  | .ok (.ok form) => next form

/-- The email, and the password if it is a string, of a login. -/
def checkLogin
    (body : Json) :
    Except TypeError (Except AppError (Option String × Option String)) := do
  let email ← body.field "email"
  let password ← body.field "password"
  if !isTruthy email || !isTruthy password then
    return .error (validationFailed "email and password are required")
  else return .ok (text email, text password)

/-- What a request does before its first command. -/
def firstStage (outside : Outside) (now : Timestamp) : Request → Stage
  | .register body => afterCheck (checkRegistration body) .findingExisting
  | .login body =>
      afterCheck (checkLogin body) fun
        | (none, _) => invalidCredentials
        | (some email, password) => .findingByEmail email password
  | .refresh authorization =>
      authMiddleware outside now authorization fun payload =>
        if payload.userId = "" ∨ payload.username = "" then
          .fail 401 "AUTH_REQUIRED" "Invalid token payload"
        else .refreshing payload.userId
  | .getMe authorization =>
      authMiddleware outside now authorization fun payload =>
        .reading payload.userId
  | .updateMe authorization body =>
      authMiddleware outside now authorization fun payload =>
        afterCheck (checkProfile outside.numberText body)
          (.updating payload.userId)
  | .getUserById authorization userId =>
      authMiddleware outside now authorization fun _ => .reading userId

/-! ## Queries -/

/-- `user.findUnique` by the primary key. -/
def findUserById (users : List User) (id : UserId) : Option User :=
  users.find? fun user => user.id == id

/-- `user.findUnique` by the email. -/
def findUserByEmail (users : List User) (email : String) : Option User :=
  users.find? fun user => user.email == email

/-- The rows of `findFirst` with `OR`, which come in any order. -/
def usersByEmailOrUsername
    (users : List User) (email username : String) : List User :=
  users.filter fun user =>
    user.email == email || user.username == username

/-- `user.create`, unless a unique key is taken. -/
def createUser (users : List User) (row : User) : Option (List User) :=
  if users.any fun user =>
      user.id == row.id || user.username == row.username ||
        user.email == row.email then
    none
  else some (users ++ [row])

/-- The row of `user.update`; without a display name it stays as it is. -/
def renamed (displayName : Option String) (user : User) : User :=
  { user with displayName := displayName.getD user.displayName }

/-- The table after `user.update`. -/
def updateUser
    (users : List User) (id : UserId) (displayName : Option String) :
    List User :=
  users.map fun user =>
    if user.id = id then renamed displayName user else user

/-! ## Commands -/

/-- What a command gets from outside. -/
structure Answer where
  connection : Connection := .kept
  /-- By how many rows the result is rotated. -/
  order : Nat := 0
  uuid : UserId := ""
  salt : String := ""
deriving DecidableEq, Repr

/-- The table after a command, and how its call goes on. -/
structure Outcome where
  users : List User
  stage : Stage

variable (outside : Outside) (now : Timestamp) (users : List User)
  (answer : Answer)

/-- The row that `createUser` inserts. -/
def registeredRow (form : Registration) (hashed : String) : User where
  id := answer.uuid
  username := form.username
  displayName := form.displayName
  email := form.email
  password := hashed
  createdAt := now

/-- `register` after its first query. -/
def afterExisting (form : Registration) : Option User → Stage
  | none => .hashing form
  | some existing =>
      alreadyTaken
        (if existing.username = form.username then "username" else "email")

/-- `toUserDto` with a new token. -/
def authenticated (statusCode : Nat) (row : User) : Stage :=
  .answered
    (.auth statusCode (outside.signToken row.id row.username now)
      (toUserDto row))

/-- `login` after its query. -/
def afterCredentials (password : Option String) : Option User → Stage
  | none => invalidCredentials
  | some row =>
      match password with
      | none => invalidCredentials
      | some password => .comparing row password

/-- One command, when its connection is kept. -/
def execute : Stage → Outcome
  | .findingExisting form =>
      { users := users
        stage :=
          afterExisting form
            ((usersByEmailOrUsername users form.email
                form.username).rotate answer.order).head? }
  | .hashing form =>
      { users := users
        stage := .creating form (outside.hash answer.salt form.password) }
  | .creating form hashed =>
      let row := registeredRow now answer form hashed
      match createUser users row with
      | none => { users := users, stage := internalError }
      | some created =>
          { users := created, stage := authenticated outside now 201 row }
  | .findingByEmail email password =>
      { users := users
        stage := afterCredentials password (findUserByEmail users email) }
  | .comparing row password =>
      { users := users
        stage :=
          if outside.compare password row.password then
            authenticated outside now 200 row
          else invalidCredentials }
  | .refreshing userId =>
      { users := users
        stage :=
          match findUserById users userId with
          | none => userNotFound
          | some row =>
              .answered
                (.token (outside.signToken row.id row.username now)) }
  | .reading userId =>
      { users := users
        stage :=
          match findUserById users userId with
          | none => userNotFound
          | some row => .answered (.user (toUserDto row)) }
  | .updating userId displayName =>
      match findUserById users userId with
      | none => { users := users, stage := internalError }
      | some row =>
          { users := updateUser users userId displayName
            stage :=
              .answered (.user (toUserDto (renamed displayName row))) }
  | .answered response => { users := users, stage := .answered response }

/-- Whether a stage waits for the database. -/
def Stage.queries : Stage → Bool
  | .hashing _ | .comparing _ _ | .answered _ => false
  | _ => true

/-- One command, whatever happens to its connection. -/
def runCommand (stage : Stage) : Outcome :=
  if stage.queries then
    match answer.connection with
    | .kept => execute outside now users answer stage
    | .lostBefore => { users := users, stage := internalError }
    | .lostAfter =>
        { users := (execute outside now users answer stage).users
          stage := internalError }
  else execute outside now users answer stage

/-! ## The service -/

/-- The table of users, the clock, and all calls so far. -/
structure State where
  users : List User := []
  clock : Timestamp := 0
  calls : List Call := []

/-- A new request, the next command of a call, or time that passes. -/
inductive Event where
  | request (request : Request)
  | proceed (index : Nat) (answer : Answer)
  | tick (elapsed : Nat)

/-- One event. -/
def step (state : State) : Event → State
  | .request request =>
      { state with
        calls :=
          state.calls ++
            [{ request := request
               stage := firstStage outside state.clock request }] }
  | .proceed index answer =>
      match state.calls[index]? with
      | none => state
      | some call =>
          let outcome :=
            runCommand outside state.clock state.users answer call.stage
          { state with
            users := outcome.users
            calls :=
              state.calls.set index
                { call with stage := outcome.stage } }
  | .tick elapsed => { state with clock := state.clock + elapsed }

/-- The state after some events, from no accounts. -/
def reached (clock : Timestamp) (events : List Event) : State :=
  run (step outside) { clock := clock } events

end ChatBackend.Users.AccountCalls
