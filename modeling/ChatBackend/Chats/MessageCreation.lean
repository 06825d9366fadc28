import ChatBackend.Chats.ChatReads
import ChatBackend.Realtime.ServerFrames
import ChatBackend.Services.Transitions
import Mathlib.Algebra.GroupWithZero.Nat

/-!
# Sending messages over REST

`createMessage` as a call which goes from command to command, beside other
calls and the message writer.  A call with a request id looks into the cache
first, then creates the row, and reads the row of another call or of the
writer when the unique key of the request is taken.

A call also keeps what it did to the outside: the numbers that its
transaction took from the rooms, and the events that went out.
-/

namespace ChatBackend.Chats.MessageCreation

open ChatBackend.Foundation.EventRuns
open ChatBackend.Storage.Schema
open ChatBackend.Storage.SequenceMigration
open ChatBackend.Writer.BatchTransaction
open ChatBackend.Writer.OutboxDrain
open ChatBackend.Realtime.ServerFrames
open ChatBackend.Services.Transitions
open ChatBackend.Chats.ChatQueries
open ChatBackend.Chats.ChatReads
open ChatBackend.Chats.MessageRows

/-! ## Calls -/

/-- The body of the request; a body that is no string is none. -/
structure CreateMessageInput where
  senderId : UserId
  chatId : RoomId
  body : Option String
  requestId : Option String := none
deriving DecidableEq, Repr

/-- Whether there are clients for Redis, and where the request is from. -/
structure CreateMessageDependencies where
  redis : Bool := true
  publisher : Bool := true
  originConnectionId : Option ConnectionId := none
deriving DecidableEq, Repr

inductive CreateMessageFailure where
  | app (error : AppError)
  | database (failure : Failure)
deriving DecidableEq, Repr

/-- The command that a call waits for, or how it ended. -/
inductive Stage where
  | findingMembership
  | readingCache (requestId : String)
  | creatingRow
  | findingDuplicate (requestId : String)
  | updatingLastMessageAt (message : Message)
  | caching
      (requestId : String) (message : MessageDto)
      (recoveredDuplicate : Bool)
  | publishing (message : MessageDto)
  | returned (message : MessageDto)
  | failed (failure : CreateMessageFailure)
deriving DecidableEq, Repr

structure Call where
  input : CreateMessageInput
  deps : CreateMessageDependencies
  stage : Stage
  numbers : Nat := 0
  published : List RoomEvent := []
deriving DecidableEq, Repr

def bodyRequired : AppError where
  statusCode := 400
  code := "VALIDATION_FAILED"
  message := "body is required"

/-- What the call checks before its first command. -/
def firstStage (input : CreateMessageInput) : Stage :=
  match input.body with
  | none => .failed (.app bodyRequired)
  | some body =>
      if trim body = "" then .failed (.app bodyRequired)
      else .findingMembership

def CreateMessageInput.row
    (input : CreateMessageInput) : CreateMessageRowInput where
  senderId := input.senderId
  roomId := input.chatId
  content := trim (input.body.getD "")
  requestId := input.requestId

/-- Prisma's `P2002`, whichever unique key it is about. -/
def isUniqueRequestIdError : Failure → Bool
  | .uniqueViolation _ => true
  | _ => false

def messageIdempotencyKey (senderId requestId : String) : String :=
  "idempotency:message:" ++ senderId ++ ":" ++ requestId

/-- The request id under which a call uses the cache, if it does. -/
def cachedRequest
    (input : CreateMessageInput) (deps : CreateMessageDependencies) :
    Option String :=
  if deps.redis then truthy input.requestId else none

def afterMembership
    (input : CreateMessageInput) (deps : CreateMessageDependencies)
    (membership : Option RoomMember) : Stage :=
  match membership with
  | none => .failed (.app notAMember)
  | some _ =>
      match cachedRequest input deps with
      | none => .creatingRow
      | some requestId => .readingCache requestId

/-- The end of the call after the cache, with the event unless recovered. -/
def afterCache
    (deps : CreateMessageDependencies) (message : MessageDto)
    (recoveredDuplicate : Bool) : Stage :=
  if !recoveredDuplicate && deps.publisher then .publishing message
  else .returned message

/-- What is left when the row and its time are there. -/
def afterRow
    (input : CreateMessageInput) (deps : CreateMessageDependencies)
    (message : Message) (recoveredDuplicate : Bool) : Stage :=
  match cachedRequest input deps with
  | none => afterCache deps (toMessageDto message) recoveredDuplicate
  | some requestId =>
      .caching requestId (toMessageDto message) recoveredDuplicate

def afterFailure (input : CreateMessageInput) (failure : Failure) : Stage :=
  match truthy input.requestId with
  | none => .failed (.database failure)
  | some requestId =>
      if isUniqueRequestIdError failure then .findingDuplicate requestId
      else .failed (.database failure)

def roomMessageEvent
    (message : MessageDto) (originConnectionId : Option ConnectionId) :
    RoomEvent where
  channel := roomEventChannel message.chatId
  roomId := message.chatId
  message := message
  originConnectionId := truthy originConnectionId

/-! ## Commands -/

/-- The entries of the cache that have not expired. -/
abbrev Cache := List (String × MessageDto)

def Cache.get (cache : Cache) (key : String) : Option MessageDto :=
  (cache.find? fun entry => entry.1 == key).map Prod.snd

def Cache.remove (cache : Cache) (key : String) : Cache :=
  cache.filter fun entry => entry.1 != key

def Cache.set (cache : Cache) (key : String) (message : MessageDto) :
    Cache :=
  (key, message) :: cache.remove key

theorem Cache.get_remove (cache : Cache) (key wanted : String) :
    (cache.remove key).get wanted =
      if wanted = key then none else cache.get wanted := by
  simp only [Cache.get, Cache.remove, List.find?_filter]
  split
  case isTrue same =>
      subst same
      rw [Option.map_eq_none_iff, List.find?_eq_none]
      simp
  case isFalse different =>
      congr 2
      funext entry
      by_cases found : entry.1 = wanted
      · simp [found, different]
      · simp [found]

theorem Cache.get_set
    (cache : Cache) (key wanted : String) (message : MessageDto) :
    (cache.set key message).get wanted =
      if wanted = key then some message else cache.get wanted := by
  split
  case isTrue same =>
      subst same
      simp [Cache.get, Cache.set]
  case isFalse different =>
      have others := Cache.get_remove cache key wanted
      rw [if_neg different] at others
      rw [← others, Cache.get, Cache.set,
        List.find?_cons_of_neg (by simpa using Ne.symm different)]
      rfl

/-- What holds of all cached messages and of one more holds after it. -/
theorem Cache.holds_set
    {cache : Cache} {message : MessageDto} {holds : MessageDto → Prop}
    (cached :
      ∀ key other, cache.get key = some other → holds other)
    (new : holds message) {key : String} :
    ∀ wanted other,
      (cache.set key message).get wanted = some other → holds other := by
  intro wanted other hit
  rw [Cache.get_set] at hit
  split at hit
  · cases hit
    exact new
  · exact cached wanted other hit

structure Answer where
  connection : Connection := .kept
  uuid : MessageId := ""
deriving DecidableEq, Repr

/-- How many numbers all rooms have given out. -/
def numbersGiven (db : Database) : Nat :=
  (db.rooms.map Room.nextMessageSeq).sum

structure Outcome where
  database : Database
  cache : Cache
  call : Call
deriving DecidableEq, Repr

variable (now : Timestamp) (db : Database) (cache : Cache) (call : Call)
  (answer : Answer)

def Call.fail (call : Call) (failure : Failure) : Call :=
  { call with stage := .failed (.database failure) }

/-- A query: a failure of its connection ends the call. -/
def readDatabase (next : Stage) : Outcome where
  database := db
  cache := cache
  call :=
    if answer.connection = .kept then { call with stage := next }
    else call.fail .unavailable

/-- The transaction of `createMessageRow`. -/
def runCreateMessageRow : Outcome :=
  if answer.connection = .lostBefore then
    { database := db, cache := cache, call := call.fail .unavailable }
  else
    match createMessageRow answer.uuid now db call.input.row with
    | .ok (committed, some message) =>
        { database := committed
          cache := cache
          call :=
            { call with
              stage :=
                if answer.connection = .kept then
                  .updatingLastMessageAt message
                else .failed (.database .unavailable)
              numbers :=
                call.numbers +
                  (numbersGiven committed - numbersGiven db) } }
    | .ok (committed, none) =>
        { database := committed
          cache := cache
          call := call.fail .messageNotFound }
    | .error failure =>
        readDatabase db cache call answer
          (afterFailure call.input failure)

def runUpdateLastMessageAt (message : Message) : Outcome :=
  if answer.connection = .lostBefore then
    { database := db, cache := cache, call := call.fail .unavailable }
  else
    { database :=
        updateLastMessageAt db call.input.chatId message.createdAt
      cache := cache
      call :=
        if answer.connection = .kept then
          { call with
            stage := afterRow call.input call.deps message false }
        else call.fail .unavailable }

/-- One command of a call; errors of Redis are swallowed. -/
def runCommand : Outcome :=
  match call.stage with
  | .findingMembership =>
      readDatabase db cache call answer
        (afterMembership call.input call.deps
          (findRoomMembership db call.input.senderId
            call.input.chatId))
  | .readingCache requestId =>
      { database := db
        cache := cache
        call :=
          { call with
            stage :=
              if answer.connection = .kept then
                match
                  cache.get
                    (messageIdempotencyKey call.input.senderId
                      requestId)
                with
                | none => .creatingRow
                | some cached => .returned cached
              else .creatingRow } }
  | .creatingRow => runCreateMessageRow now db cache call answer
  | .findingDuplicate requestId =>
      readDatabase db cache call answer
        (match
            findMessageByRequestId db call.input.senderId requestId
          with
          | none => .failed (.database .recordNotFound)
          | some message => afterRow call.input call.deps message true)
  | .updatingLastMessageAt message =>
      runUpdateLastMessageAt db cache call answer message
  | .caching requestId message recoveredDuplicate =>
      { database := db
        cache :=
          if answer.connection = .lostBefore then cache
          else
            cache.set
              (messageIdempotencyKey call.input.senderId requestId)
              message
        call :=
          { call with
            stage := afterCache call.deps message recoveredDuplicate } }
  | .publishing message =>
      { database := db
        cache := cache
        call :=
          { call with
            stage := .returned message
            published :=
              if answer.connection = .lostBefore then call.published
              else
                call.published ++
                  [roomMessageEvent message
                    call.deps.originConnectionId] } }
  | .returned _ | .failed _ =>
      { database := db, cache := cache, call := call }

/-! ## The system -/

structure RestState where
  service : ServiceState
  cache : Cache := []
  calls : List Call := []
deriving DecidableEq, Repr

/-- The writer, the drains and the clock, but not the REST interface. -/
def isWriter : Services.Transitions.Event → Bool
  | .createMessageRow _ _ | .updateLastMessageAt _ _ => false
  | _ => true

inductive Event where
  | writer (event : Services.Transitions.Event)
  | call (input : CreateMessageInput) (deps : CreateMessageDependencies)
  | command (index : Nat) (answer : Answer)
  | expire (key : String)
deriving DecidableEq, Repr

def step
    (engine : Engine) (state : RestState) : Event → RestState
  | .writer event =>
      if isWriter event then
        { state with
          service :=
            Services.Transitions.step engine state.service event }
      else state
  | .call input deps =>
      { state with
        calls :=
          state.calls ++
            [{ input := input
               deps := deps
               stage := firstStage input }] }
  | .command index answer =>
      match state.calls[index]? with
      | none => state
      | some call =>
          let outcome :=
            runCommand state.service.clock state.service.database
              state.cache call answer
          { service :=
              { state.service with database := outcome.database }
            cache := outcome.cache
            calls := state.calls.set index outcome.call }
  | .expire key =>
      { state with
        cache := state.cache.remove key }

/-- The state after a list of events from the migrated tables. -/
def reached
    (engine : Engine) (legacy : LegacyTables) (clock : Timestamp)
    (events : List Event) : RestState :=
  run (step engine)
    { service := Services.Transitions.initial engine legacy clock }
    events

end ChatBackend.Chats.MessageCreation
