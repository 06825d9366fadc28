import ChatBackend.Realtime.PresenceCommands
import ChatBackend.Storage.Schema

/-!
# Lazy clean-up of presence

`isUserOnline` removes a connection from the set of its user when the key of
the connection is gone.  Between the `GET` and the `SREM` other calls run:
registrations, refreshes, other clean-ups, and keys expire.

The clean-up is safe because a connection enters the set after its key was
set, and a key is set once.  So a key that is missing for a member of the set
never comes back.  Calls of any users, from any instances, run command by
command, and a call whose command fails just sends no further ones.
-/

namespace ChatBackend.Realtime.PresenceCleanup

open ChatBackend.Foundation.EventRuns
open ChatBackend.Storage.Schema
open ChatBackend.Realtime.PresenceCommands (Lookup)

/-! ## Redis -/

def presenceTtlSeconds : Nat := 30

structure PresenceKey where
  userId : UserId
  expiresAt : Nat
deriving DecidableEq, Repr

/-- The connection keys, the sets of the users, and what was published. -/
structure Redis where
  keys : ConnectionId → Option PresenceKey := fun _ => none
  connections : UserId → Finset ConnectionId := fun _ => ∅
  published : List (UserId × Bool) := []
  clock : Nat := 0

namespace Redis

variable (redis : Redis) (userId : UserId) (id : ConnectionId)

def set : Redis :=
  { redis with
    keys :=
      Function.update redis.keys id
        (some
          { userId := userId
            expiresAt := redis.clock + presenceTtlSeconds }) }

/-- `EXPIRE` gives an existing key a new end, and creates none. -/
def expire : Redis :=
  { redis with
    keys :=
      Function.update redis.keys id
        ((redis.keys id).map fun key =>
          { key with expiresAt := redis.clock + presenceTtlSeconds }) }

def del : Redis :=
  { redis with keys := Function.update redis.keys id none }

def sAdd : Redis :=
  { redis with
    connections :=
      Function.update redis.connections userId
        (insert id (redis.connections userId)) }

def sRem : Redis :=
  { redis with
    connections :=
      Function.update redis.connections userId
        ((redis.connections userId).erase id) }

def sMembers : Lookup ConnectionId where
  gets := redis.connections userId
  removals := ∅
  online := false

def publishPresence (online : Bool) : Redis :=
  { redis with published := redis.published ++ [(userId, online)] }

/-- Time passes, and keys come to their ends. -/
def elapse (seconds : Nat) : Redis :=
  { redis with
    clock := redis.clock + seconds
    keys := fun id =>
      (redis.keys id).filter fun key =>
        redis.clock + seconds < key.expiresAt }

/-- `GET` of a connection key, whose value is checked for truth. -/
def hasKey : Bool :=
  (redis.keys id).any fun key => key.userId ≠ ""

end Redis

/-- The next command about one member: `get`, then `sRem` without a key. -/
def ask
    (redis : Redis) (userId : UserId) (lookup : Lookup ConnectionId)
    (member : ConnectionId) : Redis × Lookup ConnectionId :=
  if member ∈ lookup.gets then
    if redis.hasKey member then
      (redis,
        { lookup with
          gets := lookup.gets.erase member
          online := true })
    else
      (redis,
        { lookup with
          gets := lookup.gets.erase member
          removals := insert member lookup.removals })
  else if member ∈ lookup.removals then
    (redis.sRem userId member,
      { lookup with removals := lookup.removals.erase member })
  else (redis, lookup)

/-! ## Calls -/

inductive Request where
  | registerPresence (userId : UserId) (connectionId : ConnectionId)
  | refreshPresence (connectionId : ConnectionId)
  | unregisterPresence (userId : UserId) (connectionId : ConnectionId)
  | isUserOnline (userId : UserId)
deriving DecidableEq, Repr

/-- The command that a call waits for, or what it returned. -/
inductive Stage where
  | refreshing
  | deleting
  | removing
  | asking
  | looking (lookup : Lookup ConnectionId)
  | adding (wasOnline : Bool)
  | publishing
  | returned (value : Bool)
deriving DecidableEq

structure Call where
  request : Request
  stage : Stage
deriving DecidableEq

def Request.firstStage : Request → Stage
  | .registerPresence _ _ => .asking
  | .refreshPresence _ => .refreshing
  | .unregisterPresence _ _ => .deleting
  | .isUserOnline _ => .asking

/-- The user that a call asks `isUserOnline` about. -/
def Request.askedUser : Request → Option UserId
  | .registerPresence userId _ => some userId
  | .refreshPresence _ => none
  | .unregisterPresence userId _ => some userId
  | .isUserOnline userId => some userId

/-- The next command of `registerPresence`. -/
def registerPresence
    (redis : Redis) (userId : UserId) (connectionId : ConnectionId) :
    Stage → Redis × Stage
  | .asking => (redis, .looking (redis.sMembers userId))
  | .looking lookup =>
      if lookup.finished then
        (redis.set userId connectionId, .adding lookup.online)
      else (redis, .looking lookup)
  | .adding wasOnline =>
      (redis.sAdd userId connectionId,
        if wasOnline then .returned false else .publishing)
  | .publishing => (redis.publishPresence userId true, .returned true)
  | stage => (redis, stage)

/-- The next command of `unregisterPresence`. -/
def unregisterPresence
    (redis : Redis) (userId : UserId) (connectionId : ConnectionId) :
    Stage → Redis × Stage
  | .deleting => (redis.del connectionId, .removing)
  | .removing => (redis.sRem userId connectionId, .asking)
  | .asking => (redis, .looking (redis.sMembers userId))
  | .looking lookup =>
      if lookup.finished then
        (redis, if lookup.online then .returned false else .publishing)
      else (redis, .looking lookup)
  | .publishing => (redis.publishPresence userId false, .returned true)
  | stage => (redis, stage)

def isUserOnline (redis : Redis) (userId : UserId) :
    Stage → Redis × Stage
  | .asking => (redis, .looking (redis.sMembers userId))
  | .looking lookup =>
      if lookup.finished then (redis, .returned lookup.online)
      else (redis, .looking lookup)
  | stage => (redis, stage)

/-- The one command of `refreshPresence`. -/
def refreshPresence (redis : Redis) (connectionId : ConnectionId) :
    Stage → Redis × Stage
  | .refreshing => (redis.expire connectionId, .returned false)
  | stage => (redis, stage)

def runCommand (redis : Redis) (call : Call) : Redis × Stage :=
  match call.request with
  | .registerPresence userId connectionId =>
      registerPresence redis userId connectionId call.stage
  | .refreshPresence connectionId =>
      refreshPresence redis connectionId call.stage
  | .unregisterPresence userId connectionId =>
      unregisterPresence redis userId connectionId call.stage
  | .isUserOnline userId => isUserOnline redis userId call.stage

/-- A command of `isUserOnline` about one member. -/
def runLookup
    (redis : Redis) (call : Call) (member : ConnectionId) :
    Redis × Stage :=
  match call.request.askedUser, call.stage with
  | some userId, .looking lookup =>
      let asked := ask redis userId lookup member
      (asked.1, .looking asked.2)
  | _, stage => (redis, stage)

/-! ## Runs -/

structure State where
  redis : Redis := {}
  calls : List Call := []

inductive Event where
  | call (request : Request)
  | command (index : Nat)
  | lookup (index : Nat) (member : ConnectionId)
  | expire (connectionId : ConnectionId)
  | elapse (seconds : Nat)
deriving DecidableEq, Repr

/-- A call has run a command, and waits for the next one. -/
def State.proceed
    (state : State) (index : Nat) (call : Call)
    (outcome : Redis × Stage) : State where
  redis := outcome.1
  calls := state.calls.set index { call with stage := outcome.2 }

def step (state : State) : Event → State
  | .call request =>
      { state with
        calls :=
          state.calls ++
            [{ request := request, stage := request.firstStage }] }
  | .command index =>
      match state.calls[index]? with
      | none => state
      | some call =>
          state.proceed index call (runCommand state.redis call)
  | .lookup index member =>
      match state.calls[index]? with
      | none => state
      | some call =>
          state.proceed index call (runLookup state.redis call member)
  | .expire connectionId =>
      { state with redis := state.redis.del connectionId }
  | .elapse seconds =>
      { state with redis := state.redis.elapse seconds }

/-- The state after a list of events on an empty Redis. -/
def reached (events : List Event) : State :=
  run step {} events

def Event.request : Event → Option Request
  | .call request => some request
  | _ => none

/-- The connection that a call of `registerPresence` is about. -/
def Request.registered : Request → Option ConnectionId
  | .registerPresence _ connectionId => some connectionId
  | _ => none

/-- Connections are registered once, for users that have an id. -/
structure RegisteredOnce (requests : List Request) : Prop where
  once : (requests.filterMap Request.registered).Nodup
  named :
    ∀ userId connectionId,
      .registerPresence userId connectionId ∈ requests → userId ≠ ""

/-- The event is an `SREM` of a clean-up. -/
def Removes
    (state : State) (event : Event) (userId : UserId)
    (member : ConnectionId) : Prop :=
  ∃ index call lookup,
    event = .lookup index member ∧ state.calls[index]? = some call ∧
      call.request.askedUser = some userId ∧
        call.stage = .looking lookup ∧ member ∉ lookup.gets ∧
          member ∈ lookup.removals

/-- `isUserOnline` of the call has set `online`, or has returned it. -/
def SaysOnline (call : Call) (userId : UserId) : Prop :=
  call.request.askedUser = some userId ∧
    ((∃ lookup, call.stage = .looking lookup ∧ lookup.online = true) ∨
      call.request = .isUserOnline userId ∧ call.stage = .returned true)

/-- A key of the user exists while the call is in `isUserOnline`. -/
def KeyDuring (redis : Redis) (call : Call) (userId : UserId) : Prop :=
  (∃ lookup, call.stage = .looking lookup) ∧
    ∃ id key, redis.keys id = some key ∧ key.userId = userId

end ChatBackend.Realtime.PresenceCleanup
