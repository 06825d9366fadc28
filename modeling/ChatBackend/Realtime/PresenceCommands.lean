import ChatBackend.Foundation.EventRuns
import Mathlib.Data.Finset.Basic
import Mathlib.Data.Fintype.Basic

/-!
# The Redis commands of presence

`registerPresence` and `unregisterPresence` keep, for one user, the set of
connection ids and one key per connection.  Both ask `isUserOnline` between
their own commands, which reads the set, then the key of every member, and
removes the members without a key.

The connections of the user live on any number of instances.  Each of them
is set up and closed once, under an id of its own, and every Redis command is
one event.  Keys of open connections are refreshed before they expire; a key
that is left behind by a closed connection may expire at any time.
-/

namespace ChatBackend.Realtime.PresenceCommands

variable {Id : Type} [DecidableEq Id]

/-! ## Redis -/

/-- What Redis holds for the user, and the `online` fields published. -/
structure Redis (Id : Type) where
  connectionKeys : Finset Id := ∅
  userConnections : Finset Id := ∅
  published : List Bool := []

def Redis.set (redis : Redis Id) (id : Id) : Redis Id :=
  { redis with connectionKeys := insert id redis.connectionKeys }

/-- `DEL` of a connection key, and its expiry. -/
def Redis.del (redis : Redis Id) (id : Id) : Redis Id :=
  { redis with connectionKeys := redis.connectionKeys.erase id }

def Redis.sAdd (redis : Redis Id) (id : Id) : Redis Id :=
  { redis with userConnections := insert id redis.userConnections }

def Redis.sRem (redis : Redis Id) (id : Id) : Redis Id :=
  { redis with userConnections := redis.userConnections.erase id }

def Redis.publish (redis : Redis Id) (online : Bool) : Redis Id :=
  { redis with published := redis.published ++ [online] }

/-! ## Asking whether the user is online -/

/-- `isUserOnline` after `sMembers`: the commands it still has to send. -/
structure Lookup (Id : Type) where
  gets : Finset Id
  removals : Finset Id
  online : Bool
deriving DecidableEq

def Redis.sMembers (redis : Redis Id) : Lookup Id where
  gets := redis.userConnections
  removals := ∅
  online := false

/-- All commands were answered: `Promise.all` resolves. -/
def Lookup.finished (lookup : Lookup Id) : Bool :=
  lookup.gets = ∅ ∧ lookup.removals = ∅

/-- The next command about one member: `get`, then `sRem` without a key. -/
def Lookup.ask
    (redis : Redis Id) (lookup : Lookup Id) (member : Id) :
    Redis Id × Lookup Id :=
  if member ∈ lookup.gets then
    if member ∈ redis.connectionKeys then
      (redis,
        { lookup with
          gets := lookup.gets.erase member
          online := true })
    else
      (redis,
        { lookup with
          gets := lookup.gets.erase member
          removals := insert member lookup.removals })
  else if member ∈ lookup.removals then
    (redis.sRem member,
      { lookup with removals := lookup.removals.erase member })
  else (redis, lookup)

/-! ## Connections -/

/-- The setup of a connection: its queries, then `registerPresence`. -/
inductive Setup (Id : Type) where
  | absent
  | querying
  | loading
  | checking (lookup : Lookup Id)
  | adding (wasOnline : Bool)
  | publishing
  | registered
  | skipped
deriving DecidableEq

/-- The socket is open, or closed and in `unregisterPresence`. -/
inductive Closing (Id : Type) where
  | opened
  | deleting
  | removing
  | asking
  | checking (lookup : Lookup Id)
  | finished
deriving DecidableEq

structure State (Id : Type) where
  redis : Redis Id
  setup : Id → Setup Id
  closing : Id → Closing Id

/-- No connection and no event yet. -/
def State.start : State Id where
  redis := {}
  setup := fun _ => .absent
  closing := fun _ => .opened

def State.withSetup
    (state : State Id) (redis : Redis Id) (id : Id) (setup : Setup Id) :
    State Id :=
  { state with
    redis := redis
    setup := Function.update state.setup id setup }

def State.withClosing
    (state : State Id) (redis : Redis Id) (id : Id)
    (closing : Closing Id) : State Id :=
  { state with
    redis := redis
    closing := Function.update state.closing id closing }

section Updates

variable (state : State Id) (redis : Redis Id) (id other : Id)
  (setup : Setup Id) (closing : Closing Id)

@[simp, grind =]
theorem State.withSetup_redis :
    (state.withSetup redis id setup).redis = redis :=
  rfl

@[simp, grind =]
theorem State.withSetup_setup :
    (state.withSetup redis id setup).setup other =
      if other = id then setup else state.setup other :=
  Function.update_apply state.setup id setup other

@[simp, grind =]
theorem State.withSetup_closing :
    (state.withSetup redis id setup).closing = state.closing :=
  rfl

@[simp, grind =]
theorem State.withClosing_redis :
    (state.withClosing redis id closing).redis = redis :=
  rfl

@[simp, grind =]
theorem State.withClosing_setup :
    (state.withClosing redis id closing).setup = state.setup :=
  rfl

@[simp, grind =]
theorem State.withClosing_closing :
    (state.withClosing redis id closing).closing other =
      if other = id then closing else state.closing other :=
  Function.update_apply state.closing id closing other

end Updates

inductive Event (Id : Type) where
  | connect (id : Id) (preloadRoomsOnConnect : Bool)
  | setup (id : Id)
  | setupLookup (id member : Id)
  | close (id : Id)
  | unregister (id : Id)
  | unregisterLookup (id member : Id)
  | expire (id : Id)

/-- Without room preloading the setup registers at once. -/
def connect
    (state : State Id) (id : Id) (preloadRoomsOnConnect : Bool) :
    State Id :=
  match state.setup id with
  | .absent =>
      state.withSetup state.redis id
        (if preloadRoomsOnConnect then .querying else .loading)
  | _ => state

/-- The next await of the setup, or the next command of its register. -/
def setup (state : State Id) (id : Id) : State Id :=
  match state.setup id with
  | .querying =>
      -- the guard after the first query; nothing checks again later
      match state.closing id with
      | .opened => state.withSetup state.redis id .loading
      | _ => state.withSetup state.redis id .skipped
  | .loading =>
      state.withSetup state.redis id (.checking state.redis.sMembers)
  | .checking lookup =>
      if lookup.finished then
        state.withSetup (state.redis.set id) id (.adding lookup.online)
      else state
  | .adding wasOnline =>
      state.withSetup (state.redis.sAdd id) id
        (if wasOnline then .registered else .publishing)
  | .publishing =>
      state.withSetup (state.redis.publish true) id .registered
  | .absent => state
  | .registered => state
  | .skipped => state

def setupLookup (state : State Id) (id member : Id) : State Id :=
  match state.setup id with
  | .checking lookup =>
      let (redis, next) := lookup.ask state.redis member
      state.withSetup redis id (.checking next)
  | _ => state

def close (state : State Id) (id : Id) : State Id :=
  match state.setup id, state.closing id with
  | .absent, _ => state
  | _, .opened => state.withClosing state.redis id .deleting
  | _, _ => state

/-- The next command of `unregisterPresence`. -/
def unregister (state : State Id) (id : Id) : State Id :=
  match state.closing id with
  | .deleting => state.withClosing (state.redis.del id) id .removing
  | .removing => state.withClosing (state.redis.sRem id) id .asking
  | .asking =>
      state.withClosing state.redis id (.checking state.redis.sMembers)
  | .checking lookup =>
      if lookup.finished then
        state.withClosing
          (if lookup.online then state.redis
            else state.redis.publish false)
          id .finished
      else state
  | .opened => state
  | .finished => state

def unregisterLookup (state : State Id) (id member : Id) : State Id :=
  match state.closing id with
  | .checking lookup =>
      let (redis, next) := lookup.ask state.redis member
      state.withClosing redis id (.checking next)
  | _ => state

/-- Only keys that are no longer refreshed expire. -/
def expire (state : State Id) (id : Id) : State Id :=
  match state.closing id with
  | .opened => state
  | _ => { state with redis := state.redis.del id }

def step (state : State Id) : Event Id → State Id
  | .connect id preload => connect state id preload
  | .setup id => setup state id
  | .setupLookup id member => setupLookup state id member
  | .close id => close state id
  | .unregister id => unregister state id
  | .unregisterLookup id member => unregisterLookup state id member
  | .expire id => expire state id

/-! ## The last event -/

/-- The socket was connected and has not been closed. -/
def State.isOpen (state : State Id) (id : Id) : Prop :=
  state.setup id ≠ .absent ∧ state.closing id = .opened

/-- Every call has finished: setups and closes have run to their ends. -/
def State.settled (state : State Id) : Prop :=
  ∀ id,
    (state.setup id = .absent ∨ state.setup id = .registered ∨
        state.setup id = .skipped) ∧
      (state.closing id = .opened ∨ state.closing id = .finished)

instance [Fintype Id] (state : State Id) : Decidable state.settled :=
  inferInstanceAs
    (Decidable
      (∀ id,
        (state.setup id = .absent ∨ state.setup id = .registered ∨
            state.setup id = .skipped) ∧
          (state.closing id = .opened ∨ state.closing id = .finished)))

instance (state : State Id) (id : Id) : Decidable (state.isOpen id) :=
  inferInstanceAs
    (Decidable (state.setup id ≠ .absent ∧ state.closing id = .opened))

/-- Once all calls have finished, the last event tells the truth. -/
def State.truthful (state : State Id) : Prop :=
  state.settled →
    (state.redis.published.getLast? = some true ↔
      ∃ id, state.isOpen id)

instance [Fintype Id] (state : State Id) : Decidable state.truthful :=
  inferInstanceAs
    (Decidable
      (state.settled →
        (state.redis.published.getLast? = some true ↔
          ∃ id, state.isOpen id)))

end ChatBackend.Realtime.PresenceCommands
