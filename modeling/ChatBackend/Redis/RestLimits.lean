import ChatBackend.Chats.PageLimits
import ChatBackend.Foundation.EventRuns
import ChatBackend.Foundation.NumberedHits
import ChatBackend.Realtime.RateLimits
import Mathlib.Tactic.Linarith

/-!
# Rate limits of the REST routes

`createRateLimitMiddleware` stands before the routers of the user service and
the chat service.  The requests of all instances of the services count in one
Redis, and one request can send its `INCR` between the `INCR` and the
`EXPIRE` of another one.

Redis runs every command at once.  A command that fails may have been run
all the same, if only its reply is lost.

`rest_quota` is what the limits are worth in spite of all this.
-/

namespace ChatBackend.Redis.RestLimits

open ChatBackend.Chats.ChatReads
open ChatBackend.Chats.PageLimits
open ChatBackend.Foundation.EventRuns
open ChatBackend.Foundation.NumberedHits
open ChatBackend.Realtime.RateLimits

/-! ## The middleware -/

/-- What the middleware reads of a request. -/
structure Request where
  ip : Option String := none
  remoteAddress : Option String := none
deriving DecidableEq, Repr

/-- `hasRedis` says whether the service has been given a client. -/
structure RateLimitMiddleware where
  hasRedis : Bool
  options : RateLimitOptions
  key : Option (Request → String) := none

/-- The key of a request: its own function, the address, or `unknown`. -/
def RateLimitMiddleware.keyOf
    (middleware : RateLimitMiddleware) (request : Request) : String :=
  ((middleware.key.map fun key => key request).or
    (request.ip.or request.remoteAddress)).getD "unknown"

/-- The command that a call of `checkRateLimit` waits for, or its result. -/
inductive Stage where
  | counting
  | expiring (count : Nat)
  | answered (result : RateLimitResult)
deriving DecidableEq, Repr

/--
A request in the middleware.  `hit` is what its `INCR` has done, and
`undisturbed` says that no command of it has failed.
-/
structure Call where
  options : RateLimitOptions
  key : String
  stage : Stage
  hit : Option (NumberedHit Rat) := none
  undisturbed : Bool := true
deriving DecidableEq, Repr

/-- The key of the counter of a call. -/
def Call.redisKey (call : Call) : String :=
  Realtime.RateLimits.redisKey call.key call.options

/-- Without Redis every request is let through. -/
def createRateLimitMiddleware
    (middleware : RateLimitMiddleware) (request : Request) : Call where
  options := middleware.options
  key := middleware.keyOf request
  stage := if middleware.hasRedis then .counting else .answered failOpen
  undisturbed := middleware.hasRedis

/-- What the middleware does with a request. -/
inductive Outcome where
  | next
  | refused (error : AppError)
deriving DecidableEq, Repr

/-- The error that the middleware raises. -/
def tooManyRequests : AppError where
  statusCode := 429
  code := "RATE_LIMITED"
  message := "Too many requests"

/-- Go on with a request that is allowed. -/
def respond (result : RateLimitResult) : Outcome :=
  if result.allowed then .next else .refused tooManyRequests

/-- What has become of a request, once it is answered. -/
def Call.outcome (call : Call) : Option Outcome :=
  match call.stage with
  | .answered result => some (respond result)
  | _ => none

/-! ## Commands -/

/-- The reply of a command that is lost does not come. -/
inductive Reply where
  | comes
  | isLost
  | fails
deriving DecidableEq, Repr

/-- An error of Redis lets the request through. -/
def Call.failOpen (call : Call) : Call :=
  { call with
    stage := .answered Realtime.RateLimits.failOpen
    undisturbed := false }

/-- Note the hit of an `INCR`. -/
def Call.countedAt (call : Call) (now : Rat) (count : Nat) : Call :=
  { call with hit := some { now := now, number := count } }

/-- The reply to `INCR`: the first of a window sends `EXPIRE`. -/
def Call.receiveCount (call : Call) (count : Nat) : Call :=
  if count = 1 then { call with stage := .expiring count }
  else { call with stage := .answered (call.options.answer count) }

/-- Redis runs the next command of a call. -/
def runCommand
    (redis : FakeRedis) (now : Rat) (call : Call) (reply : Reply) :
    FakeRedis × Call :=
  match call.stage with
  | .counting =>
      let counted := redis.incr now call.redisKey
      let after := call.countedAt now counted.2
      match reply with
      | .fails => (redis, call.failOpen)
      | .isLost => (counted.1, after.failOpen)
      | .comes => (counted.1, after.receiveCount counted.2)
  | .expiring count =>
      let expired :=
        redis.expire now call.redisKey call.options.windowSeconds
      match reply with
      | .fails => (redis, call.failOpen)
      | .isLost => (expired.1, call.failOpen)
      | .comes =>
          (expired.1,
            { call with stage := .answered (call.options.answer count) })
  | .answered _ => (redis, call)

/-- The reply to a command that does or does not fail. -/
def replyOf (fails : Bool) : Reply :=
  if fails then .fails else .comes

/-- A request whose commands nothing separates runs `checkRateLimit`. -/
theorem runCommand_alone
    (redis : FakeRedis) (commands : Commands) {call : Call}
    (counting : call.stage = .counting) :
    let first :=
      runCommand redis commands.incrAt call
        (replyOf commands.incrFails)
    let second :=
      runCommand first.1 commands.expireAt first.2
        (replyOf commands.expireFails)
    let checked :=
      checkRateLimit (some redis) commands call.key call.options
    checked.1 = some second.1 ∧
      second.2.stage = .answered checked.2 := by
  cases incrFails : commands.incrFails with
  | true =>
      simp [runCommand, checkRateLimit, counting, incrFails, replyOf,
        Call.failOpen]
  | false =>
      by_cases isFirst :
          (redis.incr commands.incrAt
            (Realtime.RateLimits.redisKey call.key call.options)).2 = 1
      · cases expireFails : commands.expireFails <;>
          simp [runCommand, checkRateLimit, counting, incrFails, isFirst,
            expireFails, replyOf, Call.failOpen, Call.receiveCount,
            Call.countedAt, Call.redisKey]
      · simp [runCommand, checkRateLimit, counting, incrFails, isFirst,
          replyOf, Call.receiveCount, Call.countedAt, Call.redisKey]

/-! ## The services -/

/-- The three uses of the middleware. -/
inductive Route where
  | auth
  | users
  | chats
deriving DecidableEq, Repr

/-- `REST_AUTH_RATE_LIMIT_PER_MINUTE` and `REST_RATE_LIMIT_PER_MINUTE`. -/
structure Environment where
  authLimit : Option String := none
  restLimit : Option String := none
deriving DecidableEq, Repr

/-- `Number(text || fallback)`. -/
def limitOr (text : Option String) (fallback : Int) : JsNumber :=
  match text.filter fun text => text ≠ "" with
  | none => .integer fallback
  | some text => stringToNumber text

/-- The options that the services give the middleware. -/
def Route.options (environment : Environment) : Route → RateLimitOptions
  | .auth =>
      { keyPrefix := "rest:auth"
        limit := limitOr environment.authLimit 20
        windowSeconds := 60 }
  | .users =>
      { keyPrefix := "rest:user"
        limit := limitOr environment.restLimit 120
        windowSeconds := 60 }
  | .chats =>
      { keyPrefix := "rest:chat"
        limit := limitOr environment.restLimit 120
        windowSeconds := 60 }

/-- The requests of all instances, in the order in which they came. -/
structure State where
  redis : FakeRedis := fun _ => none
  clock : Rat
  calls : List Call := []

/-- A request of a client, the next command of a call, or time that passes. -/
inductive Event where
  | request (route : Route) (hasRedis : Bool) (request : Request)
  | command (index : Nat) (reply : Reply)
  | elapse (milliseconds : Rat)
deriving DecidableEq, Repr

variable (environment : Environment)

/-- One event. -/
def step (state : State) : Event → State
  | .request route hasRedis request =>
      { state with
        calls :=
          state.calls ++
            [createRateLimitMiddleware
              { hasRedis := hasRedis
                options := route.options environment }
              request] }
  | .command index reply =>
      match state.calls[index]? with
      | none => state
      | some call =>
          let after := runCommand state.redis state.clock call reply
          { state with
            redis := after.1
            calls := state.calls.set index after.2 }
  | .elapse milliseconds =>
      if 0 ≤ milliseconds then
        { state with clock := state.clock + milliseconds }
      else state

/-- The state after some events, from an empty Redis. -/
def reached (clock : Rat) (events : List Event) : State :=
  run (step environment) { clock := clock } events

/-! ## Keys -/

/-- What comes before the client in a key. -/
def Route.start (route : Route) : List Char :=
  "rate:".toList ++ (route.options environment).keyPrefix.toList ++
    ":".toList

theorem Route.start_length (route : Route) :
    (route.start environment).length = 15 := by
  cases route <;> simp [start, options]

/-- The keys of different routes begin differently. -/
theorem Route.start_injective
    {route other : Route}
    (same : route.start environment = other.start environment) :
    route = other := by
  cases route <;> cases other <;> simp_all [start, options]

/-- Different routes and clients have different counters. -/
theorem redisKey_injective
    {route other : Route} {key otherKey : String}
    (same :
      redisKey key (route.options environment) =
        redisKey otherKey (other.options environment)) :
    route = other ∧ key = otherKey := by
  have sameTexts :
      route.start environment ++ key.toList =
        other.start environment ++ otherKey.toList := by
    have := congrArg String.toList same
    simpa only [redisKey, Route.start, String.toList_append] using this
  have sameLength :
      (route.start environment).length =
        (other.start environment).length := by
    rw [Route.start_length, Route.start_length]
  rcases List.append_inj sameTexts sameLength with ⟨starts, keys⟩
  exact
    ⟨Route.start_injective environment starts,
      String.toList_inj.mp keys⟩

/-! ## Counters -/

namespace FakeRedis

open ChatBackend.Realtime.RateLimits.FakeRedis

variable (redis : FakeRedis) (now : Rat) {key other : String}

theorem incr_other (isOther : key ≠ other) :
    (redis.incr now other).1 key = redis key := by
  rw [incr_eq]
  exact Function.update_of_ne isOther _ _

theorem expire_other (isOther : key ≠ other) (seconds : Rat) :
    (redis.expire now other seconds).1 key = redis key := by
  rw [expire_eq]
  exact Function.update_of_ne isOther _ _

/-- `EXPIRE` leaves a counter that has not ended, with a new end. -/
theorem expire_self (seconds : Rat) :
    (redis.expire now key seconds).1 key =
      (redis.present now key).map fun entry =>
        { entry with expiresAt := some (now + seconds * 1000) } := by
  rw [expire_eq]
  exact Function.update_self _ _ _

end FakeRedis

variable {length : Rat} {opened : Option Rat}
  {hits : List (NumberedHit Rat)}

/--
The counter of a key has the number of the last hit, and ends no sooner than
`length` after its window has opened.
-/
structure Shows
    (length : Rat) (counter : Option Entry) (now : Rat)
    (opened : Option Rat) (hits : List (NumberedHit Rat)) : Prop where
  latest : ∀ hit ∈ hits, hit.now ≤ now
  ended :
    counter = none →
      ∀ start, opened = some start → start + length ≤ now
  number :
    ∀ entry, counter = some entry →
      ∃ last rest, hits = last :: rest ∧ entry.value = last.number
  ends :
    ∀ entry, counter = some entry →
      ∃ start, opened = some start ∧ start ≤ now ∧
        ∀ expiresAt, entry.expiry = some expiresAt →
          start + length ≤ expiresAt

/-- A counter goes on to show its hits until it ends. -/
theorem Shows.later
    {counter : Option Entry} {now later : Rat}
    (shows_ : Shows length counter now opened hits)
    (ordered : now ≤ later) : Shows length counter later opened hits where
  latest := fun hit member => (shows_.latest hit member).trans ordered
  ended := fun absent start isOpen =>
    (shows_.ended absent start isOpen).trans ordered
  number := shows_.number
  ends := by
    intro entry found
    rcases shows_.ends entry found with ⟨start, isOpen, before, ends⟩
    exact ⟨start, isOpen, before.trans ordered, ends⟩

section Counters

variable {redis : FakeRedis} {key : String} {now : Rat}
  (windowed : Windowed length opened hits)
  (isShown : Shows length (redis key) now opened hits)

include isShown

/-- The window of a counter that is not there any more has ended. -/
theorem Shows.apart
    (absent : redis.present now key = none) :
    ∀ start, opened = some start → start + length ≤ now := by
  intro start isOpen
  cases found : redis key with
  | none => exact isShown.ended found start isOpen
  | some entry =>
      rcases isShown.ends entry found with ⟨_, isStart, _, ends⟩
      cases isOpen.symm.trans isStart
      have gone : entry.expired now = true := by
        simpa [FakeRedis.present, found, Option.filter_eq_none_iff]
          using absent
      cases expires : entry.expiry with
      | none => simp [Entry.expired, expires] at gone
      | some expiresAt =>
          simp only [Entry.expired, expires, Option.any_some,
            decide_eq_true_eq] at gone
          exact (ends expiresAt expires).trans gone

include windowed

/-- `INCR` gives the next number of a window, or opens one. -/
theorem Shows.incr :
    ∃ after,
      Windowed length after
          ({ now := now, number := (redis.incr now key).2 } :: hits) ∧
        Shows length ((redis.incr now key).1 key) now after
          ({ now := now, number := (redis.incr now key).2 } :: hits) := by
  have latest :
      ∀ number,
        ∀ hit ∈ ({ now := now, number := number } : NumberedHit Rat) ::
            hits,
          hit.now ≤ now := by
    rintro number hit (_ | ⟨_, member⟩)
    · exact le_refl _
    · exact isShown.latest hit member
  rw [FakeRedis.incr_eq]
  cases found : redis.present now key with
  | none =>
      refine
        ⟨some now,
          .opens windowed isShown.latest (isShown.apart found), ?_⟩
      exact
        { latest := latest _
          ended := fun absent => by simp at absent
          number := fun entry isEntry => by
            simp only [Function.update_self, Option.some.injEq]
              at isEntry
            subst isEntry
            exact ⟨_, _, rfl, rfl⟩
          ends := fun entry isEntry => by
            simp only [Function.update_self, Option.some.injEq]
              at isEntry
            subst isEntry
            exact
              ⟨now, rfl, le_refl _, fun _ expires => by
                simp [Entry.expiry] at expires⟩ }
  | some entry =>
      have inStore : redis key = some entry :=
        (Option.filter_eq_some_iff.mp found).1
      rcases isShown.number entry inStore with
        ⟨last, rest, rfl, sameNumber⟩
      rcases isShown.ends entry inStore with
        ⟨start, rfl, before, ends⟩
      simp only [Option.elim_some, Option.bind_some, sameNumber]
      refine ⟨some start, .counts windowed isShown.latest, ?_⟩
      exact
        { latest := latest _
          ended := fun absent => by simp at absent
          number := fun counted isEntry => by
            simp only [Function.update_self, Option.some.injEq]
              at isEntry
            subst isEntry
            exact ⟨_, _, rfl, rfl⟩
          ends := fun counted isEntry => by
            simp only [Function.update_self, Option.some.injEq]
              at isEntry
            subst isEntry
            exact
              ⟨start, rfl, before, fun expiresAt expires =>
                ends expiresAt (by rwa [Entry.expiry_expiry] at expires)⟩ }

omit windowed in
/-- `EXPIRE` gives every window at least its length. -/
theorem Shows.expire {seconds : Rat} (long : length ≤ seconds * 1000) :
    Shows length ((redis.expire now key seconds).1 key) now opened
      hits := by
  rw [FakeRedis.expire_self]
  cases found : redis.present now key with
  | none =>
      exact
        { latest := isShown.latest
          ended := fun _ => isShown.apart found
          number := fun _ impossible => by cases impossible
          ends := fun _ impossible => by cases impossible }
  | some entry =>
      have inStore : redis key = some entry :=
        (Option.filter_eq_some_iff.mp found).1
      rcases isShown.ends entry inStore with
        ⟨start, isOpen, before, _⟩
      exact
        { latest := isShown.latest
          ended := fun absent => by cases absent
          number := by
            rintro _ ⟨⟩
            exact isShown.number entry inStore
          ends := by
            rintro _ ⟨⟩
            refine ⟨start, isOpen, before, fun expiresAt expires => ?_⟩
            rw [Entry.expiry, Option.filter_eq_some_iff] at expires
            cases expires.1
            linarith }

end Counters

/-! ## Requests -/

/-- The hit of a call, if it is one of the key. -/
def Call.hitOf (key : String) (call : Call) :
    Option (NumberedHit Rat) :=
  if call.redisKey = key then call.hit else none

/-- The hits of the requests with a key, in the order of the requests. -/
def hitsOf (key : String) (calls : List Call) :
    List (NumberedHit Rat) :=
  calls.filterMap (Call.hitOf key)

/-- What is known of a request from its stage. -/
structure Call.Sound (call : Call) : Prop where
  routed : ∃ route : Route, call.options = route.options environment
  counting : call.stage = .counting → call.hit = none
  expiring :
    ∀ count, call.stage = .expiring count →
      ∃ hit ∈ call.hit, hit.number = count
  answered :
    ∀ result, call.stage = .answered result →
      call.undisturbed = false ∧ result = Realtime.RateLimits.failOpen ∨
        ∃ hit ∈ call.hit, result = call.options.answer hit.number

theorem Route.options_windowSeconds (route : Route) :
    (route.options environment).windowSeconds = 60 := by
  cases route <;> rfl

/-- A command is not run, counts the request or ends its window. -/
inductive Ran
    (redis : FakeRedis) (now : Rat) (call : Call) :
    FakeRedis × Call → Prop where
  | idle {after : Call} (sameHit : after.hit = call.hit) :
      Ran redis now call (redis, after)
  | counted {after : Call} (unhit : call.hit = none)
      (isHit :
        after.hit =
          some
            { now := now
              number := (redis.incr now call.redisKey).2 }) :
      Ran redis now call ((redis.incr now call.redisKey).1, after)
  | expired {after : Call} (sameHit : after.hit = call.hit) :
      Ran redis now call
        ((redis.expire now call.redisKey call.options.windowSeconds).1,
          after)

variable {environment}

theorem Call.Sound.ran
    {call : Call} (sound : call.Sound environment) (redis : FakeRedis)
    (now : Rat) (reply : Reply) :
    Ran redis now call (runCommand redis now call reply) := by
  unfold runCommand
  cases stage : call.stage with
  | counting =>
      have unhit := sound.counting stage
      cases reply with
      | fails => exact .idle rfl
      | isLost => exact .counted unhit rfl
      | comes =>
          refine .counted unhit ?_
          simp only [Call.receiveCount]
          split <;> rfl
  | expiring count =>
      cases reply with
      | fails => exact .idle rfl
      | isLost => exact .expired rfl
      | comes => exact .expired rfl
  | answered result => exact .idle rfl

theorem Call.failOpen_sound
    {call : Call}
    (routed : ∃ route : Route, call.options = route.options environment) :
    call.failOpen.Sound environment where
  routed := routed
  counting := fun impossible => by cases impossible
  expiring := fun _ impossible => by cases impossible
  answered := by
    rintro _ ⟨⟩
    exact .inl ⟨rfl, rfl⟩

theorem Call.Sound.receiveCount
    {call : Call} (sound : call.Sound environment) (now : Rat)
    (count : Nat) :
    ((call.countedAt now count).receiveCount count).Sound environment := by
  unfold Call.receiveCount
  split
  · exact
      { routed := sound.routed
        counting := fun impossible => by cases impossible
        expiring := by
          rintro _ ⟨⟩
          exact ⟨_, rfl, rfl⟩
        answered := fun _ impossible => by cases impossible }
  · exact
      { routed := sound.routed
        counting := fun impossible => by cases impossible
        expiring := fun _ impossible => by cases impossible
        answered := by
          rintro _ ⟨⟩
          exact .inr ⟨_, rfl, rfl⟩ }

theorem Call.receiveCount_redisKey (call : Call) (count : Nat) :
    (call.receiveCount count).redisKey = call.redisKey := by
  unfold Call.receiveCount
  split <;> rfl

/-- A command keeps what is known of its call. -/
theorem Call.Sound.runCommand
    {call : Call} (sound : call.Sound environment) (redis : FakeRedis)
    (now : Rat) (reply : Reply) :
    (runCommand redis now call reply).2.Sound environment ∧
      (runCommand redis now call reply).2.redisKey = call.redisKey := by
  unfold RestLimits.runCommand
  cases stage : call.stage with
  | counting =>
      cases reply with
      | fails => exact ⟨Call.failOpen_sound sound.routed, rfl⟩
      | isLost => exact ⟨Call.failOpen_sound sound.routed, rfl⟩
      | comes =>
          exact
            ⟨sound.receiveCount now _, Call.receiveCount_redisKey _ _⟩
  | expiring count =>
      cases reply with
      | fails => exact ⟨Call.failOpen_sound sound.routed, rfl⟩
      | isLost => exact ⟨Call.failOpen_sound sound.routed, rfl⟩
      | comes =>
          rcases sound.expiring count stage with ⟨hit, isHit, rfl⟩
          refine
            ⟨{ routed := sound.routed
               counting := fun impossible => by cases impossible
               expiring := fun _ impossible => by cases impossible
               answered := ?_ },
              rfl⟩
          rintro _ ⟨⟩
          exact .inr ⟨hit, isHit, rfl⟩
  | answered result => exact ⟨sound, rfl⟩

/-! ## The invariant -/

variable (environment) in
/-- The counter of every key shows the hits of its requests. -/
structure Metered (state : State) : Prop where
  calls : ∀ call ∈ state.calls, call.Sound environment
  counters :
    ∀ key, ∃ opened hits,
      Windowed 60000 opened hits ∧
        Shows 60000 (state.redis key) state.clock opened hits ∧
          hits.Perm (hitsOf key state.calls)

/-- A request that has not been counted adds no hit. -/
theorem hitsOf_append (key : String) (calls : List Call) {call : Call}
    (unhit : call.hit = none) :
    hitsOf key (calls ++ [call]) = hitsOf key calls := by
  simp [hitsOf, Call.hitOf, unhit]

/-- A request whose hit stays leaves the hits as they are. -/
theorem hitsOf_set
    {key : String} {calls : List Call} {index : Nat} {call after : Call}
    (isCall : calls[index]? = some call)
    (same : after.hitOf key = call.hitOf key) :
    hitsOf key (calls.set index after) = hitsOf key calls := by
  induction calls generalizing index with
  | nil => rfl
  | cons head rest induction =>
      cases index with
      | zero =>
          cases isCall
          simp [hitsOf, List.filterMap_cons, same]
      | succ index =>
          have := @induction index isCall
          simp only [hitsOf, List.set_cons_succ, List.filterMap_cons]
            at this ⊢
          rw [this]

/-- A request that is counted adds its hit. -/
theorem hitsOf_set_perm
    {key : String} {calls : List Call} {index : Nat} {call after : Call}
    {hit : NumberedHit Rat} (isCall : calls[index]? = some call)
    (unhit : call.hitOf key = none) (isHit : after.hitOf key = some hit) :
    (hit :: hitsOf key calls).Perm
      (hitsOf key (calls.set index after)) := by
  induction calls generalizing index with
  | nil => cases isCall
  | cons head rest induction =>
      cases index with
      | zero =>
          cases isCall
          simp [hitsOf, unhit, isHit]
      | succ index =>
          have := @induction index isCall
          simp only [hitsOf, List.set_cons_succ, List.filterMap_cons]
            at this ⊢
          split
          · exact this
          · exact (List.Perm.swap _ _ _).trans (this.cons _)

/-- A request that arrives is sound. -/
theorem arrived_sound
    (route : Route) (hasRedis : Bool) (request : Request) :
    (createRateLimitMiddleware
        { hasRedis := hasRedis, options := route.options environment }
        request).Sound environment := by
  cases hasRedis with
  | true =>
      exact
        { routed := ⟨route, rfl⟩
          counting := fun _ => rfl
          expiring := fun _ impossible => by cases impossible
          answered := fun _ impossible => by cases impossible }
  | false =>
      exact
        { routed := ⟨route, rfl⟩
          counting := fun _ => rfl
          expiring := fun _ impossible => by cases impossible
          answered := by
            rintro _ ⟨⟩
            exact .inl ⟨rfl, rfl⟩ }

/-- Every counter after a command of a request. -/
theorem Metered.command
    {state : State} (metered : Metered environment state)
    {index : Nat} {call : Call}
    (isCall : state.calls[index]? = some call) (reply : Reply) :
    Metered environment
      { state with
        redis := (runCommand state.redis state.clock call reply).1
        calls :=
          state.calls.set index
            (runCommand state.redis state.clock call reply).2 } := by
  have sound := metered.calls call (List.mem_of_getElem? isCall)
  rcases sound.runCommand state.redis state.clock reply with
    ⟨soundAfter, sameKey⟩
  have ran := sound.ran state.redis state.clock reply
  refine { calls := ?_, counters := ?_ }
  · intro other member
    rcases List.mem_or_eq_of_mem_set member with old | rfl
    · exact metered.calls other old
    · exact soundAfter
  · intro key
    rcases metered.counters key with
      ⟨opened, hits, windowed, isShown, same⟩
    generalize runCommand state.redis state.clock call reply = after
      at ran sameKey ⊢
    cases ran with
    | idle sameHit =>
        refine ⟨opened, hits, windowed, isShown, ?_⟩
        rwa [hitsOf_set isCall
          (by simp only [Call.hitOf, sameKey, sameHit])]
    | expired sameHit =>
        refine ⟨opened, hits, windowed, ?_, ?_⟩
        · by_cases isKey : call.redisKey = key
          · subst isKey
            rcases sound.routed with ⟨route, isRoute⟩
            refine isShown.expire ?_
            rw [isRoute, route.options_windowSeconds]
            norm_num
          · dsimp only
            rwa [FakeRedis.expire_other _ _ (Ne.symm isKey)]
        · rwa [hitsOf_set isCall
            (by simp only [Call.hitOf, sameKey, sameHit])]
    | counted unhit isHit =>
        by_cases isKey : call.redisKey = key
        · subst isKey
          rcases isShown.incr windowed with ⟨after, windows, shown⟩
          refine ⟨after, _, windows, shown, (same.cons _).trans ?_⟩
          exact
            hitsOf_set_perm isCall (by simp [Call.hitOf, unhit])
              (by simp [Call.hitOf, sameKey, isHit])
        · refine ⟨opened, hits, windowed, ?_, ?_⟩
          · dsimp only
            rwa [FakeRedis.incr_other _ _ (Ne.symm isKey)]
          · rwa [hitsOf_set isCall
              (by simp [Call.hitOf, sameKey, isKey])]

/-- Every event keeps the counters and the calls in step. -/
theorem Metered.step {state : State} (metered : Metered environment state)
    (event : Event) :
    Metered environment (RestLimits.step environment state event) := by
  cases event with
  | request route hasRedis request =>
      refine { calls := ?_, counters := ?_ }
      · intro call member
        rcases List.mem_append.mp member with old | new
        · exact metered.calls call old
        · cases List.mem_singleton.mp new
          exact arrived_sound route hasRedis request
      · intro key
        simp only [RestLimits.step]
        rw [hitsOf_append key _ rfl]
        exact metered.counters key
  | command index reply =>
      simp only [RestLimits.step]
      cases isCall : state.calls[index]? with
      | none => exact metered
      | some call => exact metered.command isCall reply
  | elapse milliseconds =>
      simp only [RestLimits.step]
      split
      · rename_i forward
        refine { calls := metered.calls, counters := ?_ }
        intro key
        rcases metered.counters key with
          ⟨opened, hits, windowed, isShown, same⟩
        refine ⟨opened, hits, windowed, isShown.later ?_, same⟩
        exact le_add_of_nonneg_right forward
      · exact metered

/-- So it is in every state that is reached. -/
theorem reached_metered (clock : Rat) (events : List Event) :
    Metered environment (reached environment clock events) :=
  run_invariant (Metered environment)
    (fun _ event metered => metered.step event)
    { calls := fun _ impossible => by cases impossible
      counters := fun _ =>
        ⟨none, [], .nil,
          { latest := fun _ impossible => by cases impossible
            ended := fun _ _ impossible => by cases impossible
            number := fun _ impossible => by cases impossible
            ends := fun _ impossible => by cases impossible },
          .nil⟩ }
    events

/-! ## Quotas -/

variable (environment) in
/-- A request of a client at a route. -/
def Call.IsOf (route : Route) (client : String) (call : Call) : Prop :=
  call.options = route.options environment ∧ call.key = client

instance (route : Route) (client : String) (call : Call) :
    Decidable (call.IsOf environment route client) :=
  inferInstanceAs (Decidable (_ ∧ _))

/-- The request is let through though every command of it was answered. -/
def Call.Passes (call : Call) : Prop :=
  call.undisturbed = true ∧ call.outcome = some .next

instance (call : Call) : Decidable call.Passes :=
  inferInstanceAs (Decidable (_ ∧ _))

/-- Redis has counted the request within a minute from a time. -/
def Call.CountedIn (since : Rat) (call : Call) : Prop :=
  ∃ hit ∈ call.hit, since ≤ hit.now ∧ hit.now < since + 60000

/-- Redis has counted the request within the limit, not after a time. -/
def Call.CountedBy (limit : Nat) (now : Rat) (call : Call) : Prop :=
  ∃ hit ∈ call.hit, hit.number ≤ limit ∧ hit.now ≤ now

instance (since : Rat) (call : Call) : Decidable (call.CountedIn since) :=
  inferInstanceAs (Decidable (∃ _ ∈ _, _))

instance (limit : Nat) (now : Rat) (call : Call) :
    Decidable (call.CountedBy limit now) :=
  inferInstanceAs (Decidable (∃ _ ∈ _, _))

/-- A request has the key of a client exactly if it is a request of it. -/
theorem Call.Sound.isOf_iff
    {call : Call} (sound : call.Sound environment) (route : Route)
    (client : String) :
    call.IsOf environment route client ↔
      call.redisKey =
        Realtime.RateLimits.redisKey client
          (route.options environment) := by
  rcases sound.routed with ⟨other, isOther⟩
  constructor
  · rintro ⟨sameOptions, rfl⟩
    rw [Call.redisKey, sameOptions]
  · intro sameKey
    rw [Call.redisKey, isOther] at sameKey
    rcases redisKey_injective environment sameKey with ⟨rfl, rfl⟩
    exact ⟨isOther, rfl⟩

section Answered

variable {call : Call} (sound : call.Sound environment) {route : Route}
  {client : String} (isOf : call.IsOf environment route client)
  {limit : Nat}
  (isLimit : (route.options environment).limit = .integer limit)

include isOf isLimit in
/-- A call is allowed up to the limit. -/
theorem allowed_iff (number : Nat) :
    (call.options.answer number).allowed = true ↔ number ≤ limit := by
  simp [RateLimitOptions.answer, isOf.1, isLimit, isAtMost]

include sound isOf isLimit

/-- An undisturbed request is let through by its number. -/
theorem Call.Sound.passes (passes : call.Passes) :
    ∃ hit ∈ call.hit, hit.number ≤ limit := by
  rcases passes with ⟨undisturbed, isNext⟩
  unfold Call.outcome at isNext
  split at isNext
  · rename_i result stage
    rcases sound.answered result stage with
      ⟨disturbed, _⟩ | ⟨hit, isHit, rfl⟩
    · exact absurd (undisturbed.symm.trans disturbed) (by decide)
    · refine ⟨hit, isHit, ?_⟩
      rw [← allowed_iff isOf isLimit]
      by_contra refused
      simp [respond, refused] at isNext
  · cases isNext

/-- A request is refused by its number. -/
theorem Call.Sound.refused
    {error : AppError} (isRefused : call.outcome = some (.refused error)) :
    error = tooManyRequests ∧ ∃ hit ∈ call.hit, limit < hit.number := by
  unfold Call.outcome at isRefused
  split at isRefused
  · rename_i result stage
    unfold respond at isRefused
    split at isRefused
    · cases isRefused
    · rename_i refused
      cases isRefused
      refine ⟨rfl, ?_⟩
      rcases sound.answered result stage with
        ⟨_, rfl⟩ | ⟨hit, isHit, rfl⟩
      · exact absurd rfl refused
      · refine ⟨hit, isHit, ?_⟩
        rw [allowed_iff isOf isLimit] at refused
        exact not_le.mp refused
  · cases isRefused

end Answered

section Counts

variable {state : State} (metered : Metered environment state)
  (route : Route) (client : String)

include metered

/-- Counting the hits of a counter is counting the requests of a client. -/
theorem Metered.countP_hits
    (property : NumberedHit Rat → Prop) [DecidablePred property] :
    ((hitsOf (redisKey client (route.options environment))
        state.calls).countP fun hit => property hit) =
      (state.calls.filter fun call =>
          call.IsOf environment route client).countP
        fun call => ∃ hit ∈ call.hit, property hit := by
  rw [hitsOf, List.countP_filterMap, List.countP_filter]
  apply List.countP_congr
  intro call member
  simp only [(metered.calls call member).isOf_iff, Call.hitOf]
  split
  · rename_i isKey
    cases call.hit <;> simp [isKey]
  · rename_i isOther
    simp [isOther]

end Counts

/--
However the requests of all instances interleave their commands, and
whichever of these fail: of the requests of a client that no failure has let
through, at most twice the limit are let through within a minute, and one is
refused with 429 only after as many of them as the limit have been counted.
-/
theorem rest_quota
    (environment : Environment) (clock : Rat) (events : List Event)
    (route : Route) (client : String) (limit : Nat)
    (isLimit : (route.options environment).limit = .integer limit) :
    let calls :=
      (reached environment clock events).calls.filter fun call =>
        call.IsOf environment route client
    (∀ since,
        (calls.countP fun call => call.Passes ∧ call.CountedIn since) ≤
          2 * limit) ∧
      ∀ refused ∈ calls, ∀ error,
        refused.outcome = some (.refused error) →
          error = tooManyRequests ∧
            ∃ hit ∈ refused.hit,
              limit ≤
                calls.countP fun call => call.CountedBy limit hit.now := by
  intro calls
  have metered : Metered environment (reached environment clock events) :=
    reached_metered clock events
  rcases metered.counters
      (redisKey client (route.options environment)) with
    ⟨opened, hits, windowed, isShown, same⟩
  have known {call : Call} (member : call ∈ calls) :
      call.Sound environment ∧ call.IsOf environment route client := by
    rcases List.mem_filter.mp member with ⟨isCall, isOf⟩
    exact ⟨metered.calls call isCall, of_decide_eq_true isOf⟩
  constructor
  · intro since
    have quota := admitted_in_interval windowed limit since
    rw [admissions, same.countP_eq,
      metered.countP_hits route client (Admitted limit 60000 since)]
      at quota
    refine (List.countP_mono_left ?_).trans quota
    intro call member counted
    simp only [decide_eq_true_eq] at counted ⊢
    rcases counted with ⟨passes, hit, isHit, inside⟩
    rcases known member with ⟨sound, isOf⟩
    rcases sound.passes isOf isLimit passes with ⟨_, isSame, admitted⟩
    cases isHit.symm.trans isSame
    exact ⟨hit, isHit, admitted, inside⟩
  · intro refused member error isRefused
    rcases known member with ⟨sound, isOf⟩
    rcases sound.refused isOf isLimit isRefused with
      ⟨isError, hit, isHit, beyond⟩
    refine ⟨isError, hit, isHit, ?_⟩
    have inHits : hit ∈ hits := by
      rw [same.mem_iff]
      refine List.mem_filterMap.mpr
        ⟨refused, (List.mem_filter.mp member).1, ?_⟩
      rw [Call.hitOf, if_pos ((sound.isOf_iff route client).mp isOf)]
      exact isHit
    have earlier := number_le_within windowed limit hit inHits
    rw [min_eq_right (le_of_lt beyond), within, same.countP_eq,
      metered.countP_hits route client
        (fun other => other.number ≤ limit ∧ other.now ≤ hit.now)]
      at earlier
    exact earlier

def exampleEnvironment : Environment where
  authLimit := some "1"

def exampleRequest : Request where
  ip := some "10.0.0.1"

/-- The second `INCR` comes before the `EXPIRE` of the first request. -/
def exampleEvents : List Event :=
  [.request .auth true exampleRequest, .request .auth true exampleRequest,
    .command 0 .comes, .command 1 .comes, .elapse 5, .command 0 .comes,
    .elapse 60000, .request .auth true exampleRequest,
    .command 2 .comes]

def exampleCalls : List Call :=
  (reached exampleEnvironment 1 exampleEvents).calls.filter fun call =>
    call.IsOf exampleEnvironment .auth "10.0.0.1"

theorem rest_quota_interleaved :
    exampleCalls.map Call.outcome =
        [some .next, some (.refused tooManyRequests), none] ∧
      (exampleCalls.countP fun call =>
          call.Passes ∧ call.CountedIn 1) ≤ 2 * 1 ∧
        ∀ refused ∈ exampleCalls, ∀ error,
          refused.outcome = some (.refused error) →
            error = tooManyRequests ∧
              ∃ hit ∈ refused.hit,
                1 ≤
                  exampleCalls.countP fun call =>
                    call.CountedBy 1 hit.now := by
  have quota :=
    rest_quota exampleEnvironment 1 exampleEvents .auth "10.0.0.1" 1
      (by decide +kernel)
  exact ⟨by decide +kernel, quota.1 1, quota.2⟩

end ChatBackend.Redis.RestLimits
