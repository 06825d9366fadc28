import ChatBackend.Chats.ChatReads
import ChatBackend.Foundation.FixedWindows
import ChatBackend.Foundation.OrderedSets
import Mathlib.Algebra.Order.Ring.Unbundled.Rat

/-!
# Rate limits

`checkRateLimit` counts in Redis: `INCR` on a key, and `EXPIRE` when the count
is one.  `FakeRedis` is the store of the tests, whose keys expire when they
are looked at after their end.  A command can fail, which the call answers
like a request within the limit.

The real-time service can also keep its windows in a `Map` of its own, from
which it deletes ended windows now and then.

Times are in milliseconds, and counts are exact: a run which reaches the
integers that a double cannot hold would need more than 2^53 calls.
-/

namespace ChatBackend.Realtime.RateLimits

open ChatBackend.Foundation.FixedWindows
open ChatBackend.Foundation.OrderedSets
open ChatBackend.Chats.ChatReads

structure RateLimitOptions where
  keyPrefix : String
  limit : JsNumber
  windowSeconds : Rat
deriving DecidableEq, Repr

structure RateLimitResult where
  allowed : Bool
  count : Nat
deriving DecidableEq, Repr

/-- `count <= number`. -/
def isAtMost (count : Nat) : JsNumber → Bool
  | .nan => false
  | .integer value => (count : Int) ≤ value
  | .fraction floor => (count : Int) ≤ floor
  | .infinity => true
  | .negativeInfinity => false

/-- `Math.max(1, number)`. -/
def maxOne : JsNumber → JsNumber
  | .nan => .nan
  | .integer value => .integer (max 1 value)
  | .fraction floor =>
      if 1 ≤ floor then .fraction floor else .integer 1
  | .infinity => .infinity
  | .negativeInfinity => .integer 1

def RateLimitOptions.answer
    (options : RateLimitOptions) (count : Nat) : RateLimitResult where
  allowed := isAtMost count options.limit
  count := count

/-! ## Counting in Redis -/

/-- A counter; its text is read and written as a number. -/
structure Entry where
  value : Nat
  expiresAt : Option Rat := none
deriving DecidableEq, Repr

/-- An expiry of zero is falsy, like no expiry. -/
def Entry.expiry (entry : Entry) : Option Rat :=
  entry.expiresAt.filter fun expiresAt => expiresAt ≠ 0

/-- The expiry of an entry that took over the expiry of another one. -/
theorem Entry.expiry_expiry (entry : Entry) (value : Nat) :
    Entry.expiry { value := value, expiresAt := entry.expiry } =
      entry.expiry := by
  simp [expiry, Option.filter_filter]

def Entry.expired (now : Rat) (entry : Entry) : Bool :=
  entry.expiry.any fun expiresAt => expiresAt ≤ now

abbrev FakeRedis := String → Option Entry

/-- An expired entry is deleted when it is looked at. -/
def FakeRedis.getEntry
    (redis : FakeRedis) (now : Rat) (key : String) :
    FakeRedis × Option Entry :=
  match redis key with
  | none => (redis, none)
  | some entry =>
      if entry.expired now then (Function.update redis key none, none)
      else (redis, some entry)

def FakeRedis.incr
    (redis : FakeRedis) (now : Rat) (key : String) : FakeRedis × Nat :=
  let read := redis.getEntry now key
  let current := read.2.elim 0 Entry.value + 1
  let existing := read.1.getEntry now key
  (Function.update existing.1 key
      (some
        { value := current
          expiresAt := existing.2.bind Entry.expiry }),
    current)

def FakeRedis.expire
    (redis : FakeRedis) (now : Rat) (key : String) (seconds : Rat) :
    FakeRedis × Bool :=
  let found := redis.getEntry now key
  match found.2 with
  | none => (found.1, false)
  | some entry =>
      (Function.update found.1 key
          (some { entry with expiresAt := some (now + seconds * 1000) }),
        true)

/-- The two commands of a call: when they run, and whether they fail. -/
structure Commands where
  incrAt : Rat
  expireAt : Rat
  incrFails : Bool := false
  expireFails : Bool := false
deriving DecidableEq, Repr

/-- Both commands run at one reading of the clock. -/
def Commands.atOnce (now : Rat) : Commands where
  incrAt := now
  expireAt := now

def redisKey (key : String) (options : RateLimitOptions) : String :=
  "rate:" ++ options.keyPrefix ++ ":" ++ key

/-- Errors of Redis are swallowed. -/
def failOpen : RateLimitResult where
  allowed := true
  count := 0

def checkRateLimit
    (redis : Option FakeRedis) (commands : Commands) (key : String)
    (options : RateLimitOptions) : Option FakeRedis × RateLimitResult :=
  match redis with
  | none => (none, failOpen)
  | some store =>
      if commands.incrFails then (some store, failOpen)
      else
        let counted := store.incr commands.incrAt (redisKey key options)
        if counted.2 = 1 then
          if commands.expireFails then (some counted.1, failOpen)
          else
            (some
                (counted.1.expire commands.expireAt
                  (redisKey key options) options.windowSeconds).1,
              options.answer counted.2)
        else (some counted.1, options.answer counted.2)

/-! ## What the commands do -/

namespace FakeRedis

variable (redis : FakeRedis) (now : Rat) (key : String)

/-- The entry, unless it has expired. -/
def present : Option Entry :=
  (redis key).filter fun entry => !entry.expired now

theorem getEntry_snd :
    (redis.getEntry now key).2 = redis.present now key := by
  unfold getEntry present
  cases redis key with
  | none => rfl
  | some entry =>
      cases gone : entry.expired now <;> simp [Option.filter, gone]

theorem update_getEntry (value : Option Entry) :
    Function.update (redis.getEntry now key).1 key value =
      Function.update redis key value := by
  unfold getEntry
  split
  · rfl
  · split
    · exact Function.update_idem _ _ _
    · rfl

/-- Looking twice at one time finds the same entry. -/
theorem present_getEntry :
    present (redis.getEntry now key).1 now key =
      redis.present now key := by
  unfold getEntry
  split
  · rfl
  · rename_i entry found
    split
    · rename_i gone
      simp [present, found, Option.filter, gone]
    · rfl

/-- What is left under the key is the entry that was found. -/
theorem getEntry_self :
    (redis.getEntry now key).1 key = redis.present now key := by
  unfold getEntry present
  cases found : redis key with
  | none => exact found
  | some entry =>
      cases gone : entry.expired now <;>
        simp [Option.filter, gone, found]

/-- `INCR` keeps the expiry of an entry that is present. -/
theorem incr_eq :
    redis.incr now key =
      (Function.update redis key
          (some
            { value := (redis.present now key).elim 0 Entry.value + 1
              expiresAt :=
                (redis.present now key).bind Entry.expiry }),
        (redis.present now key).elim 0 Entry.value + 1) := by
  simp only [incr, getEntry_snd, present_getEntry, update_getEntry]

/-- `EXPIRE` on an entry that is present. -/
theorem expire_of_present
    {entry : Entry} (found : redis.present now key = some entry)
    (seconds : Rat) :
    (redis.expire now key seconds).1 =
      Function.update redis key
        (some { entry with expiresAt := some (now + seconds * 1000) }) := by
  rw [← getEntry_snd] at found
  simp only [expire, found, update_getEntry]

/-- `EXPIRE` gives an entry that is present a new end. -/
theorem expire_eq (seconds : Rat) :
    redis.expire now key seconds =
      (Function.update redis key
          ((redis.present now key).map fun entry =>
            { entry with expiresAt := some (now + seconds * 1000) }),
        (redis.present now key).isSome) := by
  cases found : redis.present now key with
  | some entry =>
      refine Prod.ext (redis.expire_of_present now key found seconds) ?_
      rw [← getEntry_snd] at found
      simp [expire, found]
  | none =>
      have deleted :
          (redis.getEntry now key).1 = Function.update redis key none := by
        rw [← update_getEntry redis now key none]
        refine (Function.update_eq_self_iff.mpr ?_).symm
        rw [getEntry_self, found]
      rw [← getEntry_snd] at found
      simp [expire, found, deleted]

end FakeRedis

/-- A call that finds no entry starts a window, if both commands succeed. -/
theorem checkRateLimit_absent
    {redis : FakeRedis} {commands : Commands} {key : String}
    {options : RateLimitOptions} (incr : commands.incrFails = false)
    (absent :
      redis.present commands.incrAt (redisKey key options) = none)
    (expire : commands.expireFails = false) :
    checkRateLimit (some redis) commands key options =
      (some
          (Function.update redis (redisKey key options)
            (some
              { value := 1
                expiresAt :=
                  some
                    (commands.expireAt +
                      options.windowSeconds * 1000) })),
        options.answer 1) := by
  have found :
      FakeRedis.present
          (Function.update redis (redisKey key options)
            (some { value := 1 }))
          commands.expireAt (redisKey key options) =
        some { value := 1 } := by
    simp [FakeRedis.present, Entry.expired, Entry.expiry]
  simp only [checkRateLimit, incr, FakeRedis.incr_eq, absent, expire,
    Option.elim_none, Option.bind_none, Nat.zero_add, if_true,
    Bool.false_eq_true, if_false]
  rw [FakeRedis.expire_of_present _ _ _ found, Function.update_idem]

/-- Without the `EXPIRE` the new entry has no expiry. -/
theorem checkRateLimit_absent_lost
    {redis : FakeRedis} {commands : Commands} {key : String}
    {options : RateLimitOptions} (incr : commands.incrFails = false)
    (absent :
      redis.present commands.incrAt (redisKey key options) = none)
    (expire : commands.expireFails = true) :
    checkRateLimit (some redis) commands key options =
      (some
          (Function.update redis (redisKey key options)
            (some { value := 1 })),
        failOpen) := by
  simp only [checkRateLimit, incr, FakeRedis.incr_eq, absent, expire,
    Option.elim_none, Option.bind_none, Nat.zero_add, if_true,
    Bool.false_eq_true, if_false]

/-- A call that finds an entry counts in its window. -/
theorem checkRateLimit_present
    {redis : FakeRedis} {commands : Commands} {key : String}
    {options : RateLimitOptions} (incr : commands.incrFails = false)
    {entry : Entry}
    (found :
      redis.present commands.incrAt (redisKey key options) = some entry)
    (counted : entry.value ≠ 0) :
    checkRateLimit (some redis) commands key options =
      (some
          (Function.update redis (redisKey key options)
            (some
              { value := entry.value + 1, expiresAt := entry.expiry })),
        options.answer (entry.value + 1)) := by
  simp only [checkRateLimit, incr, FakeRedis.incr_eq, found,
    Option.elim_some, Option.bind_some, Nat.add_eq_right, counted,
    if_false, Bool.false_eq_true]

/-! ## Counting in the process -/

/-- `LocalWindow`, with `expiresAtMs` as its end. -/
abbrev LocalWindow := Window Rat

structure LocalRateLimiter where
  maxEntries : JsNumber
  windows : OrderedMap String LocalWindow := OrderedMap.empty
  checksSinceCleanup : Nat := 0

def createLocalRealtimeRateLimiter
    (maxEntries : Option JsNumber) : LocalRateLimiter where
  maxEntries := maxOne (maxEntries.getD (.integer 50000))

def cleanupExpiredWindows
    (windows : OrderedMap String LocalWindow) (nowMs : Rat)
    (maxEntries : JsNumber) (checksSinceCleanup : Nat) :
    OrderedMap String LocalWindow :=
  if isAtMost windows.size maxEntries ∧ checksSinceCleanup % 1000 ≠ 0 then
    windows
  else windows.filter fun window => ¬ window.expiresAt ≤ nowMs

def windowKey (key : String) (options : RateLimitOptions) : String :=
  options.keyPrefix ++ ":" ++ key

/-- The window of the check, with the check counted. -/
def LocalRateLimiter.counted
    (limiter : LocalRateLimiter) (now : Rat) (key : String)
    (options : RateLimitOptions) : LocalWindow :=
  let windowMs := max 1 (options.windowSeconds * 1000)
  let fresh : LocalWindow := { count := 0, expiresAt := now + windowMs }
  let window :=
    match limiter.windows.get (windowKey key options) with
    | none => fresh
    | some current => if now < current.expiresAt then current else fresh
  { window with count := window.count + 1 }

def LocalRateLimiter.check
    (limiter : LocalRateLimiter) (now : Rat) (key : String)
    (options : RateLimitOptions) : LocalRateLimiter × RateLimitResult :=
  let window := limiter.counted now key options
  let checksSinceCleanup := limiter.checksSinceCleanup + 1
  ({ limiter with
      windows :=
        cleanupExpiredWindows
          (limiter.windows.set (windowKey key options) window) now
          limiter.maxEntries checksSinceCleanup
      checksSinceCleanup := checksSinceCleanup },
    options.answer window.count)

/-! ## The limiter of the real-time service -/

inductive RealtimeRateLimitMode where
  | inProcess
  | redis
  | off
deriving DecidableEq, Repr

/-- Everything but `redis` and `off` is `local`. -/
def parseRealtimeRateLimitMode
    (value : Option String) : RealtimeRateLimitMode :=
  if value = some "redis" then .redis
  else if value = some "off" then .off
  else .inProcess

inductive RealtimeRateLimiter where
  | inProcess (limiter : LocalRateLimiter)
  | redis (store : Option FakeRedis)
  | off

structure RealtimeRateLimiterOptions where
  mode : Option String := none
  maxEntries : Option JsNumber := none
deriving DecidableEq, Repr

/-- The mode comes from the options, or else from the environment. -/
def createRealtimeRateLimiter
    (environment : Option String) (redis : Option FakeRedis)
    (options : RealtimeRateLimiterOptions) : RealtimeRateLimiter :=
  match parseRealtimeRateLimitMode (options.mode.or environment) with
  | .redis => .redis redis
  | .off => .off
  | .inProcess =>
      .inProcess (createLocalRealtimeRateLimiter options.maxEntries)

/-- A check at one reading of the clock, with Redis available. -/
structure Check where
  now : Rat
  key : String
  options : RateLimitOptions
deriving DecidableEq, Repr

def RealtimeRateLimiter.check
    (limiter : RealtimeRateLimiter) (check : Check) :
    RealtimeRateLimiter × RateLimitResult :=
  match limiter with
  | .inProcess limiter =>
      let checked := limiter.check check.now check.key check.options
      (.inProcess checked.1, checked.2)
  | .redis store =>
      let checked :=
        checkRateLimit store (.atOnce check.now) check.key check.options
      (.redis checked.1, checked.2)
  | .off => (.off, failOpen)

end ChatBackend.Realtime.RateLimits
