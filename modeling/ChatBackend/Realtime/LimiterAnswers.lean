import ChatBackend.Realtime.RateLimits
import Mathlib.Tactic.Linarith

/-!
# The answers of the rate limiters

Both limiters keep fixed windows.  The one in the process deletes windows
after their end, when a check finds too many of them or every thousandth
time; the one in Redis leaves this to the expiry of its keys.  Neither shows:
they give the answers of one counter, so `limiters_agree`.

`local_quota` is the bound on what the limiter in the process allows, over
any interval of the length of a window.
-/

namespace ChatBackend.Realtime.LimiterAnswers

open ChatBackend.Foundation.FixedWindows
open ChatBackend.Foundation.OrderedSets
open ChatBackend.Chats.ChatReads
open ChatBackend.Realtime.RateLimits

/-- The hit of a check on its window. -/
def hitOf (check : Check) : Hit String Rat where
  key := windowKey check.key check.options
  now := check.now
  stop := check.now + max 1 (check.options.windowSeconds * 1000)

def answerOf (check : Check) (count : Nat) : RateLimitResult :=
  check.options.answer count

/-! ## The limiter in the process -/

def localStep
    (limiter : LocalRateLimiter) (check : Check) :
    LocalRateLimiter × RateLimitResult :=
  limiter.check check.now check.key check.options

/-- The same limiter, if it never deleted a window. -/
def localStepWithoutCleanup
    (limiter : LocalRateLimiter) (check : Check) :
    LocalRateLimiter × RateLimitResult :=
  let window := limiter.counted check.now check.key check.options
  ({ limiter with
      windows :=
        limiter.windows.set (windowKey check.key check.options) window },
    check.options.answer window.count)

theorem counted_eq_hit (limiter : LocalRateLimiter) (check : Check) :
    limiter.counted check.now check.key check.options =
      hit (hitOf check).now (hitOf check).stop
        (limiter.windows.get (hitOf check).key) := by
  simp only [LocalRateLimiter.counted, hit, hitOf]
  cases limiter.windows.get (windowKey check.key check.options) with
  | none => rfl
  | some current =>
      by_cases isOpen : check.now < current.expiresAt
      · simp [live, Option.filter, isOpen]
      · simp [live, Option.filter, isOpen]

/-- The clean-up deletes ended windows only. -/
theorem live_cleanupExpiredWindows
    (windows : OrderedMap String LocalWindow) (now : Rat)
    (maxEntries : JsNumber) (checksSinceCleanup : Nat) (key : String) :
    live now
        ((cleanupExpiredWindows windows now maxEntries
            checksSinceCleanup).get key) =
      live now (windows.get key) := by
  unfold cleanupExpiredWindows
  split
  · rfl
  · rw [OrderedMap.get_filter]
    cases windows.get key with
    | none => rfl
    | some window =>
        by_cases isOpen : now < window.expiresAt
        · simp [live, Option.filter, isOpen]
        · simp [live, Option.filter, isOpen]

/-- A map that differs from the counted one in ended windows only. -/
theorem sameLive_of_counted
    (limiter : LocalRateLimiter) (check : Check)
    {after : OrderedMap String LocalWindow}
    (same :
      ∀ key,
        live check.now (after.get key) =
          live check.now
            ((limiter.windows.set (windowKey check.key check.options)
                (limiter.counted check.now check.key
                  check.options)).get key)) :
    SameLive (hitOf check).now after.get
      (tally hitOf answerOf limiter.windows.get check).1 := by
  intro key
  have entry := same key
  rw [OrderedMap.get_set, counted_eq_hit] at entry
  simp only [tally, Function.update_apply]
  exact entry

theorem localStep_implements :
    Implements hitOf answerOf (fun limiter => limiter.windows.get)
      localStep (fun _ => True) (fun _ => True) where
  preserved := fun _ _ _ _ => trivial
  sameAnswer := by
    intro limiter check _ _
    simp only [localStep, LocalRateLimiter.check,
      counted_eq_hit]
    rfl
  sameWindows := by
    intro limiter check _ _
    exact
      sameLive_of_counted limiter check
        (live_cleanupExpiredWindows _ _ _ _)

theorem localStepWithoutCleanup_implements :
    Implements hitOf answerOf (fun limiter => limiter.windows.get)
      localStepWithoutCleanup
      (fun _ => True) (fun _ => True) where
  preserved := fun _ _ _ _ => trivial
  sameAnswer := by
    intro limiter check _ _
    simp only [localStepWithoutCleanup, counted_eq_hit]
    rfl
  sameWindows := by
    intro limiter check _ _
    exact sameLive_of_counted limiter check (fun _ => rfl)

/-! ## The limiter in Redis -/

/-- The window of an entry with an expiry. -/
def Entry.window (entry : Entry) : Option (Window Rat) :=
  entry.expiry.map fun expiresAt =>
    { count := entry.value, expiresAt := expiresAt }

/-- The windows that a store shows, without the prefix of their keys. -/
def redisWindows (redis : FakeRedis) (key : String) :
    Option (Window Rat) :=
  (redis ("rate:" ++ key)).bind Entry.window

/-- Every counter has been counted in and has an expiry. -/
def Counting (redis : FakeRedis) : Prop :=
  ∀ key entry, redis key = some entry →
    entry.value ≠ 0 ∧ ∃ expiresAt, entry.expiry = some expiresAt

/-- A reading of the clock, and a window which is not rounded up. -/
structure Proper (check : Check) : Prop where
  fromEpoch : 0 ≤ check.now
  window : 1 ≤ check.options.windowSeconds

/-- A check in Redis, with both commands answered. -/
def redisStep
    (redis : FakeRedis) (check : Check) : FakeRedis × RateLimitResult :=
  let checked :=
    checkRateLimit (some redis) (.atOnce check.now) check.key
      check.options
  (checked.1.getD redis, checked.2)

theorem redisKey_eq (key : String) (options : RateLimitOptions) :
    redisKey key options = "rate:" ++ windowKey key options := by
  simp only [redisKey, windowKey, String.append_assoc]

theorem redisWindows_update
    (redis : FakeRedis) (key : String) (entry : Entry) :
    redisWindows (Function.update redis ("rate:" ++ key) (some entry)) =
      Function.update (redisWindows redis) key (Entry.window entry) := by
  funext other
  simp only [redisWindows, Function.update_apply,
    String.append_right_inj]
  split <;> rfl

/-- An entry is present as long as its window is open. -/
theorem live_redisWindows
    (redis : FakeRedis) (now : Rat) (key : String) :
    live now (redisWindows redis key) =
      (redis.present now ("rate:" ++ key)).bind Entry.window := by
  unfold redisWindows FakeRedis.present
  cases redis ("rate:" ++ key) with
  | none => rfl
  | some entry =>
      cases expires : entry.expiry with
      | none =>
          simp [Entry.window, Entry.expired, Option.filter, expires, live]
      | some expiresAt =>
          by_cases isOpen : now < expiresAt
          · simp [Entry.window, Entry.expired, Option.filter, expires,
              live, isOpen]
          · simp [Entry.window, Entry.expired, Option.filter, expires,
              live, isOpen]

theorem Proper.stop_eq {check : Check} (proper : Proper check) :
    (hitOf check).stop =
      check.now + check.options.windowSeconds * 1000 := by
  have long : 1 ≤ check.options.windowSeconds * 1000 := by
    linarith [proper.window]
  simp only [hitOf, max_eq_right long]

/-- A window never ends at the time that FakeRedis takes for none. -/
theorem Proper.stop_ne_zero {check : Check} (proper : Proper check) :
    (hitOf check).stop ≠ 0 := by
  rw [proper.stop_eq]
  linarith [proper.fromEpoch, proper.window]

/-- What a check does to the store: it counts one hit of its window. -/
theorem redisStep_eq
    {redis : FakeRedis} (counting : Counting redis) {check : Check}
    (proper : Proper check) :
    ∃ entry,
      redisStep redis check =
          (Function.update redis ("rate:" ++ (hitOf check).key)
              (some entry),
            check.options.answer entry.value) ∧
        entry.value ≠ 0 ∧
          Entry.window entry =
            some
              (hit (hitOf check).now (hitOf check).stop
                (redisWindows redis (hitOf check).key)) := by
  have shown :=
    live_redisWindows redis check.now (hitOf check).key
  have sameKey :
      redisKey check.key check.options = "rate:" ++ (hitOf check).key :=
    redisKey_eq check.key check.options
  cases found :
      redis.present check.now ("rate:" ++ (hitOf check).key) with
  | none =>
      rw [found] at shown
      have absent :
          redis.present (Commands.atOnce check.now).incrAt
              (redisKey check.key check.options) =
            none := by
        rw [sameKey]
        exact found
      refine
        ⟨{ value := 1
           expiresAt :=
             some (check.now + check.options.windowSeconds * 1000) },
          ?_, Nat.one_ne_zero, ?_⟩
      · simp only [redisStep, checkRateLimit_absent rfl absent rfl,
          sameKey]
        rfl
      · have opens :
            hit (hitOf check).now (hitOf check).stop
                (redisWindows redis (hitOf check).key) =
              { count := 1, expiresAt := (hitOf check).stop } := by
          rw [hit]
          have closed :
              live (hitOf check).now
                  (redisWindows redis (hitOf check).key) =
                none :=
            shown
          rw [closed]
        rw [opens, ← proper.stop_eq]
        simp [Entry.window, Entry.expiry, Option.filter,
          proper.stop_ne_zero]
  | some entry =>
      rw [found] at shown
      have inStore :
          redis ("rate:" ++ (hitOf check).key) = some entry :=
        (Option.filter_eq_some_iff.mp found).1
      rcases counting _ entry inStore with ⟨counted, expiresAt, expires⟩
      have present :
          redis.present (Commands.atOnce check.now).incrAt
              (redisKey check.key check.options) =
            some entry := by
        rw [sameKey]
        exact found
      refine
        ⟨{ value := entry.value + 1, expiresAt := entry.expiry }, ?_,
          Nat.succ_ne_zero _, ?_⟩
      · simp only [redisStep,
          checkRateLimit_present rfl present counted, sameKey]
        rfl
      · have isOpen :
            live (hitOf check).now
                (redisWindows redis (hitOf check).key) =
              some { count := entry.value, expiresAt := expiresAt } := by
          rw [show (hitOf check).now = check.now from rfl, shown]
          simp [Entry.window, expires]
        rw [hit, isOpen]
        rw [Entry.window, Entry.expiry_expiry, expires]
        rfl

theorem redisStep_implements :
    Implements hitOf answerOf redisWindows redisStep Counting Proper where
  preserved := by
    intro redis check counting proper
    rcases redisStep_eq counting proper with
      ⟨entry, stepped, counted, window⟩
    rw [stepped]
    intro key other found
    dsimp only at found
    rw [Function.update_apply] at found
    split at found
    · cases found
      rcases Option.map_eq_some_iff.mp window with
        ⟨expiresAt, expires, _⟩
      exact ⟨counted, expiresAt, expires⟩
    · exact counting key other found
  sameAnswer := by
    intro redis check counting proper
    rcases redisStep_eq counting proper with
      ⟨entry, stepped, _, window⟩
    rcases Option.map_eq_some_iff.mp window with ⟨_, _, shown⟩
    rw [stepped]
    simp only [tally, ← shown, answerOf]
  sameWindows := by
    intro redis check counting proper
    rcases redisStep_eq counting proper with
      ⟨entry, stepped, _, window⟩
    rw [stepped, redisWindows_update, window]
    intro key
    rfl

/-! ## Agreement -/

/-- Readings of the clock, which counts from the epoch and never goes back. -/
structure ClockReadings (times : List Rat) : Prop where
  fromEpoch : ∀ time ∈ times, 0 ≤ time
  ordered : times.Pairwise (· ≤ ·)

/-- The limiter of the real-time service answers from its state. -/
theorem answers_inProcess (limiter : LocalRateLimiter) (checks : List Check) :
    answers RealtimeRateLimiter.check (.inProcess limiter) checks =
      answers localStep limiter checks := by
  induction checks generalizing limiter with
  | nil => rfl
  | cons check rest induction =>
      simp only [answers, RealtimeRateLimiter.check, induction]
      rfl

theorem answers_redis (redis : FakeRedis) (checks : List Check) :
    answers RealtimeRateLimiter.check (.redis (some redis)) checks =
      answers redisStep redis checks := by
  induction checks generalizing redis with
  | nil => rfl
  | cons check rest induction =>
      have stays :
          (checkRateLimit (some redis) (.atOnce check.now) check.key
              check.options).1 =
            some (redisStep redis check).1 := by
        simp only [redisStep, checkRateLimit]
        split
        · rfl
        · split
          · split <;> rfl
          · rfl
      simp only [answers, RealtimeRateLimiter.check, stays, induction]
      rfl

/--
The limiter in the process answers every check like the limiter in Redis,
and also like itself if it never deleted a window.
-/
theorem limiters_agree
    (environment : Option String) (redis : Option FakeRedis)
    (maxEntries : Option JsNumber) (checks : List Check)
    (readings : ClockReadings (checks.map Check.now))
    (windows : ∀ check ∈ checks, 1 ≤ check.options.windowSeconds) :
    answers RealtimeRateLimiter.check
          (createRealtimeRateLimiter environment redis
            { mode := some "local", maxEntries := maxEntries })
          checks =
        answers RealtimeRateLimiter.check
          (createRealtimeRateLimiter environment (some fun _ => none)
            { mode := some "redis" })
          checks ∧
      answers localStep (createLocalRealtimeRateLimiter maxEntries)
          checks =
        answers localStepWithoutCleanup
          (createLocalRealtimeRateLimiter maxEntries) checks := by
  have inProcess :
      answers localStep (createLocalRealtimeRateLimiter maxEntries)
          checks =
        answers (tally hitOf answerOf) (fun _ => none) checks :=
    localStep_implements.answers_eq_view trivial (fun _ _ => trivial)
      readings.ordered
  have withoutCleanup :
      answers localStepWithoutCleanup
          (createLocalRealtimeRateLimiter maxEntries) checks =
        answers (tally hitOf answerOf) (fun _ => none) checks :=
    localStepWithoutCleanup_implements.answers_eq_view trivial
      (fun _ _ => trivial) readings.ordered
  have inRedis :
      answers redisStep (fun _ => none) checks =
        answers (tally hitOf answerOf) (fun _ => none) checks :=
    redisStep_implements.answers_eq_view
      (fun key entry found => by cases found)
      (fun check member =>
        { fromEpoch :=
            readings.fromEpoch check.now (List.mem_map_of_mem member)
          window := windows check member })
      readings.ordered
  refine ⟨?_, inProcess.trans withoutCleanup.symm⟩
  calc
    answers RealtimeRateLimiter.check
        (.inProcess (createLocalRealtimeRateLimiter maxEntries))
        checks =
      answers localStep (createLocalRealtimeRateLimiter maxEntries)
        checks := answers_inProcess _ checks
    _ = answers redisStep (fun _ => none) checks :=
      inProcess.trans inRedis.symm
    _ =
      answers RealtimeRateLimiter.check
        (.redis (some fun _ => none)) checks :=
      (answers_redis _ checks).symm

/-- Checks of two keys; the second window ends when the third check comes. -/
def exampleChecks : List Check :=
  let options : RateLimitOptions :=
    { keyPrefix := "ws:send", limit := .integer 1, windowSeconds := 1 }
  [{ now := 1000, key := "ana", options := options },
    { now := 1500, key := "ana", options := options },
    { now := 1500, key := "ben", options := options },
    { now := 2000, key := "ana", options := options }]

theorem limiters_agree_example :
    answers RealtimeRateLimiter.check
          (createRealtimeRateLimiter none none
            { mode := some "local", maxEntries := some (.integer 1) })
          exampleChecks =
        answers RealtimeRateLimiter.check
          (createRealtimeRateLimiter none (some fun _ => none)
            { mode := some "redis" })
          exampleChecks ∧
      answers localStep
          (createLocalRealtimeRateLimiter (some (.integer 1)))
          exampleChecks =
        [{ allowed := true, count := 1 }, { allowed := false, count := 2 },
          { allowed := true, count := 1 }, { allowed := true, count := 1 }] := by
  have readings : ClockReadings (exampleChecks.map Check.now) :=
    { fromEpoch := by decide +kernel
      ordered := by decide +kernel }
  exact
    ⟨(limiters_agree none none (some (.integer 1)) exampleChecks readings
        (by decide +kernel)).1,
      by decide +kernel⟩

/-! ## The quota of the limiter in the process -/

/-- An allowed check of the key. -/
def Allowed (key : String) (entry : Check × RateLimitResult) : Prop :=
  windowKey entry.1.key entry.1.options = key ∧ entry.2.allowed = true

instance (key : String) (entry : Check × RateLimitResult) :
    Decidable (Allowed key entry) :=
  inferInstanceAs (Decidable (_ ∧ _))

/-- The checks of a key use one limit and one length of windows. -/
def FixedOptions
    (key : String) (limit : Nat) (windowSeconds : Rat)
    (checks : List Check) : Prop :=
  ∀ check ∈ checks, windowKey check.key check.options = key →
    check.options.limit = .integer limit ∧
      check.options.windowSeconds = windowSeconds

theorem allowed_iff_admitted
    {key : String} {limit : Nat} {windowSeconds : Rat}
    {checks : List Check}
    (fixed : FixedOptions key limit windowSeconds checks)
    {entry : Check × Nat} (member : entry.1 ∈ checks) :
    Allowed key (entry.1, answerOf entry.1 entry.2) ↔
      Admitted hitOf key limit entry := by
  apply and_congr_right
  intro isKey
  simp only [answerOf, RateLimitOptions.answer,
    (fixed entry.1 member isKey).1, isAtMost, decide_eq_true_eq,
    Nat.cast_le]

/-- Counting allowed checks is counting admitted hits. -/
theorem countP_allowed
    {key : String} {limit : Nat} {windowSeconds : Rat}
    {checks : List Check}
    (fixed : FixedOptions key limit windowSeconds checks)
    {entries : List (Check × Nat)}
    (members : ∀ entry ∈ entries, entry.1 ∈ checks)
    (during : Rat → Prop) [DecidablePred during] :
    ((entries.map fun entry => (entry.1, answerOf entry.1 entry.2)).countP
        fun entry => Allowed key entry ∧ during entry.1.now) =
      entries.countP fun entry =>
        Admitted hitOf key limit entry ∧
          during (hitOf entry.1).now := by
  rw [List.countP_map]
  apply List.countP_congr
  intro entry member
  simp only [Function.comp_apply, decide_eq_true_eq]
  exact
    and_congr_left' (allowed_iff_admitted fixed (members entry member))

/--
At most twice the limit of the checks of a key are allowed within the length
of a window, and a refused check comes after as many allowed ones as the
limit, all of them within the length of a window before it.
-/
theorem local_quota
    (maxEntries : Option JsNumber) (key : String) (limit : Nat)
    (windowSeconds : Rat) (positive : 1 ≤ windowSeconds * 1000)
    (checks : List Check)
    (ordered : (checks.map Check.now).Pairwise (· ≤ ·))
    (fixed : FixedOptions key limit windowSeconds checks) :
    let answered :=
      checks.zip
        (answers localStep (createLocalRealtimeRateLimiter maxEntries)
          checks)
    (∀ start,
        (answered.countP fun entry =>
            Allowed key entry ∧
              start ≤ entry.1.now ∧
                entry.1.now < start + windowSeconds * 1000) ≤
          2 * limit) ∧
      ∀ before refused after,
        answered = before ++ refused :: after →
          windowKey refused.1.key refused.1.options = key →
            refused.2.allowed = false →
              limit ≤
                before.countP fun entry =>
                  Allowed key entry ∧
                    refused.1.now - windowSeconds * 1000 <
                        entry.1.now ∧
                      entry.1.now ≤ refused.1.now := by
  intro answered
  have isLedger :
      answered =
        (ledger hitOf (fun _ => none) checks).map
          fun entry => (entry.1, answerOf entry.1 entry.2) := by
    have same :
        answers localStep (createLocalRealtimeRateLimiter maxEntries)
            checks =
          answers (tally hitOf answerOf) (fun _ => none) checks :=
      localStep_implements.answers_eq_view trivial (fun _ _ => trivial)
        ordered
    simp only [answered, same]
    exact zip_answers_tally _ checks
  have length :
      FixedLength hitOf key (windowSeconds * 1000) checks := by
    intro check member isKey
    simp only [hitOf, (fixed check member isKey).2,
      max_eq_right positive]
  have members :
      ∀ entry ∈ ledger hitOf (fun _ => none) checks,
        entry.1 ∈ checks :=
    fun _ => mem_of_mem_ledger
  constructor
  · intro start
    rw [isLedger,
      countP_allowed fixed members fun now =>
        start ≤ now ∧ now < start + windowSeconds * 1000]
    exact admitted_in_interval length ordered start
  · intro before refused after split isKey isRefused
    rw [isLedger] at split
    rcases List.map_eq_append_iff.mp split with
      ⟨earlier, rest, isSplit, rfl, isRest⟩
    rcases List.map_eq_cons_iff.mp isRest with
      ⟨entry, later, rfl, rfl, rfl⟩
    have entryMember : entry ∈ ledger hitOf (fun _ => none) checks := by
      rw [isSplit]
      exact List.mem_append_right _ List.mem_cons_self
    have beyond : limit < entry.2 := by
      by_contra within
      have allowed :=
        (allowed_iff_admitted fixed (members entry entryMember)).mpr
          ⟨isKey, not_lt.mp within⟩
      exact absurd (isRefused.symm.trans allowed.2) (by decide)
    have bound :=
      admitted_before_refusal length ordered
        (fun current isOpen => by cases isOpen) isSplit isKey beyond
    rw [countP_allowed fixed
      (fun earlierEntry member =>
        members earlierEntry
          (by rw [isSplit]; exact List.mem_append_left _ member))
      fun now =>
        entry.1.now - windowSeconds * 1000 < now ∧ now ≤ entry.1.now]
    simp only [sub_lt_iff_lt_add]
    exact bound

/-- Ana's checks with their answers. -/
def exampleAnswered : List (Check × RateLimitResult) :=
  exampleChecks.zip
    (answers localStep (createLocalRealtimeRateLimiter none)
      exampleChecks)

/-- One of Ana's checks is refused, after one that was allowed. -/
theorem local_quota_example :
    ((exampleAnswered.countP fun entry =>
          Allowed "ws:send:ana" entry ∧
            1500 ≤ entry.1.now ∧ entry.1.now < 1500 + 1 * 1000) ≤
        2 * 1 ∧
      1 ≤
        (exampleAnswered.take 1).countP fun entry =>
          Allowed "ws:send:ana" entry ∧
            1500 - 1 * 1000 < entry.1.now ∧ entry.1.now ≤ 1500) ∧
      (exampleAnswered.map fun entry => entry.2.allowed) =
        [true, false, true, true] := by
  have quota :=
    local_quota none "ws:send:ana" 1 1 (by decide +kernel) exampleChecks
      (by decide +kernel)
      (by
        intro check member isKey
        simp only [exampleChecks, List.mem_cons, List.not_mem_nil,
          or_false] at member
        rcases member with rfl | rfl | rfl | rfl <;> exact ⟨rfl, rfl⟩)
  have split :
      exampleAnswered =
        exampleAnswered.take 1 ++
          ({ now := 1500
             key := "ana"
             options :=
               { keyPrefix := "ws:send"
                 limit := .integer 1
                 windowSeconds := 1 } },
            { allowed := false, count := 2 }) ::
            exampleAnswered.drop 2 := by
    decide +kernel
  have second := quota.2 _ _ _ split (by decide) (by decide)
  exact ⟨⟨quota.1 1500, second⟩, by decide +kernel⟩

end ChatBackend.Realtime.LimiterAnswers
