import ChatBackend.Foundation.EventRuns
import ChatBackend.Realtime.RateLimits
import Mathlib.Tactic.Linarith

/-!
# The end of a window in Redis

`checkRateLimit` sends `EXPIRE` after the first `INCR` of a window only.  If
this one command fails, the counter stays without an expiry, and no later
call repairs it.  `windows_end_iff` says that nothing else can go wrong:
windows always end exactly if no `EXPIRE` that is sent fails.
-/

namespace ChatBackend.Realtime.ExpiringCounters

open ChatBackend.Foundation.EventRuns
open ChatBackend.Realtime.RateLimits

variable (key : String) (options : RateLimitOptions)

/-- The store, and the time when the last call has finished. -/
structure LimiterState where
  redis : FakeRedis := fun _ => none
  clock : Rat := 0

/-- One call of `checkRateLimit` with the key. -/
def step (state : LimiterState) (commands : Commands) : LimiterState where
  redis :=
    ((checkRateLimit (some state.redis) commands key options).1).getD
      state.redis
  clock := commands.expireAt

/-- The commands run one after another. -/
def InOrder (state : LimiterState) (commands : Commands) : Prop :=
  state.clock ≤ commands.incrAt ∧ commands.incrAt ≤ commands.expireAt

/--
A counter that exists has an expiry, and a call made more than the length of
a window later counts from one.
-/
structure WindowEnds (state : LimiterState) : Prop where
  expires :
    ∀ entry, state.redis (redisKey key options) = some entry →
      ∃ expiresAt, entry.expiry = some expiresAt
  restarts :
    ∀ later, state.clock + options.windowSeconds * 1000 < later →
      (state.redis.incr later (redisKey key options)).2 = 1

/-- The call sends `EXPIRE` if its `INCR` succeeds and finds no counter. -/
def SendsExpire (state : LimiterState) (commands : Commands) : Prop :=
  commands.incrFails = false ∧
    state.redis.present commands.incrAt (redisKey key options) = none

def ExpireSucceeds (state : LimiterState) (commands : Commands) : Prop :=
  SendsExpire key options state commands → commands.expireFails = false

/-! ## Calls -/

/-- What a call does to the counter. -/
inductive CounterStep
    (state : LimiterState) (commands : Commands) :
    LimiterState → Prop where
  | failed (fails : commands.incrFails = true) :
      CounterStep state commands
        { redis := state.redis, clock := commands.expireAt }
  | counted (entry : Entry)
      (found : state.redis (redisKey key options) = some entry) :
      CounterStep state commands
        { redis :=
            Function.update state.redis (redisKey key options)
              (some
                { value := entry.value + 1, expiresAt := entry.expiry })
          clock := commands.expireAt }
  | started
      (sends : SendsExpire key options state commands)
      (succeeds : commands.expireFails = false) :
      CounterStep state commands
        { redis :=
            Function.update state.redis (redisKey key options)
              (some
                { value := 1
                  expiresAt :=
                    some
                      (commands.expireAt +
                        options.windowSeconds * 1000) })
          clock := commands.expireAt }
  | lost
      (sends : SendsExpire key options state commands)
      (fails : commands.expireFails = true) :
      CounterStep state commands
        { redis :=
            Function.update state.redis (redisKey key options)
              (some { value := 1 })
          clock := commands.expireAt }

/-! ## The invariant -/

/-- The counter has been counted in and expires in time. -/
structure Expiring (state : LimiterState) : Prop where
  fromEpoch : 0 ≤ state.clock
  counter :
    ∀ entry, state.redis (redisKey key options) = some entry →
      entry.value ≠ 0 ∧
        ∃ expiresAt, entry.expiry = some expiresAt ∧
          expiresAt ≤ state.clock + options.windowSeconds * 1000

variable {key options}

/-- A counter that has expired is not found. -/
theorem present_eq_none
    {redis : FakeRedis} {later : Rat}
    (expired :
      ∀ entry, redis (redisKey key options) = some entry →
        ∃ expiresAt, entry.expiry = some expiresAt ∧
          expiresAt ≤ later) :
    redis.present later (redisKey key options) = none := by
  rw [FakeRedis.present, Option.filter_eq_none_iff]
  intro entry found
  rcases expired entry found with ⟨expiresAt, expires, ended⟩
  simp [Entry.expired, expires, ended]

theorem Expiring.windowEnds
    {state : LimiterState} (expiring : Expiring key options state) :
    WindowEnds key options state where
  expires := by
    intro entry found
    rcases (expiring.counter entry found).2 with
      ⟨expiresAt, expires, _⟩
    exact ⟨expiresAt, expires⟩
  restarts := by
    intro later passed
    have absent :
        state.redis.present later (redisKey key options) = none := by
      apply present_eq_none
      intro entry found
      rcases (expiring.counter entry found).2 with
        ⟨expiresAt, expires, bound⟩
      exact ⟨expiresAt, expires, bound.trans (le_of_lt passed)⟩
    rw [FakeRedis.incr_eq, absent]
    rfl

/-- Every call is one of these steps, if counters are never zero. -/
theorem step_counterStep
    {state : LimiterState} (expiring : Expiring key options state)
    (commands : Commands) :
    CounterStep key options state commands
      (step key options state commands) := by
  cases fails : commands.incrFails with
  | true =>
      have unchanged :
          step key options state commands =
            { redis := state.redis, clock := commands.expireAt } := by
        simp [step, checkRateLimit, fails]
      rw [unchanged]
      exact .failed fails
  | false =>
      cases found :
          state.redis.present commands.incrAt (redisKey key options) with
      | some entry =>
          have inStore := (Option.filter_eq_some_iff.mp found).1
          have counted := (expiring.counter entry inStore).1
          rw [step, checkRateLimit_present fails found counted]
          exact .counted entry inStore
      | none =>
          cases lost : commands.expireFails with
          | false =>
              rw [step, checkRateLimit_absent fails found lost]
              exact .started ⟨fails, found⟩ lost
          | true =>
              rw [step, checkRateLimit_absent_lost fails found lost]
              exact .lost ⟨fails, found⟩ lost

/-- A counter without an expiry stays when its `EXPIRE` fails. -/
theorem expireSucceeds_of_windowEnds
    {state : LimiterState} {commands : Commands}
    (ends : WindowEnds key options (step key options state commands)) :
    ExpireSucceeds key options state commands := by
  intro sends
  by_contra fails
  have stays :
      (step key options state commands).redis (redisKey key options) =
        some { value := 1 } := by
    rw [step,
      checkRateLimit_absent_lost sends.1 sends.2
        (Bool.eq_true_of_not_eq_false fails)]
    exact Function.update_self _ _ _
  rcases ends.expires _ stays with ⟨expiresAt, expires⟩
  cases expires

section Steps

variable (positive : 0 < options.windowSeconds)
  {state : LimiterState} {commands : Commands}
  (expiring : Expiring key options state)
  (inOrder : InOrder state commands)

include positive expiring inOrder

theorem step_expiring
    (succeeds : ExpireSucceeds key options state commands) :
    Expiring key options (step key options state commands) := by
  have later : state.clock ≤ commands.expireAt :=
    inOrder.1.trans inOrder.2
  have fromEpoch : 0 ≤ commands.expireAt :=
    expiring.fromEpoch.trans later
  have change := step_counterStep expiring commands
  generalize step key options state commands = after at change ⊢
  cases change with
  | failed _ =>
      refine { fromEpoch := fromEpoch, counter := ?_ }
      intro entry found
      rcases expiring.counter entry found with
        ⟨counted, expiresAt, expires, bound⟩
      exact ⟨counted, expiresAt, expires, by dsimp only; linarith⟩
  | counted old oldFound =>
      refine { fromEpoch := fromEpoch, counter := ?_ }
      intro entry found
      dsimp only at found ⊢
      rw [Function.update_self, Option.some.injEq] at found
      rcases (expiring.counter old oldFound).2 with
        ⟨expiresAt, expires, bound⟩
      subst found
      refine ⟨Nat.succ_ne_zero _, expiresAt, ?_, by linarith⟩
      rw [Entry.expiry_expiry, expires]
  | started _ _ =>
      refine { fromEpoch := fromEpoch, counter := ?_ }
      intro entry found
      dsimp only at found ⊢
      rw [Function.update_self, Option.some.injEq] at found
      subst found
      have nonzero :
          commands.expireAt + options.windowSeconds * 1000 ≠ 0 := by
        linarith
      refine ⟨Nat.one_ne_zero, _, ?_, le_refl _⟩
      simp [Entry.expiry, Option.filter, nonzero]
  | lost sends fails =>
      rw [succeeds sends] at fails
      cases fails

end Steps

/--
After every call the counter of the key has an expiry if it exists, and a
call after the length of a window counts from one, exactly if in the whole
run no `EXPIRE` that is sent fails.
-/
theorem windows_end_iff
    (key : String) (options : RateLimitOptions)
    (positive : 0 < options.windowSeconds) (calls : List Commands)
    (inOrder : EveryStep (step key options) InOrder {} calls) :
    EveryStep (step key options)
        (fun state commands =>
          WindowEnds key options (step key options state commands))
        {} calls ↔
      EveryStep (step key options) (ExpireSucceeds key options) {}
        calls :=
  everyStep_iff_assumed
    (fun _ _ expiring ordered succeeds =>
      step_expiring positive expiring ordered succeeds)
    (fun _ _ expiring ordered =>
      ⟨expireSucceeds_of_windowEnds,
        fun succeeds =>
          (step_expiring positive expiring ordered succeeds).windowEnds⟩)
    { fromEpoch := le_refl (0 : Rat)
      counter := fun entry found => by cases found }
    inOrder

/-! ## A lost expiry -/

def exampleOptions : RateLimitOptions where
  keyPrefix := "rest"
  limit := .integer 120
  windowSeconds := 60

/-- Two calls in one window, and one after its end. -/
def exampleCalls : List Commands :=
  [{ incrAt := 1000, expireAt := 1001 },
    { incrAt := 2000, expireAt := 2000 },
    { incrAt := 70000, expireAt := 70000 }]

theorem windows_end_iff_example :
    (EveryStep (step "ana" exampleOptions)
          (fun state commands =>
            WindowEnds "ana" exampleOptions
              (step "ana" exampleOptions state commands))
          {} exampleCalls ↔
        EveryStep (step "ana" exampleOptions)
          (ExpireSucceeds "ana" exampleOptions) {} exampleCalls) ∧
      ((run (step "ana" exampleOptions) {} exampleCalls).redis
          "rate:rest:ana").map Entry.value =
        some 1 := by
  have inOrder :
      EveryStep (step "ana" exampleOptions) InOrder {} exampleCalls := by
    refine ⟨⟨?_, ?_⟩, ⟨?_, ?_⟩, ⟨?_, ?_⟩, trivial⟩ <;> decide +kernel
  exact
    ⟨windows_end_iff "ana" exampleOptions (by decide +kernel)
        exampleCalls inOrder,
      by decide +kernel⟩

/-- The first call of a window loses its connection before `EXPIRE`. -/
theorem lost_expire_never_ends :
    ¬ EveryStep (step "ana" exampleOptions)
        (fun state commands =>
          WindowEnds "ana" exampleOptions
            (step "ana" exampleOptions state commands))
        {}
        [{ incrAt := 1000, expireAt := 1000, expireFails := true }] := by
  intro everyStep
  rcases everyStep.1.expires { value := 1 } (by decide +kernel) with
    ⟨expiresAt, expires⟩
  cases expires

end ChatBackend.Realtime.ExpiringCounters
