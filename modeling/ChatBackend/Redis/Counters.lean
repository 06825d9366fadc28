import ChatBackend.Realtime.RateLimits
import ChatBackend.Redis.FakeRedis
import Mathlib

/-!
# Counters in the store

The rate limits are proved about a store of numbers.  In `FakeRedis` these
numbers are texts among the entries of all clients, which are used for cached
messages and connections as well.

`Counts` relates the two stores: what is live under a key of a counter is the
text of its number.  `INCR` and `EXPIRE` keep this and reply the same in both,
and commands on other keys do not disturb it, so the results about the numbers
are results about the entries.
-/

namespace ChatBackend.Redis.Counters

open ChatBackend.Foundation.ExpiringStores
open ChatBackend.Redis.FakeRedis

/-- The numbers under the keys of the rate limits. -/
abbrev Numbers := Realtime.RateLimits.FakeRedis

/-! ## Commands -/

/--
`INCR` of Redis, which nothing interrupts; a text that is no number is not
counted.
-/
def incr (now : Rat) (store : Entries) (key : String) :
    Entries × Option Nat :=
  let found := get now store key
  match (found.2.getD "0").toNat? with
  | none => (found.1, none)
  | some number =>
      (count now found.1 key (toString (number + 1)), some (number + 1))

/-- A command on a counter, or one of another kind. -/
inductive Event where
  | incr (key : String)
  | expire (key : String) (seconds : Rat)
  | other (action : Action)

/-- What a client gets; replies to other commands are not compared. -/
inductive Reply where
  | number (value : Option Nat)
  | flag (value : Bool)
  | foreign
deriving DecidableEq

/-- A command on the entries of `FakeRedis`. -/
def onEntries (now : Rat) (store : Entries) : Event → Entries × Reply
  | .incr key => (incr now store key).map id .number
  | .expire key seconds => (expire now store key seconds).map id .flag
  | .other action => ((execute now store action).1, .foreign)

/-- The numbers take no part in the other commands. -/
def onNumbers (now : Rat) (redis : Numbers) : Event → Numbers × Reply
  | .incr key =>
      let counted := redis.incr now key
      (counted.1, .number (some counted.2))
  | .expire key seconds => (redis.expire now key seconds).map id .flag
  | .other _ => (redis, .foreign)

/-- The replies of a run. -/
def replies
    {Store : Type} (perform : Rat → Store → Event → Store × Reply) :
    Store → List (Rat × Event) → List Reply
  | _, [] => []
  | store, (now, event) :: rest =>
      let result := perform now store event
      result.2 :: replies perform result.1 rest

/-! ## The relation -/

/-- The entry of a counter. -/
def entryOf (counter : Realtime.RateLimits.Entry) : Entry where
  value := .text (toString counter.value)
  expiresAt := counter.expiresAt

/-- Under each key of a counter the text of its number is live. -/
def Counts
    (isCounter : String → Prop) (now : Rat) (store : Entries)
    (redis : Numbers) : Prop :=
  ∀ key, isCounter key →
    live entryExpiry now store key =
      (redis.present now key).map entryOf

theorem expired_entryOf
    (now : Rat) (counter : Realtime.RateLimits.Entry) :
    Entry.expired now (entryOf counter) = counter.expired now :=
  rfl

/-- A counter and its entry end at the same time. -/
theorem fresh_entryOf
    (now : Rat) (counter : Option Realtime.RateLimits.Entry) :
    fresh entryExpiry now (counter.map entryOf) =
      (counter.filter fun entry => !entry.expired now).map entryOf := by
  cases counter with
  | none => rfl
  | some entry =>
      cases ended : entry.expired now <;>
        simp [fresh, Option.filter, entryExpiry, expired_entryOf, ended]

variable {isCounter : String → Prop} {now : Rat} {store : Entries}
  {redis : Numbers}

/-- The relation is kept when time passes. -/
theorem Counts.later
    (counts : Counts isCounter now store redis) {later : Rat}
    (ordered : now ≤ later) : Counts isCounter later store redis := by
  intro key isKey
  have same := counts key isKey
  rw [Realtime.RateLimits.FakeRedis.present, ← fresh_entryOf] at same
  rw [← live_live ordered, live, same, fresh_fresh ordered,
    fresh_entryOf]
  rfl

/-- A command that leaves an entry and a number under one key. -/
theorem Counts.updated
    (counts : Counts isCounter now store redis) {after : Entries}
    {key : String} (counter : Option Realtime.RateLimits.Entry)
    (isLive :
      live entryExpiry now after =
        Function.update (live entryExpiry now store) key
          (fresh entryExpiry now (counter.map entryOf))) :
    Counts isCounter now after (Function.update redis key counter) := by
  intro other isKey
  rw [isLive]
  by_cases same : other = key
  · subst same
    rw [Function.update_self, fresh_entryOf,
      Realtime.RateLimits.FakeRedis.present, Function.update_self]
  · rw [Function.update_of_ne same, counts other isKey,
      Realtime.RateLimits.FakeRedis.present,
      Realtime.RateLimits.FakeRedis.present, Function.update_of_ne same]

/-! ## Steps -/

/-- What `INCR` reads is the number of the counter. -/
theorem toNat_get
    (counts : Counts isCounter now store redis) {key : String}
    (isKey : isCounter key) :
    ((get now store key).2.getD "0").toNat? =
      some
        ((redis.present now key).elim 0
          Realtime.RateLimits.Entry.value) := by
  rw [FakeRedis.get, getEntry, look_entry, counts key isKey]
  cases redis.present now key with
  | none => exact Nat.toNat?_repr 0
  | some counter => exact Nat.toNat?_repr counter.value

/-- `INCR` replies the same, and the stores stay related. -/
theorem incr_counts
    (counts : Counts isCounter now store redis) {key : String}
    (isKey : isCounter key) :
    (incr now store key).2 = some (redis.incr now key).2 ∧
      Counts isCounter now (incr now store key).1
        (redis.incr now key).1 := by
  have counted :
      incr now store key =
        (count now (get now store key).1 key
            (toString
              ((redis.present now key).elim 0
                  Realtime.RateLimits.Entry.value +
                1)),
          some
            ((redis.present now key).elim 0
                Realtime.RateLimits.Entry.value +
              1)) := by
    simp only [incr, toNat_get counts isKey]
  rw [counted, Realtime.RateLimits.FakeRedis.incr_eq]
  refine ⟨rfl, counts.updated (some _) ?_⟩
  have looked :
      live entryExpiry now (get now store key).1 =
        live entryExpiry now store :=
    look_live store key
  have entries :=
    congrArg (fun result : Entries × Answer => live entryExpiry now result.1)
      (count_perform now (get now store key).1 key
        (toString
          ((redis.present now key).elim 0
              Realtime.RateLimits.Entry.value +
            1)))
  rw [perform_live, looked, counts key isKey] at entries
  refine entries.trans ?_
  cases redis.present now key <;> rfl

/-- `EXPIRE` replies the same, and the stores stay related. -/
theorem expire_counts
    (counts : Counts isCounter now store redis) {key : String}
    (isKey : isCounter key) (seconds : Rat) :
    (expire now store key seconds).2 = (redis.expire now key seconds).2 ∧
      Counts isCounter now (expire now store key seconds).1
        (redis.expire now key seconds).1 := by
  rw [Realtime.RateLimits.FakeRedis.expire_eq]
  have result := expire_perform now store key seconds
  constructor
  · have flags := congrArg Prod.snd result
    rw [perform_answer, counts key isKey] at flags
    have flag : (expire now store key seconds).2 =
        ((redis.present now key).map entryOf).isSome :=
      Answer.flag.inj flags
    rw [flag, Option.isSome_map]
  · refine counts.updated _ ?_
    have entries :=
      congrArg
        (fun result : Entries × Answer => live entryExpiry now result.1)
        result
    rw [perform_live, counts key isKey] at entries
    refine entries.trans ?_
    cases redis.present now key <;> rfl

/-- Counters have keys of their own. -/
def Regular (isCounter : String → Prop) : Event → Prop
  | .incr key | .expire key _ => isCounter key
  | .other action => ∀ key ∈ action.keys, ¬ isCounter key

/-- One command of any kind. -/
theorem step_counts
    (counts : Counts isCounter now store redis) {event : Event}
    (regular : Regular isCounter event) :
    (onEntries now store event).2 = (onNumbers now redis event).2 ∧
      Counts isCounter now (onEntries now store event).1
        (onNumbers now redis event).1 := by
  cases event with
  | incr key =>
      rcases incr_counts counts regular with ⟨reply, after⟩
      exact ⟨congrArg Reply.number reply, after⟩
  | expire key seconds =>
      rcases expire_counts counts regular seconds with ⟨reply, after⟩
      exact ⟨congrArg Reply.flag reply, after⟩
  | other action =>
      refine ⟨rfl, ?_⟩
      intro key isKey
      have notNamed : key ∉ action.keys :=
        fun named => regular key named isKey
      exact
        (execute_live_of_notMem now store notNamed).trans
          (counts key isKey)

/-- Stores that are related when the first command comes stay related. -/
theorem replies_of_counts
    {events : List (Rat × Event)}
    (regular : ∀ event ∈ events, Regular isCounter event.2)
    (ordered : (events.map Prod.fst).Pairwise (· ≤ ·))
    (counts :
      ∀ first ∈ events.head?, Counts isCounter first.1 store redis) :
    replies onEntries store events = replies onNumbers redis events := by
  induction events generalizing store redis with
  | nil => rfl
  | cons first rest induction =>
      rcases first with ⟨now, event⟩
      rw [List.map_cons, List.pairwise_cons] at ordered
      rcases step_counts (counts (now, event) (by simp))
          (regular (now, event) (by simp)) with
        ⟨reply, after⟩
      have others :=
        induction (fun other member => regular other (by simp [member]))
          ordered.2
          fun next isNext =>
            after.later
              (ordered.1 next.1
                (List.mem_map_of_mem (List.mem_of_mem_head? isNext)))
      rw [replies, replies, reply, others]

/--
From empty stores, the commands on counters reply the same in `FakeRedis` as
on the numbers, whatever other clients do under other keys in between.
-/
theorem counters_are_numbers
    {events : List (Rat × Event)}
    (regular : ∀ event ∈ events, Regular isCounter event.2)
    (ordered : (events.map Prod.fst).Pairwise (· ≤ ·)) :
    replies onEntries (fun _ => none) events =
      replies onNumbers (fun _ => none) events :=
  replies_of_counts regular ordered fun _ _ _ _ => rfl

end ChatBackend.Redis.Counters
