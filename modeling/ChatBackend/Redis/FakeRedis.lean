import ChatBackend.Foundation.ExpiringStores
import ChatBackend.Foundation.OrderedSets
import Mathlib.Algebra.Order.Ring.Unbundled.Rat
import Mathlib.Data.Finset.Card

/-!
# The store of `FakeRedis`

All duplicates of a client share one store.  An entry that has ended stays in
it until a command looks at its key.

`incr` waits between its reading and its writing, so it is two actions here:
a `get`, and a `count` with the text of the new number.

`executeEagerly` runs a command on a store from which everything that has
ended is gone, as Redis does.  `history_agrees` says that this makes no
difference to what is live, and to no answer but the number that `del`
returns, which includes the named entries that have ended.
-/

namespace ChatBackend.Redis.FakeRedis

open ChatBackend.Foundation.ExpiringStores
open ChatBackend.Foundation.OrderedSets

/-! ## Entries -/

/-- `string | Set<string>`. -/
inductive Value where
  | text (value : String)
  | set (members : OrderedSet String)

/-- A value, with the time of its end in milliseconds. -/
structure Entry where
  value : Value
  expiresAt : Option Rat := none

/-- An expiry of zero is falsy, like no expiry. -/
def Entry.expiry (entry : Entry) : Option Rat :=
  entry.expiresAt.filter fun expiresAt => expiresAt ≠ 0

/-- Whether an entry has ended. -/
def Entry.expired (now : Rat) (entry : Entry) : Bool :=
  entry.expiry.any fun expiresAt => expiresAt ≤ now

/-- What has ended does not come back. -/
def entryExpiry : Expiry Rat Entry where
  expired := Entry.expired
  mono := by
    intro now later entry ordered ended
    cases ends : entry.expiry with
    | none => simp [Entry.expired, ends] at ended
    | some expiresAt =>
        simp only [Entry.expired, ends, Option.any_some,
          decide_eq_true_eq] at ended ⊢
        exact ended.trans ordered

/-- The store of all duplicates of a client. -/
abbrev Entries := Store String Entry

/-- The value, when it is a string. -/
def Entry.text (entry : Entry) : Option String :=
  match entry.value with
  | .text value => some value
  | .set _ => none

/-- The value, when it is a set. -/
def Entry.members (entry : Entry) : Option (OrderedSet String) :=
  match entry.value with
  | .text _ => none
  | .set members => some members

/-! ## Commands -/

variable (now : Rat) (store : Entries) (key : String)

/-- An entry that has ended is deleted here. -/
def getEntry : Entries × Option Entry :=
  look entryExpiry now store key

/-- The text under a key. -/
def get : Entries × Option String :=
  let found := getEntry now store key
  (found.1, found.2.bind Entry.text)

/-- The options of `set`: an end in seconds, and only for a free key. -/
structure SetOptions where
  ex : Option Rat := none
  nx : Bool := false

/-- `EX` in seconds; zero is falsy. -/
def SetOptions.expiresAt (options : SetOptions) (now : Rat) :
    Option Rat :=
  (options.ex.filter fun seconds => seconds ≠ 0).map fun seconds =>
    now + seconds * 1000

/-- A new text under a key, unless it is to be new and the key is in use. -/
def set (value : String) (options : SetOptions) :
    Entries × Option String :=
  let found :=
    if options.nx then getEntry now store key else (store, none)
  if found.2.isSome then (found.1, none)
  else
    (Function.update found.1 key
        (some
          { value := .text value
            expiresAt := options.expiresAt now }),
      some "OK")

/-- `incr` after its `get`: the new number keeps the expiry. -/
def count (current : String) : Entries :=
  let existing := getEntry now store key
  Function.update existing.1 key
    (some
      { value := .text current
        expiresAt := existing.2.bind Entry.expiry })

/-- A new end for an entry that is there. -/
def expire (seconds : Rat) : Entries × Bool :=
  let found := getEntry now store key
  match found.2 with
  | none => (found.1, false)
  | some entry =>
      (Function.update found.1 key
          (some { entry with expiresAt := some (now + seconds * 1000) }),
        true)

/-- `del` does not look at the entries that it deletes. -/
def del (store : Entries) : List String → Entries × Nat
  | [] => (store, 0)
  | key :: keys =>
      if (store key).isSome then
        let later := del (Function.update store key none) keys
        (later.1, later.2 + 1)
      else del store keys

/-- Add members one by one, and count those that are new. -/
def addMembers (set : OrderedSet String) (members : List String) :
    OrderedSet String × Nat :=
  members.foldl
    (fun (current : OrderedSet String × Nat) member =>
      (current.1.add member,
        if member ∈ current.1 then current.2 else current.2 + 1))
    (set, 0)

/-- A text under the key gives way to a new set; an expiry is lost. -/
def sAdd (members : List String) : Entries × Nat :=
  let found := getEntry now store key
  let added := addMembers ((found.2.bind Entry.members).getD ∅) members
  (Function.update found.1 key (some { value := .set added.1 }), added.2)

/-- Delete members one by one, and count those that were there. -/
def removeMembers (set : OrderedSet String) (members : List String) :
    OrderedSet String × Nat :=
  members.foldl
    (fun (current : OrderedSet String × Nat) member =>
      (current.1.delete member,
        if member ∈ current.1 then current.2 + 1 else current.2))
    (set, 0)

/-- An empty set is deleted with its key. -/
def sRem (members : List String) : Entries × Nat :=
  let found := getEntry now store key
  match found.2 with
  | none => (found.1, 0)
  | some entry =>
      match entry.members with
      | none => (found.1, 0)
      | some set =>
          let removed := removeMembers set members
          (Function.update found.1 key
              (if removed.1.isEmpty then none
              else some { entry with value := .set removed.1 }),
            removed.2)

/-- The members of a set, in their order. -/
def sMembers : Entries × List String :=
  let found := getEntry now store key
  (found.1, ((found.2.bind Entry.members).getD ∅).items)

/-! ## Actions -/

/-- A command with its arguments. -/
inductive Action where
  | get (key : String)
  | set (key value : String) (options : SetOptions)
  | count (key current : String)
  | expire (key : String) (seconds : Rat)
  | del (keys : List String)
  | sAdd (key : String) (members : List String)
  | sRem (key : String) (members : List String)
  | sMembers (key : String)

/-- What a command resolves to. -/
inductive Answer where
  | text (value : Option String)
  | number (value : Nat)
  | flag (value : Bool)
  | members (items : List String)
  | nothing
deriving DecidableEq

/-- One command at its time. -/
def execute (now : Rat) (store : Entries) :
    Action → Entries × Answer
  | .get key => (get now store key).map id .text
  | .set key value options =>
      (set now store key value options).map id .text
  | .count key current => (count now store key current, .nothing)
  | .expire key seconds => (expire now store key seconds).map id .flag
  | .del keys => (del store keys).map id .number
  | .sAdd key members => (sAdd now store key members).map id .number
  | .sRem key members => (sRem now store key members).map id .number
  | .sMembers key => (sMembers now store key).map id .members

/-- Nothing that has ended is there when the command runs. -/
def executeEagerly (now : Rat) (store : Entries) (action : Action) :
    Entries × Answer :=
  execute now (live entryExpiry now store) action

/-! ## One key -/

/-- What the commands on one key do to its entry. -/
def setEntry (value : String) (options : SetOptions)
    (entry : Option Entry) : Option Entry × Answer :=
  if options.nx && entry.isSome then (entry, .text none)
  else
    (some { value := .text value, expiresAt := options.expiresAt now },
      .text (some "OK"))

/-- The new number keeps the end of an entry that has one. -/
def countEntry (current : String) (entry : Option Entry) :
    Option Entry × Answer :=
  (some
      { value := .text current
        expiresAt := entry.bind Entry.expiry },
    .nothing)

/-- Nothing but the end is changed. -/
def expireEntry (seconds : Rat) (entry : Option Entry) :
    Option Entry × Answer :=
  (entry.map fun entry =>
      { entry with expiresAt := some (now + seconds * 1000) },
    .flag entry.isSome)

/-- The new set has no end. -/
def addEntry (members : List String) (entry : Option Entry) :
    Option Entry × Answer :=
  let added := addMembers ((entry.bind Entry.members).getD ∅) members
  (some { value := .set added.1 }, .number added.2)

/-- An entry without members is left out. -/
def removeEntry (members : List String) :
    Option Entry → Option Entry × Answer
  | none => (none, .number 0)
  | some entry =>
      match entry.members with
      | none => (some entry, .number 0)
      | some set =>
          let removed := removeMembers set members
          (if removed.1.isEmpty then none
            else some { entry with value := .set removed.1 },
            .number removed.2)

/-- Looking at a key and writing back what was found. -/
theorem update_getEntry :
    Function.update (getEntry now store key).1 key
        (getEntry now store key).2 =
      (getEntry now store key).1 := by
  rw [getEntry, look]
  split
  · rename_i missing
    exact Function.update_eq_self_iff.mpr missing.symm
  · rename_i value entry
    split
    · exact Function.update_eq_self_iff.mpr (by simp)
    · exact Function.update_eq_self_iff.mpr entry.symm

theorem get_perform :
    (get now store key).map id .text =
      perform entryExpiry now store key fun entry =>
        (entry, Answer.text (entry.bind Entry.text)) := by
  have kept := update_getEntry now store key
  rw [getEntry] at kept
  simp only [get, getEntry, perform, Prod.map, id, kept]

/-- `set` is a command on one key. -/
theorem set_perform (value : String) (options : SetOptions) :
    (set now store key value options).map id .text =
      perform entryExpiry now store key
        (setEntry now value options) := by
  have kept := update_getEntry now store key
  rw [getEntry, look_entry] at kept
  cases exclusive : options.nx with
  | false =>
      simp [set, setEntry, perform, exclusive]
  | true =>
      cases found : live entryExpiry now store key with
      | none =>
          simp [set, setEntry, perform, getEntry, exclusive, found]
      | some entry =>
          rw [found] at kept
          simp [set, setEntry, perform, getEntry, exclusive, found, kept]

theorem count_perform (current : String) :
    (count now store key current, Answer.nothing) =
      perform entryExpiry now store key (countEntry current) :=
  rfl

theorem expire_perform (seconds : Rat) :
    (expire now store key seconds).map id .flag =
      perform entryExpiry now store key (expireEntry now seconds) := by
  have kept := update_getEntry now store key
  rw [getEntry, look_entry] at kept
  cases found : live entryExpiry now store key with
  | none =>
      rw [found] at kept
      simp [expire, expireEntry, perform, getEntry, found, kept]
  | some entry =>
      simp [expire, expireEntry, perform, getEntry, found]

theorem sAdd_perform (members : List String) :
    (sAdd now store key members).map id .number =
      perform entryExpiry now store key (addEntry members) :=
  rfl

theorem sRem_perform (members : List String) :
    (sRem now store key members).map id .number =
      perform entryExpiry now store key (removeEntry members) := by
  have kept := update_getEntry now store key
  rw [getEntry, look_entry] at kept
  cases found : live entryExpiry now store key with
  | none =>
      rw [found] at kept
      simp [sRem, removeEntry, perform, getEntry, found, kept]
  | some entry =>
      rw [found] at kept
      cases isSet : entry.members with
      | none =>
          simp [sRem, removeEntry, perform, getEntry, found, isSet, kept]
      | some set =>
          simp [sRem, removeEntry, perform, getEntry, found, isSet]

theorem sMembers_perform :
    (sMembers now store key).map id .members =
      perform entryExpiry now store key fun entry =>
        (entry,
          Answer.members ((entry.bind Entry.members).getD ∅).items) := by
  have kept := update_getEntry now store key
  rw [getEntry] at kept
  simp only [sMembers, getEntry, perform, Prod.map, id, kept]

/-! ## Deleting -/

/-- Deleting the keys one after another. -/
theorem del_cons (keys : List String) :
    del store (key :: keys) =
      ((del (Function.update store key none) keys).1,
        (del (Function.update store key none) keys).2 +
          if (store key).isSome then 1 else 0) := by
  cases entry : store key with
  | none =>
      have same : Function.update store key none = store :=
        Function.update_eq_self_iff.mpr entry.symm
      simp [del, entry, same]
  | some value => simp [del, entry]

/-- Deleting commutes with leaving out what has ended. -/
theorem del_live (keys : List String) :
    live entryExpiry now (del store keys).1 =
      (del (live entryExpiry now store) keys).1 := by
  induction keys generalizing store with
  | nil => rfl
  | cons key keys induction =>
      rw [del_cons, del_cons, induction, live_update]
      rfl

/-- The number is that of the different keys with an entry. -/
theorem del_count (keys : List String) :
    (del store keys).2 =
      (keys.toFinset.filter fun key => (store key).isSome).card := by
  induction keys generalizing store with
  | nil => rfl
  | cons key keys induction =>
      have others :
          (keys.toFinset.filter fun other =>
              (Function.update store key none other).isSome) =
            (keys.toFinset.filter fun other =>
              (store other).isSome).erase key := by
        ext other
        rw [Finset.mem_filter, Finset.mem_erase, Finset.mem_filter]
        by_cases same : other = key
        · subst same
          simp
        · simp [same]
      rw [del_cons, induction, others, List.toFinset_cons,
        Finset.filter_insert]
      by_cases present : (store key).isSome = true
      · rw [if_pos present, if_pos present,
          ← Finset.erase_insert_eq_erase,
          Finset.card_erase_add_one (Finset.mem_insert_self key _)]
      · rw [if_neg present, if_neg present, Nat.add_zero,
          Finset.erase_eq_of_notMem]
        simp [present]

/-- The named entries that have ended and are still there. -/
def endedKeys (keys : List String) : Finset String :=
  keys.toFinset.filter fun key => (store key).any (Entry.expired now)

/-- Entries that have ended count as well. -/
theorem del_count_live (keys : List String) :
    (del store keys).2 =
      (del (live entryExpiry now store) keys).2 +
        (endedKeys now store keys).card := by
  rw [del_count, del_count,
    ← Finset.card_filter_add_card_filter_not
      (fun key => (live entryExpiry now store key).isSome)]
  congr 2
  · ext key
    rw [Finset.mem_filter, Finset.mem_filter, Finset.mem_filter]
    cases entry : store key with
    | none => simp [live, fresh, entry]
    | some value => simp
  · ext key
    rw [endedKeys, Finset.mem_filter, Finset.mem_filter,
      Finset.mem_filter]
    cases entry : store key with
    | none => simp
    | some value =>
        cases ended : Entry.expired now value <;>
          simp [live, fresh, Option.filter, entryExpiry, entry, ended]

/-! ## Other keys -/

/-- An entry that is not named stays. -/
theorem del_of_notMem
    {keys : List String} {key : String} (notNamed : key ∉ keys) :
    (del store keys).1 key = store key := by
  induction keys generalizing store with
  | nil => rfl
  | cons first keys induction =>
      rw [List.mem_cons, not_or] at notNamed
      rw [del_cons, induction _ notNamed.2,
        Function.update_of_ne notNamed.1]

/-- The keys that a command names. -/
def Action.keys : Action → List String
  | .get key | .set key _ _ | .count key _ | .expire key _
  | .sAdd key _ | .sRem key _ | .sMembers key => [key]
  | .del keys => keys

/-- What counts under other keys is left alone. -/
theorem execute_live_of_notMem
    {action : Action} {key : String} (notNamed : key ∉ action.keys) :
    live entryExpiry now (execute now store action).1 key =
      live entryExpiry now store key := by
  have single : ∀ (named : String)
      (command : Option Entry → Option Entry × Answer),
      key ≠ named →
      live entryExpiry now
          (perform entryExpiry now store named command).1 key =
        live entryExpiry now store key := by
    intro named command different
    rw [perform_live, Function.update_of_ne different]
  cases action with
  | get named =>
      rw [execute, get_perform]
      exact single named _ (List.ne_of_not_mem_cons notNamed)
  | set named value options =>
      rw [execute, set_perform]
      exact single named _ (List.ne_of_not_mem_cons notNamed)
  | count named current =>
      rw [execute, count_perform]
      exact single named _ (List.ne_of_not_mem_cons notNamed)
  | expire named seconds =>
      rw [execute, expire_perform]
      exact single named _ (List.ne_of_not_mem_cons notNamed)
  | sAdd named members =>
      rw [execute, sAdd_perform]
      exact single named _ (List.ne_of_not_mem_cons notNamed)
  | sRem named members =>
      rw [execute, sRem_perform]
      exact single named _ (List.ne_of_not_mem_cons notNamed)
  | sMembers named =>
      rw [execute, sMembers_perform]
      exact single named _ (List.ne_of_not_mem_cons notNamed)
  | del named =>
      have unlisted : key ∉ named := notNamed
      simp only [execute, Prod.map, id, live]
      rw [del_of_notMem store unlisted]

/-! ## Late and early deletion -/

/-- A command at its time, with the stores before and after it. -/
structure Turn where
  now : Rat
  action : Action
  before : Entries
  answer : Answer
  after : Entries

/-- The turns of a history of commands. -/
def history (run : Rat → Entries → Action → Entries × Answer) :
    Entries → List (Rat × Action) → List Turn
  | _, [] => []
  | store, (now, action) :: rest =>
      let result := run now store action
      { now := now
        action := action
        before := store
        answer := result.2
        after := result.1 } ::
        history run result.1 rest

/-- The answer to a command when entries are deleted late and in time. -/
def AnswersAgree (late early : Turn) : Prop :=
  match late.action with
  | .del keys =>
      ∃ number,
        early.answer = .number number ∧
          late.answer =
            .number
              (number + (endedKeys late.now late.before keys).card)
  | _ => late.answer = early.answer

/-- A command when entries are deleted late and in time. -/
structure Agrees (late early : Turn) : Prop where
  now : late.now = early.now
  action : late.action = early.action
  answer : AnswersAgree late early
  live :
    live entryExpiry late.now late.after =
      live entryExpiry early.now early.after

/-- A command on stores that agree. -/
theorem execute_agrees
    {store other : Entries}
    (agree : live entryExpiry now store = live entryExpiry now other)
    (action : Action) :
    Agrees
      { now := now
        action := action
        before := store
        answer := (execute now store action).2
        after := (execute now store action).1 }
      { now := now
        action := action
        before := other
        answer := (executeEagerly now other action).2
        after := (executeEagerly now other action).1 } := by
  have ended :
      live entryExpiry now store =
        live entryExpiry now (live entryExpiry now other) := by
    rw [live_live le_rfl, agree]
  suffices both :
      AnswersAgree
          { now := now
            action := action
            before := store
            answer := (execute now store action).2
            after := (execute now store action).1 }
          { now := now
            action := action
            before := other
            answer := (executeEagerly now other action).2
            after := (executeEagerly now other action).1 } ∧
        live entryExpiry now (execute now store action).1 =
          live entryExpiry now (executeEagerly now other action).1 from
    { now := rfl, action := rfl, answer := both.1, live := both.2 }
  have single : ∀ (key : String)
      (command : Option Entry → Option Entry × Answer),
      (perform entryExpiry now store key command).2 =
          (perform entryExpiry now (live entryExpiry now other) key
            command).2 ∧
        live entryExpiry now (perform entryExpiry now store key command).1 =
          live entryExpiry now
            (perform entryExpiry now (live entryExpiry now other) key
              command).1 :=
    fun key command => (perform_congr ended key command).symm
  cases action with
  | get key =>
      simp only [AnswersAgree, executeEagerly, execute, get_perform]
      exact single key _
  | set key value options =>
      simp only [AnswersAgree, executeEagerly, execute, set_perform]
      exact single key _
  | count key current =>
      simp only [AnswersAgree, executeEagerly, execute, count_perform]
      exact single key _
  | expire key seconds =>
      simp only [AnswersAgree, executeEagerly, execute, expire_perform]
      exact single key _
  | sAdd key members =>
      simp only [AnswersAgree, executeEagerly, execute, sAdd_perform]
      exact single key _
  | sRem key members =>
      simp only [AnswersAgree, executeEagerly, execute, sRem_perform]
      exact single key _
  | sMembers key =>
      simp only [AnswersAgree, executeEagerly, execute, sMembers_perform]
      exact single key _
  | del keys =>
      simp only [AnswersAgree, executeEagerly, execute, Prod.map, id]
      constructor
      · refine ⟨_, rfl, ?_⟩
        rw [del_count_live now store, agree]
      · rw [del_live, del_live, ended]

/-- Stores that agree when the first command comes go on to agree. -/
theorem history_agrees_of_live
    {store other : Entries} {timed : List (Rat × Action)}
    (ordered : (timed.map Prod.fst).Pairwise (· ≤ ·))
    (agree :
      ∀ start ∈ timed.head?,
        live entryExpiry start.1 store = live entryExpiry start.1 other) :
    List.Forall₂ Agrees (history execute store timed)
      (history executeEagerly other timed) := by
  induction timed generalizing store other with
  | nil => exact .nil
  | cons command rest induction =>
      rcases command with ⟨now, action⟩
      rw [List.map_cons, List.pairwise_cons] at ordered
      have step := execute_agrees now (agree (now, action) (by simp)) action
      refine .cons step (induction ordered.2 ?_)
      intro next isNext
      refine live_congr (ordered.1 next.1 ?_) step.live
      exact List.mem_map_of_mem (List.mem_of_mem_head? isNext)

/--
However the commands of all clients follow each other, `FakeRedis` holds the
same live entries after each of them as a store without the entries that have
ended, and gives the same answer, except that `del` also counts the named
entries that have ended and were still there.
-/
theorem history_agrees
    (store : Entries) (timed : List (Rat × Action))
    (ordered : (timed.map Prod.fst).Pairwise (· ≤ ·)) :
    List.Forall₂ Agrees (history execute store timed)
      (history executeEagerly store timed) :=
  history_agrees_of_live ordered fun _ _ => rfl

/-- A key ends, and is deleted with another one: 2 against 1. -/
def exampleHistory : List (Rat × Action) :=
  [(0, .set "k" "v" { ex := some 1 }), (1500, .set "l" "w" {}),
    (2000, .del ["k", "l"])]

example :
    (history execute (fun _ => none) exampleHistory).map Turn.answer =
        [.text (some "OK"), .text (some "OK"), .number 2] ∧
      (history executeEagerly (fun _ => none) exampleHistory).map
          Turn.answer =
        [.text (some "OK"), .text (some "OK"), .number 1] := by
  decide +kernel

theorem history_agrees_ended :
    List.Forall₂ Agrees (history execute (fun _ => none) exampleHistory)
      (history executeEagerly (fun _ => none) exampleHistory) :=
  history_agrees (fun _ => none) exampleHistory (by decide)

end ChatBackend.Redis.FakeRedis
