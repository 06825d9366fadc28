import ChatBackend.Chats.MessageCreation
import ChatBackend.Redis.FakeRedis
import ChatBackend.Wire.EventTexts

/-!
# Messages in the cache

`cacheMessage` stores a message as a JSON text for five minutes, and
`getCachedMessage` parses what it finds.  Other clients use the same store
under keys of their own: the counters of the rate limits and the connections
of the presence functions.

The ids of users are UUIDs, so the sender and the request can be read from a
key.  `getCachedMessage_after` says what is found after any commands.
-/

namespace ChatBackend.Redis.CachedMessages

open ChatBackend.Foundation.ExpiringStores
open ChatBackend.Storage.Schema
open ChatBackend.Writer.WriteCommands (append_colon_injective)
open ChatBackend.Writer.BatchTransaction
open ChatBackend.Chats.MessageCreation (messageIdempotencyKey)
open ChatBackend.Realtime.ServerFrames
open ChatBackend.Realtime.JsonTexts
open ChatBackend.Redis.FakeRedis
open ChatBackend.Wire.JsonPrinting
open ChatBackend.Wire.EventTexts

/-! ## The two functions -/

/-- `TTL_SECONDS`. -/
def ttlSeconds : Rat := 300

/-- An empty text is no cached message, and an error gives none. -/
def getCachedMessage
    (now : Rat) (redis : Entries) (senderId : UserId)
    (requestId : Option String) : Entries × Option Json :=
  match truthy requestId with
  | none => (redis, none)
  | some requestId =>
      let cached := get now redis (messageIdempotencyKey senderId requestId)
      (cached.1, (truthy cached.2).bind parse)

/--
Store a message for five minutes; without a request id nothing is stored.
-/
def cacheMessage
    (now : Rat) (redis : Entries) (senderId : UserId)
    (requestId : Option String) (message : MessageDto) : Entries :=
  match truthy requestId with
  | none => redis
  | some requestId =>
      (set now redis (messageIdempotencyKey senderId requestId)
        (stringify (messageJson message)) { ex := some ttlSeconds }).1

/-! ## Runs -/

/-- A call of one of the two functions, or a command of another client. -/
inductive Event where
  | cache
      (senderId : UserId) (requestId : Option String)
      (message : MessageDto)
  | read (senderId : UserId) (requestId : Option String)
  | command (action : Action)

/-- One event at its time. -/
def step (redis : Entries) : Rat × Event → Entries
  | (now, .cache senderId requestId message) =>
      cacheMessage now redis senderId requestId message
  | (now, .read senderId requestId) =>
      (getCachedMessage now redis senderId requestId).1
  | (now, .command action) => (execute now redis action).1

/-- The id of a user, which is a UUID, has no colon. -/
def PlainId (userId : UserId) : Prop :=
  ':' ∉ userId.toList

/-- Senders have plain ids, and other clients have keys of other kinds. -/
def Regular : Event → Prop
  | .cache senderId _ _ => PlainId senderId
  | .read _ _ => True
  | .command action =>
      ∀ key ∈ action.keys, ∀ senderId requestId,
        key ≠ messageIdempotencyKey senderId requestId

/-- The sender and the request that an event caches a message for. -/
def cachedFor : Event → Option ((UserId × String) × MessageDto)
  | .cache senderId requestId message =>
      (truthy requestId).map fun requestId =>
        ((senderId, requestId), message)
  | _ => none

/-- The last message cached for a sender and a request, and its time. -/
def lastCached
    (events : List (Rat × Event)) (pair : UserId × String) :
    Option (Rat × MessageDto) :=
  events.foldl
    (fun last event =>
      match cachedFor event.2 with
      | none => last
      | some (other, message) =>
          if pair = other then some (event.1, message) else last)
    none

/-! ## Keys -/

/-- The characters of a key, up to the colon and after it. -/
theorem toList_key (head senderId requestId : String) :
    (head ++ senderId ++ ":" ++ requestId).toList =
      head.toList ++ (senderId.toList ++ ':' :: requestId.toList) := by
  have colon : ":".toList = [':'] := by decide +kernel
  rw [String.toList_append, String.toList_append, String.toList_append,
    colon]
  simp only [List.append_assoc, List.cons_append, List.nil_append]

/-- What stands behind a head is read back, if the first part is plain. -/
theorem key_injective
    {head : String} {senderId other : UserId} {requestId request : String}
    (plain : PlainId senderId) (otherPlain : PlainId other)
    (same :
      head ++ senderId ++ ":" ++ requestId =
        head ++ other ++ ":" ++ request) :
    (senderId, requestId) = (other, request) := by
  have characters := congrArg String.toList same
  rw [toList_key, toList_key] at characters
  have parts :=
    append_colon_injective plain otherPlain
      (List.append_cancel_left characters)
  exact
    Prod.ext (String.toList_injective parts.1)
      (String.toList_injective parts.2)

/-- A key has one sender and one request, if the sender's id is plain. -/
theorem messageIdempotencyKey_injective
    {senderId other : UserId} {requestId request : String}
    (plain : PlainId senderId) (otherPlain : PlainId other)
    (same :
      messageIdempotencyKey senderId requestId =
        messageIdempotencyKey other request) :
    (senderId, requestId) = (other, request) :=
  key_injective plain otherPlain same

/-! ## What the store holds -/

/-- One more event caches a message for its own pair, or nothing. -/
theorem lastCached_append
    (events : List (Rat × Event)) (now : Rat) (event : Event)
    (pair : UserId × String) :
    lastCached (events ++ [(now, event)]) pair =
      match cachedFor event with
      | none => lastCached events pair
      | some (other, message) =>
          if pair = other then some (now, message)
          else lastCached events pair := by
  rw [lastCached, List.foldl_append]
  rfl

/-- The entry of a message that was cached at a time. -/
def entryOf (cached : Rat × MessageDto) : Entry where
  value := .text (stringify (messageJson cached.2))
  expiresAt := some (cached.1 + ttlSeconds * 1000)

/-- The end of a cached message is never the falsy time. -/
theorem expiry_entryOf {cached : Rat × MessageDto} (late : 0 ≤ cached.1) :
    (entryOf cached).expiry = some (cached.1 + ttlSeconds * 1000) := by
  have positive : 0 < cached.1 + ttlSeconds * 1000 :=
    add_pos_of_nonneg_of_pos late (by decide +kernel)
  simp [Entry.expiry, entryOf, Option.filter, positive.ne']

/-- A cached message counts until it ends. -/
theorem fresh_entryOf
    (now : Rat) {cached : Rat × MessageDto} (late : 0 ≤ cached.1) :
    fresh entryExpiry now (some (entryOf cached)) =
      if now < cached.1 + ttlSeconds * 1000 then some (entryOf cached)
      else none := by
  have ended :
      Entry.expired now (entryOf cached) =
        decide (cached.1 + ttlSeconds * 1000 ≤ now) := by
    rw [Entry.expired, expiry_entryOf late]
    rfl
  by_cases before : now < cached.1 + ttlSeconds * 1000
  · simp [fresh, Option.filter, entryExpiry, ended, before]
  · simp [fresh, Option.filter, entryExpiry, ended, before,
      not_lt.mp before]

/-- The text of an entry is parsed as the message. -/
theorem text_of_entryOf (cached : Rat × MessageDto) :
    (truthy ((some (entryOf cached)).bind Entry.text)).bind parse =
      some (messageJson cached.2) := by
  have parsed := parse_stringify (messageJson_printable cached.2)
  have nonempty : stringify (messageJson cached.2) ≠ "" := by
    intro isEmpty
    have nothing : parse "" = none := rfl
    rw [isEmpty, nothing] at parsed
    cases parsed
  simp [truthy, Option.filter, entryOf, Entry.text, nonempty, parsed]

theorem mem_of_lastCached
    {events : List (Rat × Event)} {pair : UserId × String}
    {cached : Rat × MessageDto}
    (last : lastCached events pair = some cached) :
    ∃ event ∈ events, event.1 = cached.1 := by
  induction events using List.reverseRecOn with
  | nil => cases last
  | append_singleton events event induction =>
      rw [lastCached_append] at last
      have older :
          lastCached events pair = some cached →
            ∃ event' ∈ events ++ [event], event'.1 = cached.1 := by
        intro before
        rcases induction before with ⟨other, member, time⟩
        exact ⟨other, by simp [member], time⟩
      split at last
      · exact older last
      · split at last
        · cases last
          exact ⟨event, by simp, rfl⟩
        · exact older last

/-- A store holds what was cached last, as long as that lasts. -/
def Holds
    (now : Rat) (redis : Entries)
    (last : UserId × String → Option (Rat × MessageDto)) : Prop :=
  ∀ senderId requestId, PlainId senderId →
    live entryExpiry now redis
        (messageIdempotencyKey senderId requestId) =
      fresh entryExpiry now ((last (senderId, requestId)).map entryOf)

/-- When time passes, what has ended is lost from both sides. -/
theorem Holds.later
    {now later : Rat} (ordered : now ≤ later) {redis : Entries}
    {last : UserId × String → Option (Rat × MessageDto)}
    (holds : Holds now redis last) : Holds later redis last := by
  intro senderId requestId plain
  have same := holds senderId requestId plain
  rw [← live_live ordered, live, same, fresh_fresh ordered]

/-- Caching writes the entry of the message under one key. -/
theorem cacheMessage_live
    (now : Rat) (redis : Entries) (senderId : UserId)
    {requestId : Option String} {text : String}
    (given : truthy requestId = some text) (message : MessageDto) :
    live entryExpiry now
        (cacheMessage now redis senderId requestId message) =
      Function.update (live entryExpiry now redis)
        (messageIdempotencyKey senderId text)
        (fresh entryExpiry now (some (entryOf (now, message)))) := by
  simp only [cacheMessage, given, FakeRedis.set, Bool.false_eq_true,
    if_false, Option.isSome_none, live_update]
  rfl

/-- Looking up a message changes nothing that counts. -/
theorem read_live
    (now : Rat) (redis : Entries) (senderId : UserId)
    (requestId : Option String) :
    live entryExpiry now
        (getCachedMessage now redis senderId requestId).1 =
      live entryExpiry now redis := by
  rw [getCachedMessage]
  split
  · rfl
  · exact look_live _ _

/-- One event. -/
theorem Holds.step
    {now : Rat} {redis : Entries} {events : List (Rat × Event)}
    (holds : Holds now redis (lastCached events)) {event : Event}
    (regular : Regular event) :
    Holds now (step redis (now, event))
      (lastCached (events ++ [(now, event)])) := by
  intro senderId requestId plain
  rw [lastCached_append]
  cases event with
  | cache other request message =>
      cases given : truthy request with
      | none =>
          simp only [CachedMessages.step, cacheMessage, cachedFor, given,
            Option.map_none]
          exact holds senderId requestId plain
      | some text =>
          simp only [CachedMessages.step, cachedFor, given,
            Option.map_some]
          rw [cacheMessage_live now redis other given]
          by_cases same : (senderId, requestId) = (other, text)
          · rw [if_pos same, Option.map_some]
            cases same
            rw [Function.update_self]
          · have different :
                messageIdempotencyKey senderId requestId ≠
                  messageIdempotencyKey other text := fun sameKey =>
              same (messageIdempotencyKey_injective plain regular sameKey)
            rw [Function.update_of_ne different, if_neg same]
            exact holds senderId requestId plain
  | read other request =>
      simp only [CachedMessages.step, cachedFor, read_live]
      exact holds senderId requestId plain
  | command action =>
      simp only [CachedMessages.step, cachedFor]
      have notNamed :
          messageIdempotencyKey senderId requestId ∉ action.keys :=
        fun named => regular _ named senderId requestId rfl
      rw [execute_live_of_notMem now redis notNamed]
      exact holds senderId requestId plain

/-- All events that have run by a time. -/
theorem holds_run
    {events : List (Rat × Event)}
    (regular : ∀ event ∈ events, Regular event.2)
    (ordered : (events.map Prod.fst).Pairwise (· ≤ ·)) {now : Rat}
    (past : ∀ event ∈ events, event.1 ≤ now) :
    Holds now (events.foldl step fun _ => none) (lastCached events) := by
  induction events using List.reverseRecOn generalizing now with
  | nil =>
      intro senderId requestId _
      rfl
  | append_singleton events last induction =>
      rcases last with ⟨time, event⟩
      rw [List.map_append, List.pairwise_append] at ordered
      have before : ∀ other ∈ events, other.1 ≤ time := fun other member =>
        ordered.2.2 other.1 (List.mem_map_of_mem member) time (by simp)
      have held :=
        induction
          (fun other member => regular other (by simp [member]))
          ordered.1 before
      rw [List.foldl_append, List.foldl_cons, List.foldl_nil]
      exact
        (held.step (regular (time, event) (by simp))).later
          (past (time, event) (by simp))

/--
After any commands of any clients, a call finds the message that was cached
last for its sender and its request, if that was less than five minutes ago,
and nothing else.
-/
theorem getCachedMessage_after
    {events : List (Rat × Event)}
    (regular : ∀ event ∈ events, Regular event.2)
    (ordered : (events.map Prod.fst).Pairwise (· ≤ ·))
    (started : ∀ event ∈ events, 0 ≤ event.1) {now : Rat}
    (past : ∀ event ∈ events, event.1 ≤ now) {senderId : UserId}
    (plain : PlainId senderId) {requestId : String}
    (given : requestId ≠ "") :
    (getCachedMessage now (events.foldl step fun _ => none) senderId
        (some requestId)).2 =
      (lastCached events (senderId, requestId)).bind fun cached =>
        if now < cached.1 + 300000 then some (messageJson cached.2)
        else none := by
  have nonempty : truthy (some requestId) = some requestId := by
    simp [truthy, Option.filter, given]
  have held := holds_run regular ordered past senderId requestId plain
  simp only [getCachedMessage, nonempty, FakeRedis.get, getEntry,
    look_entry, held]
  cases last : lastCached events (senderId, requestId) with
  | none => rfl
  | some cached =>
      rcases mem_of_lastCached last with ⟨event, member, time⟩
      have late : 0 ≤ cached.1 := time ▸ started event member
      have ttl : ttlSeconds * 1000 = 300000 := by decide +kernel
      rw [Option.map_some, fresh_entryOf now late, Option.bind_some, ttl]
      split
      · exact text_of_entryOf cached
      · rfl

theorem head_idempotency :
    "idempotency:message:".toList.head? = some 'i' := by
  decide +kernel

theorem head_messageIdempotencyKey (senderId requestId : String) :
    (messageIdempotencyKey senderId requestId).toList.head? =
      some 'i' := by
  unfold messageIdempotencyKey
  rw [String.append_assoc, String.append_assoc, String.toList_append,
    List.head?_append, head_idempotency]
  rfl

/-- Counters and connections have keys that begin with another letter. -/
theorem regular_of_head
    {action : Action}
    (other : ∀ key ∈ action.keys, key.toList.head? ≠ some 'i') :
    Regular (.command action) := by
  intro key named senderId requestId same
  exact
    other key named (same ▸ head_messageIdempotencyKey senderId requestId)

def exampleMessage (id : MessageId) : MessageDto where
  id := id
  chatId := "r"
  senderId := "u"
  body := "b"
  createdAt := 0

/-- Two users use one request id, and a counter is written. -/
def exampleEvents : List (Rat × Event) :=
  [(0, .cache "u" (some "q") (exampleMessage "m")),
    (500, .cache "w" (some "q") (exampleMessage "n")),
    (1000, .command (.count "rate:ws:send:u" "1")),
    (2000, .read "u" (some "q"))]

theorem exampleEvents_regular :
    ∀ event ∈ exampleEvents, Regular event.2 := by
  intro event member
  simp only [exampleEvents, List.mem_cons, List.not_mem_nil,
    or_false] at member
  rcases member with rfl | rfl | rfl | rfl
  · simp [Regular, PlainId]
  · simp [Regular, PlainId]
  · exact regular_of_head (by simp [Action.keys])
  · trivial

/-- The first user finds the own message, for five minutes. -/
theorem getCachedMessage_after_counter :
    (getCachedMessage 299999 (exampleEvents.foldl step fun _ => none) "u"
        (some "q")).2 =
      some (messageJson (exampleMessage "m")) := by
  have last :
      lastCached exampleEvents ("u", "q") =
        some (0, exampleMessage "m") := by
    decide
  have found :
      (getCachedMessage 299999 (exampleEvents.foldl step fun _ => none)
          "u" (some "q")).2 =
        (lastCached exampleEvents ("u", "q")).bind fun cached =>
          if (299999 : Rat) < cached.1 + 300000 then
            some (messageJson cached.2)
          else none :=
    getCachedMessage_after exampleEvents_regular (by decide) (by decide)
      (by decide) (by simp [PlainId]) (by decide)
  rw [found, last, Option.bind_some, if_pos (by decide +kernel)]

end ChatBackend.Redis.CachedMessages
