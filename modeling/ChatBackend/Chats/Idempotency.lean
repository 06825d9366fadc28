import ChatBackend.Chats.MessageCreation

/-!
# Posting with a request id

Calls of `createMessage` with one sender and one request id find the message
of this key in three places: in the cache, behind the unique key when they
insert, and in the table when they recover.  All three hold the same row, so
at most one call inserts it, takes a number and publishes, and all calls that
return give this row.

The invariant follows one key.  A call owes an event from its insert until it
has published, and what it published and owes is never more than the numbers
it took.
-/

namespace ChatBackend.Chats.Idempotency

open ChatBackend.Foundation.EventRuns
open ChatBackend.Foundation.TableRows
open ChatBackend.Storage.Schema
open ChatBackend.Storage.SequenceMigration
open ChatBackend.Storage.TableInvariants
open ChatBackend.Writer.BatchTransaction
open ChatBackend.Services.Transitions hiding Event step reached
open ChatBackend.Chats.ChatQueries
open ChatBackend.Chats.ChatReads
open ChatBackend.Chats.MessageRows
open ChatBackend.Chats.MessageCreation

variable (senderId : UserId) (requestId : String)

/-- The call posts with this sender and this request id. -/
def hasKey (call : Call) : Bool :=
  call.input.senderId == senderId &&
    call.input.requestId == some requestId

/-- The message of the key is in the table, and this is what it shows. -/
def Stored (db : Database) (message : MessageDto) : Prop :=
  ∃ row ∈ db.messages,
    row.key? = some (senderId, requestId) ∧ toMessageDto row = message

/--
A call with another key does not use the entry of this key in the cache.  For
ids without a colon this is always so.
-/
def Separated (input : CreateMessageInput) : Prop :=
  ∀ other, truthy input.requestId = some other →
    messageIdempotencyKey input.senderId other =
        messageIdempotencyKey senderId requestId →
      input.senderId = senderId ∧ other = requestId

/-! ## Sums over calls -/

/-- What the calls of the key did together. -/
def total (amount : Call → Nat) (calls : List Call) : Nat :=
  ((calls.filter (hasKey senderId requestId)).map amount).sum

theorem total_append (amount : Call → Nat) (calls added : List Call) :
    total senderId requestId amount (calls ++ added) =
      total senderId requestId amount calls +
        total senderId requestId amount added := by
  simp [total]

/-- One call changes, and keeps its key. -/
theorem total_set
    (amount : Call → Nat) {calls : List Call} {index : Nat}
    {call next : Call} (found : calls[index]? = some call)
    (sameKey :
      hasKey senderId requestId next = hasKey senderId requestId call) :
    total senderId requestId amount (calls.set index next) +
        (if hasKey senderId requestId call then amount call else 0) =
      total senderId requestId amount calls +
        if hasKey senderId requestId call then amount next else 0 := by
  unfold total
  induction calls generalizing index with
  | nil => simp at found
  | cons head rest induction =>
      cases index with
      | zero =>
          simp only [List.getElem?_cons_zero, Option.some.injEq] at found
          subst found
          simp only [List.set_cons_zero, List.filter_cons, sameKey]
          split
          · simp only [List.map_cons, List.sum_cons]
            omega
          · rfl
      | succ index =>
          rw [List.getElem?_cons_succ] at found
          have step := induction found
          simp only [List.set_cons_succ, List.filter_cons]
          split
          · simp only [List.map_cons, List.sum_cons]
            omega
          · exact step

/-! ## Numbers -/

theorem sum_incrementRoom (roomId : RoomId) (rooms : List Room) :
    ((rooms.map (incrementRoom roomId)).map Room.nextMessageSeq).sum =
      (rooms.map Room.nextMessageSeq).sum +
        (rooms.filter fun room => room.id == roomId).length := by
  induction rooms with
  | nil => rfl
  | cons room rest induction =>
      rw [List.map_cons, List.map_cons, List.sum_cons, induction,
        incrementRoom_nextMessageSeq, List.map_cons, List.sum_cons,
        List.filter_cons]
      by_cases inRoom : room.id = roomId
      · simp only [inRoom, beq_self_eq_true, if_true, List.length_cons]
        omega
      · simp only [inRoom, if_false, beq_iff_eq]
        omega

/-- A row takes one number of its room, and none of another room. -/
theorem numbersGiven_withMessageRow
    {db : Database} (valid : db.Valid) {room : Room}
    (member : room ∈ db.rooms) (row : Message) :
    numbersGiven (withMessageRow db room.id row) =
      numbersGiven db + 1 := by
  have one :=
    length_filter_unique_key valid.rooms room.id
  have present :
      db.rooms.any (fun other => other.id == room.id) = true :=
    List.any_eq_true.mpr ⟨room, member, beq_self_eq_true _⟩
  rw [if_pos present] at one
  rw [numbersGiven, numbersGiven, withMessageRow, sum_incrementRoom, one]

/-! ## Calls -/

/-- Events that a call will publish unless Redis fails. -/
def owed : Stage → Nat
  | .updatingLastMessageAt _ => 1
  | .caching _ _ recoveredDuplicate => if recoveredDuplicate then 0 else 1
  | .publishing _ => 1
  | _ => 0

/-- The request id under which a call is using the cache or the table. -/
def usedRequest : Stage → Option String
  | .readingCache used | .findingDuplicate used | .caching used _ _ =>
      some used
  | _ => none

/-- The message that a call has found or created. -/
def heldMessage : Stage → Option MessageDto
  | .updatingLastMessageAt message => some (toMessageDto message)
  | .caching _ message _ => some message
  | .publishing message | .returned message => some message
  | _ => none

structure SoundCall (db : Database) (call : Call) : Prop where
  separated : Separated senderId requestId call.input
  request :
    ∀ used, usedRequest call.stage = some used →
      truthy call.input.requestId = some used
  stored :
    hasKey senderId requestId call = true →
      ∀ message, heldMessage call.stage = some message →
        Stored senderId requestId db message
  budget : call.published.length + owed call.stage ≤ call.numbers

structure Consistent (state : RestState) : Prop where
  sound : Sound state.service.database
  cached :
    ∀ message,
      state.cache.get (messageIdempotencyKey senderId requestId) =
          some message →
        Stored senderId requestId state.service.database message
  calls :
    ∀ call ∈ state.calls,
      SoundCall senderId requestId state.service.database call
  numbers : total senderId requestId Call.numbers state.calls ≤ 1
  numbered :
    0 < total senderId requestId Call.numbers state.calls →
      ∃ message,
        Stored senderId requestId state.service.database message

variable {senderId requestId}

theorem Stored.grow
    {db after : Database} {message : MessageDto}
    (stored : Stored senderId requestId db message)
    (grows : ∀ row ∈ db.messages, row ∈ after.messages) :
    Stored senderId requestId after message := by
  rcases stored with ⟨row, member, key, shown⟩
  exact ⟨row, grows row member, key, shown⟩

/-- The key has one row, so its message is always the same. -/
theorem Stored.unique
    {db : Database} (valid : db.Valid) {first second : MessageDto}
    (firstStored : Stored senderId requestId db first)
    (secondStored : Stored senderId requestId db second) :
    first = second := by
  rcases firstStored with ⟨row, member, key, rfl⟩
  rcases secondStored with ⟨other, otherMember, otherKey, rfl⟩
  rw [message_separate valid member otherMember
    (.inr ⟨_, key, otherKey⟩)]

theorem SoundCall.grow
    {db after : Database} {call : Call}
    (soundCall : SoundCall senderId requestId db call)
    (grows : ∀ row ∈ db.messages, row ∈ after.messages) :
    SoundCall senderId requestId after call :=
  { soundCall with
    stored := fun keyed message held =>
      (soundCall.stored keyed message held).grow grows }

theorem hasKey_iff {call : Call} :
    hasKey senderId requestId call = true ↔
      call.input.senderId = senderId ∧
        call.input.requestId = some requestId := by
  simp [hasKey]

/-! ## Next stages -/

theorem truthy_of_cachedRequest
    {input : CreateMessageInput} {deps : CreateMessageDependencies}
    {used : String} (cached : cachedRequest input deps = some used) :
    truthy input.requestId = some used := by
  unfold cachedRequest at cached
  split at cached
  · exact cached
  · cases cached

/-- A call moves on without a message. -/
theorem SoundCall.search
    {db : Database} {call : Call}
    (soundCall : SoundCall senderId requestId db call) {next : Stage}
    (request :
      ∀ used, usedRequest next = some used →
        truthy call.input.requestId = some used)
    (holdsNone : heldMessage next = none) (owesNone : owed next = 0) :
    SoundCall senderId requestId db { call with stage := next } where
  separated := soundCall.separated
  request := request
  stored := by
    intro _ message held
    rw [holdsNone] at held
    cases held
  budget := by
    have before := soundCall.budget
    simp only [owesNone]
    omega

theorem SoundCall.fail
    {db : Database} {call : Call}
    (soundCall : SoundCall senderId requestId db call)
    (failure : CreateMessageFailure) :
    SoundCall senderId requestId db
      { call with stage := .failed failure } :=
  soundCall.search (by simp [usedRequest]) rfl rfl

theorem afterMembership_search
    (input : CreateMessageInput) (deps : CreateMessageDependencies)
    (membership : Option RoomMember) :
    (∀ used,
        usedRequest (afterMembership input deps membership) =
            some used →
          truthy input.requestId = some used) ∧
      heldMessage (afterMembership input deps membership) = none ∧
        owed (afterMembership input deps membership) = 0 := by
  unfold afterMembership
  split
  · simp [usedRequest, heldMessage, owed]
  · split
    case h_1 => simp [usedRequest, heldMessage, owed]
    case h_2 used cached =>
        refine ⟨?_, rfl, rfl⟩
        rintro _ ⟨⟩
        exact truthy_of_cachedRequest cached

theorem afterFailure_search
    (input : CreateMessageInput) (failure : Failure) :
    (∀ used,
        usedRequest (afterFailure input failure) = some used →
          truthy input.requestId = some used) ∧
      heldMessage (afterFailure input failure) = none ∧
        owed (afterFailure input failure) = 0 := by
  unfold afterFailure
  split
  · simp [usedRequest, heldMessage, owed]
  · split
    case isTrue =>
        refine ⟨?_, rfl, rfl⟩
        rintro _ ⟨⟩
        assumption
    case isFalse => simp [usedRequest, heldMessage, owed]

/-- What a call owes after the row, unless it has recovered. -/
def owedAfter (recoveredDuplicate : Bool) : Nat :=
  if recoveredDuplicate then 0 else 1

theorem owedAfter_true : owedAfter true = 0 :=
  rfl

theorem afterCache_holds
    (deps : CreateMessageDependencies) (message : MessageDto)
    (recoveredDuplicate : Bool) :
    usedRequest (afterCache deps message recoveredDuplicate) = none ∧
      heldMessage (afterCache deps message recoveredDuplicate) =
          some message ∧
        owed (afterCache deps message recoveredDuplicate) ≤
          owedAfter recoveredDuplicate := by
  unfold afterCache
  cases recoveredDuplicate <;> cases deps.publisher <;>
    simp [usedRequest, heldMessage, owed, owedAfter]

theorem afterRow_holds
    (input : CreateMessageInput) (deps : CreateMessageDependencies)
    (message : Message) (recoveredDuplicate : Bool) :
    (∀ used,
        usedRequest (afterRow input deps message recoveredDuplicate) =
            some used →
          truthy input.requestId = some used) ∧
      heldMessage (afterRow input deps message recoveredDuplicate) =
          some (toMessageDto message) ∧
        owed (afterRow input deps message recoveredDuplicate) ≤
          owedAfter recoveredDuplicate := by
  unfold afterRow
  split
  case h_1 =>
      obtain ⟨usesNone, holds, owes⟩ :=
        afterCache_holds deps (toMessageDto message) recoveredDuplicate
      refine ⟨?_, holds, owes⟩
      intro used uses
      rw [usesNone] at uses
      cases uses
  case h_2 used cached =>
      refine ⟨?_, rfl, Nat.le_refl _⟩
      rintro _ ⟨⟩
      exact truthy_of_cachedRequest cached

/-- A call moves on with a message of the table. -/
theorem SoundCall.hold
    {db : Database} {call : Call} {next : Stage} {message : MessageDto}
    {recoveredDuplicate : Bool}
    (separated : Separated senderId requestId call.input)
    (request :
      ∀ used, usedRequest next = some used →
        truthy call.input.requestId = some used)
    (holds : heldMessage next = some message)
    (stored :
      hasKey senderId requestId call = true →
        Stored senderId requestId db message)
    (owes : owed next ≤ owedAfter recoveredDuplicate)
    (budget :
      call.published.length + owedAfter recoveredDuplicate ≤
        call.numbers) :
    SoundCall senderId requestId db { call with stage := next } where
  separated := separated
  request := request
  stored := by
    intro keyed other held
    rw [holds] at held
    cases held
    exact stored keyed
  budget := Nat.le_trans (Nat.add_le_add_left owes _) budget

/-! ## Commands -/

/-- What one command of a call keeps, and what it can add. -/
structure Kept
    (senderId : UserId) (requestId : String) (db : Database)
    (call : Call) (outcome : Outcome) : Prop where
  sound : Sound outcome.database
  grows : ∀ row ∈ db.messages, row ∈ outcome.database.messages
  cached :
    ∀ message,
      outcome.cache.get (messageIdempotencyKey senderId requestId) =
          some message →
        Stored senderId requestId outcome.database message
  next : SoundCall senderId requestId outcome.database outcome.call
  sameInput : outcome.call.input = call.input
  numbers :
    outcome.call.numbers = call.numbers ∨
      outcome.call.numbers = call.numbers + 1 ∧
        (hasKey senderId requestId call = true →
          (∀ message, ¬ Stored senderId requestId db message) ∧
            ∃ message,
              Stored senderId requestId outcome.database message)

section Commands

variable {db : Database} {cache : Cache} {call : Call}

/-- A command which leaves the tables and the cache alone. -/
theorem Kept.quiet
    (sound : Sound db)
    (cached :
      ∀ message,
        cache.get (messageIdempotencyKey senderId requestId) =
            some message →
          Stored senderId requestId db message)
    {next : Call} (soundNext : SoundCall senderId requestId db next)
    (sameInput : next.input = call.input)
    (sameNumbers : next.numbers = call.numbers) :
    Kept senderId requestId db call
      { database := db, cache := cache, call := next } where
  sound := sound
  grows := fun _ member => member
  cached := cached
  next := soundNext
  sameInput := sameInput
  numbers := .inl sameNumbers

variable (named : requestId ≠ "") (sound : Sound db)
  (cached :
    ∀ message,
      cache.get (messageIdempotencyKey senderId requestId) =
          some message →
        Stored senderId requestId db message)
  (soundCall : SoundCall senderId requestId db call)

include named in
theorem truthy_of_hasKey
    (keyed : hasKey senderId requestId call = true) :
    call.input.senderId = senderId ∧
      truthy call.input.requestId = some requestId := by
  rcases hasKey_iff.mp keyed with ⟨sender, request⟩
  refine ⟨sender, ?_⟩
  rw [request]
  simp [truthy, Option.filter, named]

include named in
/-- A call with the key offers a row with the key. -/
theorem row_key
    (keyed : hasKey senderId requestId call = true)
    (uuid : MessageId) (now : Timestamp) (roomSequence : Nat) :
    (call.input.row.toMessage uuid now roomSequence).key? =
      some (senderId, requestId) := by
  rcases truthy_of_hasKey named keyed with ⟨sender, request⟩
  simp [Message.key?, CreateMessageRowInput.toMessage,
    CreateMessageInput.row, request, sender]

theorem stored_of_inserted
    {row : Message} (rowKey : row.key? = some (senderId, requestId))
    (roomId : RoomId) :
    Stored senderId requestId (withMessageRow db roomId row)
      (toMessageDto row) :=
  ⟨row, List.mem_append_right _ (List.mem_singleton_self _), rowKey, rfl⟩

/-- A row with the key is accepted only while no other one is stored. -/
theorem not_stored_of_accepted
    {row : Message} (accepted : RowAccepted db row)
    (rowKey : row.key? = some (senderId, requestId)) :
    ∀ message, ¬ Stored senderId requestId db message := by
  rintro message ⟨other, inTable, otherKey, _⟩
  have separate := accepted.compatible other inTable
  rw [Message.conflicts_eq_false_iff] at separate
  exact separate.2.1 _ rowKey otherKey

include sound cached soundCall

theorem readDatabase_kept
    {next : Stage}
    (soundNext :
      SoundCall senderId requestId db { call with stage := next })
    (answer : Answer) :
    Kept senderId requestId db call
      (readDatabase db cache call answer next) := by
  unfold readDatabase
  split
  case isTrue => exact .quiet sound cached soundNext rfl rfl
  case isFalse =>
      exact .quiet sound cached (soundCall.fail _) rfl rfl

include named

theorem createMessageRow_kept
    (creating : call.stage = .creatingRow) (now : Timestamp)
    (answer : Answer) :
    Kept senderId requestId db call
      (runCreateMessageRow now db cache call answer) := by
  unfold runCreateMessageRow
  split
  case isTrue => exact .quiet sound cached (soundCall.fail _) rfl rfl
  case isFalse =>
      split
      case h_1 committed message succeeded =>
          rcases createMessageRow_ok sound.valid succeeded with
            ⟨room, member, sameRoom, accepted, rfl, created⟩
          cases created
          have grows :
              ∀ row ∈ db.messages,
                row ∈
                  (withMessageRow db call.input.row.roomId
                    (call.input.row.toMessage answer.uuid now
                      room.nextMessageSeq)).messages :=
            fun row inTable => List.mem_append_left _ inTable
          have numbers :
              numbersGiven
                    (withMessageRow db call.input.row.roomId
                      (call.input.row.toMessage answer.uuid now
                        room.nextMessageSeq)) -
                  numbersGiven db =
                1 := by
            rw [← sameRoom,
              numbersGiven_withMessageRow sound.valid member]
            omega
          have rowKey :
              hasKey senderId requestId call = true →
                (call.input.row.toMessage answer.uuid now
                    room.nextMessageSeq).key? =
                  some (senderId, requestId) :=
            fun keyed => row_key named keyed answer.uuid now _
          have budget := soundCall.budget
          rw [creating] at budget
          exact
            { sound := withMessageRow_sound sound member sameRoom accepted
              grows := grows
              cached := fun other found => (cached other found).grow grows
              next :=
                { separated := soundCall.separated
                  request := by
                    intro used uses
                    dsimp only at uses
                    split at uses <;> cases uses
                  stored := by
                    intro keyed other held
                    dsimp only at held
                    split at held
                    · cases held
                      exact stored_of_inserted (rowKey keyed) _
                    · cases held
                  budget := by
                    dsimp only
                    rw [numbers]
                    simp only [owed] at budget
                    split <;> simp only [owed] <;> omega }
              sameInput := rfl
              numbers := by
                right
                refine ⟨by dsimp only; rw [numbers], ?_⟩
                intro keyed
                exact
                  ⟨not_stored_of_accepted accepted (rowKey keyed), _,
                    stored_of_inserted (rowKey keyed) _⟩ }
      case h_2 committed succeeded =>
          rcases createMessageRow_ok sound.valid succeeded with
            ⟨_, _, _, _, _, created⟩
          cases created
      case h_3 failure _ =>
          rcases afterFailure_search call.input failure with
            ⟨request, holdsNone, owesNone⟩
          exact
            readDatabase_kept sound cached soundCall
              (soundCall.search request holdsNone owesNone) answer

omit named in
theorem updateLastMessageAt_kept
    {message : Message} (updating : call.stage = .updatingLastMessageAt message)
    (answer : Answer) :
    Kept senderId requestId db call
      (runUpdateLastMessageAt db cache call answer message) := by
  unfold runUpdateLastMessageAt
  split
  case isTrue => exact .quiet sound cached (soundCall.fail _) rfl rfl
  case isFalse =>
      have grows :
          ∀ row ∈ db.messages,
            row ∈
              (updateLastMessageAt db call.input.chatId
                message.createdAt).messages :=
        fun _ inTable => inTable
      have later := soundCall.grow grows
      exact
        { sound := updateLastMessageAt_sound sound _ _
          grows := grows
          cached := fun other found => (cached other found).grow grows
          next := by
            dsimp only
            split
            case isTrue =>
                obtain ⟨request, holds, owes⟩ :=
                  afterRow_holds call.input call.deps message false
                refine
                  .hold soundCall.separated request holds ?_ owes ?_
                · intro keyed
                  exact later.stored keyed _ (by rw [updating]; rfl)
                · have budget := soundCall.budget
                  rw [updating] at budget
                  exact budget
            case isFalse => exact later.fail _
          sameInput := by
            dsimp only
            split <;> rfl
          numbers := by
            left
            dsimp only
            split <;> rfl }

theorem findingDuplicate_kept
    {used : String} (finding : call.stage = .findingDuplicate used)
    (answer : Answer) :
    Kept senderId requestId db call
      (readDatabase db cache call answer
        (match findMessageByRequestId db call.input.senderId used with
          | none => .failed (.database .recordNotFound)
          | some message =>
              afterRow call.input call.deps message true)) := by
  apply readDatabase_kept sound cached soundCall
  split
  case h_1 => exact soundCall.fail _
  case h_2 message found =>
      rcases afterRow_holds call.input call.deps message true with
        ⟨request, holds, owes⟩
      refine .hold soundCall.separated request holds ?_ owes ?_
      · intro keyed
        have inTable := List.mem_of_find?_eq_some found
        have same := List.find?_some found
        rw [Bool.and_eq_true, beq_iff_eq, beq_iff_eq] at same
        rcases truthy_of_hasKey named keyed with ⟨sender, isRequest⟩
        have usedRequested :=
          soundCall.request used (by rw [finding]; rfl)
        rw [isRequest, Option.some.injEq] at usedRequested
        refine ⟨message, inTable, ?_, rfl⟩
        simp [Message.key?, same.1, same.2, sender, usedRequested]
      · have budget := soundCall.budget
        rw [owedAfter_true]
        omega

theorem readingCache_kept
    {used : String} (reading : call.stage = .readingCache used)
    {next : Stage}
    (outcome :
      next = .creatingRow ∨
        ∃ message,
          cache.get
                (messageIdempotencyKey call.input.senderId used) =
              some message ∧
            next = .returned message) :
    Kept senderId requestId db call
      { database := db
        cache := cache
        call := { call with stage := next } } := by
  rcases outcome with rfl | ⟨message, hit, rfl⟩
  · exact
      .quiet sound cached
        (soundCall.search (by simp [usedRequest]) rfl rfl) rfl rfl
  · refine .quiet sound cached ?_ rfl rfl
    have nothingOwed : owed (.returned message) ≤ owedAfter true :=
      Nat.le_refl 0
    refine
      .hold soundCall.separated (by simp [usedRequest]) rfl ?_
        nothingOwed ?_
    · intro keyed
      rcases truthy_of_hasKey named keyed with ⟨sender, isRequest⟩
      have usedRequested :=
        soundCall.request used (by rw [reading]; rfl)
      rw [isRequest, Option.some.injEq] at usedRequested
      rw [sender, ← usedRequested] at hit
      exact cached message hit
    · have budget := soundCall.budget
      rw [owedAfter_true]
      omega

omit named in
theorem caching_kept
    {used : String} {message : MessageDto} {recoveredDuplicate : Bool}
    (caching : call.stage = .caching used message recoveredDuplicate)
    {written : Cache}
    (outcome :
      written = cache ∨
        written =
          cache.set (messageIdempotencyKey call.input.senderId used)
            message) :
    Kept senderId requestId db call
      { database := db
        cache := written
        call :=
          { call with
            stage :=
              afterCache call.deps message recoveredDuplicate } } := by
  rcases afterCache_holds call.deps message recoveredDuplicate with
    ⟨usesNone, holds, owes⟩
  have usedRequested := soundCall.request used (by rw [caching]; rfl)
  have stored :
      hasKey senderId requestId call = true →
        Stored senderId requestId db message :=
    fun keyed => soundCall.stored keyed message (by rw [caching]; rfl)
  have stillCached :
      ∀ other,
        written.get (messageIdempotencyKey senderId requestId) =
            some other →
          Stored senderId requestId db other := by
    rcases outcome with rfl | rfl
    · exact cached
    · intro other found
      rw [Cache.get_set] at found
      split at found
      case isTrue sameEntry =>
          rcases soundCall.separated used usedRequested sameEntry.symm with
            ⟨sender, isUsed⟩
          have keyed : hasKey senderId requestId call = true := by
            rw [hasKey_iff]
            refine ⟨sender, ?_⟩
            have present := usedRequested
            rw [truthy, Option.filter_eq_some_iff] at present
            rw [present.1, isUsed]
          cases found
          exact stored keyed
      case isFalse => exact cached other found
  refine .quiet sound stillCached ?_ rfl rfl
  refine .hold soundCall.separated ?_ holds stored owes ?_
  · intro other uses
    rw [usesNone] at uses
    cases uses
  · have budget := soundCall.budget
    rw [caching] at budget
    exact budget

omit named in
theorem publishing_kept
    {message : MessageDto} (publishing : call.stage = .publishing message)
    {events : List Writer.OutboxDrain.RoomEvent}
    (outcome :
      events = call.published ∨
        ∃ event, events = call.published ++ [event]) :
    Kept senderId requestId db call
      { database := db
        cache := cache
        call :=
          { call with
            stage := .returned message
            published := events } } := by
  refine .quiet sound cached ?_ rfl rfl
  exact
    { separated := soundCall.separated
      request := by simp [usedRequest]
      stored := by
        intro keyed other held
        cases held
        exact soundCall.stored keyed message (by rw [publishing]; rfl)
      budget := by
        have budget := soundCall.budget
        rw [publishing] at budget
        simp only [owed] at budget ⊢
        rcases outcome with rfl | ⟨event, rfl⟩
        · omega
        · rw [List.length_append, List.length_singleton]
          omega }

/-- Every command keeps the key consistent. -/
theorem runCommand_kept (now : Timestamp) (answer : Answer) :
    Kept senderId requestId db call
      (runCommand now db cache call answer) := by
  unfold runCommand
  split
  case h_1 =>
      obtain ⟨request, holdsNone, owesNone⟩ :=
        afterMembership_search call.input call.deps
          (findRoomMembership db call.input.senderId call.input.chatId)
      exact
        readDatabase_kept sound cached soundCall
          (soundCall.search request holdsNone owesNone) answer
  case h_2 used reading =>
      apply readingCache_kept named sound cached soundCall reading
      split
      · split
        case h_1 => exact .inl rfl
        case h_2 message hit => exact .inr ⟨message, hit, rfl⟩
      · exact .inl rfl
  case h_3 creating =>
      exact
        createMessageRow_kept named sound cached soundCall creating now
          answer
  case h_4 used finding =>
      exact
        findingDuplicate_kept named sound cached soundCall finding
          answer
  case h_5 message updating =>
      exact
        updateLastMessageAt_kept sound cached soundCall updating answer
  case h_6 used message recoveredDuplicate caching =>
      apply caching_kept sound cached soundCall caching
      split
      · exact .inl rfl
      · exact .inr rfl
  case h_7 message publishing =>
      apply publishing_kept sound cached soundCall publishing
      split
      · exact .inl rfl
      · exact .inr ⟨_, rfl⟩
  case h_8 => exact .quiet sound cached soundCall rfl rfl
  case h_9 => exact .quiet sound cached soundCall rfl rfl

end Commands

/-! ## Runs -/

/-- The calls of an event do not use the entry of the key for another. -/
def SeparatedEvent
    (senderId : UserId) (requestId : String) : Event → Prop
  | .call input _ => Separated senderId requestId input
  | _ => True

theorem writer_consistent
    (engine : Engine) {state : RestState}
    (consistent : Consistent senderId requestId state)
    (event : Services.Transitions.Event) :
    Consistent senderId requestId (step engine state (.writer event)) := by
  simp only [step]
  split
  case isFalse => exact consistent
  case isTrue =>
      have change :=
        step_change engine state.service event consistent.sound
      have grows :
          ∀ row ∈ state.service.database.messages,
            row ∈
              (Services.Transitions.step engine state.service
                event).database.messages :=
        fun _ inTable => change_keeps_messages change inTable
      exact
        { sound := change_sound change consistent.sound
          cached := fun message found =>
            (consistent.cached message found).grow grows
          calls := fun call member =>
            (consistent.calls call member).grow grows
          numbers := consistent.numbers
          numbered := fun some => by
            rcases consistent.numbered some with ⟨message, stored⟩
            exact ⟨message, stored.grow grows⟩ }

theorem firstStage_search (input : CreateMessageInput) :
    usedRequest (firstStage input) = none ∧
      heldMessage (firstStage input) = none ∧
        owed (firstStage input) = 0 := by
  unfold firstStage
  split
  · exact ⟨rfl, rfl, rfl⟩
  · split <;> exact ⟨rfl, rfl, rfl⟩

theorem call_consistent
    (engine : Engine) {state : RestState}
    (consistent : Consistent senderId requestId state)
    {input : CreateMessageInput}
    (separated : Separated senderId requestId input)
    (deps : CreateMessageDependencies) :
    Consistent senderId requestId
      (step engine state (.call input deps)) := by
  rcases firstStage_search input with ⟨usesNone, holdsNone, owesNone⟩
  have noNumbers :
      ∀ added : Call, added.numbers = 0 →
        total senderId requestId Call.numbers [added] = 0 := by
    intro added none
    simp only [total, List.filter_cons, List.filter_nil]
    split <;> simp [none]
  exact
    { sound := consistent.sound
      cached := consistent.cached
      calls := by
        intro call member
        rcases List.mem_append.mp member with old | new
        · exact consistent.calls call old
        · rw [List.mem_singleton] at new
          subst new
          exact
            { separated := separated
              request := by simp [usesNone]
              stored := by simp [holdsNone]
              budget := by simp [owesNone] }
      numbers := by
        simp only [step, total_append]
        rw [noNumbers _ rfl]
        exact consistent.numbers
      numbered := by
        simp only [step, total_append]
        rw [noNumbers _ rfl]
        exact consistent.numbered }

theorem command_consistent
    (named : requestId ≠ "") (engine : Engine) {state : RestState}
    (consistent : Consistent senderId requestId state)
    (index : Nat) (answer : Answer) :
    Consistent senderId requestId
      (step engine state (.command index answer)) := by
  simp only [step]
  split
  case h_1 => exact consistent
  case h_2 call found =>
      have kept :=
        runCommand_kept named consistent.sound consistent.cached
          (consistent.calls call (List.mem_of_getElem? found))
          state.service.clock answer
      have sameKey :
          hasKey senderId requestId
              (runCommand state.service.clock state.service.database
                state.cache call answer).call =
            hasKey senderId requestId call := by
        rw [hasKey, hasKey, kept.sameInput]
      have sums := total_set senderId requestId Call.numbers found sameKey
      have before := consistent.numbers
      have witnessed := consistent.numbered
      refine
        { sound := kept.sound
          cached := kept.cached
          calls := ?_
          numbers := ?_
          numbered := ?_ }
      · intro other member
        rcases List.mem_or_eq_of_mem_set member with old | rfl
        · exact (consistent.calls other old).grow kept.grows
        · exact kept.next
      · rcases kept.numbers with same | ⟨one, fresh⟩
        · rw [same] at sums
          dsimp only
          omega
        · by_cases keyed : hasKey senderId requestId call = true
          · have none :
                total senderId requestId Call.numbers state.calls = 0 := by
              by_contra taken
              rcases witnessed (Nat.pos_of_ne_zero taken) with
                ⟨message, stored⟩
              exact (fresh keyed).1 message stored
            rw [if_pos keyed, if_pos keyed, one] at sums
            dsimp only
            omega
          · rw [if_neg keyed, if_neg keyed] at sums
            dsimp only
            omega
      · intro taken
        by_cases already :
            0 < total senderId requestId Call.numbers state.calls
        · rcases witnessed already with ⟨message, stored⟩
          exact ⟨message, stored.grow kept.grows⟩
        · rcases kept.numbers with same | ⟨one, fresh⟩
          · rw [same] at sums
            dsimp only at taken
            omega
          · by_cases keyed : hasKey senderId requestId call = true
            · exact (fresh keyed).2
            · rw [if_neg keyed, if_neg keyed] at sums
              dsimp only at taken
              omega

theorem expire_consistent
    (engine : Engine) {state : RestState}
    (consistent : Consistent senderId requestId state) (key : String) :
    Consistent senderId requestId (step engine state (.expire key)) :=
  { consistent with
    cached := by
      intro message found
      apply consistent.cached message
      simp only [step, Cache.get_remove] at found
      split at found
      · cases found
      · exact found }

theorem step_consistent
    (named : requestId ≠ "") (engine : Engine) (state : RestState)
    (event : Event) (consistent : Consistent senderId requestId state)
    (separated : SeparatedEvent senderId requestId event) :
    Consistent senderId requestId (step engine state event) := by
  cases event with
  | writer event => exact writer_consistent engine consistent event
  | call input deps =>
      exact call_consistent engine consistent separated deps
  | command index answer =>
      exact command_consistent named engine consistent index answer
  | expire key => exact expire_consistent engine consistent key

theorem initial_consistent
    (engine : Engine) (legacy : LegacyTables) (clock : Timestamp) :
    Consistent senderId requestId
      { service := Services.Transitions.initial engine legacy clock } where
  sound := migrate_sound engine legacy
  cached := by simp [Cache.get]
  calls := by simp
  numbers := by simp [total]
  numbered := by simp [total]

theorem reached_consistent
    (named : requestId ≠ "") (engine : Engine) (legacy : LegacyTables)
    (clock : Timestamp) {events : List Event}
    (separated :
      ∀ event ∈ events, SeparatedEvent senderId requestId event) :
    Consistent senderId requestId
      (reached engine legacy clock events) :=
  run_guarded (step_consistent named engine)
    (initial_consistent engine legacy clock)
    (everyStep_of_forall (fun _ => separated) _)

/-- What the calls of the key published is not more than they took. -/
theorem published_le_numbers
    {state : RestState} (consistent : Consistent senderId requestId state) :
    ((state.calls.filter (hasKey senderId requestId)).flatMap
          Call.published).length ≤
      total senderId requestId Call.numbers state.calls := by
  have each :
      ∀ calls : List Call,
        (∀ call ∈ calls, call.published.length ≤ call.numbers) →
          (calls.flatMap Call.published).length ≤
            (calls.map Call.numbers).sum := by
    intro calls bounded
    induction calls with
    | nil => exact Nat.le_refl 0
    | cons call rest induction =>
        have first := bounded call List.mem_cons_self
        have others :=
          induction fun other member =>
            bounded other (List.mem_cons_of_mem _ member)
        rw [List.flatMap_cons, List.length_append, List.map_cons,
          List.sum_cons]
        omega
  apply each
  intro call member
  have budget :=
    (consistent.calls call (List.mem_of_mem_filter member)).budget
  omega

/-- The unique key of the table. -/
theorem rows_le_one
    {db : Database} (valid : db.Valid) (key : WriteKey) :
    (db.messages.filter fun row => row.key? == some key).length ≤ 1 := by
  have apart :=
    valid.messages.sublist
      (List.filter_sublist (p := fun row => row.key? == some key))
  have keyed :
      ∀ row ∈ db.messages.filter fun row => row.key? == some key,
        row.key? = some key :=
    fun row member => beq_iff_eq.mp (List.mem_filter.mp member).2
  generalize db.messages.filter (fun row => row.key? == some key) = rows
    at apart keyed
  match rows with
  | [] => exact Nat.zero_le 1
  | [_] => exact Nat.le_refl 1
  | first :: second :: rest =>
      have separate := (List.pairwise_cons.mp apart).1 second (by simp)
      rw [Message.conflicts_eq_false_iff] at separate
      exact
        absurd (keyed first (by simp))
          (separate.2.1 key (keyed second (by simp)))

/--
However the calls with one sender and request id run, beside the writer and
with Redis failing or forgetting: the key has one row at most, the calls take
one number and publish one event at most, and all that return give the same
message.
-/
theorem posts_are_idempotent
    (engine : Engine) (legacy : LegacyTables) (clock : Timestamp)
    (senderId : UserId) (requestId : String) (named : requestId ≠ "")
    (events : List Event)
    (separated :
      ∀ event ∈ events, SeparatedEvent senderId requestId event) :
    let state := reached engine legacy clock events
    let posts := state.calls.filter (hasKey senderId requestId)
    (state.service.database.messages.filter fun row =>
          row.key? == some (senderId, requestId)).length ≤
        1 ∧
      (posts.map Call.numbers).sum ≤ 1 ∧
        (posts.flatMap Call.published).length ≤ 1 ∧
          ∀ first ∈ posts, ∀ second ∈ posts,
            ∀ firstMessage secondMessage,
              first.stage = .returned firstMessage →
                second.stage = .returned secondMessage →
                  firstMessage = secondMessage := by
  intro state posts
  have consistent :=
    reached_consistent named engine legacy clock separated
  refine
    ⟨rows_le_one consistent.sound.valid _, consistent.numbers,
      (published_le_numbers consistent).trans consistent.numbers, ?_⟩
  intro first firstMember second secondMember firstMessage secondMessage
    firstReturned secondReturned
  have stored :
      ∀ call ∈ posts, ∀ message, call.stage = .returned message →
        Stored senderId requestId state.service.database message := by
    intro call member message returned
    rcases List.mem_filter.mp member with ⟨listed, keyed⟩
    exact
      (consistent.calls call listed).stored keyed message
        (by rw [returned]; rfl)
  exact
    (stored first firstMember firstMessage firstReturned).unique
      consistent.sound.valid
      (stored second secondMember secondMessage secondReturned)

/-- Ana's request, posted twice at once and once more. -/
def examplePosts : List Event :=
  let input : CreateMessageInput :=
    { senderId := "ana"
      chatId := "room"
      body := some "hello"
      requestId := some "request" }
  [.call input {}, .call input {},
    .command 0 {}, .command 1 {}, .command 0 {}, .command 1 {},
    .command 0 { uuid := "first" }, .command 1 { uuid := "second" },
    .command 1 {}, .command 1 { connection := .lostBefore },
    .command 0 {}, .command 0 {}, .command 0 {},
    .call input {}, .command 2 {}, .command 2 {}]

/-- One row, one number and one event; all three calls return it. -/
theorem posts_are_idempotent_example :
    let state := reached exampleEngine exampleTables 0 examplePosts
    let posts := state.calls.filter (hasKey "ana" "request")
    ((posts.map Call.numbers).sum ≤ 1 ∧
        (posts.flatMap Call.published).length ≤ 1) ∧
      (posts.map Call.numbers).sum = 1 ∧
        (posts.flatMap Call.published).length = 1 ∧
          ∀ call ∈ posts,
            heldMessage call.stage =
              some
                { id := "first"
                  chatId := "room"
                  senderId := "ana"
                  body := "hello"
                  createdAt := 0 } := by
  intro state posts
  have all :=
    posts_are_idempotent exampleEngine exampleTables 0 "ana" "request"
      (by decide) examplePosts
      (by
        intro event member
        simp only [examplePosts, List.mem_cons, List.not_mem_nil,
          or_false] at member
        rcases member with rfl | rfl | rfl | rfl | rfl | rfl | rfl |
          rfl | rfl | rfl | rfl | rfl | rfl | rfl | rfl | rfl <;>
        first
          | exact trivial
          | exact fun other isOther _ => by
              cases isOther
              exact ⟨rfl, rfl⟩)
  exact
    ⟨⟨all.2.1, all.2.2.1⟩, by decide, by decide, by decide⟩

end ChatBackend.Chats.Idempotency
