import ChatBackend.Services.Transitions

/-!
# The bookkeeping of fanout

Writer batches put one row in the outbox for every message they insert, and
drains take these rows through their statuses.  `Bookkeeping` is the
invariant of all interleavings: which rows exist, what a PUBLISHING row
carries, what has happened before a row is PUBLISHED, and what a drain under
way relies on.

It follows that every inserted message has exactly one row, that a PUBLISHED
row was published before, and that no other row is ever stranded.
-/

namespace ChatBackend.Services.Fanout

open ChatBackend.Foundation.EventRuns
open ChatBackend.Foundation.TableRows
open ChatBackend.Storage.Schema
open ChatBackend.Storage.SequenceMigration
open ChatBackend.Storage.TableInvariants
open ChatBackend.Chats.MessageRows
open ChatBackend.Writer.BatchTransaction
open ChatBackend.Writer.BatchSpecification
open ChatBackend.Writer.DeadLetters
open ChatBackend.Writer.OutboxDrain
open ChatBackend.Services.Transitions

/-! ## What never goes away -/

/-- Messages, outbox rows and histories are only ever added to. -/
structure Grows (before after : ServiceState) : Prop where
  messages :
    ∀ message ∈ before.database.messages,
      message ∈ after.database.messages
  outbox :
    ∀ row ∈ before.database.messageOutbox,
      ∃ later ∈ after.database.messageOutbox,
        later.id = row.id ∧ later.event = row.event
  published : ∀ event ∈ before.published, event ∈ after.published
  batchMessages :
    ∀ id ∈ before.batchMessages, id ∈ after.batchMessages

theorem outbox_same (rows : List MessageOutbox) :
    ∀ row ∈ rows, ∃ later ∈ rows,
      later.id = row.id ∧ later.event = row.event :=
  fun row member => ⟨row, member, rfl, rfl⟩

theorem outbox_mapped
    {rows : List MessageOutbox} {version : MessageOutbox → MessageOutbox}
    (sameId : ∀ row, (version row).id = row.id)
    (sameEvent : ∀ row, (version row).event = row.event) :
    ∀ row ∈ rows, ∃ later ∈ rows.map version,
      later.id = row.id ∧ later.event = row.event :=
  fun row member =>
    ⟨version row, List.mem_map_of_mem member, sameId row,
      sameEvent row⟩

section Growth

variable {engine : Engine} {now : Timestamp} {db : Database}

theorem drainStep_outbox (succeeds : Bool) (drain : Drain) :
    ∀ row ∈ db.messageOutbox,
      ∃ later ∈
          (drainStep engine now succeeds db
            drain).database.messageOutbox,
        later.id = row.id ∧ later.event = row.event := by
  rcases drainStep_database engine now db succeeds drain with
    same | ⟨_, row, _, _, _, completed⟩ | ⟨_, row, err, _, _, _, failed⟩
  · rw [same]
    exact outbox_same _
  · rw [completed]
    exact
      outbox_mapped (publishedVersion_id now row.id)
        (publishedVersion_event now row.id)
  · rw [failed]
    exact
      outbox_mapped (failedVersion_id engine now row err)
        (failedVersion_event engine now row err)

end Growth

theorem change_grows
    {engine : Engine} {before after : ServiceState} {event : Event}
    (change : Change engine before event after) :
    Grows before after := by
  have unchanged : Grows before before :=
    { messages := fun _ member => member
      outbox := outbox_same _
      published := fun _ member => member
      batchMessages := fun _ member => member }
  cases change with
  | idle => exact unchanged
  | batch =>
      exact
        { messages := fun _ member => List.mem_append_left _ member
          outbox := fun row member =>
            ⟨row, List.mem_append_left _ member, rfl, rfl⟩
          published := fun _ member => member
          batchMessages := fun _ member =>
            List.mem_append_left _ member }
  | messageRow =>
      exact
        { unchanged with
          messages := fun _ member => List.mem_append_left _ member }
  | lastMessageAt => exact { unchanged with }
  | findDeadLetter => exact { unchanged with }
  | markDead => exact { unchanged with }
  | createDead call pending created found succeeded =>
      rcases createDeadLetter_ok succeeded with ⟨_, _, _, rfl⟩
      exact { unchanged with }
  | dropDead => exact { unchanged with }
  | claim deps =>
      exact
        { unchanged with
          outbox :=
            outbox_mapped (claimRow_id before.clock _)
              (claimRow_event before.clock _) }
  | start => exact { unchanged with }
  | drain call succeeds drain found =>
      exact
        { unchanged with
          messages := fun message member => by
            rw [drainStep_messages]
            exact member
          outbox := drainStep_outbox succeeds drain
          published := fun _ member => List.mem_append_left _ member }
  | crash => exact { unchanged with }
  | clock => exact { unchanged with }

/-! ## The invariant -/

/-- The stored content of a message has been published in its room. -/
def Delivered (state : ServiceState) (messageId : MessageId) : Prop :=
  ∃ message ∈ state.database.messages,
    message.id = messageId ∧
      ∃ event ∈ state.published,
        event.channel = roomEventChannel message.roomId ∧
          event.message = toMessageDto message

theorem Delivered.grow
    {before after : ServiceState} {messageId : MessageId}
    (delivered : Delivered before messageId)
    (grows : Grows before after) : Delivered after messageId := by
  rcases delivered with
    ⟨message, member, same, event, eventMember, content⟩
  exact
    ⟨message, grows.messages message member, same, event,
      grows.published event eventMember, content⟩

/-- The messages that a drain has loaded. -/
def Drain.loadedMessages : Drain → List Message
  | .loading _ => []
  | .publishing messages _ _ _ _ => messages
  | .completing messages _ _ _ => messages
  | .failing messages _ _ _ _ => messages
  | .returned _ => []
  | .rejected => []

/-- A claimed row belongs to a row of the outbox. -/
def InOutbox (state : ServiceState) (row : ClaimedOutboxRow) : Prop :=
  ∃ stored ∈ state.database.messageOutbox,
    stored.id = row.id ∧ stored.messageId = row.messageId

/-- What a drain under way relies on. -/
structure DrainSound (state : ServiceState) (drain : Drain) : Prop where
  pending : ∀ row ∈ drain.pendingRows, InOutbox state row
  loaded :
    ∀ message ∈ Drain.loadedMessages drain,
      message ∈ state.database.messages
  publishing :
    ∀ messages row message rest published,
      drain = .publishing messages row message rest published →
        message ∈ state.database.messages ∧
          message.id = row.messageId
  completing :
    ∀ messages row rest published,
      drain = .completing messages row rest published →
        Delivered state row.messageId

theorem DrainSound.grow
    {before after : ServiceState} {drain : Drain}
    (sound : DrainSound before drain)
    (grows : Grows before after) : DrainSound after drain where
  pending := by
    intro row member
    rcases sound.pending row member with
      ⟨stored, storedMember, sameId, sameMessage⟩
    rcases grows.outbox stored storedMember with
      ⟨later, laterMember, keptId, keptEvent⟩
    exact
      ⟨later, laterMember, keptId.trans sameId,
        (congrArg Prod.snd keptEvent).trans sameMessage⟩
  loaded := fun message member =>
    grows.messages message (sound.loaded message member)
  publishing := by
    intro messages row message rest published isPublishing
    obtain ⟨member, same⟩ :=
      sound.publishing messages row message rest published isPublishing
    exact ⟨grows.messages message member, same⟩
  completing := by
    intro messages row rest published isCompleting
    exact
      (sound.completing messages row rest published isCompleting).grow
        grows

/-- The invariant of every interleaving. -/
structure Bookkeeping (state : ServiceState) : Prop where
  events :
    ∀ row ∈ state.database.messageOutbox,
      row.eventType = messageCreated ∧
        row.messageId ∈ state.batchMessages
  enqueued :
    ∀ messageId ∈ state.batchMessages,
      ∃ row ∈ state.database.messageOutbox, row.messageId = messageId
  locked :
    ∀ row ∈ state.database.messageOutbox,
      row.status = .publishing → row.lockedAt.isSome
  delivered :
    ∀ row ∈ state.database.messageOutbox,
      row.status = .published → Delivered state row.messageId
  drains : ∀ drain ∈ state.drains, DrainSound state drain

/-! ## Preservation -/

/-- The head of the loop is sound when its rows are. -/
theorem nextRow_drainSound
    {state : ServiceState} {messages : List Message}
    {rows : List ClaimedOutboxRow} (published : Nat)
    (pending : ∀ row ∈ rows, InOutbox state row)
    (loaded :
      ∀ message ∈ messages, message ∈ state.database.messages) :
    DrainSound state (nextRow messages published rows) := by
  cases rows with
  | nil =>
      exact
        { pending := by simp [nextRow, Drain.pendingRows]
          loaded := by simp [nextRow, Drain.loadedMessages]
          publishing := by simp [nextRow]
          completing := by simp [nextRow] }
  | cons row rest =>
      cases found :
          messages.find? fun message => message.id == row.messageId with
      | none =>
          exact
            { pending := by
                simpa [nextRow, found, Drain.pendingRows] using pending
              loaded := by
                simpa [nextRow, found, Drain.loadedMessages] using
                  loaded
              publishing := by simp [nextRow, found]
              completing := by simp [nextRow, found] }
      | some message =>
          have member := List.mem_of_find?_eq_some found
          have same : message.id = row.messageId := by
            simpa using List.find?_some found
          exact
            { pending := by
                simpa [nextRow, found, Drain.pendingRows] using pending
              loaded := by
                simpa [nextRow, found, Drain.loadedMessages] using
                  loaded
              publishing := by
                simp only [nextRow, found, Drain.publishing.injEq]
                rintro _ _ _ _ _ ⟨_, rfl, rfl, _, _⟩
                exact ⟨loaded message member, same⟩
              completing := by simp [nextRow, found] }

theorem finished_drainSound
    (state : ServiceState) {drain : Drain}
    (finished : drain.isFinished = true) :
    DrainSound state drain := by
  cases drain with
  | returned published =>
      exact
        { pending := by simp [Drain.pendingRows]
          loaded := by simp [Drain.loadedMessages]
          publishing := by simp
          completing := by simp }
  | rejected =>
      exact
        { pending := by simp [Drain.pendingRows]
          loaded := by simp [Drain.loadedMessages]
          publishing := by simp
          completing := by simp }
  | _ => simp [Drain.isFinished] at finished

/-- A drain that fails at its row keeps what it relies on. -/
theorem failing_drainSound
    {state : ServiceState} {messages : List Message}
    {row : ClaimedOutboxRow} {err : Failure}
    {rest : List ClaimedOutboxRow} (published : Nat)
    (pending : ∀ held ∈ row :: rest, InOutbox state held)
    (loaded :
      ∀ message ∈ messages, message ∈ state.database.messages) :
    DrainSound state (.failing messages row err rest published) :=
  { pending := pending
    loaded := loaded
    publishing := by simp
    completing := by simp }

/-- A step takes a sound drain to a sound drain. -/
theorem drainStep_drainSound
    {engine : Engine} {before after : ServiceState} {drain : Drain}
    {succeeds : Bool}
    (sound : DrainSound before drain) (grows : Grows before after)
    (publishes :
      after.published =
        before.published ++
          (drainStep engine before.clock succeeds before.database
            drain).published) :
    DrainSound after
      (drainStep engine before.clock succeeds before.database
        drain).drain := by
  have kept := sound.grow grows
  cases drain with
  | loading claimed =>
      cases succeeds with
      | false => exact finished_drainSound after rfl
      | true =>
          refine nextRow_drainSound 0 kept.pending ?_
          intro message member
          exact grows.messages message (List.mem_filter.mp member).1
  | publishing messages row message rest published =>
      cases succeeds with
      | false =>
          exact failing_drainSound published kept.pending kept.loaded
      | true =>
          obtain ⟨member, same⟩ :=
            kept.publishing messages row message rest published rfl
          refine
            { pending := kept.pending
              loaded := kept.loaded
              publishing := by simp [drainStep]
              completing := ?_ }
          simp only [drainStep, if_true, Drain.completing.injEq]
          rintro _ _ _ _ ⟨_, rfl, _, _⟩
          refine ⟨message, member, same, roomEvent row message, ?_, ?_⟩
          · rw [publishes]
            exact List.mem_append_right _ (by simp [drainStep])
          · exact ⟨rfl, rfl⟩
  | completing messages row rest published =>
      have pendingRest : ∀ held ∈ rest, InOutbox after held :=
        fun held member =>
          kept.pending held (List.mem_cons_of_mem _ member)
      cases succeeds with
      | false =>
          exact failing_drainSound published kept.pending kept.loaded
      | true =>
          exact
            nextRow_drainSound (published + 1) pendingRest kept.loaded
  | failing messages row err rest published =>
      have pendingRest : ∀ held ∈ rest, InOutbox after held :=
        fun held member =>
          kept.pending held (List.mem_cons_of_mem _ member)
      cases succeeds with
      | false => exact finished_drainSound after rfl
      | true =>
          exact nextRow_drainSound published pendingRest kept.loaded
  | returned published => exact finished_drainSound after rfl
  | rejected => exact finished_drainSound after rfl

/-- The invariant when outbox rows are rewritten in their place. -/
theorem bookkeeping_of_mapped
    {before after : ServiceState} (kept : Bookkeeping before)
    (version : MessageOutbox → MessageOutbox)
    (rows :
      after.database.messageOutbox =
        before.database.messageOutbox.map version)
    (sameEvent : ∀ row, (version row).event = row.event)
    (sameBatches : after.batchMessages = before.batchMessages)
    (locked :
      ∀ row ∈ before.database.messageOutbox,
        (version row).status = .publishing →
          (version row).lockedAt.isSome)
    (delivered :
      ∀ row ∈ before.database.messageOutbox,
        (version row).status = .published →
          Delivered after row.messageId)
    (drains : ∀ drain ∈ after.drains, DrainSound after drain) :
    Bookkeeping after where
  events := by
    rw [rows, sameBatches]
    intro row member
    rcases List.mem_map.mp member with ⟨old, oldMember, rfl⟩
    have sameType := congrArg Prod.fst (sameEvent old)
    have sameMessage := congrArg Prod.snd (sameEvent old)
    change (version old).eventType = old.eventType at sameType
    change (version old).messageId = old.messageId at sameMessage
    rw [sameType, sameMessage]
    exact kept.events old oldMember
  enqueued := by
    rw [rows, sameBatches]
    intro messageId member
    rcases kept.enqueued messageId member with ⟨row, rowMember, same⟩
    exact
      ⟨version row, List.mem_map_of_mem rowMember,
        (congrArg Prod.snd (sameEvent row)).trans same⟩
  locked := by
    rw [rows]
    intro row member
    rcases List.mem_map.mp member with ⟨old, oldMember, rfl⟩
    exact locked old oldMember
  delivered := by
    rw [rows]
    intro row member isPublished
    rcases List.mem_map.mp member with ⟨old, oldMember, rfl⟩
    have sameMessage := congrArg Prod.snd (sameEvent old)
    change (version old).messageId = old.messageId at sameMessage
    rw [sameMessage]
    exact delivered old oldMember isPublished
  drains := drains

/-- The invariant when neither the outbox nor the batches change. -/
theorem bookkeeping_of_same
    {before after : ServiceState} (kept : Bookkeeping before)
    (grows : Grows before after)
    (rows :
      after.database.messageOutbox = before.database.messageOutbox)
    (sameBatches : after.batchMessages = before.batchMessages)
    (drains : ∀ drain ∈ after.drains, DrainSound after drain) :
    Bookkeeping after :=
  bookkeeping_of_mapped kept id (by rw [rows, List.map_id])
    (fun _ => rfl) sameBatches kept.locked
    (fun row member isPublished =>
      (kept.delivered row member isPublished).grow grows)
    drains

/-- A batch adds one PENDING row for each message it inserts. -/
theorem batch_bookkeeping
    {engine : Engine} {before : ServiceState}
    {input : List InputRow} {ids : List MessageId}
    (kept : Bookkeeping before)
    (inserted :
      ids.Perm
        ((newMessages engine before.database input).map Message.id))
    {after : ServiceState} (grows : Grows before after)
    (rows :
      after.database.messageOutbox =
        before.database.messageOutbox ++
          newOutbox engine before.clock before.database input)
    (batches : after.batchMessages = before.batchMessages ++ ids)
    (sameDrains : after.drains = before.drains) :
    Bookkeeping after := by
  have added :
      ∀ row ∈ newOutbox engine before.clock before.database input,
        row.eventType = messageCreated ∧ row.messageId ∈ ids ∧
          row.status = .pending := by
    intro row member
    rcases mem_newOutbox.mp member with ⟨candidate, candidateMember, rfl⟩
    refine ⟨rfl, ?_, rfl⟩
    rw [inserted.mem_iff]
    exact
      List.mem_map_of_mem (f := Message.id)
        (mem_newMessages.mpr ⟨candidate, candidateMember, rfl⟩)
  refine
    { events := ?_
      enqueued := ?_
      locked := ?_
      delivered := ?_
      drains := ?_ }
  · rw [rows, batches]
    intro row member
    rcases List.mem_append.mp member with old | new
    · rcases kept.events row old with ⟨type, listed⟩
      exact ⟨type, List.mem_append_left _ listed⟩
    · rcases added row new with ⟨type, listed, _⟩
      exact ⟨type, List.mem_append_right _ listed⟩
  · rw [rows, batches]
    intro messageId member
    rcases List.mem_append.mp member with old | new
    · rcases kept.enqueued messageId old with ⟨row, rowMember, same⟩
      exact ⟨row, List.mem_append_left _ rowMember, same⟩
    · rw [inserted.mem_iff] at new
      rcases List.mem_map.mp new with ⟨message, messageMember, rfl⟩
      rcases mem_newMessages.mp messageMember with
        ⟨candidate, candidateMember, rfl⟩
      exact
        ⟨_,
          List.mem_append_right _
            (mem_newOutbox.mpr ⟨candidate, candidateMember, rfl⟩),
          rfl⟩
  · rw [rows]
    intro row member isPublishing
    rcases List.mem_append.mp member with old | new
    · exact kept.locked row old isPublishing
    · rw [(added row new).2.2] at isPublishing
      exact absurd isPublishing (by decide)
  · rw [rows]
    intro row member isPublished
    rcases List.mem_append.mp member with old | new
    · exact (kept.delivered row old isPublished).grow grows
    · rw [(added row new).2.2] at isPublished
      exact absurd isPublished (by decide)
  · rw [sameDrains]
    exact fun drain member => (kept.drains drain member).grow grows

/-- A settling step of a drain rewrites rows and keeps the invariant. -/
theorem drainStep_bookkeeping
    {engine : Engine} {before after : ServiceState} {drain : Drain}
    {succeeds : Bool}
    (sound : Sound before.database) (kept : Bookkeeping before)
    (drainSound : DrainSound before drain)
    (grows : Grows before after)
    (database :
      after.database =
        (drainStep engine before.clock succeeds before.database
          drain).database)
    (sameBatches : after.batchMessages = before.batchMessages)
    (drains : ∀ other ∈ after.drains, DrainSound after other) :
    Bookkeeping after := by
  rcases drainStep_database engine before.clock before.database
      succeeds drain with
    same | ⟨messages, claimed, rest, published, isCompleting,
      completed⟩ | ⟨_, claimed, err, _, _, _, failed⟩
  · exact
      bookkeeping_of_same kept grows (by rw [database, same])
        sameBatches drains
  · refine
      bookkeeping_of_mapped kept
        (publishedVersion before.clock claimed.id)
        (by rw [database, completed]; rfl)
        (publishedVersion_event before.clock claimed.id) sameBatches
        ?_ ?_ drains
    · intro row member isPublishing
      unfold publishedVersion at isPublishing ⊢
      split at isPublishing
      · exact absurd isPublishing (by simp)
      · rename_i other
        rw [if_neg other]
        exact kept.locked row member isPublishing
    · intro row member isPublished
      unfold publishedVersion at isPublished
      split at isPublished
      · rename_i sameId
        -- The completed row stands for the message published before.
        obtain ⟨stored, storedMember, storedId, storedMessage⟩ :=
          drainSound.pending claimed (by
            rw [isCompleting]
            exact List.mem_cons_self)
        have sameRow : row = stored :=
          eq_of_unique_key sound.valid.outboxIds member storedMember
            (sameId.trans storedId.symm)
        rw [sameRow, storedMessage]
        exact
          (drainSound.completing messages claimed rest published
            isCompleting).grow grows
      · exact (kept.delivered row member isPublished).grow grows
  · refine
      bookkeeping_of_mapped kept
        (failedVersion engine before.clock claimed err)
        (by rw [database, failed]; rfl)
        (failedVersion_event engine before.clock claimed err)
        sameBatches ?_ ?_ drains
    · intro row member isPublishing
      unfold failedVersion at isPublishing ⊢
      split at isPublishing
      · exact absurd isPublishing (by simp)
      · rename_i other
        rw [if_neg other]
        exact kept.locked row member isPublishing
    · intro row member isPublished
      unfold failedVersion at isPublished
      split at isPublished
      · exact absurd isPublished (by simp)
      · exact (kept.delivered row member isPublished).grow grows

theorem change_bookkeeping
    {engine : Engine} {before after : ServiceState} {event : Event}
    (change : Change engine before event after)
    (sound : Sound before.database) (kept : Bookkeeping before) :
    Bookkeeping after := by
  have grows := change_grows change
  have drains : ∀ drain ∈ before.drains, DrainSound after drain :=
    fun drain member => (kept.drains drain member).grow grows
  cases change with
  | idle => exact kept
  | batch commands deduped origin ids _ _ _ inserted =>
      exact batch_bookkeeping kept inserted grows rfl rfl rfl
  | messageRow => exact bookkeeping_of_same kept grows rfl rfl drains
  | lastMessageAt =>
      exact bookkeeping_of_same kept grows rfl rfl drains
  | findDeadLetter =>
      exact bookkeeping_of_same kept grows rfl rfl drains
  | markDead => exact bookkeeping_of_same kept grows rfl rfl drains
  | createDead call pending created found succeeded =>
      rcases createDeadLetter_ok succeeded with ⟨_, _, _, rfl⟩
      exact bookkeeping_of_same kept grows rfl rfl drains
  | dropDead => exact bookkeeping_of_same kept grows rfl rfl drains
  | claim deps =>
      refine
        bookkeeping_of_mapped kept _ rfl
          (claimRow_event before.clock _) rfl ?_ ?_ ?_
      · intro row member isPublishing
        rcases claimRow_cases before.clock
            (claimable engine before.clock deps before.database)
            row with same | claimed
        · rw [same] at isPublishing ⊢
          exact kept.locked row member isPublishing
        · rw [claimed]
          rfl
      · intro row member isPublished
        rcases claimRow_cases before.clock
            (claimable engine before.clock deps before.database)
            row with same | claimed
        · rw [same] at isPublished
          exact (kept.delivered row member isPublished).grow grows
        · rw [claimed] at isPublished
          exact absurd isPublished (by simp [claimedVersion])
      · intro drain member
        rcases List.mem_append.mp member with old | new
        · exact drains drain old
        · rw [List.mem_singleton] at new
          subst new
          refine
            { pending := ?_
              loaded := by simp [Drain.loadedMessages]
              publishing := by simp
              completing := by simp }
          intro row rowMember
          rcases claimed_inOutbox rowMember with
            ⟨stored, storedMember, sameId, sameMessage, _⟩
          rcases grows.outbox stored storedMember with
            ⟨later, laterMember, laterId, laterEvent⟩
          exact
            ⟨later, laterMember, laterId.trans sameId,
              (congrArg Prod.snd laterEvent).trans sameMessage⟩
  | start deps succeeds drain finished =>
      refine bookkeeping_of_same kept grows rfl rfl ?_
      intro other member
      rcases List.mem_append.mp member with old | new
      · exact drains other old
      · rw [List.mem_singleton] at new
        rw [new]
        exact finished_drainSound _ finished
  | drain call succeeds drain found =>
      have drainSound :=
        kept.drains drain (List.mem_of_getElem? found)
      refine
        drainStep_bookkeeping sound kept drainSound grows rfl rfl ?_
      intro other member
      rcases List.mem_or_eq_of_mem_set member with old | new
      · exact drains other old
      · rw [new]
        exact drainStep_drainSound drainSound grows rfl
  | crash call =>
      refine bookkeeping_of_same kept grows rfl rfl ?_
      intro other member
      rcases List.mem_or_eq_of_mem_set member with old | new
      · exact drains other old
      · rw [new]
        exact finished_drainSound _ rfl
  | clock => exact bookkeeping_of_same kept grows rfl rfl drains

theorem initial_bookkeeping
    (engine : Engine) (legacy : LegacyTables) (clock : Timestamp) :
    Bookkeeping (initial engine legacy clock) :=
  { events := by simp [initial, migrate]
    enqueued := by simp [initial]
    locked := by simp [initial, migrate]
    delivered := by simp [initial, migrate]
    drains := by simp [initial] }

/-- The bookkeeping is right in every reachable state. -/
theorem reached_bookkeeping
    (engine : Engine) (legacy : LegacyTables) (clock : Timestamp)
    (events : List Event) :
    Bookkeeping (reached engine legacy clock events) := by
  have both :=
    run_invariant
      (fun state : ServiceState =>
        Sound state.database ∧ Bookkeeping state)
      (fun state event both =>
        ⟨step_sound engine state event both.1,
          change_bookkeeping (step_change engine state event both.1)
            both.1 both.2⟩)
      ⟨migrate_sound engine legacy,
        initial_bookkeeping engine legacy clock⟩
      events
  exact both.2

/-! ## Consequences -/

/-- A row that is not PUBLISHED satisfies the claim condition in the end. -/
theorem isClaimable_eventually
    {row : MessageOutbox}
    (locked : row.status = .publishing → row.lockedAt.isSome)
    (unpublished : row.status ≠ .published) (staleLockMs : Int) :
    ∃ time, ∀ now, time ≤ now →
      isClaimable now staleLockMs row = true := by
  cases status : row.status with
  | pending =>
      refine ⟨row.nextAttemptAt.getD 0, fun now late => ?_⟩
      cases scheduled : row.nextAttemptAt with
      | none => simp [isClaimable, status, scheduled]
      | some nextAttemptAt =>
          rw [scheduled] at late
          simpa [isClaimable, status, scheduled] using late
  | failed =>
      refine ⟨row.nextAttemptAt.getD 0, fun now late => ?_⟩
      cases scheduled : row.nextAttemptAt with
      | none => simp [isClaimable, status, scheduled]
      | some nextAttemptAt =>
          rw [scheduled] at late
          simpa [isClaimable, status, scheduled] using late
  | publishing =>
      rcases Option.isSome_iff_exists.mp (locked status) with
        ⟨lockedAt, isLocked⟩
      refine ⟨lockedAt + staleLockMs + 1, fun now late => ?_⟩
      simp only [isClaimable, status, isLocked]
      have stale : lockedAt < now - staleLockMs := by
        change lockedAt + staleLockMs + 1 ≤ now at late
        exact Int.lt_sub_right_of_add_lt (Int.lt_of_add_one_le late)
      simp [stale]
  | published => exact absurd status unpublished

/--
In every reachable state each message inserted by a batch has exactly one
outbox row, each PUBLISHED row was published before with the stored content
on the channel of its room, and each other row can be claimed from some time
on, a PUBLISHING one because it carries the time of its lock.
-/
theorem reached_fanout
    (engine : Engine) (legacy : LegacyTables) (clock : Timestamp)
    (events : List Event) :
    (∀ messageId ∈ (reached engine legacy clock events).batchMessages,
        ((reached engine legacy clock
              events).database.messageOutbox.filter fun row =>
            row.messageId == messageId).length =
          1) ∧
      (∀ row ∈
          (reached engine legacy clock events).database.messageOutbox,
        row.status = .published →
          Delivered (reached engine legacy clock events)
            row.messageId) ∧
      ∀ row ∈
          (reached engine legacy clock events).database.messageOutbox,
        (row.status = .publishing → row.lockedAt.isSome) ∧
          (row.status ≠ .published →
            ∀ deps : DrainMessageOutboxDependencies,
              ∃ time, ∀ now, time ≤ now →
                isClaimable now deps.claimStaleLockMs row = true) := by
  have kept := reached_bookkeeping engine legacy clock events
  have valid := (reached_sound engine legacy clock events).valid
  refine ⟨?_, kept.delivered, ?_⟩
  · intro messageId member
    rcases kept.enqueued messageId member with ⟨row, rowMember, rfl⟩
    have sameFilter :
        ((reached engine legacy clock
              events).database.messageOutbox.filter fun other =>
            other.messageId == row.messageId) =
          (reached engine legacy clock
              events).database.messageOutbox.filter fun other =>
            other.event == row.event := by
      apply List.filter_congr
      intro other otherMember
      have otherType := (kept.events other otherMember).1
      have rowType := (kept.events row rowMember).1
      rw [Bool.eq_iff_iff]
      simp [MessageOutbox.event, otherType, rowType]
    rw [sameFilter, filter_unique_key valid.outboxEvents rowMember]
    rfl
  · intro row member
    exact
      ⟨kept.locked row member,
        fun unpublished deps =>
          isClaimable_eventually (kept.locked row member) unpublished
            deps.claimStaleLockMs⟩

end ChatBackend.Services.Fanout
