import ChatBackend.Services.Fanout
import ChatBackend.Services.WriteLifecycle

/-!
# What a PERSISTED write stands for

The queue and the REST interface share the key of a message, its sender and
its request, but give the message different ids.  A write row is PERSISTED on
the strength of the message with its key, whoever stored it.

So every PERSISTED or FANOUTED row has a message with its key.  When a writer
batch inserted this message, or the row is FANOUTED, the message also has the
id, the room and the content of the row.  A message that came over REST need
not, and the example at the end shows one that does not.
-/

namespace ChatBackend.Services.PersistedWrites

open ChatBackend.Foundation.EventRuns
open ChatBackend.Foundation.TableRows
open ChatBackend.Storage.Schema
open ChatBackend.Storage.SequenceMigration
open ChatBackend.Storage.TableInvariants
open ChatBackend.Chats.MessageRows
open ChatBackend.Writer.WriteCommands
open ChatBackend.Writer.BatchTransaction
open ChatBackend.Writer.BatchSpecification
open ChatBackend.Writer.BatchInvariants
open ChatBackend.Writer.DeadLetters
open ChatBackend.Writer.OutboxDrain
open ChatBackend.Services.Transitions
open ChatBackend.Services.Fanout
open ChatBackend.Services.WriteLifecycle

/-- The message of a write row: its key, and all that the row stores. -/
structure StoredAs (write : MessageWrite) (message : Message) : Prop where
  id : message.id = write.id
  key : message.key? = some write.key
  roomId : message.roomId = write.roomId
  content : message.content = write.content

theorem StoredAs.later
    {write later : MessageWrite} {message : Message}
    (stored : StoredAs write message)
    (version : LaterVersion write later) : StoredAs later message where
  id := stored.id.trans version.id.symm
  key := by rw [version.key, stored.key]
  roomId := stored.roomId.trans version.roomId.symm
  content := stored.content.trans version.content.symm

/-- How messages and settled write rows belong together. -/
structure Sourced (state : ServiceState) : Prop where
  batch :
    ∀ message ∈ state.database.messages,
      message.id ∈ state.batchMessages →
        ∃ write ∈ state.database.messageWrites, StoredAs write message
  persisted :
    ∀ write ∈ state.database.messageWrites,
      IsPersisted write.status →
        ∃ message ∈ state.database.messages,
          message.key? = some write.key
  fanouted :
    ∀ write ∈ state.database.messageWrites,
      write.status = .fanouted →
        ∃ message ∈ state.database.messages, StoredAs write message

/-- A batch message is the message of the row that shares its key. -/
theorem Sourced.storedAs
    {state : ServiceState} (kept : Sourced state)
    (sound : Sound state.database)
    {write : MessageWrite}
    (member : write ∈ state.database.messageWrites)
    {message : Message}
    (messageMember : message ∈ state.database.messages)
    (sameKey : message.key? = some write.key)
    (fromBatch : message.id ∈ state.batchMessages) :
    StoredAs write message := by
  rcases kept.batch message messageMember fromBatch with
    ⟨other, otherMember, stored⟩
  have sameWrite : other = write :=
    eq_of_unique_key sound.valid.writeKeys otherMember member
      (Option.some.inj (stored.key.symm.trans sameKey))
  exact sameWrite ▸ stored

/-! ## Preservation -/

/-- The invariant when write rows get later versions in their place. -/
theorem sourced_of_versions
    {before after : ServiceState} (kept : Sourced before)
    (version : MessageWrite → MessageWrite)
    (later : ∀ write, LaterVersion write (version write))
    (writes :
      after.database.messageWrites =
        before.database.messageWrites.map version)
    (messages :
      ∀ message ∈ before.database.messages,
        message ∈ after.database.messages)
    (batch :
      ∀ message ∈ after.database.messages,
        message.id ∈ after.batchMessages →
          message ∈ before.database.messages ∧
            message.id ∈ before.batchMessages)
    (persisted :
      ∀ write, IsPersisted (version write).status →
        IsPersisted write.status)
    (fanouted :
      ∀ write ∈ before.database.messageWrites,
        (version write).status = .fanouted →
          write.status = .fanouted ∨
            ∃ message ∈ before.database.messages,
              StoredAs write message) :
    Sourced after where
  batch := by
    intro message member fromBatch
    rcases batch message member fromBatch with ⟨oldMember, oldBatch⟩
    rcases kept.batch message oldMember oldBatch with
      ⟨write, writeMember, stored⟩
    rw [writes]
    exact
      ⟨version write, List.mem_map_of_mem writeMember,
        stored.later (later write)⟩
  persisted := by
    rw [writes]
    intro write member isPersisted
    rcases List.mem_map.mp member with ⟨old, oldMember, rfl⟩
    rcases kept.persisted old oldMember (persisted old isPersisted) with
      ⟨message, messageMember, sameKey⟩
    refine ⟨message, messages message messageMember, ?_⟩
    rw [(later old).key, sameKey]
  fanouted := by
    rw [writes]
    intro write member isFanouted
    rcases List.mem_map.mp member with ⟨old, oldMember, rfl⟩
    have stored :
        ∃ message ∈ before.database.messages, StoredAs old message := by
      rcases fanouted old oldMember isFanouted with already | found
      · exact kept.fanouted old oldMember already
      · exact found
    rcases stored with ⟨message, messageMember, storedAs⟩
    exact
      ⟨message, messages message messageMember,
        storedAs.later (later old)⟩

/-- The invariant when the write rows do not change. -/
theorem sourced_of_same
    {before after : ServiceState} (kept : Sourced before)
    (writes :
      after.database.messageWrites = before.database.messageWrites)
    (messages :
      ∀ message ∈ before.database.messages,
        message ∈ after.database.messages)
    (batch :
      ∀ message ∈ after.database.messages,
        message.id ∈ after.batchMessages →
          message ∈ before.database.messages ∧
            message.id ∈ before.batchMessages) :
    Sourced after :=
  sourced_of_versions kept id laterVersion_same
    (by rw [writes, List.map_id]) messages batch
    (fun _ isPersisted => isPersisted)
    (fun _ _ isFanouted => Or.inl isFanouted)

theorem fanoutedVersion_isPersisted
    {messageId : MessageId} {write : MessageWrite}
    (persisted : IsPersisted (fanoutedVersion messageId write).status) :
    IsPersisted write.status := by
  rcases fanoutedVersion_cases messageId write with
    same | ⟨_, wasPersisted, _⟩
  · exact same ▸ persisted
  · exact Or.inl wasPersisted

/-- A row that a drain completes belongs to a message of a batch. -/
theorem completed_storedAs
    {state : ServiceState} (kept : Sourced state)
    (bookkeeping : Bookkeeping state) (sound : Sound state.database)
    {row : ClaimedOutboxRow} (listed : InOutbox state row)
    {write : MessageWrite}
    (member : write ∈ state.database.messageWrites)
    (sameId : write.id = row.messageId) :
    ∃ message ∈ state.database.messages, StoredAs write message := by
  rcases listed with ⟨stored, storedMember, _, storedMessage⟩
  rcases sound.valid.outboxMessage stored storedMember with
    ⟨message, messageMember, messageId⟩
  have fromBatch : message.id ∈ state.batchMessages := by
    rw [messageId]
    exact (bookkeeping.events stored storedMember).2
  rcases kept.batch message messageMember fromBatch with
    ⟨other, otherMember, storedAs⟩
  have sameWrite : other = write := by
    apply
      eq_of_unique_key sound.valid.writeIds otherMember member
    rw [← storedAs.id, messageId, storedMessage, sameId]
  exact ⟨message, messageMember, sameWrite ▸ storedAs⟩

section Batch

variable {engine : Engine} {now : Timestamp} {db : Database}
  {input : List InputRow}

/-- A new message is the message of the row that it was made from. -/
theorem newMessages_storedAs
    {message : Message} (member : message ∈ newMessages engine db input) :
    ∃ write ∈ (batchResult engine now db input).messageWrites,
      StoredAs write message := by
  rcases mem_newMessages.mp member with ⟨candidate, candidateMember, rfl⟩
  have inTable := (mem_writeRows.mp (mem_candidates candidateMember).1).1
  refine ⟨_, List.mem_map_of_mem inTable, ?_, ?_, ?_, ?_⟩
  · simp [candidateMessage]
  · simp [candidateMessage, Message.key?, MessageWrite.key]
  · simp [candidateMessage]
  · simp [candidateMessage]

/-- A row after a batch: unchanged, or settled by a message with its key. -/
theorem batch_write_cases
    {write : MessageWrite}
    (member : write ∈ (batchResult engine now db input).messageWrites) :
    ∃ old, old ∈ (staged db input).messageWrites ∧
      LaterVersion old write ∧
        (write = old ∨
          (write.status = .persisted ∧
            ∃ message ∈ (batchResult engine now db input).messages,
              message.key? = some write.key)) := by
  rcases List.mem_map.mp member with ⟨old, oldMember, rfl⟩
  refine ⟨old, oldMember, settle_later _ old, ?_⟩
  rcases settle_cases (settlingMessages engine db input) old with
    same | ⟨_, message, messageMember, sameKey, settled⟩
  · exact Or.inl same
  · right
    refine ⟨by rw [settled], message, ?_, ?_⟩
    · exact settlingMessages_stored messageMember
    · rw [settle_key, sameKey]

end Batch

theorem batch_sourced
    {engine : Engine} {before : ServiceState}
    {deduped : List MessageWriteCommand} {input : List InputRow}
    {ids : List MessageId}
    (kept : Sourced before) (sound : Sound before.database)
    (accepted :
      BatchAccepted engine before.clock before.database deduped input)
    (inserted :
      ids.Perm
        ((newMessages engine before.database input).map Message.id)) :
    Sourced
      { before with
        database :=
          batchResult engine before.clock before.database input
        batchMessages := before.batchMessages ++ ids } where
  batch := by
    intro message member fromBatch
    rcases List.mem_append.mp member with old | new
    · have oldBatch : message.id ∈ before.batchMessages := by
        rcases List.mem_append.mp fromBatch with listed | added
        · exact listed
        · rw [inserted.mem_iff] at added
          rcases List.mem_map.mp added with ⟨new, newMember, same⟩
          have separate :=
            newMessages_compatible sound.valid
              (sequencesBelow_of_sound sound) accepted.toWritesAccepted
              new newMember message old
          rw [Message.conflicts_eq_false_iff] at separate
          exact absurd same.symm separate.1
      rcases kept.batch message old oldBatch with
        ⟨write, writeMember, stored⟩
      exact
        ⟨_, List.mem_map_of_mem (List.mem_append_left _ writeMember),
          stored.later (settle_later _ write)⟩
    · exact newMessages_storedAs new
  persisted := by
    intro write member isPersisted
    rcases batch_write_cases member with
      ⟨old, oldMember, _, same | ⟨_, settled⟩⟩
    · rw [same] at isPersisted ⊢
      rcases List.mem_append.mp oldMember with stored | new
      · rcases kept.persisted old stored isPersisted with
          ⟨message, messageMember, sameKey⟩
        exact
          ⟨message, List.mem_append_left _ messageMember, sameKey⟩
      · rcases mem_newWrites.mp new with ⟨⟨row, _, rfl⟩, _⟩
        simp [IsPersisted, InputRow.toMessageWrite] at isPersisted
    · exact settled
  fanouted := by
    intro write member isFanouted
    rcases batch_write_cases member with
      ⟨old, oldMember, _, same | ⟨persisted, _⟩⟩
    · rw [same] at isFanouted ⊢
      rcases List.mem_append.mp oldMember with stored | new
      · rcases kept.fanouted old stored isFanouted with
          ⟨message, messageMember, storedAs⟩
        exact
          ⟨message, List.mem_append_left _ messageMember, storedAs⟩
      · rcases mem_newWrites.mp new with ⟨⟨row, _, rfl⟩, _⟩
        simp [InputRow.toMessageWrite] at isFanouted
    · rw [persisted] at isFanouted
      simp at isFanouted

theorem createDead_sourced
    {engine : Engine} {now : Timestamp} {before after : ServiceState}
    {command : MessageWriteCommand} {err : Failure}
    (kept : Sourced before)
    (writes :
      after.database.messageWrites =
        before.database.messageWrites ++
          [deadLetter engine now command err])
    (messages : after.database.messages = before.database.messages)
    (batches : after.batchMessages = before.batchMessages) :
    Sourced after where
  batch := by
    rw [messages, batches, writes]
    intro message member fromBatch
    rcases kept.batch message member fromBatch with
      ⟨write, writeMember, stored⟩
    exact ⟨write, List.mem_append_left _ writeMember, stored⟩
  persisted := by
    rw [messages, writes]
    intro write member isPersisted
    rcases List.mem_append.mp member with old | new
    · exact kept.persisted write old isPersisted
    · rw [List.mem_singleton] at new
      rw [new] at isPersisted
      simp [IsPersisted, deadLetter] at isPersisted
  fanouted := by
    rw [messages, writes]
    intro write member isFanouted
    rcases List.mem_append.mp member with old | new
    · exact kept.fanouted write old isFanouted
    · rw [List.mem_singleton] at new
      rw [new] at isFanouted
      simp [deadLetter] at isFanouted

theorem change_sourced
    {engine : Engine} {before after : ServiceState} {event : Event}
    (change : Change engine before event after)
    (sound : Sound before.database)
    (bookkeeping : Bookkeeping before) (kept : Sourced before) :
    Sourced after := by
  have same :
      ∀ message ∈ before.database.messages,
        message ∈ before.database.messages :=
    fun _ member => member
  have sameBatch :
      ∀ message ∈ before.database.messages,
        message.id ∈ before.batchMessages →
          message ∈ before.database.messages ∧
            message.id ∈ before.batchMessages :=
    fun _ member fromBatch => ⟨member, fromBatch⟩
  cases change with
  | idle => exact kept
  | batch _ _ _ _ _ _ accepted inserted =>
      exact batch_sourced kept sound accepted inserted
  | messageRow uuid input room member sameRoom accepted =>
      refine
        sourced_of_same kept rfl
          (fun _ member => List.mem_append_left _ member) ?_
      intro message member fromBatch
      rcases List.mem_append.mp member with old | new
      · exact ⟨old, fromBatch⟩
      · -- The id of a batch message is taken, so it is not the new one.
        rw [List.mem_singleton] at new
        rcases bookkeeping.enqueued message.id fromBatch with
          ⟨row, rowMember, rowMessage⟩
        rcases sound.valid.outboxMessage row rowMember with
          ⟨first, firstMember, firstId⟩
        have separate := accepted.compatible first firstMember
        rw [← new, Message.conflicts_eq_false_iff] at separate
        exact absurd (firstId.trans rowMessage) separate.1
  | lastMessageAt => exact sourced_of_same kept rfl same sameBatch
  | findDeadLetter => exact sourced_of_same kept rfl same sameBatch
  | markDead call messageWriteId err =>
      refine
        sourced_of_versions kept
          (deadWrite engine before.clock messageWriteId err)
          (deadWrite_later engine before.clock messageWriteId err) rfl
          same sameBatch ?_ ?_
      · intro write isPersisted
        have alive : (deadWrite engine before.clock messageWriteId err
            write).status ≠ .dead := by
          rintro dead
          rw [dead] at isPersisted
          simp [IsPersisted] at isPersisted
        exact deadWrite_eq_of_alive alive ▸ isPersisted
      · intro write _ isFanouted
        have alive : (deadWrite engine before.clock messageWriteId err
            write).status ≠ .dead := by
          rw [isFanouted]
          decide
        exact Or.inl (deadWrite_eq_of_alive alive ▸ isFanouted)
  | createDead call pending created found succeeded =>
      rcases createDeadLetter_ok succeeded with ⟨_, _, _, rfl⟩
      exact createDead_sourced kept rfl rfl rfl
  | dropDead => exact sourced_of_same kept rfl same sameBatch
  | claim => exact sourced_of_same kept rfl same sameBatch
  | start => exact sourced_of_same kept rfl same sameBatch
  | drain call succeeds drain found =>
      rcases drainStep_database engine before.clock before.database
          succeeds drain
        with unchanged | ⟨messages, row, rest, published, isCompleting,
          completed⟩ | ⟨_, _, _, _, _, _, failed⟩
      · rw [unchanged]
        exact sourced_of_same kept rfl same sameBatch
      · rw [completed]
        refine
          sourced_of_versions kept (fanoutedVersion row.messageId)
            (fanoutedVersion_later row.messageId) rfl same sameBatch
            (fun _ => fanoutedVersion_isPersisted) ?_
        intro write member isFanouted
        rcases fanoutedVersion_cases row.messageId write with
          untouched | ⟨sameId, _, _⟩
        · exact Or.inl (untouched ▸ isFanouted)
        · have drainSound :=
            bookkeeping.drains drain (List.mem_of_getElem? found)
          have listed : InOutbox before row :=
            drainSound.pending row (by
              rw [isCompleting]
              exact List.mem_cons_self)
          exact
            Or.inr
              (completed_storedAs kept bookkeeping sound listed member
                sameId)
      · rw [failed]
        exact sourced_of_same kept rfl same sameBatch
  | crash => exact sourced_of_same kept rfl same sameBatch
  | clock => exact sourced_of_same kept rfl same sameBatch

/-! ## Whole runs -/

/-- Before the migration, settled write rows have their own message. -/
def LegacySourced (legacy : LegacyTables) : Prop :=
  ∀ write ∈ legacy.messageWrites, IsPersisted write.status →
    ∃ message ∈ legacy.messages,
      message.id = write.id ∧ message.key? = some write.key ∧
        message.roomId = write.roomId ∧
          message.content = write.content

theorem initial_sourced
    (engine : Engine) {legacy : LegacyTables}
    (sourced : LegacySourced legacy) (clock : Timestamp) :
    Sourced (initial engine legacy clock) := by
  have stored :
      ∀ write ∈ (initial engine legacy clock).database.messageWrites,
        IsPersisted write.status →
          ∃ message ∈
              (initial engine legacy clock).database.messages,
            StoredAs write message := by
    intro write member isPersisted
    rcases sourced write member isPersisted with
      ⟨message, messageMember, sameId, sameKey, sameRoom, same⟩
    exact
      ⟨_, List.mem_map_of_mem messageMember, sameId, sameKey, sameRoom,
        same⟩
  exact
    { batch := by simp [initial]
      persisted := fun write member isPersisted => by
        rcases stored write member isPersisted with
          ⟨message, messageMember, storedAs⟩
        exact ⟨message, messageMember, storedAs.key⟩
      fanouted := fun write member isFanouted =>
        stored write member (Or.inr isFanouted) }

theorem reached_sourced
    (engine : Engine) {legacy : LegacyTables}
    (sourced : LegacySourced legacy) (clock : Timestamp)
    (events : List Event) :
    Sourced (reached engine legacy clock events) := by
  have all :=
    run_invariant
      (fun state : ServiceState =>
        Sound state.database ∧ Bookkeeping state ∧ Sourced state)
      (fun state event kept =>
        have change := step_change engine state event kept.1
        ⟨step_sound engine state event kept.1,
          change_bookkeeping change kept.1 kept.2.1,
          change_sourced change kept.1 kept.2.1 kept.2.2⟩)
      ⟨migrate_sound engine legacy,
        initial_bookkeeping engine legacy clock,
        initial_sourced engine sourced clock⟩
      events
  exact all.2.2

/--
Every PERSISTED or FANOUTED write row has a message with its key.  If a batch
inserted the message, or the row is FANOUTED, the message is the row's own in
id, room and content.
-/
theorem persisted_writes_have_messages
    (engine : Engine) (legacy : LegacyTables)
    (sourced : LegacySourced legacy) (clock : Timestamp)
    (events : List Event) :
    ∀ write ∈
        (reached engine legacy clock events).database.messageWrites,
      IsPersisted write.status →
        ∃ message ∈
            (reached engine legacy clock events).database.messages,
          message.senderId = write.senderId ∧
            message.requestId = some write.requestId ∧
              (message.id ∈
                    (reached engine legacy clock
                      events).batchMessages ∨
                  write.status = .fanouted →
                message.id = write.id ∧
                  message.roomId = write.roomId ∧
                    message.content = write.content) := by
  have kept := reached_sourced engine sourced clock events
  have sound := reached_sound engine legacy clock events
  have columns :
      ∀ (write : MessageWrite) (message : Message),
        message.key? = some write.key →
          message.senderId = write.senderId ∧
            message.requestId = some write.requestId := by
    intro write message sameKey
    rcases Option.map_eq_some_iff.mp sameKey with
      ⟨requestId, hasRequest, same⟩
    rcases Prod.mk.inj same with ⟨sameSender, sameRequest⟩
    exact ⟨sameSender, sameRequest ▸ hasRequest⟩
  intro write member isPersisted
  by_cases isFanouted : write.status = .fanouted
  · rcases kept.fanouted write member isFanouted with
      ⟨message, messageMember, stored⟩
    rcases columns write message stored.key with ⟨sender, request⟩
    exact
      ⟨message, messageMember, sender, request,
        fun _ => ⟨stored.id, stored.roomId, stored.content⟩⟩
  · rcases kept.persisted write member isPersisted with
      ⟨message, messageMember, sameKey⟩
    rcases columns write message sameKey with ⟨sender, request⟩
    refine ⟨message, messageMember, sender, request, ?_⟩
    rintro (fromBatch | fanouted)
    · have stored :=
        kept.storedAs sound member messageMember sameKey fromBatch
      exact ⟨stored.id, stored.roomId, stored.content⟩
    · exact absurd fanouted isFanouted

/-- A REST message takes the key before the queued command arrives. -/
def exampleSharedKey : List Event :=
  [.createMessageRow exampleUuid
      { senderId := "ana"
        roomId := "room"
        content := "hello over REST"
        requestId := some "r1" },
    .writerBatch [exampleCommand] none]

theorem exampleSharedKey_persisted :
    ∃ write ∈
        (reached exampleEngine exampleTables 0
          exampleSharedKey).database.messageWrites,
      write.id = exampleCommand.messageId ∧
        IsPersisted write.status := by
  have writes :
      (reached exampleEngine exampleTables 0
          exampleSharedKey).database.messageWrites.map
          (fun write => (write.id, write.status)) =
        [(exampleCommand.messageId, .persisted)] := by
    decide
  obtain ⟨write, member, columns⟩ :=
    List.mem_map.mp
      (writes ▸ List.mem_singleton_self
        (exampleCommand.messageId, MessageWriteStatus.persisted))
  rcases Prod.mk.inj columns with ⟨sameId, isPersisted⟩
  exact ⟨write, member, sameId, Or.inl isPersisted⟩

theorem persisted_writes_have_messages_example :
    ∃ write ∈
        (reached exampleEngine exampleTables 0
          exampleSharedKey).database.messageWrites,
      ∃ message ∈
          (reached exampleEngine exampleTables 0
            exampleSharedKey).database.messages,
        message.senderId = write.senderId ∧
          message.requestId = some write.requestId ∧
            (message.id ∈
                  (reached exampleEngine exampleTables 0
                    exampleSharedKey).batchMessages ∨
                write.status = .fanouted →
              message.id = write.id ∧
                message.roomId = write.roomId ∧
                  message.content = write.content) := by
  rcases exampleSharedKey_persisted with ⟨write, member, _, isPersisted⟩
  exact
    ⟨write, member,
      persisted_writes_have_messages exampleEngine exampleTables
        (by simp [LegacySourced, exampleTables]) 0 exampleSharedKey
        write member isPersisted⟩

/-- The row is PERSISTED, and no message has its id. -/
theorem persisted_write_without_own_message :
    ¬ ∀ (engine : Engine) (legacy : LegacyTables) (clock : Timestamp)
        (events : List Event),
      LegacySourced legacy →
        ∀ write ∈
            (reached engine legacy clock
              events).database.messageWrites,
          IsPersisted write.status →
            ∃ message ∈
                (reached engine legacy clock events).database.messages,
              StoredAs write message := by
  intro claimed
  have stored :=
    claimed exampleEngine exampleTables 0 exampleSharedKey
      (by simp [LegacySourced, exampleTables])
  have messages :
      (reached exampleEngine exampleTables 0
          exampleSharedKey).database.messages.map Message.id =
        [exampleUuid] := by
    decide
  rcases exampleSharedKey_persisted with
    ⟨write, member, sameId, isPersisted⟩
  rcases stored write member isPersisted with
    ⟨message, messageMember, storedAs⟩
  have listed := List.mem_map_of_mem (f := Message.id) messageMember
  rw [messages, List.mem_singleton, storedAs.id, sameId] at listed
  exact absurd listed (by decide)

end ChatBackend.Services.PersistedWrites
