import ChatBackend.Services.Transitions

/-!
# The life cycle of write rows

A write row starts PENDING, becomes PERSISTED with its message and FANOUTED
when its message is published, or DEAD when its last delivery fails.  Nothing
else happens to its status, whatever the order of the transactions.

Under the assumption that the id of a queued message is a function of its
key, and that messages of the chat service have other ids, a message with
such an id always stands beside its PERSISTED or FANOUTED write row.  So no
DEAD row has a message, and a committed batch leaves none of its rows
PENDING.
-/

namespace ChatBackend.Services.WriteLifecycle

open ChatBackend.Foundation.EventRuns
open ChatBackend.Foundation.TableRows
open ChatBackend.Storage.Schema
open ChatBackend.Storage.SequenceMigration
open ChatBackend.Storage.TableInvariants
open ChatBackend.Chats.MessageRows
open ChatBackend.Writer.WriteCommands
open ChatBackend.Writer.BatchTransaction
open ChatBackend.Writer.BatchSpecification
open ChatBackend.Writer.BatchInvariants
open ChatBackend.Writer.DeadLetters
open ChatBackend.Writer.OutboxDrain
open ChatBackend.Services.Transitions

/-! ## Versions of a write row -/

/-- The changes of status that the life cycle allows. -/
inductive StatusStep : MessageWriteStatus → MessageWriteStatus → Prop where
  | unchanged (status : MessageWriteStatus) : StatusStep status status
  | persist : StatusStep .pending .persisted
  | fanout : StatusStep .persisted .fanouted
  | die : StatusStep .pending .dead

/-- A write row after a step. -/
structure LaterVersion (write later : MessageWrite) : Prop where
  id : later.id = write.id
  key : later.key = write.key
  roomId : later.roomId = write.roomId
  content : later.content = write.content
  status : StatusStep write.status later.status

theorem laterVersion_same (write : MessageWrite) :
    LaterVersion write write :=
  ⟨rfl, rfl, rfl, rfl, .unchanged write.status⟩

/-- PERSISTED or FANOUTED. -/
def IsPersisted (status : MessageWriteStatus) : Prop :=
  status = .persisted ∨ status = .fanouted

theorem StatusStep.isPersisted
    {first second : MessageWriteStatus}
    (step : StatusStep first second) (persisted : IsPersisted first) :
    IsPersisted second := by
  cases step with
  | unchanged => exact persisted
  | persist => exact Or.inl rfl
  | fanout => exact Or.inr rfl
  | die => simp [IsPersisted] at persisted

theorem settle_later (messages : List Message) (write : MessageWrite) :
    LaterVersion write (settle messages write) := by
  refine ⟨by simp, by simp, by simp, by simp, ?_⟩
  rcases settle_cases messages write with
    same | ⟨isOpen, _, _, _, settled⟩
  · rw [same]
    exact .unchanged write.status
  · rw [settled]
    cases status : write.status with
    | pending => exact .persist
    | persisted => exact .unchanged _
    | fanouted => simp [MessageWriteStatus.isOpen, status] at isOpen
    | dead => simp [MessageWriteStatus.isOpen, status] at isOpen

theorem deadWrite_later
    (engine : Engine) (now : Timestamp) (messageWriteId : MessageId)
    (err : Failure) (write : MessageWrite) :
    LaterVersion write
      (deadWrite engine now messageWriteId err write) := by
  refine ⟨by simp, by simp, by simp, by simp, ?_⟩
  rcases deadWrite_cases engine now messageWriteId err write with
    same | ⟨pending, dead⟩
  · rw [same]
    exact .unchanged write.status
  · rw [pending, dead]
    exact .die

theorem fanoutedVersion_later
    (messageId : MessageId) (write : MessageWrite) :
    LaterVersion write (fanoutedVersion messageId write) := by
  refine ⟨by simp, by simp, by simp, by simp, ?_⟩
  rcases fanoutedVersion_cases messageId write with
    same | ⟨_, persisted, fanouted⟩
  · rw [same]
    exact .unchanged write.status
  · rw [persisted, fanouted]
    exact .fanout

/-! ## What a step does to the write rows -/

/-- The writes of the database after a step of a drain. -/
theorem drainStep_writes
    (engine : Engine) (now : Timestamp) (succeeds : Bool)
    (db : Database) (drain : Drain) :
    ∃ version : MessageWrite → MessageWrite,
      (∀ write, LaterVersion write (version write)) ∧
        (drainStep engine now succeeds db
            drain).database.messageWrites =
          db.messageWrites.map version := by
  rcases drainStep_database engine now db succeeds drain with
    same | ⟨_, row, _, _, _, completed⟩ | ⟨_, _, _, _, _, _, failed⟩
  · exact ⟨id, laterVersion_same, by rw [same, List.map_id]⟩
  · exact
      ⟨fanoutedVersion row.messageId,
        fanoutedVersion_later row.messageId, by rw [completed]; rfl⟩
  · exact
      ⟨id, laterVersion_same, by rw [failed, List.map_id]; rfl⟩

/-- The commands that an event can turn into write rows. -/
def Named
    (state : ServiceState) (event : Event)
    (command : MessageWriteCommand) : Prop :=
  match event with
  | .writerBatch commands _ => command ∈ commands
  | .writeDeadLetter call =>
      ∃ pending, state.deadLetters[call]? = some pending ∧
        pending.command = command
  | _ => False

/-- A write row made for a command. -/
structure MadeFor
    (command : MessageWriteCommand) (write : MessageWrite) : Prop where
  id : write.id = command.messageId
  key : write.key = command.key
  roomId : write.roomId = command.roomId
  content : write.content = command.body

/--
The write rows after an event: the rows before it, each in a later version,
and rows made for the commands of the event.
-/
theorem change_writes
    {engine : Engine} {before after : ServiceState} {event : Event}
    (change : Change engine before event after) :
    ∃ (version : MessageWrite → MessageWrite) (added : List MessageWrite),
      (∀ write, LaterVersion write (version write)) ∧
        (∀ write ∈ added, ∃ command, Named before event command ∧
          MadeFor command write) ∧
        after.database.messageWrites =
          before.database.messageWrites.map version ++ added := by
  have unchanged :
      ∃ (version : MessageWrite → MessageWrite)
          (added : List MessageWrite),
        (∀ write, LaterVersion write (version write)) ∧
          (∀ write ∈ added, ∃ command, Named before event command ∧
            MadeFor command write) ∧
          before.database.messageWrites =
            before.database.messageWrites.map version ++ added :=
    ⟨id, [], laterVersion_same, by simp, by simp⟩
  cases change with
  | idle => exact unchanged
  | batch commands deduped origin ids noConflict =>
      refine
        ⟨settle
            (settlingMessages engine before.database
              (messageWriteInput deduped origin)),
          (newWrites before.database
              (messageWriteInput deduped origin)).map
            (settle
              (settlingMessages engine before.database
                (messageWriteInput deduped origin))),
          settle_later _, ?_, List.map_append⟩
      intro write member
      rcases List.mem_map.mp member with ⟨new, newMember, rfl⟩
      rcases mem_newWrites.mp newMember with ⟨⟨row, rowMember, rfl⟩, _⟩
      rcases mem_messageWriteInput.mp rowMember with
        ⟨command, commandMember, rfl⟩
      exact
        ⟨command, (dedupe_sublist noConflict).mem commandMember,
          by simp [InputRow.toMessageWrite],
          by simp [InputRow.toMessageWrite, MessageWrite.key,
            MessageWriteCommand.key],
          by simp [InputRow.toMessageWrite],
          by simp [InputRow.toMessageWrite]⟩
  | messageRow => exact unchanged
  | lastMessageAt => exact unchanged
  | findDeadLetter => exact unchanged
  | markDead call messageWriteId err =>
      exact
        ⟨deadWrite engine before.clock messageWriteId err, [],
          deadWrite_later engine before.clock messageWriteId err,
          by simp, by simp [markMessageWriteDead]⟩
  | createDead call pending created found succeeded =>
      rcases createDeadLetter_ok succeeded with ⟨_, _, _, rfl⟩
      refine
        ⟨id, [deadLetter engine before.clock pending.command pending.err],
          laterVersion_same, ?_, by simp⟩
      intro write member
      rw [List.mem_singleton] at member
      rw [member]
      exact
        ⟨pending.command, ⟨pending, found, rfl⟩, rfl, rfl, rfl, rfl⟩
  | dropDead => exact unchanged
  | claim => exact unchanged
  | start => exact unchanged
  | drain call succeeds drain found =>
      obtain ⟨version, later, same⟩ :=
        drainStep_writes engine before.clock succeeds before.database
          drain
      exact ⟨version, [], later, by simp, by simpa using same⟩
  | crash => exact unchanged
  | clock => exact unchanged

/-- A write row stays, in a later version. -/
theorem change_keeps_write
    {engine : Engine} {before after : ServiceState} {event : Event}
    (change : Change engine before event after)
    {write : MessageWrite}
    (member : write ∈ before.database.messageWrites) :
    ∃ later ∈ after.database.messageWrites, LaterVersion write later := by
  rcases change_writes change with ⟨version, added, later, _, writes⟩
  refine ⟨version write, ?_, later write⟩
  rw [writes]
  exact List.mem_append_left _ (List.mem_map_of_mem member)

/-- Write rows only go forward in their life cycle. -/
def FollowsLifecycle (before after : Database) : Prop :=
  ∀ write ∈ before.messageWrites,
    (∃ later ∈ after.messageWrites, later.id = write.id) ∧
      ∀ later ∈ after.messageWrites, later.id = write.id →
        StatusStep write.status later.status

theorem change_followsLifecycle
    {engine : Engine} {before after : ServiceState} {event : Event}
    (change : Change engine before event after)
    (sound : Sound after.database) :
    FollowsLifecycle before.database after.database := by
  intro write member
  rcases change_keeps_write change member with
    ⟨later, laterMember, version⟩
  refine ⟨⟨later, laterMember, version.id⟩, ?_⟩
  intro other otherMember sameId
  have same : other = later :=
    eq_of_unique_key sound.valid.writeIds otherMember laterMember
      (sameId.trans version.id.symm)
  rw [same]
  exact version.status

/-! ## Ids that are functions of keys -/

section StableIds

variable (messageIdOf : WriteKey → MessageId)

/--
Queued commands take their id from their key, and a message of the chat
service takes none of these ids.
-/
def StableIds (event : Event) : Prop :=
  match event with
  | .writerBatch commands _ =>
      ∀ command ∈ commands, command.messageId = messageIdOf command.key
  | .createMessageRow uuid input =>
      input.messageId uuid ∉ Set.range messageIdOf
  | .findDeadLetter command _ =>
      command.messageId = messageIdOf command.key
  | _ => True

/-- A message which the chat service stores takes no reserved id. -/
def TakesFreshId (reserved : Set MessageId) (event : Event) : Prop :=
  match event with
  | .createMessageRow uuid input => input.messageId uuid ∉ reserved
  | _ => True

variable {messageIdOf} in
theorem StableIds.takesFreshId
    {event : Event} (stable : StableIds messageIdOf event) :
    TakesFreshId (Set.range messageIdOf) event := by
  cases event with
  | createMessageRow uuid input => exact stable
  | _ => trivial

/-- The write row which stands beside a message with a stable id. -/
def HasPersistedWrite (db : Database) (message : Message) : Prop :=
  ∃ write ∈ db.messageWrites,
    write.id = message.id ∧ message.key? = some write.key ∧
      IsPersisted write.status

/-- The joint invariant of write rows and messages. -/
structure Accounted (state : ServiceState) : Prop where
  writeIds :
    ∀ write ∈ state.database.messageWrites,
      write.id = messageIdOf write.key
  deadLetters :
    ∀ call ∈ state.deadLetters,
      call.command.messageId = messageIdOf call.command.key
  messages :
    ∀ message ∈ state.database.messages,
      message.id ∈ Set.range messageIdOf →
        HasPersistedWrite state.database message

variable {messageIdOf}

/-- A message with the key settles a row that is not DEAD. -/
theorem settle_isPersisted
    {messages : List Message} {write : MessageWrite}
    (alive : write.status ≠ .dead)
    {message : Message} (member : message ∈ messages)
    (sameKey : message.key? = some write.key) :
    IsPersisted (settle messages write).status := by
  unfold settle settledWrite
  split
  · cases found :
        messages.find? fun other => other.key? == some write.key with
    | none =>
        rw [List.find?_eq_none] at found
        exact absurd sameKey (by simpa using found message member)
    | some other => exact Or.inl rfl
  · rename_i closed
    cases status : write.status with
    | pending => simp [MessageWriteStatus.isOpen, status] at closed
    | persisted => simp [MessageWriteStatus.isOpen, status] at closed
    | fanouted => exact Or.inr status
    | dead => exact absurd status alive

section Batch

variable {engine : Engine} {now : Timestamp} {db : Database}
  {deduped : List MessageWriteCommand} {input : List InputRow}

/-- A new message stands beside its write row, which is now settled. -/
theorem newMessages_hasPersistedWrite
    {message : Message} (member : message ∈ newMessages engine db input) :
    HasPersistedWrite (batchResult engine now db input) message := by
  rcases mem_newMessages.mp member with ⟨candidate, candidateMember, rfl⟩
  rcases mem_candidates candidateMember with ⟨inRows, isNew⟩
  have inTable := (mem_writeRows.mp inRows).1
  refine
    ⟨_, List.mem_map_of_mem inTable, by simp [candidateMessage],
      by simp [candidateMessage, Message.key?, MessageWrite.key], ?_⟩
  exact
    settle_isPersisted (isCandidate_iff.mp isNew).1
      (List.mem_append_left _ member) rfl

/-- A write row of the batch is settled when its message is its own. -/
theorem batch_settles
    (engine : Engine)
    (ownMessages :
      ∀ write ∈ (staged db input).messageWrites,
        ∀ message ∈ db.messages, message.id = write.id →
          message.key? = some write.key)
    {write : MessageWrite}
    (member : write ∈ (staged db input).messageWrites)
    (named : ∃ row ∈ input, row.key = write.key)
    (alive : write.status ≠ .dead) :
    IsPersisted
      (settle (settlingMessages engine db input) write).status := by
  rcases named with ⟨row, rowMember, rowKey⟩
  have inRows :
      ({ write := write
         originConnectionId := row.originConnectionId } : WriteRow) ∈
        writeRows (staged db input) input :=
    mem_writeRows.mpr ⟨member, row, rowMember, rowKey, rfl⟩
  by_cases isNew :
      isCandidate (staged db input)
          { write := write
            originConnectionId := row.originConnectionId } = true
  · rcases exists_candidate engine inRows isNew with ⟨number, numbered⟩
    exact
      settle_isPersisted alive
        (List.mem_append_left _
          (mem_newMessages.mpr ⟨_, numbered, rfl⟩))
        rfl
  · have hasMessage :
        ∃ message ∈ db.messages, message.key? = some write.key := by
      by_contra noMessage
      apply isNew
      rw [isCandidate_iff]
      refine ⟨alive, fun message messageMember => ⟨?_, ?_⟩⟩
      · intro sameId
        exact
          noMessage
            ⟨message, messageMember,
              ownMessages write member message messageMember sameId⟩
      · intro sameKey
        exact noMessage ⟨message, messageMember, sameKey⟩
    rcases hasMessage with ⟨message, messageMember, sameKey⟩
    refine settle_isPersisted alive (?_ : message ∈ _) sameKey
    refine List.mem_append_right _ (List.mem_filter.mpr ?_)
    refine ⟨messageMember, ?_⟩
    rw [Bool.and_eq_true, List.any_eq_true]
    refine ⟨⟨_, inRows, by simp [sameKey]⟩, ?_⟩
    rw [Bool.not_eq_true', List.any_eq_false]
    intro other otherMember
    rcases mem_newMessages.mp otherMember with
      ⟨candidate, candidateMember, rfl⟩
    have separate :=
      (isCandidate_iff.mp (mem_candidates candidateMember).2).2 message
        messageMember
    simpa [candidateMessage] using separate.1.symm

end Batch

/-- A message keeps the write row beside it. -/
theorem HasPersistedWrite.step
    {engine : Engine} {before after : ServiceState} {event : Event}
    (change : Change engine before event after) {message : Message}
    (beside : HasPersistedWrite before.database message) :
    HasPersistedWrite after.database message := by
  rcases beside with ⟨write, member, sameId, sameKey, persisted⟩
  rcases change_keeps_write change member with
    ⟨later, laterMember, version⟩
  refine ⟨later, laterMember, ?_, ?_, ?_⟩
  · rw [version.id, sameId]
  · rw [version.key, sameKey]
  · exact version.status.isPersisted persisted

/-- The messages after an event: old ones, and those it inserts. -/
theorem change_messages
    {reserved : Set MessageId} {engine : Engine}
    {before after : ServiceState} {event : Event}
    (change : Change engine before event after)
    (fresh : TakesFreshId reserved event) :
    ∀ message ∈ after.database.messages, message.id ∈ reserved →
      message ∈ before.database.messages ∨
        HasPersistedWrite after.database message := by
  cases change with
  | batch =>
      intro message member _
      rcases List.mem_append.mp member with old | new
      · exact Or.inl old
      · exact Or.inr (newMessages_hasPersistedWrite new)
  | messageRow uuid input =>
      intro message member isReserved
      rcases List.mem_append.mp member with old | new
      · exact Or.inl old
      · rw [List.mem_singleton] at new
        rw [new] at isReserved
        exact absurd isReserved fresh
  | createDead call pending created found succeeded =>
      rcases createDeadLetter_ok succeeded with ⟨_, _, _, rfl⟩
      exact fun _ member _ => Or.inl member
  | drain call succeeds drain found =>
      intro message member _
      rw [drainStep_messages] at member
      exact Or.inl member
  | _ => exact fun _ member _ => Or.inl member

/-- The calls after their first statement keep stable ids. -/
theorem change_deadLetters
    {engine : Engine} {before after : ServiceState} {event : Event}
    (change : Change engine before event after)
    (stable : StableIds messageIdOf event)
    (kept :
      ∀ call ∈ before.deadLetters,
        call.command.messageId = messageIdOf call.command.key) :
    ∀ call ∈ after.deadLetters,
      call.command.messageId = messageIdOf call.command.key := by
  cases change with
  | findDeadLetter command err =>
      intro call member
      rcases List.mem_append.mp member with old | new
      · exact kept call old
      · rw [List.mem_singleton] at new
        rw [new]
        exact stable
  | markDead =>
      exact fun call member => kept call (List.mem_of_mem_eraseIdx member)
  | createDead =>
      exact fun call member => kept call (List.mem_of_mem_eraseIdx member)
  | dropDead =>
      exact fun call member => kept call (List.mem_of_mem_eraseIdx member)
  | _ => exact kept

theorem change_accounted
    {engine : Engine} {before after : ServiceState} {event : Event}
    (change : Change engine before event after)
    (stable : StableIds messageIdOf event)
    (kept : Accounted messageIdOf before) :
    Accounted messageIdOf after where
  writeIds := by
    rcases change_writes change with ⟨version, added, later, made, writes⟩
    rw [writes]
    intro write member
    rcases List.mem_append.mp member with old | new
    · rcases List.mem_map.mp old with ⟨first, firstMember, rfl⟩
      rw [(later first).id, (later first).key]
      exact kept.writeIds first firstMember
    · rcases made write new with ⟨command, named, madeFor⟩
      rw [madeFor.id, madeFor.key]
      cases event with
      | writerBatch commands origin => exact stable command named
      | writeDeadLetter call =>
          rcases named with ⟨pending, found, rfl⟩
          exact
            kept.deadLetters pending (List.mem_of_getElem? found)
      | _ => exact named.elim
  deadLetters := change_deadLetters change stable kept.deadLetters
  messages := by
    intro message member inRange
    rcases change_messages change stable.takesFreshId message member
        inRange with
      old | new
    · exact (kept.messages message old inRange).step change
    · exact new

/-- No DEAD write row has a message. -/
theorem Accounted.dead_excludes
    {state : ServiceState} (kept : Accounted messageIdOf state)
    (sound : Sound state.database) :
    ∀ write ∈ state.database.messageWrites, write.status = .dead →
      ∀ message ∈ state.database.messages, message.id ≠ write.id := by
  intro write member dead message messageMember same
  have inRange : message.id ∈ Set.range messageIdOf :=
    ⟨write.key, by rw [same, kept.writeIds write member]⟩
  rcases kept.messages message messageMember inRange with
    ⟨other, otherMember, otherId, _, persisted⟩
  have sameWrite : other = write :=
    eq_of_unique_key sound.valid.writeIds otherMember member
      (otherId.trans same)
  rw [sameWrite, dead] at persisted
  simp [IsPersisted] at persisted

/-- A committed batch leaves none of the rows it names PENDING. -/
def LeavesNonePending
    (engine : Engine) (before : ServiceState) (event : Event) : Prop :=
  ∀ commands origin committed returned,
    event = .writerBatch commands origin →
      processMessageWriteCommands engine before.clock before.database
          commands origin =
        .ok (committed, returned) →
      ∀ command ∈ commands,
        (∃ write ∈ committed.messageWrites, write.key = command.key) ∧
          ∀ write ∈ committed.messageWrites,
            write.key = command.key → write.status ≠ .pending

theorem Accounted.leavesNonePending
    {engine : Engine} {before : ServiceState} {event : Event}
    (injective : Function.Injective messageIdOf)
    (sound : Sound before.database)
    (kept : Accounted messageIdOf before)
    (stable : StableIds messageIdOf event) :
    LeavesNonePending engine before event := by
  rintro commands origin committed returned rfl succeeded command member
  rcases batch_result sound (List.ne_nil_of_mem member) succeeded with
    ⟨deduped, noConflict, unique, accepted, rfl, _⟩
  rcases dedupe_represents noConflict command member with
    ⟨first, firstMember, _, agreed⟩
  have firstCommand := (dedupe_sublist noConflict).mem firstMember
  have sameId :=
    ((MessageWriteCommand.agrees_iff first command).mp agreed).1
  have sameKey : first.key = command.key := by
    apply injective
    rw [← stable first firstCommand, ← stable command member, sameId]
  have inputMember :
      ∃ row ∈ messageWriteInput deduped origin,
        row.key = command.key :=
    ⟨_, mem_messageWriteInput.mpr ⟨first, firstMember, rfl⟩, sameKey⟩
  have ownMessages :
      ∀ write ∈
        (staged before.database
          (messageWriteInput deduped origin)).messageWrites,
        ∀ message ∈ before.database.messages,
          message.id = write.id → message.key? = some write.key := by
    intro write writeMember message messageMember same
    have stableId : write.id = messageIdOf write.key := by
      rcases List.mem_append.mp writeMember with old | new
      · exact kept.writeIds write old
      · rcases mem_newWrites.mp new with ⟨⟨row, rowMember, rfl⟩, _⟩
        rcases mem_messageWriteInput.mp rowMember with
          ⟨source, sourceMember, rfl⟩
        exact
          stable source ((dedupe_sublist noConflict).mem sourceMember)
    obtain ⟨other, otherMember, otherId, otherKey, _⟩ :=
      kept.messages message messageMember
        ⟨write.key, by rw [same, stableId]⟩
    have keys : other.key = write.key := by
      apply injective
      rw [← kept.writeIds other otherMember, ← stableId, otherId, same]
    rw [otherKey, keys]
  constructor
  · rcases accepted.matched first firstMember with
      ⟨write, writeMember, matched⟩
    refine ⟨_, List.mem_map_of_mem writeMember, ?_⟩
    rw [settle_key, matched.1, sameKey]
  · intro write writeMember writeKey
    rcases List.mem_map.mp writeMember with ⟨old, oldMember, rfl⟩
    rw [settle_key] at writeKey
    rcases inputMember with ⟨row, rowMember, rowKey⟩
    by_cases dead : old.status = .dead
    · have unchanged :
          settle
              (settlingMessages engine before.database
                (messageWriteInput deduped origin)) old =
            old := by
        simp [settle, settledWrite, MessageWriteStatus.isOpen, dead]
      rw [unchanged, dead]
      decide
    · intro pending
      have settled :=
        batch_settles engine ownMessages oldMember
          ⟨row, rowMember, rowKey.trans writeKey.symm⟩ dead
      rw [pending] at settled
      simp [IsPersisted] at settled

end StableIds

/-! ## Whole runs -/

/-- The tables before the migration account for their stable ids. -/
structure LegacyAccounted
    (messageIdOf : WriteKey → MessageId) (legacy : LegacyTables) :
    Prop where
  writeIds :
    ∀ write ∈ legacy.messageWrites, write.id = messageIdOf write.key
  messages :
    ∀ message ∈ legacy.messages,
      message.id ∈ Set.range messageIdOf →
        ∃ write ∈ legacy.messageWrites,
          write.id = message.id ∧ message.key? = some write.key ∧
            IsPersisted write.status

theorem initial_accounted
    {messageIdOf : WriteKey → MessageId}
    (engine : Engine) {legacy : LegacyTables}
    (accounted : LegacyAccounted messageIdOf legacy)
    (clock : Timestamp) :
    Accounted messageIdOf (initial engine legacy clock) where
  writeIds := accounted.writeIds
  deadLetters := by simp [initial]
  messages := by
    intro message member inRange
    rcases List.mem_map.mp member with ⟨old, oldMember, rfl⟩
    exact accounted.messages old oldMember inRange

/-- The invariant of runs with stable ids. -/
def SoundlyAccounted
    (messageIdOf : WriteKey → MessageId) (state : ServiceState) : Prop :=
  Sound state.database ∧ Accounted messageIdOf state

theorem step_soundlyAccounted
    {messageIdOf : WriteKey → MessageId} (engine : Engine)
    (state : ServiceState) (event : Event)
    (both : SoundlyAccounted messageIdOf state)
    (stable : StableIds messageIdOf event) :
    SoundlyAccounted messageIdOf (step engine state event) :=
  ⟨step_sound engine state event both.1,
    change_accounted (step_change engine state event both.1) stable
      both.2⟩

theorem initial_soundlyAccounted
    {messageIdOf : WriteKey → MessageId}
    (engine : Engine) {legacy : LegacyTables}
    (accounted : LegacyAccounted messageIdOf legacy)
    (clock : Timestamp) :
    SoundlyAccounted messageIdOf (initial engine legacy clock) :=
  ⟨migrate_sound engine legacy,
    initial_accounted engine accounted clock⟩

/--
Write rows follow their life cycle in every run, a DEAD row never has a
message, and a committed batch leaves none of the rows it names PENDING.
-/
theorem writes_follow_lifecycle
    (messageIdOf : WriteKey → MessageId)
    (injective : Function.Injective messageIdOf)
    (engine : Engine) (legacy : LegacyTables)
    (accounted : LegacyAccounted messageIdOf legacy)
    (clock : Timestamp) (events : List Event)
    (stable : ∀ event ∈ events, StableIds messageIdOf event) :
    EveryStep (step engine)
        (fun before event =>
          FollowsLifecycle before.database
              (step engine before event).database ∧
            LeavesNonePending engine before event)
        (initial engine legacy clock) events ∧
      ∀ write ∈
          (reached engine legacy clock events).database.messageWrites,
        write.status = .dead →
          ∀ message ∈
              (reached engine legacy clock events).database.messages,
            message.id ≠ write.id := by
  have guarded :
      EveryStep (step engine)
        (fun _ event => StableIds messageIdOf event)
        (initial engine legacy clock) events :=
    everyStep_of_forall (fun _ event member => stable event member) _
  have start := initial_soundlyAccounted engine accounted clock
  constructor
  · refine
      everyStep_of_guarded (step_soundlyAccounted engine) ?_ start
        guarded
    intro state event both admitted
    have change := step_change engine state event both.1
    exact
      ⟨change_followsLifecycle change
          (step_sound engine state event both.1),
        both.2.leavesNonePending injective both.1 admitted⟩
  · have kept :=
      run_guarded (step_soundlyAccounted engine) start guarded
    exact kept.2.dead_excludes kept.1

/-- A text as characters that another text can follow. -/
def selfDelimiting : List Char → List Char
  | [] => ['.']
  | character :: rest => '+' :: character :: selfDelimiting rest

theorem selfDelimiting_injective
    {left right leftRest rightRest : List Char}
    (same :
      selfDelimiting left ++ leftRest =
        selfDelimiting right ++ rightRest) :
    left = right ∧ leftRest = rightRest := by
  induction left generalizing right with
  | nil =>
      cases right with
      | nil => simpa [selfDelimiting] using same
      | cons head tail => simp [selfDelimiting] at same
  | cons head tail induction =>
      cases right with
      | nil => simp [selfDelimiting] at same
      | cons rightHead rightTail =>
          simp only [selfDelimiting, List.cons_append,
            List.cons.injEq, true_and] at same
          rcases same with ⟨rfl, tails⟩
          rcases induction tails with ⟨rfl, rests⟩
          exact ⟨rfl, rests⟩

/-- The stable id of the example, and other ids for other keys. -/
def exampleMessageId (key : WriteKey) : MessageId :=
  if key = exampleCommand.key then exampleCommand.messageId
  else
    String.ofList
      (selfDelimiting key.1.toList ++ key.2.toList)

theorem exampleMessageId_injective :
    Function.Injective exampleMessageId := by
  have special :
      ∀ key : WriteKey,
        exampleCommand.messageId ≠
          String.ofList
            (selfDelimiting key.1.toList ++ key.2.toList) := by
    rintro ⟨sender, request⟩ same
    have characters := congrArg String.toList same
    cases list : sender.toList with
    | nil =>
        simp [selfDelimiting, exampleCommand, list] at characters
    | cons head tail =>
        simp [selfDelimiting, exampleCommand, list] at characters
  intro left right same
  unfold exampleMessageId at same
  split at same <;> split at same
  · rename_i leftKey rightKey
    rw [leftKey, rightKey]
  · exact absurd same (special right)
  · exact absurd same.symm (special left)
  · have characters := congrArg String.toList same
    rw [String.toList_ofList, String.toList_ofList] at characters
    rcases selfDelimiting_injective characters with ⟨senders, requests⟩
    exact
      Prod.ext (String.toList_injective senders)
        (String.toList_injective requests)

theorem exampleCommand_stable :
    exampleCommand.messageId = exampleMessageId exampleCommand.key :=
  (if_pos rfl).symm

/-- A UUID is not one of the stable ids. -/
def exampleUuid : MessageId :=
  "00000000-0000-4000-8000-000000000000"

theorem exampleUuid_fresh : exampleUuid ∉ Set.range exampleMessageId := by
  rintro ⟨⟨sender, request⟩, same⟩
  unfold exampleMessageId at same
  split at same
  · exact absurd same (by decide)
  · have characters := congrArg String.toList same
    cases list : sender.toList with
    | nil => simp [selfDelimiting, exampleUuid, list] at characters
    | cons head tail =>
        simp [selfDelimiting, exampleUuid, list] at characters

/-- A run with a queued command, a REST message and a redelivery. -/
def exampleLifecycle : List Event :=
  [.findDeadLetter exampleCommand .unavailable,
    .writerBatch [exampleCommand] none,
    .createMessageRow exampleUuid
      { senderId := "ben", roomId := "room", content := "hi" },
    .writeDeadLetter 0,
    .writerBatch [exampleCommand, exampleCommand] none]

theorem writes_follow_lifecycle_example :
    EveryStep (step exampleEngine)
        (fun before event =>
          FollowsLifecycle before.database
              (step exampleEngine before event).database ∧
            LeavesNonePending exampleEngine before event)
        (initial exampleEngine exampleTables 0) exampleLifecycle ∧
      ∀ write ∈
          (reached exampleEngine exampleTables 0
            exampleLifecycle).database.messageWrites,
        write.status = .dead →
          ∀ message ∈
              (reached exampleEngine exampleTables 0
                exampleLifecycle).database.messages,
            message.id ≠ write.id := by
  have accounted : LegacyAccounted exampleMessageId exampleTables :=
    { writeIds := by simp [exampleTables]
      messages := by simp [exampleTables] }
  refine
    writes_follow_lifecycle exampleMessageId exampleMessageId_injective
      exampleEngine exampleTables accounted 0 exampleLifecycle ?_
  simp only [exampleLifecycle, List.forall_mem_cons, StableIds]
  exact
    ⟨exampleCommand_stable, by simp [exampleCommand_stable],
      exampleUuid_fresh, trivial, by simp [exampleCommand_stable],
      by simp⟩

end ChatBackend.Services.WriteLifecycle
