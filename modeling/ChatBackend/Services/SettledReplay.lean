import ChatBackend.Services.PersistedWrites

/-!
# Replaying settled commands

The queue delivers a command again when its acknowledgement is lost.  By then
the write row of the command is usually settled: PERSISTED, FANOUTED or DEAD.
The batch transaction runs all its statements on such a command as on a new
one, and it even rewrites the PERSISTED rows.

Two invariants of the services make the replay a no-op.  A settled row has a
message with its key, whose time a PERSISTED row records, so that no row is a
candidate and every rewritten row gets the values it has.  And a message with
the id of a write row is the message of that row, so that no other row is
settled in passing.
-/

namespace ChatBackend.Services.SettledReplay

open ChatBackend.Foundation.EventRuns
open ChatBackend.Foundation.TableRows
open ChatBackend.Storage.Schema
open ChatBackend.Storage.SequenceMigration
open ChatBackend.Storage.TableInvariants
open ChatBackend.Chats.MessageRows
open ChatBackend.Writer.WriteCommands
open ChatBackend.Writer.BatchTransaction
open ChatBackend.Writer.BatchSpecification
open ChatBackend.Writer.BatchInvariants
open ChatBackend.Writer.DeadLetters
open ChatBackend.Writer.OutboxDrain
open ChatBackend.Services.Transitions
open ChatBackend.Services.WriteLifecycle
open ChatBackend.Services.PersistedWrites

/-! ## A replay of one batch -/

/-- The columns which settling sets are those that the message gives. -/
structure RecordedAs (write : MessageWrite) (message : Message) : Prop where
  persistedAt : write.persistedAt = some message.createdAt
  failedAt : write.failedAt = none
  failureReason : write.failureReason = none

/-- The message on whose strength a write row is settled. -/
def SettledBy (write : MessageWrite) (message : Message) : Prop :=
  message.key? = some write.key ∧
    (write.status = .persisted → RecordedAs write message)

/-- Every PERSISTED or FANOUTED row is settled by a stored message. -/
def Settled (db : Database) : Prop :=
  ∀ write ∈ db.messageWrites, IsPersisted write.status →
    ∃ message ∈ db.messages, SettledBy write message

/-- A message with the id of a write row is the message of that row. -/
def OwnIds (db : Database) : Prop :=
  ∀ message ∈ db.messages, ∀ write ∈ db.messageWrites,
    write.id = message.id → message.key? = some write.key

/-- Every command agrees with a write row of its key that is not PENDING. -/
def Replays
    (db : Database) (commands : List MessageWriteCommand) : Prop :=
  ∀ command ∈ commands, ∃ write ∈ db.messageWrites,
    MatchesWrite write command ∧ write.status ≠ .pending

instance (db : Database) (commands : List MessageWriteCommand) :
    Decidable (Replays db commands) :=
  inferInstanceAs
    (Decidable
      (∀ command ∈ commands, ∃ write ∈ db.messageWrites,
        MatchesWrite write command ∧ write.status ≠ .pending))

theorem Replays.of_sublist
    {db : Database} {fewer commands : List MessageWriteCommand}
    (replays : Replays db commands) (sublist : fewer.Sublist commands) :
    Replays db fewer :=
  fun command member => replays command (sublist.mem member)

/-- With faithful map keys, replayed commands have no conflict. -/
theorem Replays.dedupe
    {db : Database} {commands : List MessageWriteCommand}
    (replays : Replays db commands) (valid : db.Valid)
    (faithful : MapKeysFaithful commands) :
    ∃ deduped, dedupeMessageWriteCommands commands = .ok deduped := by
  apply dedupe_of_agreeing
  intro left leftMember right rightMember sameMapKey
  rcases replays left leftMember with
    ⟨write, member, ⟨key, id, room, body⟩, _⟩
  rcases replays right rightMember with
    ⟨other, otherMember, ⟨otherKey, otherId, otherRoom, otherBody⟩, _⟩
  have sameKey : left.key = right.key :=
    faithful left leftMember right rightMember sameMapKey
  have sameWrite : write = other :=
    eq_of_unique_key valid.writeKeys member otherMember
      ((key.trans sameKey).trans otherKey.symm)
  subst sameWrite
  rw [MessageWriteCommand.agrees_iff]
  exact
    ⟨id.symm.trans otherId, room.symm.trans otherRoom,
      body.symm.trans otherBody⟩

section Replay

variable {engine : Engine} {now : Timestamp} {db : Database}
  {commands : List MessageWriteCommand} {origin : Option ConnectionId}

/-- A write row joined with a replayed command is not PENDING. -/
theorem Replays.joined
    (replays : Replays db commands) (valid : db.Valid) {row : WriteRow}
    (joined : row ∈ writeRows db (messageWriteInput commands origin)) :
    row.write ∈ db.messageWrites ∧ row.write.status ≠ .pending := by
  rcases mem_writeRows.mp joined with
    ⟨inTable, source, sourceMember, sameKey, _⟩
  rcases mem_messageWriteInput.mp sourceMember with ⟨command, member, rfl⟩
  rcases replays command member with
    ⟨write, writeMember, ⟨key, _⟩, notPending⟩
  have sameWrite : write = row.write :=
    eq_of_unique_key valid.writeKeys writeMember inTable
      (key.trans sameKey)
  exact ⟨inTable, sameWrite ▸ notPending⟩

/-- A replay inserts no write row. -/
theorem Replays.staged
    (replays : Replays db commands) :
    newWrites db (messageWriteInput commands origin) = [] := by
  rw [List.eq_nil_iff_forall_not_mem]
  intro new newMember
  rcases mem_newWrites.mp newMember with ⟨⟨row, rowMember, rfl⟩, fresh⟩
  rcases mem_messageWriteInput.mp rowMember with ⟨command, member, rfl⟩
  rcases replays command member with ⟨write, writeMember, ⟨key, _⟩, _⟩
  exact fresh write writeMember key

theorem staged_of_no_newWrites {input : List InputRow}
    (nothing : newWrites db input = []) : staged db input = db := by
  rw [staged, nothing, List.append_nil]

/-- A replayed row is DEAD, or its message is stored. -/
theorem Replays.no_candidates
    (replays : Replays db commands) (valid : db.Valid)
    (settled : Settled db) :
    candidates engine db (messageWriteInput commands origin) = [] := by
  rw [List.eq_nil_iff_forall_not_mem]
  intro candidate member
  rcases mem_candidates member with ⟨joined, isCandidate⟩
  rcases replays.joined valid joined with ⟨inTable, notPending⟩
  rcases isCandidate_iff.mp isCandidate with ⟨notDead, apart⟩
  have isPersisted : IsPersisted candidate.1.write.status := by
    cases status : candidate.1.write.status with
    | pending => exact absurd status notPending
    | persisted => exact Or.inl rfl
    | fanouted => exact Or.inr rfl
    | dead => exact absurd status notDead
  rcases settled candidate.1.write inTable isPersisted with
    ⟨message, messageMember, sameKey, _⟩
  exact (apart message messageMember).2 sameKey

/-- A settling message of a replay is the message of a row it names. -/
theorem Replays.settlingMessage
    (replays : Replays db commands) (valid : db.Valid)
    (ownIds : OwnIds db)
    {message : Message}
    (member :
      message ∈
        allMessages db
          (writeRows db (messageWriteInput commands origin)) []) :
    message ∈ db.messages ∧
      ∃ write ∈ db.messageWrites,
        write.status ≠ .pending ∧ message.key? = some write.key := by
  simp only [allMessages, List.nil_append, List.any_nil, Bool.not_false,
    Bool.and_true, List.mem_filter, List.any_eq_true, Bool.or_eq_true,
    beq_iff_eq] at member
  rcases member with ⟨stored, row, joined, same⟩
  rcases replays.joined valid joined with ⟨inTable, notPending⟩
  refine ⟨stored, row.write, inTable, notPending, ?_⟩
  rcases same with sameId | sameKey
  · exact ownIds message stored row.write inTable sameId.symm
  · exact sameKey

/-- Settling a PERSISTED row again writes the values it has. -/
theorem Settled.settle_eq
    (settled : Settled db) (valid : db.Valid)
    {messages : List Message} {write : MessageWrite}
    (member : write ∈ db.messageWrites)
    (named :
      ∀ message ∈ messages, message ∈ db.messages ∧
        ∃ other ∈ db.messageWrites,
          other.status ≠ .pending ∧ message.key? = some other.key) :
    settle messages write = write := by
  rcases settle_cases messages write with
    same | ⟨isOpen, message, messageMember, sameKey, settledAgain⟩
  · exact same
  · rcases named message messageMember with
      ⟨stored, other, otherMember, notPending, otherKey⟩
    have sameWrite : other = write :=
      eq_of_unique_key valid.writeKeys otherMember member
        (Option.some.inj (otherKey.symm.trans sameKey))
    have persisted : write.status = .persisted := by
      cases status : write.status with
      | pending => exact absurd status (sameWrite ▸ notPending)
      | persisted => rfl
      | fanouted => simp [MessageWriteStatus.isOpen, status] at isOpen
      | dead => simp [MessageWriteStatus.isOpen, status] at isOpen
    rcases settled write member (Or.inl persisted) with
      ⟨own, ownMember, ownKey, recorded⟩
    have sameMessage : own = message :=
      message_separate valid ownMember stored
        (Or.inr ⟨write.key, ownKey, sameKey⟩)
    rcases recorded persisted with ⟨persistedAt, failedAt, failureReason⟩
    rw [settledAgain, ← sameMessage, ← persisted, ← persistedAt,
      ← failedAt, ← failureReason]

/-- Without candidates a batch whose rows are all stored does nothing. -/
theorem batchResult_eq
    {input : List InputRow}
    (noWrites : newWrites db input = [])
    (noCandidates : candidates engine db input = [])
    (kept :
      ∀ write ∈ db.messageWrites,
        settle (allMessages db (writeRows db input) []) write = write) :
    batchResult engine now db input = db := by
  have sameView : staged db input = db :=
    staged_of_no_newWrites noWrites
  have noMessages : newMessages engine db input = [] := by
    rw [newMessages, sameView, noCandidates, List.map_nil]
  have noRows : newRows engine db input = [] := by
    rw [newRows, sameView, noCandidates, List.map_nil]
  have rooms : db.rooms.map (advanceRoom engine db input) = db.rooms := by
    have still : advanceRoom engine db input = id := by
      funext room
      simp [advanceRoom, messageCount, sameView, noCandidates, noRows,
        maxByRoom]
    rw [still, List.map_id]
  have writes :
      (staged db input).messageWrites.map
          (settle (settlingMessages engine db input)) =
        db.messageWrites := by
    rw [settlingMessages, sameView, noMessages]
    exact (List.map_congr_left kept).trans (List.map_id' _)
  have outbox : newOutbox engine now db input = [] := by
    rw [newOutbox, noRows, List.map_nil]
  rw [batchResult, rooms, writes, noMessages, outbox, List.append_nil,
    List.append_nil]

/-- The condition of a batch holds of every replay. -/
theorem Replays.accepted
    (replays : Replays db commands) (valid : db.Valid)
    (settled : Settled db) :
    BatchAccepted engine now db commands
      (messageWriteInput commands origin) := by
  have noWrites :
      newWrites db (messageWriteInput commands origin) = [] :=
    replays.staged
  have noOutbox :
      newOutbox engine now db (messageWriteInput commands origin) =
        [] := by
    rw [newOutbox, newRows, staged_of_no_newWrites noWrites,
      replays.no_candidates valid settled, List.map_nil, List.map_nil]
  constructor
  · constructor <;> simp [noWrites]
  · intro command member
    rcases replays command member with ⟨write, writeMember, matched, _⟩
    rw [staged_of_no_newWrites noWrites]
    exact ⟨write, writeMember, matched⟩
  · simp [noOutbox]
  · simp [noOutbox]

/-- Replaying settled commands returns nothing and changes no row. -/
theorem Replays.unchanged
    (replays : Replays db commands) (sound : Sound db)
    (settled : Settled db) (ownIds : OwnIds db)
    (faithful : MapKeysFaithful commands) (nonempty : commands ≠ []) :
    processMessageWriteCommands engine now db commands origin =
      .ok (db, []) := by
  rcases replays.dedupe sound.valid faithful with ⟨deduped, noConflict⟩
  have kept : Replays db deduped :=
    replays.of_sublist (dedupe_sublist noConflict)
  have noWrites :
      newWrites db (messageWriteInput deduped origin) = [] :=
    kept.staged
  have noCandidates :
      candidates engine db (messageWriteInput deduped origin) = [] :=
    kept.no_candidates sound.valid settled
  have noRows :
      newRows engine db (messageWriteInput deduped origin) = [] := by
    rw [newRows, staged_of_no_newWrites noWrites, noCandidates,
      List.map_nil]
  have same :
      batchResult engine now db (messageWriteInput deduped origin) =
        db := by
    apply batchResult_eq noWrites noCandidates
    intro write member
    exact
      settled.settle_eq sound.valid member fun message found =>
        kept.settlingMessage sound.valid ownIds found
  rw [processMessageWriteCommands_ok_iff sound.valid
    (sequencesBelow_of_sound sound) nonempty]
  refine
    ⟨deduped, noConflict, kept.accepted sound.valid settled, ?_⟩
  rw [same, noRows]
  rfl

end Replay

/-! ## Settled rows in every run -/

theorem Settled.of_versions
    {before after : Database} (settled : Settled before)
    (version : MessageWrite → MessageWrite)
    (writes :
      after.messageWrites = before.messageWrites.map version)
    (messages :
      ∀ message ∈ before.messages, message ∈ after.messages)
    (cases :
      ∀ write, version write = write ∨
        (version write).status = .dead ∨
          (write.status = .persisted ∧
            (version write).key = write.key ∧
              (version write).status = .fanouted)) :
    Settled after := by
  intro write member isPersisted
  rw [writes] at member
  rcases List.mem_map.mp member with ⟨old, oldMember, rfl⟩
  rcases cases old with same | dead | ⟨persisted, sameKey, fanouted⟩
  · rw [same] at isPersisted ⊢
    rcases settled old oldMember isPersisted with
      ⟨message, messageMember, settledBy⟩
    exact ⟨message, messages message messageMember, settledBy⟩
  · rw [dead] at isPersisted
    simp [IsPersisted] at isPersisted
  · rcases settled old oldMember (Or.inl persisted) with
      ⟨message, messageMember, key, _⟩
    refine
      ⟨message, messages message messageMember, key.trans ?_, ?_⟩
    · rw [sameKey]
    · intro stillPersisted
      rw [fanouted] at stillPersisted
      simp at stillPersisted

theorem batch_settled
    {engine : Engine} {now : Timestamp} {db : Database}
    (settled : Settled db) (input : List InputRow) :
    Settled (batchResult engine now db input) := by
  intro write member isPersisted
  rcases List.mem_map.mp member with ⟨old, oldMember, rfl⟩
  rcases settle_cases (settlingMessages engine db input) old with
    same | ⟨_, message, messageMember, sameKey, settledNow⟩
  · rw [same] at isPersisted ⊢
    rcases List.mem_append.mp oldMember with stored | new
    · rcases settled old stored isPersisted with
        ⟨message, messageMember, settledBy⟩
      exact
        ⟨message, List.mem_append_left _ messageMember, settledBy⟩
    · rcases mem_newWrites.mp new with ⟨⟨row, _, rfl⟩, _⟩
      simp [IsPersisted, InputRow.toMessageWrite] at isPersisted
  · refine
      ⟨message, settlingMessages_stored messageMember, ?_, fun _ => ?_⟩
    · rw [settle_key, sameKey]
    · rw [settledNow]
      exact ⟨rfl, rfl, rfl⟩

theorem change_settled
    {engine : Engine} {before after : ServiceState} {event : Event}
    (change : Change engine before event after)
    (settled : Settled before.database) : Settled after.database := by
  have same :
      ∀ message ∈ before.database.messages,
        message ∈ after.database.messages :=
    fun _ member => change_keeps_messages change member
  cases change with
  | batch => exact batch_settled settled _
  | markDead _ messageWriteId err =>
      refine
        settled.of_versions
          (deadWrite engine before.clock messageWriteId err) rfl same ?_
      intro write
      rcases deadWrite_cases engine before.clock messageWriteId err
          write with
        unmarked | ⟨_, dead⟩
      · exact Or.inl unmarked
      · exact Or.inr (Or.inl dead)
  | createDead _ pending _ _ succeeded =>
      rcases createDeadLetter_ok succeeded with ⟨_, _, _, rfl⟩
      intro write member isPersisted
      rcases List.mem_append.mp member with old | new
      · exact settled write old isPersisted
      · rw [List.mem_singleton.mp new] at isPersisted
        simp [IsPersisted, deadLetter] at isPersisted
  | drain _ succeeds drain =>
      rcases drainStep_database engine before.clock before.database
          succeeds drain
        with unchanged | ⟨_, row, _, _, _, completed⟩ |
          ⟨_, _, _, _, _, _, failed⟩
      · rw [unchanged]
        exact settled
      · refine
          settled.of_versions (fanoutedVersion row.messageId)
            (by rw [completed]; rfl) same ?_
        intro write
        rcases fanoutedVersion_cases row.messageId write with
          untouched | ⟨_, persisted, fanouted⟩
        · exact Or.inl untouched
        · exact
            Or.inr
              (Or.inr ⟨persisted, fanoutedVersion_key _ _, fanouted⟩)
      · rw [failed]
        exact settled
  | _ =>
      exact
        settled.of_versions id (List.map_id _).symm same
          fun _ => Or.inl rfl

/-! ## Ids of messages and of write rows -/

/-- A message stands beside the write row of its id and its key. -/
def HasOwnWrite (db : Database) (message : Message) : Prop :=
  ∃ write ∈ db.messageWrites,
    write.id = message.id ∧ message.key? = some write.key

/-- The messages with reserved ids are messages of write rows. -/
def OwnReserved (reserved : Set MessageId) (db : Database) : Prop :=
  ∀ message ∈ db.messages, message.id ∈ reserved →
    HasOwnWrite db message

/-- The ids of the write rows. -/
def writeIds (db : Database) : Set MessageId :=
  { id | ∃ write ∈ db.messageWrites, write.id = id }

theorem HasOwnWrite.step
    {engine : Engine} {before after : ServiceState} {event : Event}
    (change : Change engine before event after) {message : Message}
    (own : HasOwnWrite before.database message) :
    HasOwnWrite after.database message := by
  rcases own with ⟨write, member, sameId, sameKey⟩
  rcases change_keeps_write change member with
    ⟨later, laterMember, version⟩
  exact
    ⟨later, laterMember, version.id.trans sameId,
      by rw [version.key, sameKey]⟩

theorem change_ownReserved
    {reserved : Set MessageId} {engine : Engine}
    {before after : ServiceState} {event : Event}
    (change : Change engine before event after)
    (fresh : TakesFreshId reserved event)
    (own : OwnReserved reserved before.database) :
    OwnReserved reserved after.database := by
  intro message member isReserved
  rcases change_messages change fresh message member isReserved with
    old | ⟨write, writeMember, sameId, sameKey, _⟩
  · exact (own message old isReserved).step change
  · exact ⟨write, writeMember, sameId, sameKey⟩

theorem OwnReserved.ownIds
    {db : Database} (own : OwnReserved (writeIds db) db)
    (valid : db.Valid) : OwnIds db := by
  intro message messageMember write member sameId
  rcases own message messageMember ⟨write, member, sameId⟩ with
    ⟨other, otherMember, otherId, otherKey⟩
  have sameWrite : other = write :=
    eq_of_unique_key valid.writeIds otherMember member
      (otherId.trans sameId.symm)
  exact sameWrite ▸ otherKey

/-! ## Whole runs -/

/-- The tables before the run: UUIDs as user ids, and settled write rows. -/
structure LegacySettled (legacy : LegacyTables) : Prop where
  users : ∀ user ∈ legacy.users, ':' ∉ user.id.toList
  settled :
    ∀ write ∈ legacy.messageWrites, IsPersisted write.status →
      ∃ message ∈ legacy.messages,
        message.key? = some write.key ∧
          (write.status = .persisted →
            write.persistedAt = some message.createdAt ∧
              write.failedAt = none ∧ write.failureReason = none)

/--
The ids of REST messages are UUIDs of their own: no write row, however late,
has such an id.
-/
structure UuidsApart
    (legacy : LegacyTables) (events : List Event) (db : Database) :
    Prop where
  legacy :
    ∀ message ∈ legacy.messages,
      (∀ write ∈ db.messageWrites, write.id ≠ message.id) ∨
        ∃ write ∈ legacy.messageWrites,
          write.id = message.id ∧ message.key? = some write.key
  created :
    ∀ uuid input, .createMessageRow uuid input ∈ events →
      ∀ write ∈ db.messageWrites, write.id ≠ input.messageId uuid

theorem initial_settled
    (engine : Engine) {legacy : LegacyTables}
    (legacySettled : LegacySettled legacy) :
    Settled (migrate engine legacy) := by
  intro write member isPersisted
  rcases legacySettled.settled write member isPersisted with
    ⟨message, messageMember, sameKey, recorded⟩
  refine ⟨_, List.mem_map_of_mem messageMember, sameKey, ?_⟩
  intro persisted
  rcases recorded persisted with ⟨persistedAt, failedAt, failureReason⟩
  exact ⟨persistedAt, failedAt, failureReason⟩

theorem initial_ownReserved
    (engine : Engine) {legacy : LegacyTables} {events : List Event}
    {db : Database} (apart : UuidsApart legacy events db) :
    OwnReserved (writeIds db) (migrate engine legacy) := by
  intro message member reserved
  rcases List.mem_map.mp member with ⟨old, oldMember, rfl⟩
  rcases reserved with ⟨write, writeMember, sameId⟩
  rcases apart.legacy old oldMember with none | own
  · exact absurd sameId (none write writeMember)
  · exact own

/-- What every run keeps: sound tables, settled rows, ids and users. -/
structure Replayable
    (reserved : Set MessageId) (users : List User) (db : Database) :
    Prop where
  sound : Sound db
  settled : Settled db
  own : OwnReserved reserved db
  users : db.users = users

theorem step_replayable
    {reserved : Set MessageId} {users : List User} (engine : Engine)
    (state : ServiceState) (event : Event)
    (kept : Replayable reserved users state.database)
    (fresh : TakesFreshId reserved event) :
    Replayable reserved users (step engine state event).database := by
  have change := step_change engine state event kept.sound
  exact
    { sound := step_sound engine state event kept.sound
      settled := change_settled change kept.settled
      own := change_ownReserved change fresh kept.own
      users := (change_keeps_users change).trans kept.users }

theorem reached_replayable
    (engine : Engine) {legacy : LegacyTables}
    (legacySettled : LegacySettled legacy) (clock : Timestamp)
    {events : List Event}
    (apart :
      UuidsApart legacy events
        (reached engine legacy clock events).database) :
    Replayable
      (writeIds (reached engine legacy clock events).database)
      legacy.users (reached engine legacy clock events).database := by
  have start :
      Replayable
        (writeIds (reached engine legacy clock events).database)
        legacy.users (initial engine legacy clock).database :=
    { sound := migrate_sound engine legacy
      settled := initial_settled engine legacySettled
      own := initial_ownReserved engine apart
      users := rfl }
  refine
    run_guarded (step_replayable engine) start
      (everyStep_of_forall (fun _ event member => ?_) _)
  cases event with
  | createMessageRow uuid input =>
      rintro ⟨write, writeMember, sameId⟩
      exact apart.created uuid input member write writeMember sameId
  | _ => trivial

/-- Replayed commands come from users, whose ids have no colon. -/
theorem Replays.faithful
    {db : Database} {commands : List MessageWriteCommand}
    (replays : Replays db commands) (valid : db.Valid)
    (users : ∀ user ∈ db.users, ':' ∉ user.id.toList) :
    MapKeysFaithful commands := by
  apply mapKeysFaithful_of_senders
  intro command member
  rcases replays command member with ⟨write, writeMember, ⟨sameKey, _⟩, _⟩
  obtain ⟨user, userMember, sameUser⟩ :=
    (Database.hasUser_iff db _).mp (valid.writeSender write writeMember)
  have sameSender : write.senderId = command.senderId :=
    congrArg Prod.fst sameKey
  rw [← sameSender, ← sameUser]
  exact users user userMember

/--
In every reachable state, a batch whose commands all agree with settled write
rows succeeds, returns no message, and changes no row of any table.
-/
theorem settled_replay_is_noop
    (engine : Engine) (legacy : LegacyTables)
    (legacySettled : LegacySettled legacy) (clock : Timestamp)
    (events : List Event)
    (apart :
      UuidsApart legacy events
        (reached engine legacy clock events).database)
    (now : Timestamp) (commands : List MessageWriteCommand)
    (origin : Option ConnectionId)
    (nonempty : commands ≠ [])
    (replays :
      Replays (reached engine legacy clock events).database commands) :
    processMessageWriteCommands engine now
        (reached engine legacy clock events).database commands origin =
      .ok ((reached engine legacy clock events).database, []) := by
  have kept := reached_replayable engine legacySettled clock apart
  have valid := kept.sound.valid
  have ownIds := kept.own.ownIds valid
  have faithful : MapKeysFaithful commands := by
    apply replays.faithful valid
    rw [kept.users]
    exact legacySettled.users
  exact
    replays.unchanged kept.sound kept.settled ownIds faithful nonempty

/-- Three commands, which the run below settles in three ways. -/
def exampleSettled : List MessageWriteCommand :=
  [exampleCommand,
    { exampleCommand with
      messageId := "msg_aa529221bae48427bcb7f5d5d7b25fc3"
      senderId := "ben" },
    { exampleCommand with
      messageId := "msg_71f3edf8d6c8c84c6a2c6e01b30d2266"
      requestId := "r2" }]

/-- The first command is fanned out, the second stored, the third dead. -/
def exampleSettling : List Event :=
  [.writerBatch (exampleSettled.take 1) none,
    .startDrain { publisher := true } true,
    .stepDrain 0 true,
    .stepDrain 0 true,
    .stepDrain 0 true,
    .writerBatch (exampleSettled.take 2) none,
    .createMessageRow exampleUuid
      { senderId := "ben", roomId := "room", content := "hi" }] ++
    (exampleSettled.drop 2).map (.findDeadLetter · .unavailable) ++
    [.writeDeadLetter 0]

example :
    (reached exampleEngine exampleTables 0
        exampleSettling).database.messageWrites.map MessageWrite.status =
      [.fanouted, .persisted, .dead] := by
  decide

/-- All three come again, later and from another connection. -/
theorem settled_replay_is_noop_example :
    processMessageWriteCommands exampleEngine 9000
        (reached exampleEngine exampleTables 0 exampleSettling).database
        (exampleSettled.map fun command =>
          { command with acceptedAt := 8000 })
        (some "connection") =
      .ok
        ((reached exampleEngine exampleTables 0
            exampleSettling).database, []) := by
  have legacySettled : LegacySettled exampleTables :=
    { users := by decide
      settled := by simp [exampleTables] }
  have ids :
      (reached exampleEngine exampleTables 0
          exampleSettling).database.messageWrites.map MessageWrite.id =
        exampleSettled.map MessageWriteCommand.messageId := by
    decide
  have apart :
      UuidsApart exampleTables exampleSettling
        (reached exampleEngine exampleTables 0
          exampleSettling).database :=
    { legacy := by simp [exampleTables]
      created := by
        intro uuid input member write writeMember sameId
        have listed :=
          List.mem_map_of_mem (f := MessageWrite.id) writeMember
        rw [ids, sameId] at listed
        have created :
            uuid = exampleUuid ∧
              input =
                { senderId := "ben", roomId := "room", content := "hi" } :=
          by simpa [exampleSettling, exampleSettled] using member
        rw [created.1, created.2] at listed
        exact absurd listed (by decide) }
  exact
    settled_replay_is_noop exampleEngine exampleTables legacySettled 0
      exampleSettling apart 9000 _ (some "connection") (by decide)
      (by decide)

end ChatBackend.Services.SettledReplay
