import ChatBackend.Writer.InboxTables
import ChatBackend.Writer.OutboxDrain

/-!
# Recorded commands

A command is recorded when its key has a message or a write row.  No
statement of the writer removes a row or changes the columns of a write row
that come from its command, so a recorded command stays recorded.

The dead letter of a command without a row is recorded unless one of its two
calls fails: `deadLetter_recorded_iff`.
-/

namespace ChatBackend.Writer.RecordedCommands

open ChatBackend.Foundation.TableRows
open ChatBackend.Storage.Schema
open ChatBackend.Storage.SequenceMigration
open ChatBackend.Storage.TableInvariants
open ChatBackend.Writer.WriteCommands
open ChatBackend.Writer.BatchTransaction
open ChatBackend.Writer.BatchSpecification
open ChatBackend.Writer.BatchInvariants
open ChatBackend.Writer.DeadLetters
open ChatBackend.Writer.OutboxDrain
open ChatBackend.Writer.MessageInbox
open ChatBackend.Writer.InboxAcceptance
open ChatBackend.Writer.InboxTables

/-- The key of a command has a message or a write row. -/
def Recorded (db : Database) (key : WriteKey) : Prop :=
  (∃ message ∈ db.messages, message.key? = some key) ∨
    ∃ write ∈ db.messageWrites, write.key = key

/-- Rows of one entry agree in the columns of their command. -/
theorem entry_columns
    {left right : MessageWrite} (same : entryOf left = entryOf right) :
    left.key = right.key ∧ left.id = right.id ∧
      left.roomId = right.roomId ∧ left.content = right.content :=
  ⟨by simpa using congrArg MessageWrite.key same,
    by simpa using congrArg MessageWrite.id same,
    by simpa using congrArg MessageWrite.roomId same,
    by simpa using congrArg MessageWrite.content same⟩

/-! ## Growing tables with all their write rows -/

/-- The tables grow, and every write row keeps what its command said. -/
structure Grows (start db : Database) : Prop
    extends Extends start db where
  writes :
    ∀ old ∈ start.messageWrites,
      ∃ write ∈ db.messageWrites, entryOf write = entryOf old

section Growth

variable {start middle db : Database} {key : WriteKey}

theorem Grows.refl (db : Database) : Grows db db :=
  { Extends.refl db with
    writes := fun old member => ⟨old, member, rfl⟩ }

theorem Grows.trans
    (first : Grows start middle) (second : Grows middle db) :
    Grows start db where
  toExtends := first.toExtends.trans second.toExtends
  writes := by
    intro old member
    rcases first.writes old member with ⟨early, earlyMember, earlyEq⟩
    rcases second.writes early earlyMember with ⟨late, lateMember, lateEq⟩
    exact ⟨late, lateMember, lateEq.trans earlyEq⟩

/-- A recorded command stays recorded. -/
theorem Grows.recorded
    (grows : Grows start db) (recorded : Recorded start key) :
    Recorded db key := by
  rcases recorded with ⟨message, member, same⟩ | ⟨write, member, rfl⟩
  · rcases grows.messages with ⟨added, messagesEq⟩
    refine Or.inl ⟨message, ?_, same⟩
    rw [messagesEq]
    exact List.mem_append_left _ member
  · rcases grows.writes write member with ⟨late, lateMember, sameEntry⟩
    exact
      Or.inr
        ⟨late, lateMember, (entry_columns sameEntry).1⟩

end Growth

/-! ## What the statements record -/

section Statements

variable {engine : Engine} {now : Timestamp} {db : Database}
  {input : List InputRow} {key : WriteKey}

theorem batchResult_grows
    (engine : Engine) (now : Timestamp) (db : Database)
    (input : List InputRow) :
    Grows db (batchResult engine now db input) where
  toExtends := batchResult_extends engine now db input
  writes := by
    intro old member
    exact
      ⟨settle (settlingMessages engine db input) old,
        List.mem_map_of_mem (List.mem_append_left _ member),
        entryOf_settle old _⟩

/-- A batch records the keys of its commands and no others. -/
theorem batchResult_recorded :
    Recorded (batchResult engine now db input) key ↔
      Recorded db key ∨ key ∈ input.map InputRow.key := by
  constructor
  · rintro (⟨message, member, same⟩ | ⟨write, member, same⟩)
    · rcases List.mem_append.mp member with old | new
      · exact Or.inl (Or.inl ⟨message, old, same⟩)
      · rcases mem_newMessages.mp new with
          ⟨candidate, candidateMember, rfl⟩
        rcases (mem_writeRows.mp (mem_candidates candidateMember).1).2
          with ⟨source, sourceMember, sourceKey, _⟩
        right
        rw [← Option.some.inj same]
        exact List.mem_map.mpr ⟨source, sourceMember, sourceKey⟩
    · rcases List.mem_map.mp member with ⟨row, rowMember, rfl⟩
      rw [settle_key] at same
      rcases List.mem_append.mp rowMember with old | new
      · exact Or.inl (Or.inr ⟨row, old, same⟩)
      · rcases (mem_newWrites.mp new).1 with ⟨source, sourceMember, rfl⟩
        right
        rw [← same]
        exact List.mem_map_of_mem sourceMember
  · rintro (recorded | fromInput)
    · exact (batchResult_grows engine now db input).recorded recorded
    · by_cases recorded : Recorded db key
      · exact (batchResult_grows engine now db input).recorded recorded
      · rcases List.mem_map.mp fromInput with ⟨source, sourceMember, rfl⟩
        have new : source.toMessageWrite ∈ newWrites db input :=
          mem_newWrites.mpr
            ⟨⟨source, sourceMember, rfl⟩, fun old member same =>
              recorded (Or.inr ⟨old, member, same⟩)⟩
        exact
          Or.inr
            ⟨settle (settlingMessages engine db input)
                source.toMessageWrite,
              List.mem_map_of_mem (List.mem_append_right _ new),
              settle_key _ _⟩

/-- A change of rows that keeps what their commands said. -/
theorem mapWrites_grows
    {change : MessageWrite → MessageWrite}
    (sameEntry : ∀ write, entryOf (change write) = entryOf write)
    (outbox : List MessageOutbox) :
    Grows db
      { db with
        messageWrites := db.messageWrites.map change
        messageOutbox := outbox } where
  users := rfl
  roomMembers := rfl
  rooms := rfl
  messages := ⟨[], (List.append_nil _).symm⟩
  writes := fun old member =>
    ⟨change old, List.mem_map_of_mem member, sameEntry old⟩

theorem mapWrites_recorded
    {change : MessageWrite → MessageWrite}
    (sameEntry : ∀ write, entryOf (change write) = entryOf write)
    (outbox : List MessageOutbox) :
    Recorded
        { db with
          messageWrites := db.messageWrites.map change
          messageOutbox := outbox }
        key ↔
      Recorded db key := by
  constructor
  · rintro (message | ⟨write, member, same⟩)
    · exact Or.inl message
    · rcases List.mem_map.mp member with ⟨old, oldMember, rfl⟩
      have sameKey := (entry_columns (sameEntry old)).1
      exact Or.inr ⟨old, oldMember, sameKey.symm.trans same⟩
  · exact (mapWrites_grows sameEntry outbox).recorded

theorem writeDeadLetter_grows
    (engine : Engine) (now : Timestamp) (db : Database)
    (command : MessageWriteCommand) (err : Failure)
    (existing : Option MessageId) :
    Grows db
      (writeDeadLetter engine now db command err existing) := by
  rcases writeDeadLetter_cases engine now db command err existing with
    ⟨messageWriteId, marked⟩ | same | created
  · rw [marked]
    exact
      mapWrites_grows (entryOf_deadWrite engine now messageWriteId err)
        db.messageOutbox
  · rw [same]
    exact Grows.refl db
  · refine
      { writeDeadLetter_extends engine now db command err existing with
        writes := ?_ }
    rcases createDeadLetter_ok created with ⟨_, _, _, createdEq⟩
    intro old member
    refine ⟨old, ?_, rfl⟩
    rw [createdEq]
    exact List.mem_append_left _ member

end Statements

/-! ## What a dead letter records -/

section DeadLetterRows

/--
The dead letter of a command without a row is not written: one of its two
calls fails, its id is taken, or its sender or room is missing.
-/
def DeadLetterFails
    (outages : Stream' Bool) (db : Database)
    (command : MessageWriteCommand) : Prop :=
  outages.head = true ∨ outages.tail.head = true ∨
    (∃ write ∈ db.messageWrites, write.id = command.messageId) ∨
      db.hasUser command.senderId = false ∨
        db.hasRoom command.roomId = false

instance (outages : Stream' Bool) (db : Database)
    (command : MessageWriteCommand) :
    Decidable (DeadLetterFails outages db command) :=
  inferInstanceAs
    (Decidable (_ ∨ _ ∨ (∃ write ∈ db.messageWrites, _) ∨ _ ∨ _))

variable {engine : Engine} {now : Timestamp} {db : Database}
  {command : MessageWriteCommand} {err : Failure}

/-- A key that is not recorded has no write row to be found. -/
theorem findMessageWrite_of_unrecorded
    (unrecorded : ¬ Recorded db command.key) :
    findMessageWrite db command = none := by
  rw [findMessageWrite, Option.map_eq_none_iff, List.find?_eq_none]
  intro write member same
  exact unrecorded (Or.inr ⟨write, member, beq_iff_eq.mp same⟩)

theorem createDeadLetter_ok_iff
    (unrecorded : ¬ Recorded db command.key) :
    (∃ created,
        createDeadLetter engine now db command err = .ok created) ↔
      (∀ write ∈ db.messageWrites, write.id ≠ command.messageId) ∧
        db.hasUser command.senderId = true ∧
        db.hasRoom command.roomId = true := by
  constructor
  · rintro ⟨created, succeeded⟩
    rcases createDeadLetter_ok succeeded with ⟨unique, sender, room, _⟩
    exact ⟨fun write member => (unique write member).1, sender, room⟩
  · rintro ⟨freshId, sender, room⟩
    have unique :
        writeUniqueViolation db (deadLetter engine now command err) =
          none :=
      writeUniqueViolation_eq_none_iff.mpr fun write member =>
        ⟨freshId write member, fun sameKey =>
          unrecorded (Or.inr ⟨write, member, sameKey⟩)⟩
    have references :
        writeForeignKeyViolation db (deadLetter engine now command err) =
          none :=
      writeForeignKeyViolation_eq_none_iff.mpr ⟨sender, room⟩
    exact ⟨_, by rw [createDeadLetter, unique, references]⟩

/-- Without a row before, the dead letter records it unless it fails. -/
theorem deadLetter_recorded_iff
    (unrecorded : ¬ Recorded db command.key) (outages : Stream' Bool) :
    Recorded
        (markMessageWriteCommandDead engine now outages db command
          err).1
        command.key ↔
      ¬ DeadLetterFails outages db command := by
  unfold markMessageWriteCommandDead DeadLetterFails
  split
  case isTrue lookupFails => simp [lookupFails, unrecorded]
  case isFalse lookupAnswers =>
    split
    case isTrue writeFails => simp [writeFails, unrecorded]
    case isFalse writeAnswers =>
      have written := @createDeadLetter_ok_iff engine now db command err
        unrecorded
      rw [findMessageWrite_of_unrecorded unrecorded]
      cases created : createDeadLetter engine now db command err with
      | error failure =>
          rw [writeDeadLetter_rejected created]
          have refused :
              ¬ ((∀ write ∈ db.messageWrites,
                    write.id ≠ command.messageId) ∧
                  db.hasUser command.senderId = true ∧
                  db.hasRoom command.roomId = true) := by
            rw [← written, created]
            rintro ⟨_, ⟨⟩⟩
          refine ⟨fun recorded => (unrecorded recorded).elim, ?_⟩
          intro succeeds
          simp only [not_or, not_exists, not_and,
            Bool.not_eq_false] at succeeds
          exact (refused succeeds.2.2).elim
      | ok result =>
          rw [writeDeadLetter_created created]
          rcases written.mp ⟨result, created⟩ with
            ⟨freshId, sender, room⟩
          have recorded : Recorded result command.key := by
            rw [(createDeadLetter_ok created).2.2.2]
            exact
              Or.inr
                ⟨_, List.mem_append_right _ List.mem_cons_self, rfl⟩
          refine ⟨fun _ => ?_, fun _ => recorded⟩
          rintro (fails | fails | ⟨write, member, taken⟩ | missing | missing)
          · exact lookupAnswers fails
          · exact writeAnswers fails
          · exact freshId write member taken
          · exact Bool.false_ne_true (missing.symm.trans sender)
          · exact Bool.false_ne_true (missing.symm.trans room)

end DeadLetterRows

/-! ## What a drain records -/

section Drains

variable {engine : Engine} {now : Timestamp} {db : Database}

@[simp]
theorem entryOf_fanoutedVersion
    (messageId : MessageId) (write : MessageWrite) :
    entryOf (fanoutedVersion messageId write) = entryOf write := by
  unfold fanoutedVersion
  split <;> rfl

/-- The rows of the outbox change, and the progress of write rows. -/
structure OutboxOnly (before after : Database) : Prop where
  sound : Sound before → Sound after
  grows : Grows before after
  recorded : ∀ key, Recorded after key → Recorded before key

theorem OutboxOnly.refl (db : Database) : OutboxOnly db db :=
  ⟨id, Grows.refl db, fun _ => id⟩

theorem OutboxOnly.trans
    {first second third : Database}
    (early : OutboxOnly first second) (late : OutboxOnly second third) :
    OutboxOnly first third :=
  ⟨late.sound ∘ early.sound, early.grows.trans late.grows,
    fun key => early.recorded key ∘ late.recorded key⟩

theorem outbox_grows (outbox : List MessageOutbox) :
    Grows db { db with messageOutbox := outbox } where
  users := rfl
  roomMembers := rfl
  rooms := rfl
  messages := ⟨[], (List.append_nil _).symm⟩
  writes := fun old member => ⟨old, member, rfl⟩

theorem claimOutbox_outboxOnly
    (engine : Engine) (now : Timestamp)
    (deps : DrainMessageOutboxDependencies) (db : Database) :
    OutboxOnly db (claimOutbox engine now deps db).1 :=
  ⟨fun sound => claimOutbox_sound sound deps, outbox_grows _,
    fun _ => id⟩

theorem startDrain_outboxOnly
    (engine : Engine) (now : Timestamp)
    (deps : DrainMessageOutboxDependencies) (succeeds : Bool)
    (db : Database) :
    OutboxOnly db (startDrain engine now deps succeeds db).2 := by
  unfold startDrain
  split
  · exact OutboxOnly.refl db
  · split
    · exact OutboxOnly.refl db
    · dsimp only
      split
      · exact claimOutbox_outboxOnly engine now deps db
      · exact claimOutbox_outboxOnly engine now deps db

theorem drainStep_outboxOnly
    (engine : Engine) (now : Timestamp) (succeeds : Bool)
    (db : Database) (drain : Drain) :
    OutboxOnly db
      (drainStep engine now succeeds db drain).database := by
  refine
    { sound := fun sound => drainStep_sound sound succeeds drain
      grows := ?_
      recorded := ?_ }
  · rcases drainStep_database engine now db succeeds drain with
      same | ⟨_, row, _, _, _, completed⟩ | ⟨_, row, err, _, _, _, failed⟩
    · rw [same]
      exact Grows.refl db
    · rw [completed]
      exact mapWrites_grows (entryOf_fanoutedVersion row.messageId) _
    · rw [failed]
      exact outbox_grows _
  · intro key recorded
    rcases drainStep_database engine now db succeeds drain with
      same | ⟨_, row, _, _, _, completed⟩ | ⟨_, row, err, _, _, _, failed⟩
    · exact same ▸ recorded
    · rw [completed] at recorded
      exact
        (mapWrites_recorded (entryOf_fanoutedVersion row.messageId)
          _).mp recorded
    · rw [failed] at recorded
      exact recorded

end Drains

end ChatBackend.Writer.RecordedCommands
