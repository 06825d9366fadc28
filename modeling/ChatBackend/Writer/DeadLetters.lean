import ChatBackend.Storage.TableInvariants
import ChatBackend.Writer.BatchTransaction

/-!
# Dead letters

A command that fails on its last delivery attempt is recorded as DEAD.
`markMessageWriteCommandDead` first looks for the write row of the command's
key, in a statement of its own.  It then marks that row if it is still
PENDING, or creates a DEAD row where it found none.  An error of either
statement is logged and forgotten.

The two statements are separate definitions, since other transactions may
come between them.
-/

namespace ChatBackend.Writer.DeadLetters

open ChatBackend.Storage.Schema
open ChatBackend.Storage.TableInvariants
open ChatBackend.Storage.SequenceMigration
open ChatBackend.Writer.WriteCommands
open ChatBackend.Writer.BatchTransaction

/-- `messageWrite.findUnique` on the key of the command. -/
def findMessageWrite
    (db : Database) (command : MessageWriteCommand) : Option MessageId :=
  (db.messageWrites.find? fun write => write.key == command.key).map
    MessageWrite.id

/-- The update of `markMessageWriteDead` on one row. -/
def deadWrite
    (engine : Engine) (now : Timestamp) (messageWriteId : MessageId)
    (err : Failure) (write : MessageWrite) : MessageWrite :=
  if write.id = messageWriteId ∧ write.status = .pending then
    { write with
      status := .dead
      failedAt := some now
      failureReason := some (engine.formatFailureReason err) }
  else write

def markMessageWriteDead
    (engine : Engine) (now : Timestamp) (db : Database)
    (messageWriteId : MessageId) (err : Failure) : Database :=
  { db with
    messageWrites :=
      db.messageWrites.map (deadWrite engine now messageWriteId err) }

/-- The DEAD row of a command without a write row. -/
def deadLetter
    (engine : Engine) (now : Timestamp) (command : MessageWriteCommand)
    (err : Failure) : MessageWrite :=
  { id := command.messageId
    requestId := command.requestId
    senderId := command.senderId
    roomId := command.roomId
    content := command.body
    acceptedAt := command.acceptedAt
    status := .dead
    failedAt := some now
    failureReason := some (engine.formatFailureReason err) }

/-- The first unique index, in the order of creation, that a row breaks. -/
def writeUniqueViolation
    (view : Database) (row : MessageWrite) : Option Failure :=
  if view.messageWrites.any fun old => old.id == row.id then
    some (.uniqueViolation .messageWritePkey)
  else if view.messageWrites.any fun old => old.key == row.key then
    some (.uniqueViolation .messageWriteSenderIdRequestIdKey)
  else none

/-- `messageWrite.create` with the DEAD row. -/
def createDeadLetter
    (engine : Engine) (now : Timestamp) (db : Database)
    (command : MessageWriteCommand) (err : Failure) :
    Except Failure Database :=
  let row := deadLetter engine now command err
  match writeUniqueViolation db row with
  | some failure => .error failure
  | none =>
      match writeForeignKeyViolation db row with
      | some failure => .error failure
      | none =>
          .ok { db with messageWrites := db.messageWrites ++ [row] }

/-- The second statement, with the id that the first one found. -/
def writeDeadLetter
    (engine : Engine) (now : Timestamp) (db : Database)
    (command : MessageWriteCommand) (err : Failure)
    (existing : Option MessageId) : Database :=
  match existing with
  | some messageWriteId =>
      markMessageWriteDead engine now db messageWriteId err
  | none =>
      match createDeadLetter engine now db command err with
      | .error _ => db
      | .ok created => created

/--
`markMessageWriteCommandDead` with nothing between its statements, under
outages.  The result is the database, with the outages of the calls after it.
-/
def markMessageWriteCommandDead
    (engine : Engine) (now : Timestamp) (outages : Stream' Bool)
    (db : Database) (command : MessageWriteCommand) (err : Failure) :
    Database × Stream' Bool :=
  if outages.head then (db, outages.tail)
  else if outages.tail.head then (db, outages.tail.tail)
  else
    (writeDeadLetter engine now db command err
        (findMessageWrite db command),
      outages.tail.tail)

/-! ## What the statements keep -/

section Marked

variable (engine : Engine) (now : Timestamp)
  (messageWriteId : MessageId) (err : Failure) (write : MessageWrite)

@[simp]
theorem deadWrite_id :
    (deadWrite engine now messageWriteId err write).id = write.id := by
  unfold deadWrite
  split <;> rfl

@[simp]
theorem deadWrite_key :
    (deadWrite engine now messageWriteId err write).key =
      write.key := by
  unfold deadWrite
  split <;> rfl

@[simp]
theorem deadWrite_roomId :
    (deadWrite engine now messageWriteId err write).roomId =
      write.roomId := by
  unfold deadWrite
  split <;> rfl

@[simp]
theorem deadWrite_content :
    (deadWrite engine now messageWriteId err write).content =
      write.content := by
  unfold deadWrite
  split <;> rfl

/-- Only a PENDING row changes, and it becomes DEAD. -/
theorem deadWrite_cases :
    deadWrite engine now messageWriteId err write = write ∨
      (write.status = .pending ∧
        (deadWrite engine now messageWriteId err write).status =
          .dead) := by
  unfold deadWrite
  split
  · rename_i marked
    exact Or.inr ⟨marked.2, rfl⟩
  · exact Or.inl rfl

variable {engine now messageWriteId err write}

/-- A row that is not DEAD afterwards was not changed. -/
theorem deadWrite_eq_of_alive
    (alive :
      (deadWrite engine now messageWriteId err write).status ≠ .dead) :
    deadWrite engine now messageWriteId err write = write := by
  rcases deadWrite_cases engine now messageWriteId err write with
    same | ⟨_, dead⟩
  · exact same
  · exact absurd dead alive

end Marked

section Written

variable {engine : Engine} {now : Timestamp} {db created : Database}
  {command : MessageWriteCommand} {err : Failure}

theorem writeUniqueViolation_eq_none_iff {row : MessageWrite} :
    writeUniqueViolation db row = none ↔
      ∀ old ∈ db.messageWrites,
        old.id ≠ row.id ∧ old.key ≠ row.key := by
  unfold writeUniqueViolation
  split_ifs with ids keys <;> simp_all [forall_and]

/-- A created dead letter takes no id and no key of another write row. -/
theorem createDeadLetter_ok
    (succeeded : createDeadLetter engine now db command err = .ok created) :
    (∀ old ∈ db.messageWrites,
        old.id ≠ command.messageId ∧ old.key ≠ command.key) ∧
      db.hasUser command.senderId = true ∧
      db.hasRoom command.roomId = true ∧
      created =
        { db with
          messageWrites :=
            db.messageWrites ++ [deadLetter engine now command err] } := by
  simp only [createDeadLetter] at succeeded
  split at succeeded
  · simp at succeeded
  · rename_i unique
    split at succeeded
    · simp at succeeded
    · rename_i references
      rw [writeUniqueViolation_eq_none_iff] at unique
      rw [writeForeignKeyViolation_eq_none_iff] at references
      simp only [Except.ok.injEq] at succeeded
      exact ⟨unique, references.1, references.2, succeeded.symm⟩

/-- Without a row of the key, the second statement creates one. -/
theorem writeDeadLetter_created
    (succeeded : createDeadLetter engine now db command err = .ok created) :
    writeDeadLetter engine now db command err none = created := by
  simp [writeDeadLetter, succeeded]

/-- A row which cannot be created is not recorded anywhere. -/
theorem writeDeadLetter_rejected
    {failure : Failure}
    (rejected :
      createDeadLetter engine now db command err = .error failure) :
    writeDeadLetter engine now db command err none = db := by
  simp [writeDeadLetter, rejected]

/-- What the second statement does: mark a row, create a row, or nothing. -/
theorem writeDeadLetter_cases
    (engine : Engine) (now : Timestamp) (db : Database)
    (command : MessageWriteCommand) (err : Failure)
    (existing : Option MessageId) :
    (∃ messageWriteId,
        writeDeadLetter engine now db command err existing =
          markMessageWriteDead engine now db messageWriteId err) ∨
      writeDeadLetter engine now db command err existing = db ∨
      createDeadLetter engine now db command err =
        .ok (writeDeadLetter engine now db command err existing) := by
  cases existing with
  | some messageWriteId => exact Or.inl ⟨messageWriteId, rfl⟩
  | none =>
      right
      cases outcome : createDeadLetter engine now db command err with
      | error failure =>
          left
          simp [writeDeadLetter, outcome]
      | ok result =>
          right
          simp [writeDeadLetter, outcome]

theorem markMessageWriteDead_sound
    (sound : Sound db) (messageWriteId : MessageId) :
    Sound (markMessageWriteDead engine now db messageWriteId err) :=
  { valid :=
      mapWrites_valid sound.valid (deadWrite_id engine now _ err)
        (deadWrite_key engine now _ err)
        (deadWrite_roomId engine now _ err)
    numbered := numbered_of_same sound.numbered rfl rfl }

theorem createDeadLetter_sound
    (sound : Sound db)
    (succeeded : createDeadLetter engine now db command err = .ok created) :
    Sound created := by
  rcases createDeadLetter_ok succeeded with ⟨unique, sender, room, rfl⟩
  refine ⟨?_, numbered_of_same sound.numbered rfl rfl⟩
  apply withWrites_valid sound.valid
  · rw [List.map_append, List.nodup_append]
    refine ⟨sound.valid.writeIds, List.nodup_singleton _, ?_⟩
    intro oldId oldMember newId newMember
    rcases List.mem_map.mp oldMember with ⟨old, oldIn, rfl⟩
    rw [List.map_singleton, List.mem_singleton] at newMember
    exact newMember ▸ (unique old oldIn).1
  · rw [List.map_append, List.nodup_append]
    refine ⟨sound.valid.writeKeys, List.nodup_singleton _, ?_⟩
    intro oldKey oldMember newKey newMember
    rcases List.mem_map.mp oldMember with ⟨old, oldIn, rfl⟩
    rw [List.map_singleton, List.mem_singleton] at newMember
    exact newMember ▸ (unique old oldIn).2
  · intro write member
    rcases List.mem_append.mp member with old | new
    · exact sound.valid.writeSender write old
    · rw [List.mem_singleton] at new
      exact new ▸ sender
  · intro write member
    rcases List.mem_append.mp member with old | new
    · exact sound.valid.writeRoom write old
    · rw [List.mem_singleton] at new
      exact new ▸ room

theorem writeDeadLetter_messages
    (engine : Engine) (now : Timestamp) (db : Database)
    (command : MessageWriteCommand) (err : Failure)
    (existing : Option MessageId) :
    (writeDeadLetter engine now db command err existing).messages =
      db.messages := by
  rcases writeDeadLetter_cases engine now db command err existing with
    ⟨messageWriteId, marked⟩ | same | created
  · rw [marked]
    rfl
  · rw [same]
  · rw [(createDeadLetter_ok created).2.2.2]

/-- Recording a dead letter keeps the tables sound. -/
theorem writeDeadLetter_sound
    (sound : Sound db) (existing : Option MessageId) :
    Sound (writeDeadLetter engine now db command err existing) := by
  rcases writeDeadLetter_cases engine now db command err existing with
    ⟨messageWriteId, marked⟩ | same | created
  · rw [marked]
    exact markMessageWriteDead_sound sound messageWriteId
  · rw [same]
    exact sound
  · exact createDeadLetter_sound sound created

/-- The two statements write a dead letter, or one of them failed. -/
theorem markMessageWriteCommandDead_cases
    (engine : Engine) (now : Timestamp) (outages : Stream' Bool)
    (db : Database) (command : MessageWriteCommand) (err : Failure) :
    (markMessageWriteCommandDead engine now outages db command err).1 =
        db ∨
      (markMessageWriteCommandDead engine now outages db command err).1 =
        writeDeadLetter engine now db command err
          (findMessageWrite db command) := by
  unfold markMessageWriteCommandDead
  split_ifs
  · exact Or.inl rfl
  · exact Or.inl rfl
  · exact Or.inr rfl

end Written

end ChatBackend.Writer.DeadLetters
