import ChatBackend.Foundation.TableRows
import ChatBackend.Foundation.Transactions

/-!
# The PostgreSQL schema

The rows of the tables that the services share, with the columns of the
Prisma schema, and the database as one list of rows for each table.

A table with unique constraints is still a list: `Database.Valid` states what
PostgreSQL enforces, namely the unique keys and the foreign keys of the
migrations.  `WriteSet` is what one statement of a transaction writes, and
`Database.apply` makes it visible.

What the code takes from PostgreSQL without defining it is collected in
`Engine`: the function `md5`, the collation that orders text, and the texts
of database errors.
-/

namespace ChatBackend.Storage.Schema

open ChatBackend.Foundation.TableRows

abbrev UserId := String
abbrev RoomId := String
abbrev MessageId := String
abbrev ConnectionId := String

/-- Milliseconds since the epoch, the precision of `TIMESTAMP(3)`. -/
abbrev Timestamp := Int

/-- The idempotency key of a message: its sender and its request. -/
abbrev WriteKey := UserId × String

/-! ## Rows -/

structure User where
  id : UserId
  username : String
  displayName : String
  email : String
  password : String
  createdAt : Timestamp
deriving DecidableEq, Repr

structure Room where
  id : RoomId
  name : Option String := none
  isGroup : Bool := false
  createdAt : Timestamp
  lastMessageAt : Timestamp
  nextMessageSeq : Nat := 1
deriving DecidableEq, Repr

structure RoomMember where
  userId : UserId
  roomId : RoomId
  joinedAt : Timestamp
deriving DecidableEq, Repr

structure Message where
  id : MessageId
  content : String
  createdAt : Timestamp
  requestId : Option String
  roomSequence : Nat
  senderId : UserId
  roomId : RoomId
deriving DecidableEq, Repr

inductive MessageWriteStatus where
  | pending
  | persisted
  | fanouted
  | dead
deriving DecidableEq, Repr

inductive MessageOutboxStatus where
  | pending
  | publishing
  | published
  | failed
deriving DecidableEq, Repr

structure MessageWrite where
  id : MessageId
  requestId : String
  senderId : UserId
  roomId : RoomId
  content : String
  status : MessageWriteStatus := .pending
  acceptedAt : Timestamp
  persistedAt : Option Timestamp := none
  failedAt : Option Timestamp := none
  failureReason : Option String := none
deriving DecidableEq, Repr

structure MessageOutbox where
  id : String
  eventType : String
  messageId : MessageId
  status : MessageOutboxStatus := .pending
  attempts : Nat := 0
  nextAttemptAt : Option Timestamp := none
  lockedAt : Option Timestamp := none
  publishedAt : Option Timestamp := none
  failureReason : Option String := none
  originConnectionId : Option ConnectionId
  createdAt : Timestamp
  updatedAt : Timestamp
deriving DecidableEq, Repr

/-- The key of a message; a null request is no key. -/
def Message.key? (message : Message) : Option WriteKey :=
  message.requestId.map fun requestId => (message.senderId, requestId)

def MessageWrite.key (write : MessageWrite) : WriteKey :=
  (write.senderId, write.requestId)

/-- The columns of the unique index on outbox events. -/
def MessageOutbox.event (row : MessageOutbox) : String × MessageId :=
  (row.eventType, row.messageId)

/--
Two messages break a unique index of the table together: the primary key,
`(senderId, requestId)` where a null request equals nothing, or
`(roomId, roomSequence)`.
-/
def Message.conflicts (old row : Message) : Bool :=
  old.id == row.id ||
    (row.key?.isSome && old.key? == row.key?) ||
    (old.roomId == row.roomId && old.roomSequence == row.roomSequence)

theorem Message.conflicts_eq_false_iff (old row : Message) :
    old.conflicts row = false ↔
      old.id ≠ row.id ∧
        (∀ key, row.key? = some key → old.key? ≠ some key) ∧
        (old.roomId = row.roomId →
          old.roomSequence ≠ row.roomSequence) := by
  cases rowKey : row.key? with
  | none => simp [Message.conflicts, rowKey]
  | some key => simp [Message.conflicts, rowKey, and_assoc]

theorem Message.conflicts_symm
    {old row : Message} (compatible : old.conflicts row = false) :
    row.conflicts old = false := by
  rw [Message.conflicts_eq_false_iff] at compatible ⊢
  rcases compatible with ⟨ids, keys, sequences⟩
  refine ⟨ids.symm, ?_, ?_⟩
  · intro key oldKey rowKey
    exact keys key rowKey oldKey
  · intro sameRoom sameSequence
    exact sequences sameRoom.symm sameSequence.symm

/-! ## Failures -/

/-- The constraints that the statements of the services can break. -/
inductive Constraint where
  | messagePkey
  | messageSenderIdRequestIdKey
  | messageRoomIdRoomSequenceKey
  | messageSenderIdFkey
  | messageRoomIdFkey
  | messageWritePkey
  | messageWriteSenderIdRequestIdKey
  | messageWriteSenderIdFkey
  | messageWriteRoomIdFkey
  | messageOutboxPkey
deriving DecidableEq, Repr

/-- What the persistence code throws, or lets a database client throw. -/
inductive Failure where
  | uniqueViolation (constraint : Constraint)
  | foreignKeyViolation (constraint : Constraint)
  | recordNotFound
  | unavailable
  | conflictingCommands
  | commandMismatch
  | roomNotFound
  | messageNotFound
deriving DecidableEq, Repr

/-- What the code relies on and PostgreSQL or its client supplies. -/
structure Engine where
  md5 : String → String
  collates : String → String → Bool
  collates_total :
    ∀ left right, collates left right = true ∨
      collates right left = true
  collates_trans :
    ∀ first second third, collates first second = true →
      collates second third = true → collates first third = true
  collates_antisymm :
    ∀ left right, collates left right = true →
      collates right left = true → left = right
  databaseMessage : Failure → String
  /-- The order of the rows that an update returns, which is any. -/
  returningOrder : Timestamp → List MessageOutbox → List MessageOutbox
  returningOrder_perm :
    ∀ now rows, (returningOrder now rows).Perm rows

/-- The message of an error; the texts of thrown errors are the source's. -/
def Engine.errorMessage (engine : Engine) : Failure → String
  | .conflictingCommands =>
      "batch contains conflicting message write commands"
  | .commandMismatch =>
      "message write command does not match existing request"
  | .roomNotFound => "room not found"
  | .messageNotFound => "message not found for outbox event"
  | failure => engine.databaseMessage failure

/--
`slice(0, limit)`, which counts UTF-16 units: a character beyond the basic
plane has two, and half of it is sent as the replacement character.
-/
def sliceUnits (limit : Nat) : List Char → List Char
  | [] => []
  | character :: rest =>
      let width := if character.toNat < 0x10000 then 1 else 2
      if width ≤ limit then
        character :: sliceUnits (limit - width) rest
      else if limit = 1 then [Char.ofNat 0xFFFD]
      else []

/-- `formatFailureReason`: the first 2000 units of the message. -/
def Engine.formatFailureReason
    (engine : Engine) (failure : Failure) : String :=
  String.ofList (sliceUnits 2000 (engine.errorMessage failure).toList)

/-- A string that JavaScript treats as true: present and not empty. -/
def truthy (text : Option String) : Option String :=
  text.filter fun value => value != ""

/-! ## The database -/

structure Database where
  users : List User := []
  rooms : List Room := []
  roomMembers : List RoomMember := []
  messages : List Message := []
  messageWrites : List MessageWrite := []
  messageOutbox : List MessageOutbox := []
deriving DecidableEq, Repr

namespace Database

def hasUser (db : Database) (id : UserId) : Bool :=
  db.users.any fun user => user.id == id

def hasRoom (db : Database) (id : RoomId) : Bool :=
  db.rooms.any fun room => room.id == id

theorem hasUser_iff (db : Database) (id : UserId) :
    db.hasUser id = true ↔ ∃ user ∈ db.users, user.id = id := by
  simp [hasUser]

theorem hasRoom_iff (db : Database) (id : RoomId) :
    db.hasRoom id = true ↔ ∃ room ∈ db.rooms, room.id = id := by
  simp [hasRoom]

/-- Only the ids of the rooms matter. -/
theorem hasRoom_congr
    {first second : Database}
    (sameIds : first.rooms.map Room.id = second.rooms.map Room.id)
    (id : RoomId) : first.hasRoom id = second.hasRoom id := by
  have viaIds :
      ∀ rooms : List Room,
        (rooms.any fun room => room.id == id) =
          (rooms.map Room.id).any (· == id) := by
    intro rooms
    rw [List.any_map]
    rfl
  rw [hasRoom, hasRoom, viaIds, viaIds, sameIds]

/-- What PostgreSQL enforces: unique keys and foreign keys. -/
structure Valid (db : Database) : Prop where
  users : (db.users.map User.id).Nodup
  usernames : (db.users.map User.username).Nodup
  emails : (db.users.map User.email).Nodup
  rooms : (db.rooms.map Room.id).Nodup
  roomMembers :
    (db.roomMembers.map fun member =>
      (member.userId, member.roomId)).Nodup
  messages :
    db.messages.Pairwise fun old row => old.conflicts row = false
  writeIds : (db.messageWrites.map MessageWrite.id).Nodup
  writeKeys : (db.messageWrites.map MessageWrite.key).Nodup
  outboxIds : (db.messageOutbox.map MessageOutbox.id).Nodup
  outboxEvents : (db.messageOutbox.map MessageOutbox.event).Nodup
  memberUser : ∀ member ∈ db.roomMembers, db.hasUser member.userId
  memberRoom : ∀ member ∈ db.roomMembers, db.hasRoom member.roomId
  messageSender : ∀ message ∈ db.messages, db.hasUser message.senderId
  messageRoom : ∀ message ∈ db.messages, db.hasRoom message.roomId
  writeSender : ∀ write ∈ db.messageWrites, db.hasUser write.senderId
  writeRoom : ∀ write ∈ db.messageWrites, db.hasRoom write.roomId
  outboxMessage :
    ∀ row ∈ db.messageOutbox,
      ∃ message ∈ db.messages, message.id = row.messageId

end Database

/-! ## Foreign keys -/

/-- The foreign keys of a write row, checked when a statement ends. -/
def writeForeignKeyViolation
    (view : Database) (row : MessageWrite) : Option Failure :=
  if !view.hasUser row.senderId then
    some (.foreignKeyViolation .messageWriteSenderIdFkey)
  else if !view.hasRoom row.roomId then
    some (.foreignKeyViolation .messageWriteRoomIdFkey)
  else none

/-- The foreign keys of a message row. -/
def messageForeignKeyViolation
    (view : Database) (row : Message) : Option Failure :=
  if !view.hasUser row.senderId then
    some (.foreignKeyViolation .messageSenderIdFkey)
  else if !view.hasRoom row.roomId then
    some (.foreignKeyViolation .messageRoomIdFkey)
  else none

theorem writeForeignKeyViolation_eq_none_iff {db : Database} {row : MessageWrite} :
    writeForeignKeyViolation db row = none ↔
      db.hasUser row.senderId = true ∧
        db.hasRoom row.roomId = true := by
  unfold writeForeignKeyViolation
  cases db.hasUser row.senderId <;> cases db.hasRoom row.roomId <;>
    simp

theorem messageForeignKeyViolation_eq_none_iff {db : Database} {row : Message} :
    messageForeignKeyViolation db row = none ↔
      db.hasUser row.senderId = true ∧
        db.hasRoom row.roomId = true := by
  unfold messageForeignKeyViolation
  cases db.hasUser row.senderId <;> cases db.hasRoom row.roomId <;>
    simp

/-! ## Write sets -/

/-- The row versions that one statement writes. -/
structure WriteSet where
  rooms : List Room := []
  insertedWrites : List MessageWrite := []
  updatedWrites : List MessageWrite := []
  messages : List Message := []
  outbox : List MessageOutbox := []
deriving DecidableEq, Repr

/-- Make a write set visible. -/
def Database.apply (db : Database) (writes : WriteSet) : Database :=
  { db with
    rooms := replaceVersions Room.id writes.rooms db.rooms
    messageWrites :=
      replaceVersions MessageWrite.id writes.updatedWrites
          db.messageWrites ++
        writes.insertedWrites
    messages := db.messages ++ writes.messages
    messageOutbox := db.messageOutbox ++ writes.outbox }

section Apply

variable (db : Database) (writes : WriteSet)

@[simp]
theorem Database.apply_users : (db.apply writes).users = db.users :=
  rfl

@[simp]
theorem Database.apply_roomMembers :
    (db.apply writes).roomMembers = db.roomMembers :=
  rfl

@[simp]
theorem Database.apply_messages :
    (db.apply writes).messages = db.messages ++ writes.messages :=
  rfl

@[simp]
theorem Database.apply_messageOutbox :
    (db.apply writes).messageOutbox =
      db.messageOutbox ++ writes.outbox :=
  rfl

@[simp]
theorem Database.apply_hasUser (id : UserId) :
    (db.apply writes).hasUser id = db.hasUser id :=
  rfl

/-- No statement adds or removes a room. -/
@[simp]
theorem Database.apply_roomIds :
    (db.apply writes).rooms.map Room.id = db.rooms.map Room.id :=
  map_key_replaceVersions writes.rooms db.rooms

@[simp]
theorem Database.apply_hasRoom (id : RoomId) :
    (db.apply writes).hasRoom id = db.hasRoom id :=
  Database.hasRoom_congr (Database.apply_roomIds db writes) id

@[simp]
theorem Database.apply_empty : db.apply {} = db := by
  simp [Database.apply]

end Apply

/-! ## Locks, local variables and statements -/

/-- The rows that a transaction locks with `FOR UPDATE`. -/
inductive RowLock where
  | room (id : RoomId)
  | messageWrite (id : MessageId)
deriving DecidableEq, Repr

/-- A message which a batch inserted, with the connection it came from. -/
structure BatchPersistedMessageRow where
  message : Message
  originConnectionId : Option ConnectionId
deriving DecidableEq, Repr

/-- What the code of a transaction keeps between its statements. -/
structure TransactionLocals where
  nextMessageSeq : Nat := 0
  createdMessage : Option Message := none
  persistedMessages : List BatchPersistedMessageRow := []
deriving DecidableEq, Repr

abbrev Statement :=
  Foundation.Transactions.Statement
    Database WriteSet TransactionLocals Failure RowLock

/-! ## An engine for evaluation -/

/-- The values of `md5` at the texts that the examples use. -/
def exampleMd5 (text : String) : String :=
  if text = "message.created:msg_c90348ce6b532ea44071bd5b6f8cf75f" then
    "d2d6c81bd190275f4ddba017d11b3b89"
  else if text =
      "message.created:msg_aa529221bae48427bcb7f5d5d7b25fc3" then
    "778a589258152c6c4a6e51d2f2eb4cea"
  else if text =
      "message.created:msg_71f3edf8d6c8c84c6a2c6e01b30d2266" then
    "b5695910127050b605f6ccd71c7fbe3b"
  else ""

/-- Text in the order of its code points, and short error messages. -/
def exampleEngine : Engine where
  md5 := exampleMd5
  collates := fun left right => decide (left ≤ right)
  collates_total := by
    intro left right
    simpa using String.le_total left right
  collates_trans := by
    intro first second third early late
    rw [decide_eq_true_iff] at early late ⊢
    exact String.le_trans early late
  collates_antisymm := by
    intro left right before after
    rw [decide_eq_true_iff] at before after
    exact String.le_antisymm before after
  databaseMessage := fun failure =>
    match failure with
    | .uniqueViolation _ =>
        "duplicate key value violates unique constraint"
    | .foreignKeyViolation _ =>
        "insert or update violates foreign key constraint"
    | .recordNotFound => "record to update not found"
    | _ => "connection closed"
  returningOrder := fun _ rows => rows
  returningOrder_perm := fun _ rows => .refl rows

end ChatBackend.Storage.Schema
