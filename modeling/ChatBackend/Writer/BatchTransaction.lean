import ChatBackend.Foundation.RowNumbering
import ChatBackend.Writer.WriteCommands

/-!
# The batch transaction of the message writer

`processMessageWriteCommands` with its statements, in the order of the
source: lock the rooms, insert the write rows, read and check them, allocate
sequence numbers and insert messages and outbox rows, and move the rooms'
`lastMessageAt` forward.

Every statement is a function of the rows it sees.  The common table
expressions of the persisting statement are definitions of their own, with
the names of the source.
-/

namespace ChatBackend.Writer.BatchTransaction

open ChatBackend.Foundation.TableRows
open ChatBackend.Foundation.RowNumbering
open ChatBackend.Foundation.Transactions
open ChatBackend.Storage.Schema
open ChatBackend.Writer.WriteCommands

/-! ## The input of a batch -/

/-- A row of the batch as the SQL statements read it back from JSON. -/
structure InputRow where
  messageId : MessageId
  requestId : String
  senderId : UserId
  roomId : RoomId
  body : String
  acceptedAt : Timestamp
  originConnectionId : Option ConnectionId
deriving DecidableEq, Repr

def InputRow.key (row : InputRow) : WriteKey :=
  (row.senderId, row.requestId)

/-- `messageWriteBatchJson` and `messageWriteInputSql`. -/
def messageWriteInput
    (commands : List MessageWriteCommand)
    (fallbackOriginConnectionId : Option ConnectionId) :
    List InputRow :=
  commands.map fun command =>
    { messageId := command.messageId
      requestId := command.requestId
      senderId := command.senderId
      roomId := command.roomId
      body := command.body
      acceptedAt := command.acceptedAt
      originConnectionId :=
        command.originConnectionId.or fallbackOriginConnectionId }

/-! ## Locking the rooms -/

/-- `SELECT "id" FROM "Room" WHERE "id" IN (…) FOR UPDATE`. -/
def selectRoomsForUpdate (roomIds : List RoomId) : Statement where
  locks := fun view =>
    (view.rooms.filter fun room => roomIds.contains room.id).map
      fun room => .room room.id
  run := fun _ locals => .ok ({}, locals)

/-! ## Inserting the write rows -/

/-- The row offered for a command; the other columns take their defaults. -/
def InputRow.toMessageWrite (row : InputRow) : MessageWrite :=
  { id := row.messageId
    requestId := row.requestId
    senderId := row.senderId
    roomId := row.roomId
    content := row.body
    acceptedAt := row.acceptedAt }

/-- The arbiter of `ON CONFLICT ("senderId", "requestId") DO NOTHING`. -/
def sameWriteKey (old row : MessageWrite) : Bool :=
  old.key == row.key

def writePkeyViolation (old row : MessageWrite) : Option Failure :=
  if old.id == row.id then
    some (.uniqueViolation .messageWritePkey)
  else none

/-- `INSERT INTO "MessageWrite" … ON CONFLICT … DO NOTHING`. -/
def insertMessageWrites (input : List InputRow) : Statement where
  locks := fun _ => []
  run := fun view locals =>
    match insertRows sameWriteKey writePkeyViolation
        view.messageWrites (input.map InputRow.toMessageWrite) with
    | .error failure => .error failure
    | .ok added =>
        match added.findSome? (writeForeignKeyViolation view) with
        | some failure => .error failure
        | none => .ok ({ insertedWrites := added }, locals)

/-! ## Reading and checking the write rows -/

/-- A write row joined with the origin of its input row. -/
structure WriteRow where
  write : MessageWrite
  originConnectionId : Option ConnectionId
deriving DecidableEq, Repr

/-- `"MessageWrite" AS mw JOIN input` on the key. -/
def writeRows (view : Database) (input : List InputRow) :
    List WriteRow :=
  view.messageWrites.flatMap fun write =>
    (input.filter fun row => row.key == write.key).map fun row =>
      { write := write, originConnectionId := row.originConnectionId }

/-- The lookup in the map from keys to the write rows read back. -/
def writeOfKey
    (writes : List MessageWrite) (mapKey : String) :
    Option MessageWrite :=
  (writes.filter fun write =>
    messageWriteKey write.senderId write.requestId == mapKey).getLast?

/-- The check made for every command of the batch. -/
def commandMatches
    (writes : List MessageWrite) (command : MessageWriteCommand) :
    Bool :=
  match writeOfKey writes command.mapKey with
  | none => false
  | some write =>
      write.id == command.messageId &&
        write.roomId == command.roomId &&
        write.content == command.body

/-- `SELECT … FROM "MessageWrite" … FOR UPDATE OF mw` and the check. -/
def selectMessageWrites
    (deduped : List MessageWriteCommand) (input : List InputRow) :
    Statement where
  locks := fun view =>
    (writeRows view input).map fun row => .messageWrite row.write.id
  run := fun view locals =>
    let writes := (writeRows view input).map WriteRow.write
    if deduped.all (commandMatches writes) then .ok ({}, locals)
    else .error .commandMismatch

/-! ## Persisting the messages -/

/-- The filter of `candidates`: not dead, and no message with id or key. -/
def isCandidate (view : Database) (row : WriteRow) : Bool :=
  row.write.status != .dead &&
    !view.messages.any fun message =>
      message.id == row.write.id ||
        message.key? == some row.write.key

/-- `ORDER BY "acceptedAt", "id"`. -/
def acceptedBefore (engine : Engine) (left right : WriteRow) : Prop :=
  left.write.acceptedAt < right.write.acceptedAt ∨
    (left.write.acceptedAt = right.write.acceptedAt ∧
      engine.collates left.write.id right.write.id = true)

instance (engine : Engine) : DecidableRel (acceptedBefore engine) :=
  fun left right =>
    inferInstanceAs
      (Decidable
        (left.write.acceptedAt < right.write.acceptedAt ∨
          (left.write.acceptedAt = right.write.acceptedAt ∧
            engine.collates left.write.id right.write.id = true)))

/-- The candidates with their position in their room, from one. -/
def candidates
    (engine : Engine) (view : Database) (input : List InputRow) :
    List (WriteRow × Nat) :=
  rowNumber (fun row : WriteRow => row.write.roomId)
    (acceptedBefore engine)
    ((writeRows view input).filter (isCandidate view))

/-- `room_counts`: the number of candidates of a room. -/
def messageCount
    (engine : Engine) (view : Database) (input : List InputRow)
    (roomId : RoomId) : Nat :=
  (candidates engine view input).countP fun candidate =>
    candidate.1.write.roomId == roomId

structure RoomAllocation where
  id : RoomId
  startSequence : Nat
deriving DecidableEq, Repr

/-- The updated row of a room that has candidates. -/
def allocatedRoom (count : RoomId → Nat) (room : Room) : Option Room :=
  if count room.id = 0 then none
  else
    some
      { room with nextMessageSeq := room.nextMessageSeq + count room.id }

/-- `room_allocations`: the start of the range reserved in each room. -/
def roomAllocations (count : RoomId → Nat) (rooms : List Room) :
    List RoomAllocation :=
  (rooms.filterMap (allocatedRoom count)).map fun room =>
    { id := room.id
      startSequence := room.nextMessageSeq - count room.id }

/-- The message row of a candidate in the range of its room. -/
def candidateMessage
    (candidate : WriteRow × Nat) (startSequence : Nat) : Message :=
  { id := candidate.1.write.id
    content := candidate.1.write.content
    createdAt := candidate.1.write.acceptedAt
    requestId := some candidate.1.write.requestId
    roomSequence := startSequence + (candidate.2 - 1)
    senderId := candidate.1.write.senderId
    roomId := candidate.1.write.roomId }

/-- `candidates JOIN room_allocations`: the rows offered to `Message`. -/
def offeredMessages
    (numbered : List (WriteRow × Nat))
    (allocations : List RoomAllocation) : List Message :=
  numbered.flatMap fun candidate =>
    (allocations.filter fun allocation =>
        allocation.id == candidate.1.write.roomId).map
      fun allocation =>
        candidateMessage candidate allocation.startSequence

def messageCreated : String :=
  "message.created"

/-- The outbox row of a new message; CURRENT_TIMESTAMP is `now`. -/
def outboxRow
    (engine : Engine) (now : Timestamp) (messageId : MessageId)
    (originConnectionId : Option ConnectionId) : MessageOutbox :=
  { id := "outbox_" ++ engine.md5 ("message.created:" ++ messageId)
    eventType := messageCreated
    messageId := messageId
    originConnectionId := originConnectionId
    createdAt := now
    updatedAt := now }

/-- `inserted_messages JOIN write_rows` on the message id. -/
def insertedRows (inserted : List Message) (rows : List WriteRow) :
    List BatchPersistedMessageRow :=
  inserted.flatMap fun message =>
    (rows.filter fun row => row.write.id == message.id).map fun row =>
      { message := message
        originConnectionId := row.originConnectionId }

/-- The arbiter of `ON CONFLICT ("eventType", "messageId") DO NOTHING`. -/
def sameOutboxEvent (old row : MessageOutbox) : Bool :=
  old.event == row.event

def outboxPkeyViolation (old row : MessageOutbox) : Option Failure :=
  if old.id == row.id then
    some (.uniqueViolation .messageOutboxPkey)
  else none

/-- `all_messages`: the inserted messages and those found by id or key. -/
def allMessages
    (view : Database) (rows : List WriteRow) (inserted : List Message) :
    List Message :=
  inserted ++
    view.messages.filter fun message =>
      (rows.any fun row =>
        message.id == row.write.id ||
          message.key? == some row.write.key) &&
        !inserted.any fun new => new.id == message.id

/-- `mw."status" NOT IN ('DEAD', 'FANOUTED')`. -/
def MessageWriteStatus.isOpen (status : MessageWriteStatus) : Bool :=
  status != .dead && status != .fanouted

/-- `write_updates`: the new version of a write row, if it gets one. -/
def settledWrite
    (messages : List Message) (write : MessageWrite) :
    Option MessageWrite :=
  if MessageWriteStatus.isOpen write.status then
    (messages.find? fun message => message.key? == some write.key).map
      fun message =>
        { write with
          status := .persisted
          persistedAt := some message.createdAt
          failedAt := none
          failureReason := none }
  else none

/-- `ORDER BY "createdAt", "id"`. -/
def createdBefore
    (engine : Engine) (left right : BatchPersistedMessageRow) : Prop :=
  left.message.createdAt < right.message.createdAt ∨
    (left.message.createdAt = right.message.createdAt ∧
      engine.collates left.message.id right.message.id = true)

instance (engine : Engine) : DecidableRel (createdBefore engine) :=
  fun left right =>
    inferInstanceAs
      (Decidable
        (left.message.createdAt < right.message.createdAt ∨
          (left.message.createdAt = right.message.createdAt ∧
            engine.collates left.message.id right.message.id = true)))

/-- The statement that allocates, inserts, enqueues and settles. -/
def persistMessages
    (engine : Engine) (now : Timestamp) (input : List InputRow) :
    Statement where
  locks := fun _ => []
  run := fun view locals =>
    let rows := writeRows view input
    let count := messageCount engine view input
    let offered :=
      offeredMessages (candidates engine view input)
        (roomAllocations count view.rooms)
    match insertRows Message.conflicts (fun _ _ => none)
        view.messages offered with
    | .error failure => .error failure
    | .ok inserted =>
        match inserted.findSome? (messageForeignKeyViolation view) with
        | some failure => .error failure
        | none =>
            let returned := insertedRows inserted rows
            match insertRows sameOutboxEvent outboxPkeyViolation
                view.messageOutbox
                (returned.map fun row =>
                  outboxRow engine now row.message.id
                    row.originConnectionId) with
            | .error failure => .error failure
            | .ok enqueued =>
                .ok
                  ({ rooms := view.rooms.filterMap (allocatedRoom count)
                     messages := inserted
                     outbox := enqueued
                     updatedWrites :=
                       view.messageWrites.filterMap
                         (settledWrite
                           (allMessages view rows inserted)) },
                    { locals with
                      persistedMessages :=
                        returned.insertionSort
                          (createdBefore engine) })

/-! ## Moving the rooms forward -/

/-- The latest creation time in a room: the loop over `maxByRoom`. -/
def maxByRoom
    (messages : List BatchPersistedMessageRow) (roomId : RoomId) :
    Option Timestamp :=
  messages.foldl
    (fun current row =>
      if row.message.roomId == roomId then
        match current with
        | none => some row.message.createdAt
        | some latest =>
            if row.message.createdAt > latest then
              some row.message.createdAt
            else some latest
      else current)
    none

/-- `"lastMessageAt" = GREATEST("lastMessageAt", …)` for one room. -/
def touchedRoom
    (messages : List BatchPersistedMessageRow) (room : Room) :
    Option Room :=
  (maxByRoom messages room.id).map fun latest =>
    { room with lastMessageAt := max room.lastMessageAt latest }

def updateRoomsLastMessageAt : Statement where
  locks := fun _ => []
  run := fun view locals =>
    .ok
      ({ rooms :=
           view.rooms.filterMap
             (touchedRoom locals.persistedMessages) },
        locals)

/-! ## The transaction -/

/-- The statements of the transaction of a batch without duplicates. -/
def batchStatements
    (engine : Engine) (now : Timestamp)
    (deduped : List MessageWriteCommand)
    (originConnectionId : Option ConnectionId) : List Statement :=
  let input := messageWriteInput deduped originConnectionId
  [selectRoomsForUpdate (deduped.map MessageWriteCommand.roomId),
    insertMessageWrites input,
    selectMessageWrites deduped input,
    persistMessages engine now input,
    updateRoomsLastMessageAt]

/-- The message sent to clients. -/
structure MessageDto where
  id : MessageId
  chatId : RoomId
  senderId : UserId
  type : String := "TEXT"
  body : String
  createdAt : Timestamp
deriving DecidableEq, Repr

def toMessageDto (message : Message) : MessageDto :=
  { id := message.id
    chatId := message.roomId
    senderId := message.senderId
    body := message.content
    createdAt := message.createdAt }

/--
`processMessageWriteCommands` when no call fails for reasons of its own.
`now` is the start time of the transaction.
-/
def processMessageWriteCommands
    (engine : Engine) (now : Timestamp) (db : Database)
    (commands : List MessageWriteCommand)
    (originConnectionId : Option ConnectionId := none) :
    Except Failure (Database × List MessageDto) :=
  if commands = [] then .ok (db, [])
  else
    match dedupeMessageWriteCommands commands with
    | .error failure => .error failure
    | .ok deduped =>
        match runStatements Database.apply
            (batchStatements engine now deduped originConnectionId)
            db {} with
        | .error failure => .error failure
        | .ok (committed, locals) =>
            .ok
              (committed,
                locals.persistedMessages.map fun row =>
                  toMessageDto row.message)

end ChatBackend.Writer.BatchTransaction
