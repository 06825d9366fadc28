import ChatBackend.Storage.TableInvariants

/-!
# Message rows of the chat service

`createMessageRow` is the transaction behind a message sent over REST.  It
locks the room, takes the room's next number, increments it, and inserts the
message.  `updateLastMessageAt` is the statement that follows it.

`createMessageRow_ok` says what a successful call commits, and
`withMessageRow_sound` that rooms stay numbered without gaps.
-/

namespace ChatBackend.Chats.MessageRows

open ChatBackend.Foundation.TableRows
open ChatBackend.Foundation.Transactions
open ChatBackend.Storage.Schema
open ChatBackend.Storage.SequenceMigration
open ChatBackend.Storage.TableInvariants

/-! ## The transaction -/

structure CreateMessageRowInput where
  id : Option MessageId := none
  senderId : UserId
  roomId : RoomId
  content : String
  requestId : Option String := none
  createdAt : Option Timestamp := none
deriving DecidableEq, Repr

/-- The id of the new row; the column's default is a fresh UUID. -/
def CreateMessageRowInput.messageId
    (input : CreateMessageRowInput) (uuid : MessageId) : MessageId :=
  (truthy input.id).getD uuid

def CreateMessageRowInput.toMessage
    (input : CreateMessageRowInput) (uuid : MessageId)
    (now : Timestamp) (roomSequence : Nat) : Message :=
  { id := input.messageId uuid
    content := input.content
    createdAt := input.createdAt.getD now
    requestId := truthy input.requestId
    roomSequence := roomSequence
    senderId := input.senderId
    roomId := input.roomId }

/-- `SELECT "nextMessageSeq" FROM "Room" WHERE "id" = … FOR UPDATE`. -/
def selectRoomForUpdate (roomId : RoomId) : Statement where
  locks := fun view =>
    (view.rooms.filter fun room => room.id == roomId).map
      fun room => .room room.id
  run := fun view locals =>
    match view.rooms.find? fun room => room.id == roomId with
    | none => .error .roomNotFound
    | some room =>
        .ok ({}, { locals with nextMessageSeq := room.nextMessageSeq })

/-- The new version of the room whose number is taken. -/
def takeSequence (roomId : RoomId) (room : Room) : Option Room :=
  if room.id = roomId then
    some { room with nextMessageSeq := room.nextMessageSeq + 1 }
  else none

/-- `tx.room.update` with `nextMessageSeq: { increment: 1 }`. -/
def incrementNextMessageSeq (roomId : RoomId) : Statement where
  locks := fun _ => []
  run := fun view locals =>
    if view.hasRoom roomId then
      .ok
        ({ rooms := view.rooms.filterMap (takeSequence roomId) },
          locals)
    else .error .recordNotFound

/-- The first unique index, in the order of creation, that a row breaks. -/
def messageUniqueViolation
    (view : Database) (row : Message) : Option Failure :=
  if view.messages.any fun old => old.id == row.id then
    some (.uniqueViolation .messagePkey)
  else if row.key?.isSome &&
      view.messages.any fun old => old.key? == row.key? then
    some (.uniqueViolation .messageSenderIdRequestIdKey)
  else if view.messages.any fun old =>
      old.roomId == row.roomId &&
        old.roomSequence == row.roomSequence then
    some (.uniqueViolation .messageRoomIdRoomSequenceKey)
  else none

/-- `tx.message.create` with the number read under the lock. -/
def insertMessage
    (uuid : MessageId) (now : Timestamp)
    (input : CreateMessageRowInput) : Statement where
  locks := fun _ => []
  run := fun view locals =>
    let row := input.toMessage uuid now locals.nextMessageSeq
    match messageUniqueViolation view row with
    | some failure => .error failure
    | none =>
        match messageForeignKeyViolation view row with
        | some failure => .error failure
        | none =>
            .ok
              ({ messages := [row] },
                { locals with createdMessage := some row })

def createMessageRowStatements
    (uuid : MessageId) (now : Timestamp)
    (input : CreateMessageRowInput) : List Statement :=
  [selectRoomForUpdate input.roomId,
    incrementNextMessageSeq input.roomId,
    insertMessage uuid now input]

/-- `createMessageRow` when no call fails for reasons of its own. -/
def createMessageRow
    (uuid : MessageId) (now : Timestamp) (db : Database)
    (input : CreateMessageRowInput) :
    Except Failure (Database × Option Message) :=
  match runStatements Database.apply
      (createMessageRowStatements uuid now input) db {} with
  | .error failure => .error failure
  | .ok (committed, locals) => .ok (committed, locals.createdMessage)

/-- `"lastMessageAt" = GREATEST("lastMessageAt", …)` for one room. -/
def updateLastMessageAt
    (db : Database) (roomId : RoomId) (lastMessageAt : Timestamp) :
    Database :=
  { db with
    rooms :=
      db.rooms.map fun room =>
        if room.id = roomId then
          { room with
            lastMessageAt := max room.lastMessageAt lastMessageAt }
        else room }

/-! ## What the transaction does -/

/-- A room after the transaction. -/
def incrementRoom (roomId : RoomId) (room : Room) : Room :=
  (takeSequence roomId room).getD room

theorem incrementRoom_id (roomId : RoomId) (room : Room) :
    (incrementRoom roomId room).id = room.id := by
  unfold incrementRoom takeSequence
  split <;> rfl

theorem incrementRoom_nextMessageSeq (roomId : RoomId) (room : Room) :
    (incrementRoom roomId room).nextMessageSeq =
      room.nextMessageSeq + if room.id = roomId then 1 else 0 := by
  unfold incrementRoom takeSequence
  split <;> rfl

/-- The rooms after the update that takes a number. -/
theorem apply_takeSequence
    {db : Database} (valid : db.Valid) (roomId : RoomId) :
    db.apply { rooms := db.rooms.filterMap (takeSequence roomId) } =
      { db with rooms := db.rooms.map (incrementRoom roomId) } := by
  have rooms :
      replaceVersions Room.id
          (db.rooms.filterMap (takeSequence roomId)) db.rooms =
        db.rooms.map (incrementRoom roomId) := by
    apply replaceVersions_filterMap _ valid.rooms
    intro room version rewritten
    unfold takeSequence at rewritten
    split at rewritten
    · simp only [Option.some.injEq] at rewritten
      rw [← rewritten]
    · simp at rewritten
  simp [Database.apply, rooms]

/-- The new row breaks no constraint. -/
structure RowAccepted (db : Database) (row : Message) : Prop where
  compatible : ∀ old ∈ db.messages, old.conflicts row = false
  sender : db.hasUser row.senderId
  room : db.hasRoom row.roomId

theorem messageUniqueViolation_eq_none_iff
    {db : Database} {row : Message} :
    messageUniqueViolation db row = none ↔
      ∀ old ∈ db.messages, old.conflicts row = false := by
  have checks :
      messageUniqueViolation db row = none ↔
        (∀ old ∈ db.messages, old.id ≠ row.id) ∧
          (row.key?.isSome = true →
            ∀ old ∈ db.messages, old.key? ≠ row.key?) ∧
          ∀ old ∈ db.messages,
            old.roomId = row.roomId →
              old.roomSequence ≠ row.roomSequence := by
    unfold messageUniqueViolation
    split_ifs with ids keys sequences <;> simp_all
  rw [checks]
  constructor
  · rintro ⟨ids, keys, sequences⟩ old member
    rw [Message.conflicts_eq_false_iff]
    refine ⟨ids old member, ?_, sequences old member⟩
    intro key rowKey oldKey
    exact
      keys (by rw [rowKey]; rfl) old member (oldKey.trans rowKey.symm)
  · intro compatible
    have separate :=
      fun old member =>
        (Message.conflicts_eq_false_iff old row).mp
          (compatible old member)
    refine
      ⟨fun old member => (separate old member).1, ?_,
        fun old member => (separate old member).2.2⟩
    intro hasKey old member sameKey
    rcases Option.isSome_iff_exists.mp hasKey with ⟨key, rowKey⟩
    exact
      (separate old member).2.1 key rowKey (sameKey.trans rowKey)

/-- The database after the row is created. -/
def withMessageRow
    (db : Database) (roomId : RoomId) (row : Message) : Database :=
  { db with
    rooms := db.rooms.map (incrementRoom roomId)
    messages := db.messages ++ [row] }

section Created

variable {uuid : MessageId} {now : Timestamp} {db : Database}
  {input : CreateMessageRowInput}

/-- A successful call adds one message with the room's next number. -/
theorem createMessageRow_ok
    {committed : Database} {created : Option Message}
    (valid : db.Valid)
    (succeeded :
      createMessageRow uuid now db input = .ok (committed, created)) :
    ∃ room ∈ db.rooms,
      room.id = input.roomId ∧
        RowAccepted db
          (input.toMessage uuid now room.nextMessageSeq) ∧
        committed =
          withMessageRow db input.roomId
            (input.toMessage uuid now room.nextMessageSeq) ∧
        created =
          some (input.toMessage uuid now room.nextMessageSeq) := by
  unfold createMessageRow at succeeded
  cases ran :
      runStatements Database.apply
        (createMessageRowStatements uuid now input) db {} with
  | error failure => simp [ran] at succeeded
  | ok outcome =>
      simp only [ran, Except.ok.injEq, Prod.mk.injEq] at succeeded
      rcases succeeded with ⟨rfl, rfl⟩
      rcases runStatements_cons_ok ran with
        ⟨writes₁, locals₁, selected, afterSelect⟩
      simp only [selectRoomForUpdate] at selected
      cases found :
          db.rooms.find? fun room => room.id == input.roomId with
      | none => simp [found] at selected
      | some room =>
          simp only [found, Except.ok.injEq, Prod.mk.injEq] at selected
          rcases selected with ⟨rfl, rfl⟩
          have roomMember := List.mem_of_find?_eq_some found
          have sameRoom : room.id = input.roomId := by
            simpa using List.find?_some found
          rw [Database.apply_empty] at afterSelect
          rcases runStatements_cons_ok afterSelect with
            ⟨writes₂, locals₂, incremented, afterIncrement⟩
          have exists_room : db.hasRoom input.roomId = true :=
            (Database.hasRoom_iff _ _).mpr ⟨room, roomMember, sameRoom⟩
          simp only [incrementNextMessageSeq, exists_room, if_true,
            Except.ok.injEq, Prod.mk.injEq] at incremented
          rcases incremented with ⟨rfl, rfl⟩
          rcases runStatements_cons_ok afterIncrement with
            ⟨writes₃, locals₃, inserted, finished⟩
          simp only [insertMessage] at inserted
          split at inserted
          · simp at inserted
          · rename_i unique
            split at inserted
            · simp at inserted
            · rename_i references
              simp only [Except.ok.injEq, Prod.mk.injEq] at inserted
              rcases inserted with ⟨rfl, rfl⟩
              rw [runStatements_nil, Except.ok.injEq,
                apply_takeSequence valid] at finished
              rw [messageUniqueViolation_eq_none_iff] at unique
              rw [messageForeignKeyViolation_eq_none_iff] at references
              refine
                ⟨room, roomMember, sameRoom, ⟨?_, ?_, ?_⟩, ?_, ?_⟩
              · intro old member
                exact unique old (by simpa using member)
              · simpa using references.1
              · simpa using references.2
              · rw [← finished]
                simp [Database.apply, withMessageRow]
              · rw [← finished]

/-- Creating a message row keeps the tables sound. -/
theorem withMessageRow_sound
    (sound : Sound db) {room : Room} (member : room ∈ db.rooms)
    (sameRoom : room.id = input.roomId)
    (accepted :
      RowAccepted db (input.toMessage uuid now room.nextMessageSeq)) :
    Sound
      (withMessageRow db input.roomId
        (input.toMessage uuid now room.nextMessageSeq)) := by
  have added :=
    appendMessages_valid sound.valid
      [input.toMessage uuid now room.nextMessageSeq]
      (by simpa using accepted.compatible)
      (List.pairwise_singleton _ _)
      (by simpa using accepted.sender)
      (by simpa using accepted.room)
  refine ⟨?_, ?_⟩
  · apply withRooms_valid added
    rw [List.map_map]
    apply List.map_congr_left
    intro old _
    exact incrementRoom_id input.roomId old
  · refine
      numbered_allocate (incrementRoom input.roomId)
        (fun id => if id = input.roomId then 1 else 0)
        sound.numbered rfl rfl (incrementRoom_id input.roomId)
        (fun old _ => incrementRoom_nextMessageSeq input.roomId old) ?_
    intro old oldMember
    by_cases inRoom : old.id = input.roomId
    · have same : old = room :=
        eq_of_unique_key sound.valid.rooms oldMember member
          (inRoom.trans sameRoom.symm)
      simp [roomSequences, CreateMessageRowInput.toMessage, same,
        sameRoom]
    · have elsewhere : (input.roomId == old.id) = false :=
        beq_eq_false_iff_ne.mpr fun same => inRoom same.symm
      simp [roomSequences, CreateMessageRowInput.toMessage, elsewhere,
        inRoom]

theorem updateLastMessageAt_sound
    (sound : Sound db) (roomId : RoomId) (lastMessageAt : Timestamp) :
    Sound (updateLastMessageAt db roomId lastMessageAt) := by
  have columns :
      (updateLastMessageAt db roomId lastMessageAt).rooms.map
          (fun room => (room.id, room.nextMessageSeq)) =
        db.rooms.map fun room => (room.id, room.nextMessageSeq) := by
    simp only [updateLastMessageAt, List.map_map]
    apply List.map_congr_left
    intro room _
    simp only [Function.comp_apply]
    split <;> rfl
  refine ⟨withRooms_valid sound.valid _ ?_, ?_⟩
  · simpa [updateLastMessageAt] using congrArg (List.map Prod.fst) columns
  · exact numbered_of_same sound.numbered rfl columns

end Created

end ChatBackend.Chats.MessageRows
