import ChatBackend.Foundation.RowNumbering
import ChatBackend.Storage.Schema

/-!
# The migration that numbers messages

The migration `add_message_sequences_and_outbox` gives every message its
position in its room, in the order of creation time and id, sets the next
number of every room, and creates an empty outbox.

`Numbered` is the property it establishes: the numbers of a room's messages
are `1, …, n` without gap or repetition, and the next number is `n + 1`.
`migrate_valid` and `migrate_numbered` say that the migrated tables satisfy
their constraints and this property, whatever the tables were before.
-/

namespace ChatBackend.Storage.SequenceMigration

open ChatBackend.Foundation.RowNumbering
open ChatBackend.Foundation.TableRows
open ChatBackend.Storage.Schema

/-! ## Numbering -/

/-- The numbers of the messages of a room. -/
def roomSequences (messages : List Message) (roomId : RoomId) : List Nat :=
  (messages.filter fun message => message.roomId == roomId).map
    Message.roomSequence

/-- The numbers of every room are `1, …, n`, and its next number `n + 1`. -/
def Numbered (db : Database) : Prop :=
  ∀ room ∈ db.rooms,
    ∃ count,
      (roomSequences db.messages room.id).Perm (List.range' 1 count) ∧
        room.nextMessageSeq = count + 1

theorem roomSequences_append
    (first second : List Message) (roomId : RoomId) :
    roomSequences (first ++ second) roomId =
      roomSequences first roomId ++ roomSequences second roomId := by
  simp [roomSequences]

theorem mem_roomSequences
    {messages : List Message} {message : Message}
    (member : message ∈ messages) :
    message.roomSequence ∈ roomSequences messages message.roomId :=
  List.mem_map_of_mem (List.mem_filter.mpr ⟨member, by simp⟩)

/-! ## The tables before the migration -/

structure LegacyRoom where
  id : RoomId
  name : Option String := none
  isGroup : Bool := false
  createdAt : Timestamp
  lastMessageAt : Timestamp
deriving DecidableEq, Repr

structure LegacyMessage where
  id : MessageId
  content : String
  createdAt : Timestamp
  requestId : Option String
  senderId : UserId
  roomId : RoomId
deriving DecidableEq, Repr

def LegacyMessage.key? (message : LegacyMessage) : Option WriteKey :=
  message.requestId.map fun requestId => (message.senderId, requestId)

/-- The tables before the migration, with the constraints they satisfy. -/
structure LegacyTables where
  users : List User := []
  rooms : List LegacyRoom := []
  roomMembers : List RoomMember := []
  messages : List LegacyMessage := []
  messageWrites : List MessageWrite := []
  userIds : (users.map User.id).Nodup := by decide
  usernames : (users.map User.username).Nodup := by decide
  emails : (users.map User.email).Nodup := by decide
  roomIds : (rooms.map LegacyRoom.id).Nodup := by decide
  memberIds :
    (roomMembers.map fun member =>
      (member.userId, member.roomId)).Nodup := by decide
  messageIds : (messages.map LegacyMessage.id).Nodup := by decide
  messageKeys : (messages.filterMap LegacyMessage.key?).Nodup := by
    decide
  writeIds : (messageWrites.map MessageWrite.id).Nodup := by decide
  writeKeys : (messageWrites.map MessageWrite.key).Nodup := by decide
  memberUser :
    ∀ member ∈ roomMembers, member.userId ∈ users.map User.id := by
    decide
  memberRoom :
    ∀ member ∈ roomMembers,
      member.roomId ∈ rooms.map LegacyRoom.id := by decide
  messageSender :
    ∀ message ∈ messages, message.senderId ∈ users.map User.id := by
    decide
  messageRoom :
    ∀ message ∈ messages,
      message.roomId ∈ rooms.map LegacyRoom.id := by decide
  writeSender :
    ∀ write ∈ messageWrites, write.senderId ∈ users.map User.id := by
    decide
  writeRoom :
    ∀ write ∈ messageWrites,
      write.roomId ∈ rooms.map LegacyRoom.id := by decide

/-! ## The migration -/

/-- `ORDER BY "createdAt", "id"`. -/
def legacyBefore (engine : Engine) (left right : LegacyMessage) : Prop :=
  left.createdAt < right.createdAt ∨
    (left.createdAt = right.createdAt ∧
      engine.collates left.id right.id = true)

instance (engine : Engine) : DecidableRel (legacyBefore engine) :=
  fun left right =>
    inferInstanceAs
      (Decidable
        (left.createdAt < right.createdAt ∨
          (left.createdAt = right.createdAt ∧
            engine.collates left.id right.id = true)))

/-- `sequenced`: every message with its number in its room. -/
def sequenced (engine : Engine) (messages : List LegacyMessage) :
    List (LegacyMessage × Nat) :=
  rowNumber LegacyMessage.roomId (legacyBefore engine) messages

/-- The message with its new column. -/
def LegacyMessage.withSequence
    (message : LegacyMessage) (roomSequence : Nat) : Message :=
  { id := message.id
    content := message.content
    createdAt := message.createdAt
    requestId := message.requestId
    roomSequence := roomSequence
    senderId := message.senderId
    roomId := message.roomId }

/-- The row of `sequenced` with the id of a message sets its number. -/
def migrateMessage
    (numbered : List (LegacyMessage × Nat)) (message : LegacyMessage) :
    Message :=
  message.withSequence
    (((numbered.find? fun entry => entry.1.id == message.id).map
      Prod.snd).getD 0)

/--
The next number of a room is one above the largest number, and the default 1
where the room has no message.
-/
def migrateRoom (messages : List Message) (room : LegacyRoom) : Room :=
  { id := room.id
    name := room.name
    isGroup := room.isGroup
    createdAt := room.createdAt
    lastMessageAt := room.lastMessageAt
    nextMessageSeq :=
      match (roomSequences messages room.id).max? with
      | none => 1
      | some maxSequence => maxSequence + 1 }

def migrate (engine : Engine) (legacy : LegacyTables) : Database :=
  let messages :=
    legacy.messages.map
      (migrateMessage (sequenced engine legacy.messages))
  { users := legacy.users
    rooms := legacy.rooms.map (migrateRoom messages)
    roomMembers := legacy.roomMembers
    messages := messages
    messageWrites := legacy.messageWrites
    messageOutbox := [] }

/-! ## What the migration establishes -/

section Migrated

variable (engine : Engine) (legacy : LegacyTables)

/-- The migrated messages are the numbered rows in another order. -/
theorem migrate_messages_perm :
    (migrate engine legacy).messages.Perm
      ((sequenced engine legacy.messages).map fun entry =>
        entry.1.withSequence entry.2) := by
  have rows :=
    rowNumber_rows_perm LegacyMessage.roomId (legacyBefore engine)
      legacy.messages
  have ids :
      ((sequenced engine legacy.messages).map fun entry =>
        entry.1.id).Nodup := by
    have columns := rows.map LegacyMessage.id
    rw [List.map_map] at columns
    exact columns.nodup_iff.mpr legacy.messageIds
  have migrated :
      (migrate engine legacy).messages.Perm
        (((sequenced engine legacy.messages).map Prod.fst).map
          (migrateMessage (sequenced engine legacy.messages))) :=
    rows.symm.map _
  refine migrated.trans (List.Perm.of_eq ?_)
  rw [List.map_map]
  apply List.map_congr_left
  intro entry member
  have found := filter_unique_key ids member
  simp only [Function.comp_apply, migrateMessage]
  rw [← List.head?_filter, found]
  rfl

/-- Every room's messages are numbered `1, …, n`. -/
theorem migrate_roomSequences (roomId : RoomId) :
    (roomSequences (migrate engine legacy).messages roomId).Perm
      (List.range' 1
        (legacy.messages.countP fun message =>
          message.roomId = roomId)) := by
  have numbers :=
    rowNumber_numbers LegacyMessage.roomId (legacyBefore engine)
      legacy.messages roomId
  rw [← numbers]
  have perm :=
    ((migrate_messages_perm engine legacy).filter fun message =>
      message.roomId == roomId).map Message.roomSequence
  refine perm.trans (List.Perm.of_eq ?_)
  rw [List.filter_map, List.map_map]
  apply congrArg (List.map Prod.snd)
  apply List.filter_congr
  intro entry _
  rw [Bool.eq_iff_iff]
  simp [LegacyMessage.withSequence]

theorem max?_of_perm_range
    {numbers : List Nat} {count : Nat}
    (perm : numbers.Perm (List.range' 1 count)) (positive : 0 < count) :
    numbers.max? = some count := by
  rw [List.max?_eq_some_iff]
  constructor
  · exact perm.mem_iff.mpr (List.mem_range'_1.mpr ⟨positive, by omega⟩)
  · intro number member
    have bounds := List.mem_range'_1.mp (perm.mem_iff.mp member)
    omega

theorem migrate_numbered : Numbered (migrate engine legacy) := by
  intro room member
  rcases List.mem_map.mp member with ⟨old, _, rfl⟩
  have perm := migrate_roomSequences engine legacy old.id
  refine ⟨_, perm, ?_⟩
  change
    (match
        (roomSequences (migrate engine legacy).messages old.id).max? with
      | none => 1
      | some maxSequence => maxSequence + 1) = _
  generalize
    (legacy.messages.countP fun message => message.roomId = old.id) =
      count at perm ⊢
  cases count with
  | zero =>
      rw [List.perm_nil.mp perm]
      rfl
  | succ count =>
      rw [max?_of_perm_range perm (Nat.succ_pos count)]

/-- The migrated tables satisfy their constraints. -/
theorem migrate_valid : (migrate engine legacy).Valid := by
  have roomIds :
      (migrate engine legacy).rooms.map Room.id =
        legacy.rooms.map LegacyRoom.id := by
    simp only [migrate, List.map_map]
    rfl
  have hasRoom :
      ∀ id, id ∈ legacy.rooms.map LegacyRoom.id →
        (migrate engine legacy).hasRoom id = true := by
    intro id member
    rw [← roomIds] at member
    rcases List.mem_map.mp member with ⟨room, roomMember, same⟩
    exact (Database.hasRoom_iff _ _).mpr ⟨room, roomMember, same⟩
  have hasUser :
      ∀ id, id ∈ legacy.users.map User.id →
        (migrate engine legacy).hasUser id = true := by
    intro id member
    rcases List.mem_map.mp member with ⟨user, userMember, same⟩
    exact (Database.hasUser_iff _ _).mpr ⟨user, userMember, same⟩
  refine
    { users := legacy.userIds
      usernames := legacy.usernames
      emails := legacy.emails
      rooms := roomIds ▸ legacy.roomIds
      roomMembers := legacy.memberIds
      messages := ?_
      writeIds := legacy.writeIds
      writeKeys := legacy.writeKeys
      outboxIds := List.nodup_nil
      outboxEvents := List.nodup_nil
      memberUser := fun member inTable =>
        hasUser _ (legacy.memberUser member inTable)
      memberRoom := fun member inTable =>
        hasRoom _ (legacy.memberRoom member inTable)
      messageSender := ?_
      messageRoom := ?_
      writeSender := fun write inTable =>
        hasUser _ (legacy.writeSender write inTable)
      writeRoom := fun write inTable =>
        hasRoom _ (legacy.writeRoom write inTable)
      outboxMessage := fun row inTable => by simp [migrate] at inTable }
  · have symmetric :
        ∀ {old row : Message}, old.conflicts row = false →
          row.conflicts old = false :=
      Message.conflicts_symm
    rw [(migrate_messages_perm engine legacy).pairwise_iff symmetric,
      List.pairwise_map]
    have rows :=
      rowNumber_rows_perm LegacyMessage.roomId (legacyBefore engine)
        legacy.messages
    have ids :
        (sequenced engine legacy.messages).Pairwise fun old row =>
          old.1.id ≠ row.1.id := by
      have columns := rows.map LegacyMessage.id
      rw [List.map_map] at columns
      exact
        List.pairwise_map.mp
          (columns.nodup_iff.mpr legacy.messageIds)
    have keys :
        (sequenced engine legacy.messages).Pairwise fun old row =>
          ∀ key, row.1.key? = some key → old.1.key? ≠ some key := by
      have columns := rows.filterMap LegacyMessage.key?
      rw [List.filterMap_map] at columns
      have distinct := columns.nodup_iff.mpr legacy.messageKeys
      rw [List.Nodup, List.pairwise_filterMap] at distinct
      refine distinct.imp ?_
      intro old row different key rowKey oldKey
      exact different key oldKey key rowKey rfl
    have numbers :=
      rowNumber_pairwise_ne LegacyMessage.roomId (legacyBefore engine)
        legacy.messages
    refine ((ids.and keys).and numbers).imp ?_
    rintro old row ⟨⟨idNe, keyNe⟩, numberNe⟩
    rw [Message.conflicts_eq_false_iff]
    exact ⟨idNe, keyNe, numberNe⟩
  · intro message member
    rcases List.mem_map.mp member with ⟨old, oldMember, rfl⟩
    exact hasUser _ (legacy.messageSender old oldMember)
  · intro message member
    rcases List.mem_map.mp member with ⟨old, oldMember, rfl⟩
    exact hasRoom _ (legacy.messageRoom old oldMember)

end Migrated

/-- Two users in one room without messages. -/
def exampleTables : LegacyTables where
  users :=
    [{ id := "ana"
       username := "ana"
       displayName := "Ana"
       email := "ana@example.com"
       password := "hash"
       createdAt := 0 },
      { id := "ben"
        username := "ben"
        displayName := "Ben"
        email := "ben@example.com"
        password := "hash"
        createdAt := 0 }]
  rooms := [{ id := "room", createdAt := 0, lastMessageAt := 0 }]
  roomMembers :=
    [{ userId := "ana", roomId := "room", joinedAt := 0 },
      { userId := "ben", roomId := "room", joinedAt := 0 }]

end ChatBackend.Storage.SequenceMigration
