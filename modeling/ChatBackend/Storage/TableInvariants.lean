import ChatBackend.Storage.SequenceMigration
import Mathlib.Data.List.Pairwise

/-!
# Edits that keep the tables sound

A database is sound when it satisfies its constraints and every room is
numbered without gaps.  The lemmas below are stated for the edit of one table
each, so that a transaction is handled one edit at a time.

`Numbered.allocate` is the one argument behind both ways in which the
services number messages: a range of numbers is reserved in a room, and
messages with exactly these numbers are added.
-/

namespace ChatBackend.Storage.TableInvariants

open ChatBackend.Foundation.TableRows
open ChatBackend.Storage.Schema
open ChatBackend.Storage.SequenceMigration

/-! ## Constraints -/

section Constraints

variable {db : Database}

/-- Rooms may change in every column but their id. -/
theorem withRooms_valid
    (valid : db.Valid) (rooms : List Room)
    (sameIds : rooms.map Room.id = db.rooms.map Room.id) :
    { db with rooms := rooms }.Valid := by
  have sameRooms :
      ∀ id, ({ db with rooms := rooms } : Database).hasRoom id =
        db.hasRoom id :=
    Database.hasRoom_congr sameIds
  exact
    { users := valid.users
      usernames := valid.usernames
      emails := valid.emails
      rooms := sameIds ▸ valid.rooms
      roomMembers := valid.roomMembers
      messages := valid.messages
      writeIds := valid.writeIds
      writeKeys := valid.writeKeys
      outboxIds := valid.outboxIds
      outboxEvents := valid.outboxEvents
      memberUser := valid.memberUser
      memberRoom := fun member inTable => by
        rw [sameRooms]
        exact valid.memberRoom member inTable
      messageSender := valid.messageSender
      messageRoom := fun message inTable => by
        rw [sameRooms]
        exact valid.messageRoom message inTable
      writeSender := valid.writeSender
      writeRoom := fun write inTable => by
        rw [sameRooms]
        exact valid.writeRoom write inTable
      outboxMessage := valid.outboxMessage }

theorem withWrites_valid
    (valid : db.Valid) (writes : List MessageWrite)
    (ids : (writes.map MessageWrite.id).Nodup)
    (keys : (writes.map MessageWrite.key).Nodup)
    (senders : ∀ write ∈ writes, db.hasUser write.senderId)
    (rooms : ∀ write ∈ writes, db.hasRoom write.roomId) :
    { db with messageWrites := writes }.Valid :=
  { valid with
    writeIds := ids
    writeKeys := keys
    writeSender := senders
    writeRoom := rooms }

/-- Write rows may change in the columns that no constraint mentions. -/
theorem mapWrites_valid
    (valid : db.Valid) {change : MessageWrite → MessageWrite}
    (sameId : ∀ write, (change write).id = write.id)
    (sameKey : ∀ write, (change write).key = write.key)
    (sameRoom : ∀ write, (change write).roomId = write.roomId) :
    { db with messageWrites := db.messageWrites.map change }.Valid := by
  apply withWrites_valid valid
  · rw [List.map_map]
    simpa only [Function.comp_def, sameId] using valid.writeIds
  · rw [List.map_map]
    simpa only [Function.comp_def, sameKey] using valid.writeKeys
  · intro write member
    rcases List.mem_map.mp member with ⟨old, oldMember, rfl⟩
    have sameSender := congrArg Prod.fst (sameKey old)
    change (change old).senderId = old.senderId at sameSender
    rw [sameSender]
    exact valid.writeSender old oldMember
  · intro write member
    rcases List.mem_map.mp member with ⟨old, oldMember, rfl⟩
    rw [sameRoom]
    exact valid.writeRoom old oldMember

theorem appendMessages_valid
    (valid : db.Valid) (added : List Message)
    (compatible :
      ∀ row ∈ added, ∀ old ∈ db.messages, old.conflicts row = false)
    (pairwise :
      added.Pairwise fun old row => old.conflicts row = false)
    (senders : ∀ row ∈ added, db.hasUser row.senderId)
    (rooms : ∀ row ∈ added, db.hasRoom row.roomId) :
    { db with messages := db.messages ++ added }.Valid :=
  { valid with
    messages := by
      rw [List.pairwise_append]
      exact
        ⟨valid.messages, pairwise,
          fun old oldMember row member =>
            compatible row member old oldMember⟩
    messageSender := fun message inTable =>
      (List.mem_append.mp inTable).elim (valid.messageSender message)
        (senders message)
    messageRoom := fun message inTable =>
      (List.mem_append.mp inTable).elim (valid.messageRoom message)
        (rooms message)
    outboxMessage := fun row inTable => by
      rcases valid.outboxMessage row inTable with ⟨message, member, same⟩
      exact ⟨message, List.mem_append_left _ member, same⟩ }

theorem withOutbox_valid
    (valid : db.Valid) (outbox : List MessageOutbox)
    (ids : (outbox.map MessageOutbox.id).Nodup)
    (events : (outbox.map MessageOutbox.event).Nodup)
    (references :
      ∀ row ∈ outbox,
        ∃ message ∈ db.messages, message.id = row.messageId) :
    { db with messageOutbox := outbox }.Valid :=
  { valid with
    outboxIds := ids
    outboxEvents := events
    outboxMessage := references }

/-- Outbox rows may change in the columns that no constraint mentions. -/
theorem mapOutbox_valid
    (valid : db.Valid) {change : MessageOutbox → MessageOutbox}
    (sameId : ∀ row, (change row).id = row.id)
    (sameEvent : ∀ row, (change row).event = row.event) :
    { db with messageOutbox := db.messageOutbox.map change }.Valid := by
  apply withOutbox_valid valid
  · rw [List.map_map]
    simpa only [Function.comp_def, sameId] using valid.outboxIds
  · rw [List.map_map]
    simpa only [Function.comp_def, sameEvent] using valid.outboxEvents
  · intro row member
    rcases List.mem_map.mp member with ⟨old, oldMember, rfl⟩
    have sameMessage := congrArg Prod.snd (sameEvent old)
    change (change old).messageId = old.messageId at sameMessage
    rw [sameMessage]
    exact valid.outboxMessage old oldMember

theorem message_ids_nodup (valid : db.Valid) :
    (db.messages.map Message.id).Nodup := by
  rw [List.Nodup, List.pairwise_map]
  refine valid.messages.imp fun apart => ?_
  exact ((Message.conflicts_eq_false_iff _ _).mp apart).1

/-- Two messages of a valid table do not share an id or a key. -/
theorem message_separate
    (valid : db.Valid) {left right : Message}
    (leftMember : left ∈ db.messages) (rightMember : right ∈ db.messages)
    (shared :
      left.id = right.id ∨
        ∃ key, left.key? = some key ∧ right.key? = some key) :
    left = right := by
  by_contra different
  have symmetric :
      Std.Symm fun old row : Message => old.conflicts row = false :=
    ⟨fun _ _ => Message.conflicts_symm⟩
  have apart :=
    valid.messages.forall leftMember rightMember different
  rw [Message.conflicts_eq_false_iff] at apart
  rcases shared with sameId | ⟨key, leftKey, rightKey⟩
  · exact apart.1 sameId
  · exact apart.2.1 key rightKey leftKey

end Constraints

/-! ## Numbering -/

/-- Numbering only concerns the messages and the numbers of the rooms. -/
theorem numbered_of_same
    {first second : Database}
    (numbered : Numbered first)
    (sameMessages : second.messages = first.messages)
    (sameRooms :
      second.rooms.map (fun room => (room.id, room.nextMessageSeq)) =
        first.rooms.map fun room => (room.id, room.nextMessageSeq)) :
    Numbered second := by
  intro room member
  have inFirst :
      (room.id, room.nextMessageSeq) ∈
        first.rooms.map fun room => (room.id, room.nextMessageSeq) := by
    rw [← sameRooms]
    exact
      List.mem_map_of_mem
        (f := fun room : Room => (room.id, room.nextMessageSeq)) member
  rcases List.mem_map.mp inFirst with ⟨old, oldMember, same⟩
  simp only [Prod.mk.injEq] at same
  rw [sameMessages, ← same.1, ← same.2]
  exact numbered old oldMember

/-- Reserve a range in every room and add messages with its numbers. -/
theorem numbered_allocate
    {first second : Database} {added : List Message}
    (advance : Room → Room) (count : RoomId → Nat)
    (numbered : Numbered first)
    (messages : second.messages = first.messages ++ added)
    (rooms : second.rooms = first.rooms.map advance)
    (sameId : ∀ room, (advance room).id = room.id)
    (advanced :
      ∀ room ∈ first.rooms,
        (advance room).nextMessageSeq =
          room.nextMessageSeq + count room.id)
    (reserved :
      ∀ room ∈ first.rooms,
        (roomSequences added room.id).Perm
          (List.range' room.nextMessageSeq (count room.id))) :
    Numbered second := by
  intro room member
  rw [rooms] at member
  rcases List.mem_map.mp member with ⟨old, oldMember, rfl⟩
  rcases numbered old oldMember with ⟨size, perm, next⟩
  refine ⟨size + count old.id, ?_, ?_⟩
  · rw [messages, sameId, roomSequences_append,
      ← List.range'_append_1]
    apply perm.append
    have range := reserved old oldMember
    rwa [next, Nat.add_comm] at range
  · rw [advanced old oldMember, next]
    omega

/-- No message carries a number that its room has not given out. -/
theorem sequence_lt_next
    {db : Database} (numbered : Numbered db)
    {message : Message} (member : message ∈ db.messages)
    {room : Room} (roomMember : room ∈ db.rooms)
    (inRoom : room.id = message.roomId) :
    message.roomSequence < room.nextMessageSeq := by
  rcases numbered room roomMember with ⟨count, perm, next⟩
  have listed := mem_roomSequences member
  rw [← inRoom] at listed
  have bounds := List.mem_range'_1.mp (perm.mem_iff.mp listed)
  omega

/-- What every transaction of the services keeps. -/
structure Sound (db : Database) : Prop where
  valid : db.Valid
  numbered : Numbered db

theorem migrate_sound (engine : Engine) (legacy : LegacyTables) :
    Sound (migrate engine legacy) :=
  { valid := migrate_valid engine legacy
    numbered := migrate_numbered engine legacy }

end ChatBackend.Storage.TableInvariants
