import ChatBackend.Writer.DeadLetters
import ChatBackend.Writer.InboxAcceptance

/-!
# Tables with the same inbox

Two databases that grew out of the same tables and are the same inbox have
the same rows: the same write rows, the same messages up to the numbers of
the new ones, the same outbox rows up to their times, and the same rooms with
both counters.
-/

namespace ChatBackend.Writer.InboxTables

open ChatBackend.Foundation.IdempotentInbox
open ChatBackend.Foundation.TableRows
open ChatBackend.Storage.Schema
open ChatBackend.Storage.SequenceMigration
open ChatBackend.Storage.TableInvariants
open ChatBackend.Writer.WriteCommands
open ChatBackend.Writer.BatchTransaction
open ChatBackend.Writer.BatchSpecification
open ChatBackend.Writer.BatchInvariants
open ChatBackend.Writer.DeadLetters
open ChatBackend.Writer.MessageInbox

/-! ## Growing tables -/

/-- A room without the columns that the writer changes. -/
def fixedColumns (room : Room) : Room :=
  { room with nextMessageSeq := 0, lastMessageAt := 0 }

/-- The writer adds messages and changes two columns of the rooms. -/
structure Extends (start db : Database) : Prop where
  users : db.users = start.users
  roomMembers : db.roomMembers = start.roomMembers
  rooms : db.rooms.map fixedColumns = start.rooms.map fixedColumns
  messages : ∃ added, db.messages = start.messages ++ added

section Growing

variable {start middle db : Database}

theorem Extends.refl (db : Database) : Extends db db :=
  ⟨rfl, rfl, rfl, [], (List.append_nil _).symm⟩

theorem Extends.trans
    (first : Extends start middle) (second : Extends middle db) :
    Extends start db := by
  rcases first.messages with ⟨early, earlyEq⟩
  rcases second.messages with ⟨late, lateEq⟩
  exact
    { users := second.users.trans first.users
      roomMembers := second.roomMembers.trans first.roomMembers
      rooms := second.rooms.trans first.rooms
      messages :=
        ⟨early ++ late, by rw [lateEq, earlyEq, List.append_assoc]⟩ }

theorem batchResult_extends
    (engine : Engine) (now : Timestamp) (db : Database)
    (input : List InputRow) :
    Extends db (batchResult engine now db input) :=
  { users := rfl
    roomMembers := rfl
    rooms := by
      simp only [batchResult, List.map_map]
      rfl
    messages := ⟨newMessages engine db input, rfl⟩ }

@[simp]
theorem entryOf_deadWrite
    (engine : Engine) (now : Timestamp) (messageWriteId : MessageId)
    (err : Failure) (write : MessageWrite) :
    entryOf (deadWrite engine now messageWriteId err write) =
      entryOf write := by
  unfold deadWrite
  split <;> rfl

theorem writeDeadLetter_extends
    (engine : Engine) (now : Timestamp) (db : Database)
    (command : MessageWriteCommand) (err : Failure)
    (existing : Option MessageId) :
    Extends db (writeDeadLetter engine now db command err existing) := by
  rcases writeDeadLetter_cases engine now db command err existing with
    ⟨messageWriteId, marked⟩ | same | created
  · rw [marked]
    exact ⟨rfl, rfl, rfl, [], (List.append_nil _).symm⟩
  · rw [same]
    exact Extends.refl db
  · rcases createDeadLetter_ok created with ⟨_, _, _, createdEq⟩
    rw [createdEq]
    exact ⟨rfl, rfl, rfl, [], (List.append_nil _).symm⟩

theorem Extends.roomIds (grown : Extends start db) :
    db.rooms.map Room.id = start.rooms.map Room.id := by
  have ids := congrArg (List.map Room.id) grown.rooms
  rw [List.map_map, List.map_map] at ids
  exact ids

/-- The writer changes neither the users nor the rooms that exist. -/
theorem Extends.directory (grown : Extends start db) :
    InboxAcceptance.directoryOf db =
      InboxAcceptance.directoryOf start := by
  simp only [InboxAcceptance.directoryOf, Database.hasUser, grown.users,
    Database.hasRoom_congr grown.roomIds]

end Growing

/-! ## The same rows -/

/-- A write row, with its time of failure or without it. -/
def comparedWrite
    (ignoreFailedAt : Bool) (write : MessageWrite) : MessageWrite :=
  if ignoreFailedAt then { write with failedAt := none } else write

/-- Two databases which grew out of `start` have the same rows. -/
structure SameTables
    (ignoreFailedAt : Bool) (start left right : Database) : Prop where
  users : left.users = right.users
  roomMembers : left.roomMembers = right.roomMembers
  rooms : left.rooms = right.rooms
  messages :
    ∃ addedLeft addedRight,
      left.messages = start.messages ++ addedLeft ∧
        right.messages = start.messages ++ addedRight ∧
        (addedLeft.map unnumbered).Perm (addedRight.map unnumbered) ∧
        ∀ roomId,
          (roomSequences addedLeft roomId).Perm
            (roomSequences addedRight roomId)
  messageWrites :
    (left.messageWrites.map (comparedWrite ignoreFailedAt)).Perm
      (right.messageWrites.map (comparedWrite ignoreFailedAt))
  messageOutbox :
    (left.messageOutbox.map timeless).Perm
      (right.messageOutbox.map timeless)

section Same

variable {ignoreFailedAt : Bool} {start left right : Database}

@[simp]
theorem comparedWrite_key (write : MessageWrite) :
    (comparedWrite ignoreFailedAt write).key = write.key := by
  unfold comparedWrite
  split <;> rfl

theorem comparedWrite_eq
    {first second : MessageWrite}
    (sameEntry : entryOf first = entryOf second)
    (sameProgress :
      progressOf ignoreFailedAt first =
        progressOf ignoreFailedAt second) :
    comparedWrite ignoreFailedAt first =
      comparedWrite ignoreFailedAt second := by
  cases first
  cases second
  cases ignoreFailedAt <;>
    simp_all [entryOf, progressOf, comparedWrite]

theorem messages_perm
    (leftValid : left.Valid) (rightValid : right.Valid)
    (same : inboxOf ignoreFailedAt left = inboxOf ignoreFailedAt right) :
    (left.messages.map unnumbered).Perm
      (right.messages.map unnumbered) := by
  apply perm_of_members Message.id
  · rw [List.map_map]
    exact message_ids_nodup leftValid
  · rw [List.map_map]
    exact message_ids_nodup rightValid
  · intro item
    rw [← mem_items ignoreFailedAt, same, mem_items]

theorem writes_perm
    (leftValid : left.Valid) (rightValid : right.Valid)
    (same : inboxOf ignoreFailedAt left = inboxOf ignoreFailedAt right) :
    (left.messageWrites.map (comparedWrite ignoreFailedAt)).Perm
      (right.messageWrites.map (comparedWrite ignoreFailedAt)) := by
  have transfer :
      ∀ {source target : Database}, source.Valid → target.Valid →
        inboxOf ignoreFailedAt source = inboxOf ignoreFailedAt target →
          ∀ row ∈ source.messageWrites.map (comparedWrite ignoreFailedAt),
            row ∈
              target.messageWrites.map
                (comparedWrite ignoreFailedAt) := by
    intro source target sourceValid targetValid sameInbox row member
    rcases List.mem_map.mp member with ⟨write, writeMember, rfl⟩
    have stored :
        entryOf write ∈ (inboxOf ignoreFailedAt source).entries :=
      (mem_entries ignoreFailedAt).mpr (List.mem_map_of_mem writeMember)
    have progress :=
      progress_of_mem ignoreFailedAt sourceValid writeMember
    rw [sameInbox] at stored progress
    rcases stored with ⟨other, otherMember, sameEntry⟩
    have sameKey := congrArg MessageWrite.key sameEntry
    change other.key = write.key at sameKey
    rw [← sameKey, progress_of_mem ignoreFailedAt targetValid otherMember]
      at progress
    rw [← comparedWrite_eq sameEntry progress]
    exact List.mem_map_of_mem otherMember
  apply perm_of_members MessageWrite.key
  · simpa [List.map_map, Function.comp_def] using leftValid.writeKeys
  · simpa [List.map_map, Function.comp_def] using rightValid.writeKeys
  · intro row
    exact
      ⟨transfer leftValid rightValid same row,
        transfer rightValid leftValid same.symm row⟩

theorem outbox_perm
    (leftValid : left.Valid) (rightValid : right.Valid)
    (same : inboxOf ignoreFailedAt left = inboxOf ignoreFailedAt right) :
    (left.messageOutbox.map timeless).Perm
      (right.messageOutbox.map timeless) := by
  apply perm_of_members MessageOutbox.id
  · rw [List.map_map]
    exact leftValid.outboxIds
  · rw [List.map_map]
    exact rightValid.outboxIds
  · intro row
    rw [← enqueued_iff ignoreFailedAt, same, enqueued_iff]

/-- The number of messages of a room decides its next number. -/
theorem nextMessageSeq_eq
    {db : Database} (numbered : Numbered db)
    {room : Room} (member : room ∈ db.rooms) :
    room.nextMessageSeq =
      ((db.messages.map unnumbered).filter fun message =>
        message.roomId == room.id).length + 1 := by
  rcases numbered room member with ⟨count, perm, next⟩
  have size := perm.length_eq
  rw [List.length_range', roomSequences, List.length_map] at size
  rw [next, ← size, List.filter_map, List.length_map]
  rfl

theorem roomSequences_nil_of_absent
    {db : Database} (valid : db.Valid) {roomId : RoomId}
    (absent : ∀ room ∈ db.rooms, room.id ≠ roomId) :
    roomSequences db.messages roomId = [] := by
  rw [roomSequences, List.map_eq_nil_iff, List.filter_eq_nil_iff]
  intro message member inRoom
  have stored := valid.messageRoom message member
  rcases (Database.hasRoom_iff db message.roomId).mp stored with
    ⟨room, roomMember, sameRoom⟩
  exact absent room roomMember (sameRoom.trans (beq_iff_eq.mp inRoom))

/-- Rooms of one id agree in all columns. -/
theorem room_eq
    (leftSound : Sound left) (rightSound : Sound right)
    (same : inboxOf ignoreFailedAt left = inboxOf ignoreFailedAt right)
    {room other : Room} (member : room ∈ left.rooms)
    (otherMember : other ∈ right.rooms)
    (sameColumns : fixedColumns room = fixedColumns other) :
    room = other := by
  have sameId := congrArg Room.id sameColumns
  change room.id = other.id at sameId
  have sameNext : room.nextMessageSeq = other.nextMessageSeq := by
    rw [nextMessageSeq_eq leftSound.numbered member,
      nextMessageSeq_eq rightSound.numbered otherMember, sameId,
      ((messages_perm leftSound.valid rightSound.valid same).filter
        _).length_eq]
  have sameLast : room.lastMessageAt = other.lastMessageAt := by
    apply eq_of_forall_le_iff
    intro time
    rw [← active_iff ignoreFailedAt leftSound.valid member, same, sameId,
      active_iff ignoreFailedAt rightSound.valid otherMember]
  cases room
  cases other
  simp_all [fixedColumns]

/-- Databases which are the same inbox have the same rows. -/
theorem sameTables_of_inbox
    (leftSound : Sound left) (rightSound : Sound right)
    (leftGrown : Extends start left) (rightGrown : Extends start right)
    (same : inboxOf ignoreFailedAt left = inboxOf ignoreFailedAt right) :
    SameTables ignoreFailedAt start left right := by
  have rooms : left.rooms = right.rooms :=
    eq_of_map_eq (leftGrown.rooms.trans rightGrown.rooms.symm)
      fun room member other otherMember sameColumns =>
        room_eq leftSound rightSound same member otherMember sameColumns
  have messages :=
    messages_perm leftSound.valid rightSound.valid same
  rcases leftGrown.messages with ⟨addedLeft, leftEq⟩
  rcases rightGrown.messages with ⟨addedRight, rightEq⟩
  refine
    { users := leftGrown.users.trans rightGrown.users.symm
      roomMembers :=
        leftGrown.roomMembers.trans rightGrown.roomMembers.symm
      rooms := rooms
      messages :=
        ⟨addedLeft, addedRight, leftEq, rightEq, ?_, ?_⟩
      messageWrites := writes_perm leftSound.valid rightSound.valid same
      messageOutbox := outbox_perm leftSound.valid rightSound.valid same }
  · rw [leftEq, rightEq, List.map_append, List.map_append,
      List.perm_append_left_iff] at messages
    exact messages
  · intro roomId
    rw [← List.perm_append_left_iff (roomSequences start.messages roomId),
      ← roomSequences_append, ← roomSequences_append, ← leftEq, ← rightEq]
    by_cases stored : ∃ room ∈ left.rooms, room.id = roomId
    · rcases stored with ⟨room, member, rfl⟩
      rcases leftSound.numbered room member with
        ⟨leftCount, leftPerm, leftNext⟩
      rcases rightSound.numbered room (rooms ▸ member) with
        ⟨rightCount, rightPerm, rightNext⟩
      have sameCount : leftCount = rightCount := by omega
      rw [sameCount] at leftPerm
      exact leftPerm.trans rightPerm.symm
    · have absent : ∀ room ∈ left.rooms, room.id ≠ roomId :=
        fun room member same => stored ⟨room, member, same⟩
      rw [roomSequences_nil_of_absent leftSound.valid absent,
        roomSequences_nil_of_absent rightSound.valid (rooms ▸ absent)]

end Same

end ChatBackend.Writer.InboxTables
