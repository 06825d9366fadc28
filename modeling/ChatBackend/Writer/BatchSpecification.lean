import ChatBackend.Writer.BatchTransaction

/-!
# What a batch transaction does

The statements of the batch transaction are summed up by one database,
`batchResult`, and one condition, `BatchAccepted`.  `batch_ok_iff` says that
the transaction succeeds exactly under this condition, and then with this
result, on every database that satisfies its constraints and in which every
message is numbered below the next number of its room.

Later modules use these two definitions and never unfold a statement.
-/

namespace ChatBackend.Writer.BatchSpecification

open ChatBackend.Foundation.TableRows
open ChatBackend.Foundation.RowNumbering
open ChatBackend.Foundation.Transactions
open ChatBackend.Storage.Schema
open ChatBackend.Writer.WriteCommands
open ChatBackend.Writer.BatchTransaction

/-- Every message is numbered below the next number of its room. -/
def SequencesBelow (db : Database) : Prop :=
  ∀ message ∈ db.messages, ∀ room ∈ db.rooms,
    room.id = message.roomId →
      message.roomSequence < room.nextMessageSeq

/-- The next number of a room; a missing room counts as a new one. -/
def nextSequence (rooms : List Room) (roomId : RoomId) : Nat :=
  ((rooms.find? fun room => room.id == roomId).map
    Room.nextMessageSeq).getD 1

theorem nextSequence_of_mem
    {rooms : List Room} (unique : (rooms.map Room.id).Nodup)
    {room : Room} (member : room ∈ rooms) :
    nextSequence rooms room.id = room.nextMessageSeq := by
  have found := filter_unique_key unique member
  rw [nextSequence, ← List.head?_filter, found]
  rfl

/-! ## The result of a batch -/

/-- The write rows that the batch inserts. -/
def newWrites (db : Database) (input : List InputRow) :
    List MessageWrite :=
  (input.map InputRow.toMessageWrite).filter fun row =>
    !db.messageWrites.any fun old => sameWriteKey old row

/-- The database after the write rows are inserted. -/
def staged (db : Database) (input : List InputRow) : Database :=
  { db with messageWrites := db.messageWrites ++ newWrites db input }

/-- The message rows that the batch inserts, in the order of numbering. -/
def newMessages
    (engine : Engine) (db : Database) (input : List InputRow) :
    List Message :=
  (candidates engine (staged db input) input).map fun candidate =>
    candidateMessage candidate
      (nextSequence db.rooms candidate.1.write.roomId)

/-- The new messages with the connections they came from. -/
def newRows
    (engine : Engine) (db : Database) (input : List InputRow) :
    List BatchPersistedMessageRow :=
  (candidates engine (staged db input) input).map fun candidate =>
    { message :=
        candidateMessage candidate
          (nextSequence db.rooms candidate.1.write.roomId)
      originConnectionId := candidate.1.originConnectionId }

/-- The outbox rows that the batch inserts. -/
def newOutbox
    (engine : Engine) (now : Timestamp) (db : Database)
    (input : List InputRow) : List MessageOutbox :=
  (newRows engine db input).map fun row =>
    outboxRow engine now row.message.id row.originConnectionId

/-- The messages that can settle a write row. -/
def settlingMessages
    (engine : Engine) (db : Database) (input : List InputRow) :
    List Message :=
  allMessages (staged db input) (writeRows (staged db input) input)
    (newMessages engine db input)

/-- A write row after the batch. -/
def settle (messages : List Message) (write : MessageWrite) :
    MessageWrite :=
  (settledWrite messages write).getD write

/-- A room after its range is allocated and its time moved forward. -/
def advanceRoom
    (engine : Engine) (db : Database) (input : List InputRow)
    (room : Room) : Room :=
  let count := messageCount engine (staged db input) input room.id
  { room with
    nextMessageSeq := room.nextMessageSeq + count
    lastMessageAt :=
      match maxByRoom
          ((newRows engine db input).insertionSort
            (createdBefore engine)) room.id with
      | none => room.lastMessageAt
      | some latest => max room.lastMessageAt latest }

/-- The database which a successful batch commits. -/
def batchResult
    (engine : Engine) (now : Timestamp) (db : Database)
    (input : List InputRow) : Database :=
  { db with
    rooms := db.rooms.map (advanceRoom engine db input)
    messages := db.messages ++ newMessages engine db input
    messageWrites :=
      (staged db input).messageWrites.map
        (settle (settlingMessages engine db input))
    messageOutbox :=
      db.messageOutbox ++ newOutbox engine now db input }

/-- A command agrees with the write row of its key. -/
def MatchesWrite
    (write : MessageWrite) (command : MessageWriteCommand) : Prop :=
  write.key = command.key ∧ write.id = command.messageId ∧
    write.roomId = command.roomId ∧ write.content = command.body

instance (write : MessageWrite) (command : MessageWriteCommand) :
    Decidable (MatchesWrite write command) :=
  inferInstanceAs (Decidable (_ ∧ _ ∧ _ ∧ _))

/-- The write rows of the batch break no constraint. -/
structure WritesAccepted (db : Database) (input : List InputRow) :
    Prop where
  freshIds :
    ∀ row ∈ newWrites db input, ∀ old ∈ db.messageWrites,
      old.id ≠ row.id
  distinctIds :
    (newWrites db input).Pairwise fun old row => old.id ≠ row.id
  senders : ∀ row ∈ newWrites db input, db.hasUser row.senderId
  rooms : ∀ row ∈ newWrites db input, db.hasRoom row.roomId

/-- The condition under which a batch succeeds. -/
structure BatchAccepted
    (engine : Engine) (now : Timestamp) (db : Database)
    (deduped : List MessageWriteCommand) (input : List InputRow) :
    Prop extends WritesAccepted db input where
  matched :
    ∀ command ∈ deduped,
      ∃ write ∈ (staged db input).messageWrites,
        MatchesWrite write command
  freshOutboxIds :
    ∀ row ∈ newOutbox engine now db input, ∀ old ∈ db.messageOutbox,
      old.id ≠ row.id
  distinctOutboxIds :
    (newOutbox engine now db input).Pairwise fun old row =>
      old.id ≠ row.id

/-! ## The input rows -/

theorem mem_messageWriteInput
    {commands : List MessageWriteCommand}
    {origin : Option ConnectionId} {row : InputRow} :
    row ∈ messageWriteInput commands origin ↔
      ∃ command ∈ commands,
        row =
          { messageId := command.messageId
            requestId := command.requestId
            senderId := command.senderId
            roomId := command.roomId
            body := command.body
            acceptedAt := command.acceptedAt
            originConnectionId :=
              command.originConnectionId.or origin } := by
  simp only [messageWriteInput, List.mem_map]
  constructor
  · rintro ⟨command, member, rfl⟩
    exact ⟨command, member, rfl⟩
  · rintro ⟨command, member, rfl⟩
    exact ⟨command, member, rfl⟩

@[simp]
theorem toMessageWrite_key (row : InputRow) :
    row.toMessageWrite.key = row.key :=
  rfl

theorem messageWriteInput_keys
    (commands : List MessageWriteCommand)
    (origin : Option ConnectionId) :
    (messageWriteInput commands origin).map InputRow.key =
      commands.map MessageWriteCommand.key := by
  simp only [messageWriteInput, List.map_map]
  rfl

/-! ## Joining write rows with the input -/

theorem mem_writeRows
    {view : Database} {input : List InputRow} {row : WriteRow} :
    row ∈ writeRows view input ↔
      row.write ∈ view.messageWrites ∧
        ∃ source ∈ input, source.key = row.write.key ∧
          source.originConnectionId = row.originConnectionId := by
  simp only [writeRows, List.mem_flatMap, List.mem_map,
    List.mem_filter, beq_iff_eq]
  constructor
  · rintro ⟨write, writeMember, source, ⟨sourceMember, same⟩, rfl⟩
    exact ⟨writeMember, source, sourceMember, same, rfl⟩
  · rintro ⟨writeMember, source, sourceMember, same, origin⟩
    exact
      ⟨row.write, writeMember, source, ⟨sourceMember, same⟩,
        by rw [origin]⟩

/-- With one input row for each key the join never repeats a write row. -/
theorem writeRows_writes
    (view : Database) {input : List InputRow}
    (unique : (input.map InputRow.key).Nodup) :
    (writeRows view input).map WriteRow.write =
      view.messageWrites.filter fun write =>
        input.any fun row => row.key == write.key := by
  unfold writeRows
  induction view.messageWrites with
  | nil => rfl
  | cons write rest induction =>
      rw [List.flatMap_cons, List.map_append, induction]
      have count := length_filter_unique_key unique write.key
      cases joined :
          input.filter fun row => row.key == write.key with
      | nil =>
          rw [joined] at count
          by_cases found :
              input.any (fun row => row.key == write.key) = true
          · simp [found] at count
          · simp [found]
      | cons row others =>
          rw [joined] at count
          by_cases found :
              input.any (fun row => row.key == write.key) = true
          · rw [if_pos found, List.length_cons] at count
            have noOthers : others = [] :=
              List.length_eq_zero_iff.mp (by omega)
            simp [found, noOthers]
          · simp [found] at count

/-! ## The staged write rows -/

section Staged

variable {db : Database} {input : List InputRow}

theorem mem_newWrites {write : MessageWrite} :
    write ∈ newWrites db input ↔
      (∃ row ∈ input, row.toMessageWrite = write) ∧
        ∀ old ∈ db.messageWrites, old.key ≠ write.key := by
  simp [newWrites, sameWriteKey]

theorem newWrites_keys_sublist :
    ((newWrites db input).map MessageWrite.key).Sublist
      (input.map InputRow.key) := by
  have kept :
      (newWrites db input).Sublist (input.map InputRow.toMessageWrite) :=
    List.filter_sublist
  have keys := kept.map MessageWrite.key
  rw [List.map_map] at keys
  exact keys

theorem staged_writeKeys
    (valid : db.Valid) (unique : (input.map InputRow.key).Nodup) :
    ((staged db input).messageWrites.map MessageWrite.key).Nodup := by
  simp only [staged, List.map_append, List.nodup_append]
  refine
    ⟨valid.writeKeys, newWrites_keys_sublist.nodup unique, ?_⟩
  intro oldKey oldMember newKey newMember same
  rcases List.mem_map.mp oldMember with ⟨old, oldIn, rfl⟩
  rcases List.mem_map.mp newMember with ⟨new, newIn, rfl⟩
  exact (mem_newWrites.mp newIn).2 old oldIn same

theorem staged_writeIds
    (valid : db.Valid) (accepted : WritesAccepted db input) :
    ((staged db input).messageWrites.map MessageWrite.id).Nodup := by
  simp only [staged, List.map_append, List.nodup_append]
  refine
    ⟨valid.writeIds, List.pairwise_map.mpr accepted.distinctIds, ?_⟩
  intro oldId oldMember newId newMember same
  rcases List.mem_map.mp oldMember with ⟨old, oldIn, rfl⟩
  rcases List.mem_map.mp newMember with ⟨new, newIn, rfl⟩
  exact accepted.freshIds new newIn old oldIn same

theorem staged_writeSender
    (valid : db.Valid) (accepted : WritesAccepted db input) :
    ∀ write ∈ (staged db input).messageWrites,
      db.hasUser write.senderId = true := by
  intro write member
  rcases List.mem_append.mp member with old | new
  · exact valid.writeSender write old
  · exact accepted.senders write new

theorem staged_writeRoom
    (valid : db.Valid) (accepted : WritesAccepted db input) :
    ∀ write ∈ (staged db input).messageWrites,
      db.hasRoom write.roomId = true := by
  intro write member
  rcases List.mem_append.mp member with old | new
  · exact valid.writeRoom write old
  · exact accepted.rooms write new

end Staged

/-! ## Candidates -/

section Candidates

variable {engine : Engine} {view : Database} {input : List InputRow}

theorem isCandidate_iff {row : WriteRow} :
    isCandidate view row = true ↔
      row.write.status ≠ .dead ∧
        ∀ message ∈ view.messages,
          message.id ≠ row.write.id ∧
            message.key? ≠ some row.write.key := by
  simp [isCandidate, not_or]

theorem mem_candidates {candidate : WriteRow × Nat}
    (member : candidate ∈ candidates engine view input) :
    candidate.1 ∈ writeRows view input ∧
      isCandidate view candidate.1 = true :=
  List.mem_filter.mp (mem_rowNumber_row _ _ member)

theorem exists_candidate
    (engine : Engine) {view : Database} {input : List InputRow}
    {row : WriteRow}
    (member : row ∈ writeRows view input)
    (candidate : isCandidate view row = true) :
    ∃ number, (row, number) ∈ candidates engine view input :=
  exists_number_of_mem _ _
    (List.mem_filter.mpr ⟨member, candidate⟩)

/-- The write rows of the candidates are distinct rows of the table. -/
theorem candidates_writes
    (engine : Engine) (view : Database) {input : List InputRow}
    (unique : (input.map InputRow.key).Nodup) :
    ∃ writes : List MessageWrite,
      writes.Sublist view.messageWrites ∧
        ((candidates engine view input).map
          fun candidate => candidate.1.write).Perm writes := by
  refine
    ⟨((writeRows view input).filter (isCandidate view)).map
        WriteRow.write, ?_, ?_⟩
  · have kept :
        ((writeRows view input).filter (isCandidate view)).Sublist
          (writeRows view input) :=
      List.filter_sublist
    refine (kept.map WriteRow.write).trans ?_
    rw [writeRows_writes view unique]
    exact List.filter_sublist
  · have numbered :=
      (rowNumber_rows_perm (fun row : WriteRow => row.write.roomId)
        (acceptedBefore engine)
        ((writeRows view input).filter (isCandidate view))).map
        WriteRow.write
    rw [List.map_map] at numbered
    exact numbered

/-- A column that is unique among write rows is unique among candidates. -/
theorem candidates_column_nodup
    (engine : Engine) (view : Database) {input : List InputRow}
    {Column : Type} {column : MessageWrite → Column}
    (unique : (input.map InputRow.key).Nodup)
    (columnUnique : (view.messageWrites.map column).Nodup) :
    ((candidates engine view input).map fun candidate =>
      column candidate.1.write).Nodup := by
  rcases candidates_writes engine view unique with ⟨writes, sublist, perm⟩
  have columns := perm.map column
  rw [List.map_map] at columns
  exact
    (columns.nodup_iff).mpr ((sublist.map column).nodup columnUnique)

theorem messageCount_pos {candidate : WriteRow × Nat}
    (member : candidate ∈ candidates engine view input) :
    0 < messageCount engine view input candidate.1.write.roomId := by
  rw [messageCount, List.countP_pos_iff]
  exact ⟨candidate, member, by simp⟩

/-- Candidates of one room have different numbers. -/
theorem candidates_numbers
    (engine : Engine) (view : Database) (input : List InputRow) :
    (candidates engine view input).Pairwise fun left right =>
      left.1.write.roomId = right.1.write.roomId →
        left.2 ≠ right.2 :=
  rowNumber_pairwise_ne (fun row : WriteRow => row.write.roomId)
    (acceptedBefore engine) _

theorem candidate_number_pos {candidate : WriteRow × Nat}
    (member : candidate ∈ candidates engine view input) :
    0 < candidate.2 := by
  have numbers :=
    rowNumber_numbers (fun row : WriteRow => row.write.roomId)
      (acceptedBefore engine)
      ((writeRows view input).filter (isCandidate view))
      candidate.1.write.roomId
  have inRange :
      candidate.2 ∈
        List.range' 1
          (((writeRows view input).filter (isCandidate view)).countP
            fun row =>
              row.write.roomId = candidate.1.write.roomId) := by
    rw [← numbers]
    exact
      List.mem_map_of_mem (f := Prod.snd)
        (List.mem_filter.mpr ⟨member, by simp⟩)
  exact (List.mem_range'_1.mp inRange).1

end Candidates

/-! ## Allocation -/

/-- A room with candidates reserves a range from its next number on. -/
theorem roomAllocations_filter
    {count : RoomId → Nat} {rooms : List Room}
    (unique : (rooms.map Room.id).Nodup)
    {room : Room} (member : room ∈ rooms)
    (positive : 0 < count room.id) :
    (roomAllocations count rooms).filter
        (fun allocation => allocation.id == room.id) =
      [{ id := room.id, startSequence := room.nextMessageSeq }] := by
  have allocated :
      allocatedRoom count room =
        some
          { room with
            nextMessageSeq := room.nextMessageSeq + count room.id } := by
    rw [allocatedRoom, if_neg (by omega)]
  have keepsId :
      ∀ old version, allocatedRoom count old = some version →
        version.id = old.id := by
    intro old version rewritten
    unfold allocatedRoom at rewritten
    split at rewritten
    · simp at rewritten
    · simp only [Option.some.injEq] at rewritten
      rw [← rewritten]
  have allocationIds :
      ((roomAllocations count rooms).map RoomAllocation.id).Nodup := by
    have ids :
        (roomAllocations count rooms).map RoomAllocation.id =
          (rooms.filterMap (allocatedRoom count)).map Room.id := by
      simp [roomAllocations, List.map_map]
    rw [ids]
    have sublist :
        ((rooms.filterMap (allocatedRoom count)).map
          Room.id).Sublist (rooms.map Room.id) := by
      clear member positive allocated unique ids
      induction rooms with
      | nil => exact List.Sublist.refl []
      | cons head rest induction =>
          cases rewritten : allocatedRoom count head with
          | none =>
              rw [List.filterMap_cons_none rewritten]
              exact induction.cons _
          | some version =>
              rw [List.filterMap_cons_some rewritten, List.map_cons,
                List.map_cons, keepsId head version rewritten]
              exact induction.cons_cons _
    exact sublist.nodup unique
  have allocationMember :
      { id := room.id, startSequence := room.nextMessageSeq } ∈
        roomAllocations count rooms := by
    unfold roomAllocations
    rw [List.mem_map]
    exact
      ⟨_, List.mem_filterMap.mpr ⟨room, member, allocated⟩, by simp⟩
  exact filter_unique_key allocationIds allocationMember

/-- Every candidate is offered once, numbered in the range of its room. -/
theorem offeredMessages_eq
    {count : RoomId → Nat} {rooms : List Room}
    (unique : (rooms.map Room.id).Nodup)
    {numbered : List (WriteRow × Nat)}
    (exists_room :
      ∀ candidate ∈ numbered,
        ∃ room ∈ rooms, room.id = candidate.1.write.roomId)
    (positive :
      ∀ candidate ∈ numbered, 0 < count candidate.1.write.roomId) :
    offeredMessages numbered (roomAllocations count rooms) =
      numbered.map fun candidate =>
        candidateMessage candidate
          (nextSequence rooms candidate.1.write.roomId) := by
  induction numbered with
  | nil => rfl
  | cons candidate rest induction =>
      rcases exists_room candidate (by simp) with
        ⟨room, roomMember, sameRoom⟩
      have allocation :=
        roomAllocations_filter unique roomMember
          (sameRoom ▸ positive candidate (by simp))
      have continued :=
        induction
          (fun other member =>
            exists_room other (List.mem_cons_of_mem _ member))
          (fun other member =>
            positive other (List.mem_cons_of_mem _ member))
      unfold offeredMessages at continued ⊢
      rw [List.flatMap_cons, continued, ← sameRoom, allocation,
        List.map_cons (a := candidate), ← sameRoom,
        nextSequence_of_mem unique roomMember]
      rfl

/-! ## Insertion of the messages -/

section Insertion

variable {engine : Engine} {now : Timestamp}
  {db : Database} {input : List InputRow}

theorem candidate_room
    (valid : db.Valid) (accepted : WritesAccepted db input)
    {candidate : WriteRow × Nat}
    (member : candidate ∈ candidates engine (staged db input) input) :
    ∃ room ∈ db.rooms, room.id = candidate.1.write.roomId := by
  have inTable := (mem_writeRows.mp (mem_candidates member).1).1
  exact
    (Database.hasRoom_iff db _).mp
      (staged_writeRoom valid accepted _ inTable)

theorem mem_newMessages {message : Message} :
    message ∈ newMessages engine db input ↔
      ∃ candidate ∈ candidates engine (staged db input) input,
        candidateMessage candidate
            (nextSequence db.rooms candidate.1.write.roomId) =
          message :=
  List.mem_map

/-- A new message takes no id, key or number of an existing message. -/
theorem newMessages_compatible
    (valid : db.Valid) (below : SequencesBelow db)
    (accepted : WritesAccepted db input) :
    ∀ row ∈ newMessages engine db input, ∀ old ∈ db.messages,
      old.conflicts row = false := by
  intro row member old oldMember
  rcases mem_newMessages.mp member with ⟨candidate, candidateMember, rfl⟩
  have isNew :=
    (isCandidate_iff.mp (mem_candidates candidateMember).2).2 old
      oldMember
  rcases candidate_room valid accepted candidateMember with
    ⟨room, roomMember, sameRoom⟩
  rw [Message.conflicts_eq_false_iff]
  refine ⟨isNew.1, ?_, ?_⟩
  · intro key rowKey
    rw [← rowKey]
    exact isNew.2
  · intro inRoom sameSequence
    have bound := below old oldMember room roomMember
      (sameRoom.trans inRoom.symm)
    have start := nextSequence_of_mem valid.rooms roomMember
    simp only [candidateMessage, ← sameRoom, start] at sameSequence
    omega

/-- New messages differ in id, key and number. -/
theorem newMessages_pairwise
    (valid : db.Valid) (accepted : WritesAccepted db input)
    (unique : (input.map InputRow.key).Nodup) :
    (newMessages engine db input).Pairwise fun old row =>
      old.conflicts row = false := by
  have ids :=
    candidates_column_nodup engine (staged db input) unique
      (staged_writeIds valid accepted)
  have keys :=
    candidates_column_nodup engine (staged db input) unique
      (staged_writeKeys valid unique)
  rw [List.Nodup, List.pairwise_map] at ids keys
  have numbers :=
    candidates_numbers engine (staged db input) input
  unfold newMessages
  rw [List.pairwise_map]
  refine
    (((ids.and keys).and numbers).imp_of_mem
      fun leftMember rightMember different => ?_)
  rcases different with ⟨⟨idNe, keyNe⟩, numberNe⟩
  rename_i left right
  rw [Message.conflicts_eq_false_iff]
  refine ⟨idNe, ?_, ?_⟩
  · intro key rightKey leftKey
    apply keyNe
    have same := leftKey.trans rightKey.symm
    simpa [Message.key?, candidateMessage, MessageWrite.key] using same
  · intro sameRoom sameSequence
    have different := numberNe sameRoom
    have leftPos := candidate_number_pos leftMember
    have rightPos := candidate_number_pos rightMember
    have rooms :
        left.1.write.roomId = right.1.write.roomId := sameRoom
    simp only [candidateMessage, rooms] at sameSequence
    omega

theorem newMessages_sender
    (valid : db.Valid) (accepted : WritesAccepted db input) :
    ∀ message ∈ newMessages engine db input,
      db.hasUser message.senderId = true := by
  intro message member
  rcases mem_newMessages.mp member with ⟨candidate, candidateMember, rfl⟩
  exact
    staged_writeSender valid accepted _
      (mem_writeRows.mp (mem_candidates candidateMember).1).1

theorem newMessages_room
    (valid : db.Valid) (accepted : WritesAccepted db input) :
    ∀ message ∈ newMessages engine db input,
      db.hasRoom message.roomId = true := by
  intro message member
  rcases mem_newMessages.mp member with ⟨candidate, candidateMember, rfl⟩
  exact
    staged_writeRoom valid accepted _
      (mem_writeRows.mp (mem_candidates candidateMember).1).1

/-- The join of inserted messages with write rows finds each candidate. -/
theorem insertedRows_newMessages
    (valid : db.Valid) (accepted : WritesAccepted db input)
    (unique : (input.map InputRow.key).Nodup) :
    insertedRows (newMessages engine db input)
        (writeRows (staged db input) input) =
      newRows engine db input := by
  have rowIds :
      ((writeRows (staged db input) input).map fun row =>
        row.write.id).Nodup := by
    have writes := writeRows_writes (staged db input) unique
    have columns := congrArg (List.map MessageWrite.id) writes
    rw [List.map_map] at columns
    have sublist :
        ((staged db input).messageWrites.filter fun write =>
            input.any fun row => row.key == write.key).Sublist
          (staged db input).messageWrites :=
      List.filter_sublist
    change
      List.Nodup
        (List.map (MessageWrite.id ∘ WriteRow.write)
          (writeRows (staged db input) input))
    rw [columns]
    exact
      (sublist.map MessageWrite.id).nodup
        (staged_writeIds valid accepted)
  unfold insertedRows newMessages newRows
  rw [List.flatMap_map]
  have each :
      ∀ candidate ∈ candidates engine (staged db input) input,
        ((writeRows (staged db input) input).filter fun row =>
            row.write.id == candidate.1.write.id) =
          [candidate.1] := by
    intro candidate member
    exact filter_unique_key rowIds (mem_candidates member).1
  generalize candidates engine (staged db input) input = numbered at each
  induction numbered with
  | nil => rfl
  | cons candidate rest induction =>
      have continued :=
        induction fun other member =>
          each other (List.mem_cons_of_mem _ member)
      rw [List.flatMap_cons, List.map_cons, continued]
      simp only [candidateMessage, each candidate (by simp),
        List.map_cons, List.map_nil, List.cons_append,
        List.nil_append]

end Insertion

/-! ## The statements -/

section Statements

variable {engine : Engine} {now : Timestamp} {db : Database}
  {deduped : List MessageWriteCommand} {input : List InputRow}

theorem writePkeyViolation_eq_none_iff {old row : MessageWrite} :
    writePkeyViolation old row = none ↔ old.id ≠ row.id := by
  simp [writePkeyViolation]

theorem outboxPkeyViolation_eq_none_iff {old row : MessageOutbox} :
    outboxPkeyViolation old row = none ↔ old.id ≠ row.id := by
  simp [outboxPkeyViolation]

theorem offeredWrites_distinct
    (unique : (input.map InputRow.key).Nodup) :
    (input.map InputRow.toMessageWrite).Pairwise fun old row =>
      sameWriteKey old row = false := by
  rw [List.pairwise_map]
  rw [List.Nodup, List.pairwise_map] at unique
  refine unique.imp fun different => ?_
  simpa [sameWriteKey] using different

theorem insertMessageWrites_ok_iff
    (unique : (input.map InputRow.key).Nodup)
    (locals : TransactionLocals)
    {result : WriteSet × TransactionLocals} :
    (insertMessageWrites input).run db locals = .ok result ↔
      WritesAccepted db input ∧
        result =
          ({ insertedWrites := newWrites db input }, locals) := by
  have distinct := offeredWrites_distinct unique
  constructor
  · intro succeeded
    simp only [insertMessageWrites] at succeeded
    cases inserted :
        insertRows sameWriteKey writePkeyViolation db.messageWrites
          (input.map InputRow.toMessageWrite) with
    | error failure => simp [inserted] at succeeded
    | ok added =>
        simp only [inserted] at succeeded
        have addedEq : added = newWrites db input :=
          insertRows_eq_filter distinct inserted
        have compatible := insertRows_compatible inserted
        have pairwise := insertRows_pairwise inserted
        cases references :
            added.findSome? (writeForeignKeyViolation db) with
        | some failure => simp [references] at succeeded
        | none =>
            simp only [references, Except.ok.injEq] at succeeded
            rw [List.findSome?_eq_none_iff] at references
            subst addedEq
            refine ⟨⟨?_, ?_, ?_, ?_⟩, succeeded.symm⟩
            · intro row member old oldMember
              exact
                writePkeyViolation_eq_none_iff.mp
                  (compatible row member old oldMember).2
            · exact
                pairwise.imp fun pair =>
                  writePkeyViolation_eq_none_iff.mp pair.2
            · intro row member
              exact
                (writeForeignKeyViolation_eq_none_iff.mp
                  (references row member)).1
            · intro row member
              exact
                (writeForeignKeyViolation_eq_none_iff.mp
                  (references row member)).2
  · rintro ⟨accepted, rfl⟩
    have inserted :
        insertRows sameWriteKey writePkeyViolation db.messageWrites
            (input.map InputRow.toMessageWrite) =
          .ok (newWrites db input) :=
      insertRows_eq_ok_filter distinct
        (fun row member old oldMember =>
          writePkeyViolation_eq_none_iff.mpr
            (accepted.freshIds row member old oldMember))
        (accepted.distinctIds.imp fun different =>
          writePkeyViolation_eq_none_iff.mpr different)
    have references :
        (newWrites db input).findSome?
            (writeForeignKeyViolation db) =
          none := by
      rw [List.findSome?_eq_none_iff]
      intro row member
      exact
        writeForeignKeyViolation_eq_none_iff.mpr
          ⟨accepted.senders row member, accepted.rooms row member⟩
    simp [insertMessageWrites, inserted, references]

theorem mapKey_of_key
    {write : MessageWrite} {command : MessageWriteCommand}
    (sameKey : write.key = command.key) :
    messageWriteKey write.senderId write.requestId =
      command.mapKey := by
  simp only [MessageWriteCommand.key, MessageWrite.key,
    Prod.mk.injEq] at sameKey
  simp [MessageWriteCommand.mapKey, sameKey]

/-- Among the rows of a batch, the string of a command is as its key. -/
theorem key_of_mapKey
    {origin : Option ConnectionId}
    (mapKeys : (deduped.map MessageWriteCommand.mapKey).Nodup)
    {command : MessageWriteCommand} (member : command ∈ deduped)
    {write : MessageWrite}
    (joined :
      (messageWriteInput deduped origin).any
          (fun row => row.key == write.key) =
        true)
    (same :
      messageWriteKey write.senderId write.requestId =
        command.mapKey) :
    write.key = command.key := by
  rcases List.any_eq_true.mp joined with ⟨row, rowMember, rowKey⟩
  rcases mem_messageWriteInput.mp rowMember with ⟨other, otherMember, rfl⟩
  have keyEq : other.key = write.key := beq_iff_eq.mp rowKey
  have mapKeyEq : other.mapKey = command.mapKey :=
    (mapKey_of_key keyEq.symm).symm.trans same
  rw [← keyEq, eq_of_unique_key mapKeys otherMember member mapKeyEq]

/-- The lookup of a command finds the write row of its key. -/
theorem writeOfKey_of_key
    {view : Database} {origin : Option ConnectionId}
    (writeKeys : (view.messageWrites.map MessageWrite.key).Nodup)
    (mapKeys : (deduped.map MessageWriteCommand.mapKey).Nodup)
    (unique :
      ((messageWriteInput deduped origin).map InputRow.key).Nodup)
    {command : MessageWriteCommand} (member : command ∈ deduped)
    {write : MessageWrite} (writeMember : write ∈ view.messageWrites)
    (keyEq : write.key = command.key) :
    writeOfKey
        ((writeRows view (messageWriteInput deduped origin)).map
          WriteRow.write) command.mapKey =
      some write := by
  have joined :
      (messageWriteInput deduped origin).any
          (fun row => row.key == write.key) =
        true := by
    have inKeys :
        write.key ∈
          (messageWriteInput deduped origin).map InputRow.key := by
      rw [messageWriteInput_keys, keyEq]
      exact List.mem_map_of_mem member
    rcases List.mem_map.mp inKeys with ⟨row, rowMember, rowKey⟩
    exact List.any_eq_true.mpr ⟨row, rowMember, by simp [rowKey]⟩
  have alone :
      ((view.messageWrites.filter fun write =>
          (messageWriteInput deduped origin).any fun row =>
            row.key == write.key).filter fun write =>
          messageWriteKey write.senderId write.requestId ==
            command.mapKey) =
        view.messageWrites.filter fun other =>
          other.key == write.key := by
    rw [List.filter_filter]
    apply List.filter_congr
    intro other otherMember
    rw [Bool.eq_iff_iff]
    simp only [Bool.and_eq_true, beq_iff_eq]
    constructor
    · rintro ⟨same, otherJoined⟩
      exact
        (key_of_mapKey mapKeys member otherJoined same).trans keyEq.symm
    · intro same
      have equal :=
        eq_of_unique_key writeKeys otherMember writeMember same
      exact equal ▸ ⟨mapKey_of_key keyEq, joined⟩
  rw [writeRows_writes view unique, writeOfKey, alone,
    filter_unique_key writeKeys writeMember, List.getLast?_singleton]

/-- The check of one command asks for the write row of its key. -/
theorem commandMatches_iff
    {view : Database} {origin : Option ConnectionId}
    (writeKeys : (view.messageWrites.map MessageWrite.key).Nodup)
    (mapKeys : (deduped.map MessageWriteCommand.mapKey).Nodup)
    (unique :
      ((messageWriteInput deduped origin).map InputRow.key).Nodup)
    {command : MessageWriteCommand} (member : command ∈ deduped) :
    commandMatches
        ((writeRows view (messageWriteInput deduped origin)).map
          WriteRow.write) command = true ↔
      ∃ write ∈ view.messageWrites, MatchesWrite write command := by
  constructor
  · intro matched
    rw [writeRows_writes view unique, commandMatches] at matched
    split at matched
    · simp at matched
    · rename_i write found
      have inFilter := List.mem_of_getLast? found
      simp only [List.mem_filter, beq_iff_eq] at inFilter
      rcases inFilter with ⟨⟨writeMember, joined⟩, same⟩
      simp only [Bool.and_eq_true, beq_iff_eq, and_assoc] at matched
      exact
        ⟨write, writeMember, key_of_mapKey mapKeys member joined same,
          matched⟩
  · rintro ⟨write, writeMember, keyEq, idEq, roomEq, bodyEq⟩
    rw [commandMatches,
      writeOfKey_of_key writeKeys mapKeys unique member writeMember
        keyEq]
    simp [idEq, roomEq, bodyEq]

/-- The third statement only checks that every command matches. -/
theorem selectMessageWrites_ok_iff
    {view : Database} {origin : Option ConnectionId}
    (writeKeys : (view.messageWrites.map MessageWrite.key).Nodup)
    (mapKeys : (deduped.map MessageWriteCommand.mapKey).Nodup)
    (unique :
      ((messageWriteInput deduped origin).map InputRow.key).Nodup)
    (locals : TransactionLocals)
    {result : WriteSet × TransactionLocals} :
    (selectMessageWrites deduped (messageWriteInput deduped origin)).run
          view locals =
        .ok result ↔
      (∀ command ∈ deduped,
          ∃ write ∈ view.messageWrites, MatchesWrite write command) ∧
        result = ({}, locals) := by
  have checked :
      (deduped.all
            (commandMatches
              ((writeRows view (messageWriteInput deduped origin)).map
                WriteRow.write)) =
          true) ↔
        ∀ command ∈ deduped,
          ∃ write ∈ view.messageWrites, MatchesWrite write command := by
    rw [List.all_eq_true]
    exact
      forall₂_congr fun command member =>
        commandMatches_iff writeKeys mapKeys unique member
  rw [← checked]
  simp only [selectMessageWrites]
  split_ifs with allMatch
  · rw [Except.ok.injEq]
    exact ⟨fun same => ⟨allMatch, same.symm⟩, fun both => both.2.symm⟩
  · constructor
    · intro rejected
      cases rejected
    · intro both
      exact absurd both.1 allMatch

theorem mem_newOutbox {row : MessageOutbox} :
    row ∈ newOutbox engine now db input ↔
      ∃ candidate ∈ candidates engine (staged db input) input,
        outboxRow engine now candidate.1.write.id
            candidate.1.originConnectionId =
          row := by
  simp [newOutbox, newRows, candidateMessage]

/-- The outbox has no event yet for a message which is not stored yet. -/
theorem newOutbox_fresh_event
    (valid : db.Valid) :
    ∀ row ∈ newOutbox engine now db input, ∀ old ∈ db.messageOutbox,
      old.messageId ≠ row.messageId := by
  intro row member old oldMember same
  rcases mem_newOutbox.mp member with ⟨candidate, candidateMember, rfl⟩
  rcases valid.outboxMessage old oldMember with
    ⟨message, messageMember, sameId⟩
  have isNew :=
    (isCandidate_iff.mp (mem_candidates candidateMember).2).2 message
      messageMember
  exact isNew.1 (sameId.trans same)

theorem newOutbox_messageIds
    (valid : db.Valid) (accepted : WritesAccepted db input)
    (unique : (input.map InputRow.key).Nodup) :
    (newOutbox engine now db input).Pairwise fun old row =>
      old.messageId ≠ row.messageId := by
  have ids :=
    candidates_column_nodup engine (staged db input) unique
      (staged_writeIds valid accepted)
  rw [List.Nodup, List.pairwise_map] at ids
  unfold newOutbox newRows
  rw [List.map_map, List.pairwise_map]
  exact ids

theorem enqueue_ok_iff
    (engine : Engine) (now : Timestamp)
    (valid : db.Valid) (accepted : WritesAccepted db input)
    (unique : (input.map InputRow.key).Nodup)
    (enqueued : List MessageOutbox) :
    insertRows sameOutboxEvent outboxPkeyViolation db.messageOutbox
          (newOutbox engine now db input) =
        .ok enqueued ↔
      ((∀ row ∈ newOutbox engine now db input,
            ∀ old ∈ db.messageOutbox, old.id ≠ row.id) ∧
          (newOutbox engine now db input).Pairwise fun old row =>
            old.id ≠ row.id) ∧
        enqueued = newOutbox engine now db input := by
  have freshEvent :
      ∀ row ∈ newOutbox engine now db input,
        ∀ old ∈ db.messageOutbox,
          sameOutboxEvent old row = false := by
    intro row member old oldMember
    have different :=
      newOutbox_fresh_event valid row member old oldMember
    simp [sameOutboxEvent, MessageOutbox.event, different]
  have distinctEvents :
      (newOutbox engine now db input).Pairwise fun old row =>
        sameOutboxEvent old row = false := by
    refine
      (newOutbox_messageIds valid accepted unique).imp
        fun different => ?_
    simp [sameOutboxEvent, MessageOutbox.event, different]
  constructor
  · intro inserted
    have enqueuedEq := insertRows_eq_filter distinctEvents inserted
    have nothingSkipped :
        (newOutbox engine now db input).filter
            (fun row =>
              !db.messageOutbox.any fun old =>
                sameOutboxEvent old row) =
          newOutbox engine now db input := by
      rw [List.filter_eq_self]
      intro row member
      rw [Bool.not_eq_true', List.any_eq_false]
      intro old oldMember
      simp [freshEvent row member old oldMember]
    rw [nothingSkipped] at enqueuedEq
    subst enqueuedEq
    refine ⟨⟨?_, ?_⟩, rfl⟩
    · intro row member old oldMember
      exact
        outboxPkeyViolation_eq_none_iff.mp
          (insertRows_compatible inserted row member old oldMember).2
    · exact
        (insertRows_pairwise inserted).imp fun pair =>
          outboxPkeyViolation_eq_none_iff.mp pair.2
  · rintro ⟨⟨freshIds, distinctIds⟩, rfl⟩
    apply insertRows_eq_ok
    · intro row member old oldMember
      exact
        ⟨freshEvent row member old oldMember,
          outboxPkeyViolation_eq_none_iff.mpr
            (freshIds row member old oldMember)⟩
    · exact
        (distinctEvents.and distinctIds).imp fun pair =>
          ⟨pair.1, outboxPkeyViolation_eq_none_iff.mpr pair.2⟩

/-- What the persisting statement writes. -/
def persistedWrites
    (engine : Engine) (now : Timestamp) (db : Database)
    (input : List InputRow) : WriteSet :=
  { rooms :=
      db.rooms.filterMap
        (allocatedRoom (messageCount engine (staged db input) input))
    messages := newMessages engine db input
    outbox := newOutbox engine now db input
    updatedWrites :=
      (staged db input).messageWrites.filterMap
        (settledWrite (settlingMessages engine db input)) }

theorem offered_staged
    (valid : db.Valid) (accepted : WritesAccepted db input) :
    offeredMessages (candidates engine (staged db input) input)
        (roomAllocations
          (messageCount engine (staged db input) input) db.rooms) =
      newMessages engine db input :=
  offeredMessages_eq valid.rooms
    (fun _ member => candidate_room valid accepted member)
    (fun _ member => messageCount_pos member)

theorem inserted_staged
    (valid : db.Valid) (below : SequencesBelow db)
    (accepted : WritesAccepted db input)
    (unique : (input.map InputRow.key).Nodup) :
    (insertRows Message.conflicts (fun _ _ => none) db.messages
        (newMessages engine db input) :
          Except Failure (List Message)) =
      .ok (newMessages engine db input) :=
  insertRows_eq_ok
    (fun row member old oldMember =>
      ⟨newMessages_compatible valid below accepted row member old
        oldMember, rfl⟩)
    ((newMessages_pairwise valid accepted unique).imp
      fun compatible => ⟨compatible, rfl⟩)

theorem persistMessages_ok_iff
    (valid : db.Valid) (below : SequencesBelow db)
    (accepted : WritesAccepted db input)
    (unique : (input.map InputRow.key).Nodup)
    (locals : TransactionLocals)
    {result : WriteSet × TransactionLocals} :
    (persistMessages engine now input).run (staged db input) locals =
        .ok result ↔
      ((∀ row ∈ newOutbox engine now db input,
            ∀ old ∈ db.messageOutbox, old.id ≠ row.id) ∧
          (newOutbox engine now db input).Pairwise fun old row =>
            old.id ≠ row.id) ∧
        result =
          (persistedWrites engine now db input,
            { locals with
              persistedMessages :=
                (newRows engine db input).insertionSort
                  (createdBefore engine) }) := by
  have references :
      (newMessages engine db input).findSome?
          (messageForeignKeyViolation (staged db input)) =
        none := by
    rw [List.findSome?_eq_none_iff]
    intro row member
    exact
      messageForeignKeyViolation_eq_none_iff.mpr
        ⟨newMessages_sender valid accepted row member,
          newMessages_room valid accepted row member⟩
  have enqueue := enqueue_ok_iff engine now valid accepted unique
  have stagedRooms : (staged db input).rooms = db.rooms := rfl
  have stagedMessages : (staged db input).messages = db.messages := rfl
  have stagedOutbox :
      (staged db input).messageOutbox = db.messageOutbox := rfl
  have enqueuedRows :
      ((newRows engine db input).map fun row =>
          outboxRow engine now row.message.id row.originConnectionId) =
        newOutbox engine now db input :=
    rfl
  simp only [persistMessages, stagedRooms, stagedMessages,
    stagedOutbox, offered_staged valid accepted,
    inserted_staged valid below accepted unique, references,
    insertedRows_newMessages valid accepted unique, enqueuedRows]
  cases inserted :
      insertRows sameOutboxEvent outboxPkeyViolation
        db.messageOutbox (newOutbox engine now db input) with
  | error failure =>
      have rejected := (enqueue (newOutbox engine now db input)).mpr
      simp only [inserted, reduceCtorEq, and_true, imp_false] at rejected
      simp [rejected]
  | ok enqueued =>
      have admitted := (enqueue enqueued).mp inserted
      rcases admitted with ⟨conditions, rfl⟩
      rw [Except.ok.injEq]
      exact
        ⟨fun equal => ⟨conditions, equal.symm⟩,
          fun both => both.2.symm⟩

end Statements

/-! ## The transaction -/

section Transaction

variable {engine : Engine} {now : Timestamp} {db : Database}
  {deduped : List MessageWriteCommand}
  {origin : Option ConnectionId}

theorem apply_newWrites (input : List InputRow) :
    db.apply { insertedWrites := newWrites db input } =
      staged db input := by
  simp [Database.apply, staged]

theorem apply_rooms (view : Database) (versions : List Room) :
    view.apply { rooms := versions } =
      { users := view.users
        rooms := replaceVersions Room.id versions view.rooms
        roomMembers := view.roomMembers
        messages := view.messages
        messageWrites := view.messageWrites
        messageOutbox := view.messageOutbox } := by
  simp [Database.apply]

theorem apply_persistedWrites
    {input : List InputRow}
    (valid : db.Valid) (accepted : WritesAccepted db input) :
    ((staged db input).apply
          (persistedWrites engine now db input)).apply
        { rooms :=
            ((staged db input).apply
                (persistedWrites engine now db
                  input)).rooms.filterMap
              (touchedRoom
                ((newRows engine db input).insertionSort
                  (createdBefore engine))) } =
      batchResult engine now db input := by
  have rooms :
      ((staged db input).apply
          (persistedWrites engine now db input)).rooms =
        db.rooms.map fun room =>
          { room with
            nextMessageSeq :=
              room.nextMessageSeq +
                messageCount engine (staged db input) input
                  room.id } := by
    change
      replaceVersions Room.id
          (db.rooms.filterMap (allocatedRoom _)) db.rooms = _
    rw [replaceVersions_filterMap _ valid.rooms]
    · apply List.map_congr_left
      intro room _
      unfold allocatedRoom
      split <;> simp_all
    · intro room version rewritten
      unfold allocatedRoom at rewritten
      split at rewritten
      · simp at rewritten
      · simp only [Option.some.injEq] at rewritten
        rw [← rewritten]
  have writes :
      ((staged db input).apply
          (persistedWrites engine now db input)).messageWrites =
        (staged db input).messageWrites.map
          (settle (settlingMessages engine db input)) := by
    change
      replaceVersions MessageWrite.id
            ((staged db input).messageWrites.filterMap
              (settledWrite (settlingMessages engine db input)))
            (staged db input).messageWrites ++ [] =
        _
    rw [replaceVersions_filterMap _ (staged_writeIds valid accepted),
      List.append_nil]
    · rfl
    · intro write version rewritten
      unfold settledWrite at rewritten
      split at rewritten
      · rcases Option.map_eq_some_iff.mp rewritten with ⟨_, _, rfl⟩
        rfl
      · simp at rewritten
  have touched :
      replaceVersions Room.id
          (((staged db input).apply
                (persistedWrites engine now db
                  input)).rooms.filterMap
              (touchedRoom
                ((newRows engine db input).insertionSort
                  (createdBefore engine))))
          ((staged db input).apply
            (persistedWrites engine now db input)).rooms =
        db.rooms.map (advanceRoom engine db input) := by
    rw [replaceVersions_filterMap, rooms, List.map_map]
    · apply List.map_congr_left
      intro room _
      simp only [Function.comp_apply, touchedRoom, advanceRoom]
      cases maxByRoom
          ((newRows engine db input).insertionSort
            (createdBefore engine)) room.id <;>
        simp
    · rw [Database.apply_roomIds]
      exact valid.rooms
    · intro room version rewritten
      rcases Option.map_eq_some_iff.mp rewritten with ⟨_, _, rfl⟩
      rfl
  rw [apply_rooms, touched, writes]
  rfl

/--
The transaction of a batch succeeds exactly when the batch is accepted, and
then commits `batchResult`.
-/
theorem batch_ok_iff
    (engine : Engine) (now : Timestamp) (origin : Option ConnectionId)
    (valid : db.Valid) (below : SequencesBelow db)
    (mapKeys : (deduped.map MessageWriteCommand.mapKey).Nodup)
    (keys : (deduped.map MessageWriteCommand.key).Nodup)
    (result : Database × TransactionLocals) :
    runStatements Database.apply
          (batchStatements engine now deduped origin) db {} =
        .ok result ↔
      BatchAccepted engine now db deduped
          (messageWriteInput deduped origin) ∧
        result =
          (batchResult engine now db
              (messageWriteInput deduped origin),
            { persistedMessages :=
                (newRows engine db
                    (messageWriteInput deduped origin)).insertionSort
                  (createdBefore engine) }) := by
  have unique :
      ((messageWriteInput deduped origin).map InputRow.key).Nodup := by
    rw [messageWriteInput_keys]
    exact keys
  have writeKeys := staged_writeKeys valid unique
  have locked :
      (selectRoomsForUpdate
          (deduped.map MessageWriteCommand.roomId)).run db {} =
        .ok ({}, {}) :=
    rfl
  rw [batchStatements, runStatements_cons_of_ok locked,
    Database.apply_empty]
  constructor
  · intro succeeded
    rcases runStatements_cons_ok succeeded with
      ⟨writes₂, locals₂, inserted, afterInsert⟩
    rcases (insertMessageWrites_ok_iff unique _).mp inserted with
      ⟨accepted, insertedEq⟩
    rcases Prod.mk.inj insertedEq with ⟨rfl, rfl⟩
    rw [apply_newWrites] at afterInsert
    rcases runStatements_cons_ok afterInsert with
      ⟨writes₃, locals₃, selected, afterSelect⟩
    obtain ⟨matched, selectedEq⟩ :=
      (selectMessageWrites_ok_iff writeKeys mapKeys unique _).mp selected
    rcases Prod.mk.inj selectedEq with ⟨rfl, rfl⟩
    rw [Database.apply_empty] at afterSelect
    rcases runStatements_cons_ok afterSelect with
      ⟨writes₄, locals₄, persisted, afterPersist⟩
    obtain ⟨⟨freshIds, distinctIds⟩, persistedEq⟩ :=
      (persistMessages_ok_iff valid below accepted unique _).mp persisted
    rcases Prod.mk.inj persistedEq with ⟨rfl, rfl⟩
    rcases runStatements_cons_ok afterPersist with
      ⟨writes₅, locals₅, touched, finished⟩
    simp only [updateRoomsLastMessageAt, Except.ok.injEq,
      Prod.mk.injEq] at touched
    rcases touched with ⟨rfl, rfl⟩
    rw [runStatements_nil, Except.ok.injEq,
      apply_persistedWrites valid accepted] at finished
    exact
      ⟨{ toWritesAccepted := accepted
         matched := matched
         freshOutboxIds := freshIds
         distinctOutboxIds := distinctIds },
        finished.symm⟩
  · rintro ⟨accepted, rfl⟩
    have inserted :=
      (insertMessageWrites_ok_iff unique {}).mpr
        ⟨accepted.toWritesAccepted, rfl⟩
    have selected :=
      (selectMessageWrites_ok_iff writeKeys mapKeys unique {}).mpr
        ⟨accepted.matched, rfl⟩
    have persisted :=
      (persistMessages_ok_iff valid below accepted.toWritesAccepted
        unique {}).mpr
        ⟨⟨accepted.freshOutboxIds, accepted.distinctOutboxIds⟩, rfl⟩
    rw [runStatements_cons_of_ok inserted, apply_newWrites,
      runStatements_cons_of_ok selected, Database.apply_empty,
      runStatements_cons_of_ok persisted]
    simp only [runStatements, updateRoomsLastMessageAt]
    rw [apply_persistedWrites valid accepted.toWritesAccepted]

/--
`processMessageWriteCommands` on a non-empty batch: it succeeds exactly when
the batch has no conflicting duplicates and the rest is accepted.
-/
theorem processMessageWriteCommands_ok_iff
    {commands : List MessageWriteCommand}
    (valid : db.Valid) (below : SequencesBelow db)
    (nonempty : commands ≠ [])
    {result : Database × List MessageDto} :
    processMessageWriteCommands engine now db commands origin =
        .ok result ↔
      ∃ deduped,
        dedupeMessageWriteCommands commands = .ok deduped ∧
          BatchAccepted engine now db deduped
            (messageWriteInput deduped origin) ∧
          result =
            (batchResult engine now db
                (messageWriteInput deduped origin),
              ((newRows engine db
                    (messageWriteInput deduped origin)).insertionSort
                  (createdBefore engine)).map fun row =>
                toMessageDto row.message) := by
  unfold processMessageWriteCommands
  rw [if_neg nonempty]
  cases accepted : dedupeMessageWriteCommands commands with
  | error failure => simp
  | ok deduped =>
      have transaction :=
        batch_ok_iff engine now origin valid below
          (dedupe_mapKeys_nodup accepted) (dedupe_keys_nodup accepted)
      simp only [Except.ok.injEq, exists_eq_left']
      cases ran :
          runStatements Database.apply
            (batchStatements engine now deduped origin) db {} with
      | error failure =>
          have rejected := fun result => (transaction result).mpr
          simp only [ran, reduceCtorEq, imp_false] at rejected
          simp only [reduceCtorEq, false_iff]
          rintro ⟨admitted, _⟩
          exact rejected _ ⟨admitted, rfl⟩
      | ok outcome =>
          rcases (transaction outcome).mp ran with ⟨admitted, rfl⟩
          simp only [Except.ok.injEq]
          exact
            ⟨fun equal => ⟨admitted, equal.symm⟩,
              fun both => both.2.symm⟩

end Transaction

end ChatBackend.Writer.BatchSpecification
