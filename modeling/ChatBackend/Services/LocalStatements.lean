import ChatBackend.Services.RoomFootprints

/-!
# The statements that write messages are local

Each statement of `processMessageWriteCommands` and of `createMessageRow` is
`Local` to the rooms that its transaction locks, provided that the rows it is
given follow the use of keys and ids.

The argument is the same for all of them: what a statement looks up by key,
id, room or number is a row of its rooms, and two agreeing databases have the
same rows there.
-/

namespace ChatBackend.Services.LocalStatements

open ChatBackend.Foundation.LockingSchedules
open ChatBackend.Foundation.RowNumbering
open ChatBackend.Foundation.TableRows
open ChatBackend.Storage.Schema
open ChatBackend.Writer.WriteCommands
open ChatBackend.Writer.BatchTransaction
open ChatBackend.Writer.BatchSpecification
open ChatBackend.Chats.MessageRows
open ChatBackend.Services.RoomFootprints

/-- The input rows follow the uses, and their rooms are locked. -/
structure SuitedInput
    (uses : Uses) (locked : List RoomId) (input : List InputRow) :
    Prop where
  writes : ∀ row ∈ input, uses.SuitsWrite row.toMessageWrite
  rooms : ∀ row ∈ input, row.roomId ∈ locked

/-! ## Locking and inserting write rows -/

section WriteRows

variable {uses : Uses} {locked : List RoomId} {foreign : List WriteSet}
  {view other : Database} {input : List InputRow}

theorem selectRoomsForUpdate_local (uses : Uses) (locked : List RoomId) :
    Local uses locked (selectRoomsForUpdate locked) where
  within := by
    intro view locals writes next _ fits ran
    simp only [selectRoomsForUpdate, Except.ok.injEq,
      Prod.mk.injEq] at ran
    rcases ran with ⟨rfl, rfl⟩
    exact ⟨Within.nothing uses locked view, fits⟩
  stable := by
    intro view other foreign locals writes next _ _ agrees _ ran _
    refine ⟨ran, ?_⟩
    simp only [selectRoomsForUpdate, List.contains_eq_mem, agrees.rooms]

/-- A stored row with the key of an input row is in a locked room. -/
theorem SuitedInput.locked_of_key
    (suited : SuitedInput uses locked input)
    {write : MessageWrite} (suits : uses.SuitsWrite write)
    {row : InputRow} (member : row ∈ input)
    (same : row.key = write.key) : write.roomId ∈ locked := by
  rw [suits.room_of_key (suited.writes row member) same.symm]
  exact suited.rooms row member

theorem SuitedInput.locked_of_id
    (suited : SuitedInput uses locked input)
    {write : MessageWrite} (suits : uses.SuitsWrite write)
    {row : InputRow} (member : row ∈ input)
    (same : write.id = row.messageId) : write.roomId ∈ locked := by
  rw [suits.room_of_id (suited.writes row member) same]
  exact suited.rooms row member

/-- The same write rows are inserted on top of other rooms. -/
theorem insertWrites_agrees
    (suited : SuitedInput uses locked input)
    (coherent : Coherent uses view) (coherentOther : Coherent uses other)
    (agrees : Agrees locked foreign view other)
    {added : List MessageWrite}
    (inserted :
      insertRows sameWriteKey writePkeyViolation view.messageWrites
          (input.map InputRow.toMessageWrite) =
        .ok added) :
    insertRows sameWriteKey writePkeyViolation other.messageWrites
        (input.map InputRow.toMessageWrite) =
      .ok added := by
  apply insertRows_transfer inserted
  · rintro offered offeredMember ⟨old, oldMember, sameKey⟩
    rcases List.mem_map.mp offeredMember with
      ⟨row, rowMember, rfl⟩
    have isLocked :=
      suited.locked_of_key (coherent.writes old oldMember) rowMember
        (beq_iff_eq.mp sameKey).symm
    exact
      ⟨old,
        (mem_of_filter_eq agrees.writes
          (decide_eq_true isLocked)).mpr oldMember,
        sameKey⟩
  · intro offered addedMember old oldMember
    have offeredMember :=
      (insertRows_sublist inserted).subset addedMember
    rcases List.mem_map.mp offeredMember with
      ⟨row, rowMember, rfl⟩
    by_cases isLocked : old.roomId ∈ locked
    · have inView :=
        (mem_of_filter_eq agrees.writes
          (decide_eq_true isLocked)).mp oldMember
      exact insertRows_compatible inserted _ addedMember old inView
    · have suits := coherentOther.writes old oldMember
      constructor
      · rw [sameWriteKey, beq_eq_false_iff_ne]
        intro sameKey
        exact
          isLocked
            (suited.locked_of_key suits rowMember sameKey.symm)
      · rw [writePkeyViolation_eq_none_iff]
        intro sameId
        exact
          isLocked (suited.locked_of_id suits rowMember sameId)

theorem insertMessageWrites_local
    (suited : SuitedInput uses locked input) :
    Local uses locked (insertMessageWrites input) where
  within := by
    intro view locals writes next _ fits ran
    simp only [insertMessageWrites] at ran
    split at ran
    · cases ran
    · rename_i added inserted
      split at ran
      · cases ran
      · rename_i references
        simp only [Except.ok.injEq, Prod.mk.injEq] at ran
        rcases ran with ⟨rfl, rfl⟩
        rw [List.findSome?_eq_none_iff] at references
        refine ⟨{ Within.nothing uses locked view with
          insertedWrites := ?_ }, fits⟩
        intro write member
        have offered := (insertRows_sublist inserted).subset member
        rcases List.mem_map.mp offered with ⟨row, rowMember, rfl⟩
        exact
          ⟨suited.writes row rowMember, suited.rooms row rowMember,
            (writeForeignKeyViolation_eq_none_iff.mp
              (references _ member)).2⟩
  stable := by
    intro view other foreign locals writes next coherent coherentOther
      agrees _ ran _
    refine ⟨?_, rfl⟩
    simp only [insertMessageWrites] at ran ⊢
    split at ran
    · cases ran
    · rename_i added inserted
      have insertedThere :=
        insertWrites_agrees suited coherent coherentOther agrees inserted
      rw [insertedThere, agrees.writeForeignKeyViolation]
      exact ran

/-! ## Reading write rows -/

/-- The join with the input only reads rows of locked rooms. -/
theorem writeRows_agrees
    (suited : SuitedInput uses locked input)
    (coherent : Coherent uses view) (coherentOther : Coherent uses other)
    (agrees : Agrees locked foreign view other) :
    writeRows other input = writeRows view input := by
  have silent :
      ∀ db : Database, Coherent uses db → ∀ write ∈ db.messageWrites,
        decide (write.roomId ∈ locked) = false →
          ((input.filter fun row => row.key == write.key).map fun row =>
              ({ write := write
                 originConnectionId := row.originConnectionId } :
                WriteRow)) =
            [] := by
    intro db coherentDb write member notLocked
    rw [List.map_eq_nil_iff, List.filter_eq_nil_iff]
    intro row rowMember sameKey
    refine of_decide_eq_false notLocked ?_
    exact
      suited.locked_of_key (coherentDb.writes write member) rowMember
        (beq_iff_eq.mp sameKey)
  exact
    flatMap_of_filter_eq agrees.writes (silent view coherent)
      (silent other coherentOther)

/-- The joined rows are rows of locked rooms. -/
theorem writeRows_locked
    (suited : SuitedInput uses locked input)
    (coherent : Coherent uses view) {row : WriteRow}
    (member : row ∈ writeRows view input) :
    uses.SuitsWrite row.write ∧ row.write.roomId ∈ locked := by
  rcases mem_writeRows.mp member with
    ⟨inTable, source, sourceMember, sameKey, _⟩
  have suits := coherent.writes row.write inTable
  exact ⟨suits, suited.locked_of_key suits sourceMember sameKey⟩

theorem selectMessageWrites_local
    (suited : SuitedInput uses locked input)
    (deduped : List MessageWriteCommand) :
    Local uses locked (selectMessageWrites deduped input) where
  within := by
    intro view locals writes next _ fits ran
    simp only [selectMessageWrites] at ran
    split at ran
    · simp only [Except.ok.injEq, Prod.mk.injEq] at ran
      rcases ran with ⟨rfl, rfl⟩
      exact ⟨Within.nothing uses locked view, fits⟩
    · cases ran
  stable := by
    intro view other foreign locals writes next coherent coherentOther
      agrees _ ran _
    have rows := writeRows_agrees suited coherent coherentOther agrees
    constructor
    · simp only [selectMessageWrites, rows] at ran ⊢
      exact ran
    · simp only [selectMessageWrites, rows]

end WriteRows

/-! ## Persisting messages -/

section Persisting

variable {uses : Uses} {locked : List RoomId} {foreign : List WriteSet}
  {view other : Database} {input : List InputRow}
  {engine : Engine} {now : Timestamp}

theorem isCandidate_agrees
    (coherent : Coherent uses view) (coherentOther : Coherent uses other)
    (agrees : Agrees locked foreign view other)
    {row : WriteRow} (suits : uses.SuitsWrite row.write)
    (isLocked : row.write.roomId ∈ locked) :
    isCandidate other row = isCandidate view row := by
  have kept :
      ∀ db : Database, Coherent uses db → ∀ message ∈ db.messages,
        (message.id == row.write.id ||
            message.key? == some row.write.key) = true →
          decide (message.roomId ∈ locked) = true := by
    intro db coherentDb message member same
    rw [Bool.or_eq_true, beq_iff_eq, beq_iff_eq] at same
    rw [(coherentDb.messages message member).room_of_write suits same]
    exact decide_eq_true isLocked
  unfold isCandidate
  rw [any_of_filter_eq agrees.messages (kept view coherent)
    (kept other coherentOther)]

theorem candidates_agrees
    (suited : SuitedInput uses locked input)
    (coherent : Coherent uses view) (coherentOther : Coherent uses other)
    (agrees : Agrees locked foreign view other) :
    candidates engine other input = candidates engine view input := by
  unfold candidates
  rw [writeRows_agrees suited coherent coherentOther agrees]
  congr 1
  apply List.filter_congr
  intro row member
  rcases writeRows_locked suited coherent member with ⟨suits, isLocked⟩
  exact isCandidate_agrees coherent coherentOther agrees suits isLocked

/-- The candidates belong to locked rooms. -/
theorem candidate_locked
    (suited : SuitedInput uses locked input)
    (coherent : Coherent uses view)
    {candidate : WriteRow × Nat}
    (member : candidate ∈ candidates engine view input) :
    uses.SuitsWrite candidate.1.write ∧
      candidate.1.write.roomId ∈ locked :=
  writeRows_locked suited coherent (mem_candidates member).1

theorem suits_candidateMessage
    {candidate : WriteRow × Nat} (startSequence : Nat)
    (suits : uses.SuitsWrite candidate.1.write) :
    uses.SuitsMessage (candidateMessage candidate startSequence) := by
  refine ⟨suits.1, fun key sameKey => ?_⟩
  rw [← Option.some.inj sameKey]
  exact suits.2

theorem mem_offeredMessages
    {numbered : List (WriteRow × Nat)}
    {allocations : List RoomAllocation} {message : Message}
    (member : message ∈ offeredMessages numbered allocations) :
    ∃ candidate ∈ numbered, ∃ startSequence,
      candidateMessage candidate startSequence = message := by
  rcases List.mem_flatMap.mp member with
    ⟨candidate, candidateMember, inImages⟩
  rcases List.mem_map.mp inImages with ⟨allocation, _, same⟩
  exact
    ⟨candidate, candidateMember, allocation.startSequence, same⟩

/-- The offered messages suit the uses and belong to locked rooms. -/
theorem offeredMessages_locked
    (suited : SuitedInput uses locked input)
    (coherent : Coherent uses view) {allocations : List RoomAllocation}
    {message : Message}
    (member :
      message ∈
        offeredMessages (candidates engine view input) allocations) :
    uses.SuitsMessage message ∧ message.roomId ∈ locked ∧
      ∃ key, message.key? = some key := by
  rcases mem_offeredMessages member with
    ⟨candidate, candidateMember, startSequence, rfl⟩
  rcases candidate_locked suited coherent candidateMember with
    ⟨suits, isLocked⟩
  exact
    ⟨suits_candidateMessage startSequence suits, isLocked, _, rfl⟩

theorem insertedMessages_locked
    (suited : SuitedInput uses locked input)
    (coherent : Coherent uses view) {allocations : List RoomAllocation}
    {messages inserted : List Message}
    (insertedEq :
      insertRows Message.conflicts (fun _ _ => (none : Option Failure))
          messages
          (offeredMessages (candidates engine view input) allocations) =
        .ok inserted)
    (message : Message) (member : message ∈ inserted) :
    uses.SuitsMessage message ∧ message.roomId ∈ locked := by
  rcases offeredMessages_locked suited coherent
      ((insertRows_sublist insertedEq).subset member) with
    ⟨suits, isLocked, _⟩
  exact ⟨suits, isLocked⟩

/-- A room with candidates is locked. -/
theorem allocatedRoom_locked
    (suited : SuitedInput uses locked input)
    (coherent : Coherent uses view) {room version : Room}
    (allocated :
      allocatedRoom (messageCount engine view input) room =
        some version) :
    version.id = room.id ∧ room.id ∈ locked := by
  unfold allocatedRoom at allocated
  split at allocated
  · cases allocated
  · rename_i counted
    refine ⟨by rw [← Option.some.inj allocated], ?_⟩
    have positive : 0 < messageCount engine view input room.id :=
      Nat.pos_of_ne_zero counted
    rw [messageCount, List.countP_pos_iff] at positive
    rcases positive with ⟨candidate, member, inRoom⟩
    rw [← beq_iff_eq.mp inRoom]
    exact (candidate_locked suited coherent member).2

theorem allocatedRooms_agrees
    (suited : SuitedInput uses locked input)
    (coherent : Coherent uses view)
    (agrees : Agrees locked foreign view other) :
    other.rooms.filterMap
        (allocatedRoom (messageCount engine view input)) =
      view.rooms.filterMap
        (allocatedRoom (messageCount engine view input)) := by
  have silent :
      ∀ room : Room, decide (room.id ∈ locked) = false →
        allocatedRoom (messageCount engine view input) room = none := by
    intro room notLocked
    cases allocated :
        allocatedRoom (messageCount engine view input) room with
    | none => rfl
    | some version =>
        exact
          absurd (allocatedRoom_locked suited coherent allocated).2
            (of_decide_eq_false notLocked)
  exact
    filterMap_of_filter_eq agrees.rooms (fun room _ => silent room)
      (fun room _ => silent room)

/-- The messages that settle write rows belong to locked rooms. -/
theorem allMessages_locked
    {rows : List WriteRow} {inserted : List Message}
    (rowsLocked :
      ∀ row ∈ rows,
        uses.SuitsWrite row.write ∧ row.write.roomId ∈ locked)
    (insertedLocked :
      ∀ message ∈ inserted,
        uses.SuitsMessage message ∧ message.roomId ∈ locked)
    (coherent : Coherent uses view) {message : Message}
    (member : message ∈ allMessages view rows inserted) :
    uses.SuitsMessage message ∧ message.roomId ∈ locked := by
  rcases List.mem_append.mp member with new | old
  · exact insertedLocked message new
  · rcases List.mem_filter.mp old with ⟨inTable, test⟩
    rw [Bool.and_eq_true, List.any_eq_true] at test
    rcases test.1 with ⟨row, rowMember, same⟩
    rw [Bool.or_eq_true, beq_iff_eq, beq_iff_eq] at same
    rcases rowsLocked row rowMember with ⟨suits, isLocked⟩
    have suitsMessage := coherent.messages message inTable
    exact
      ⟨suitsMessage,
        (suitsMessage.room_of_write suits same).symm ▸ isLocked⟩

theorem allMessages_agrees
    {rows : List WriteRow} (inserted : List Message)
    (rowsLocked :
      ∀ row ∈ rows,
        uses.SuitsWrite row.write ∧ row.write.roomId ∈ locked)
    (coherent : Coherent uses view) (coherentOther : Coherent uses other)
    (agrees : Agrees locked foreign view other) :
    allMessages other rows inserted = allMessages view rows inserted := by
  have kept :
      ∀ db : Database, Coherent uses db → ∀ message ∈ db.messages,
        ((rows.any fun row =>
              message.id == row.write.id ||
                message.key? == some row.write.key) &&
            !inserted.any fun new => new.id == message.id) = true →
          decide (message.roomId ∈ locked) = true := by
    intro db coherentDb message member test
    rw [Bool.and_eq_true, List.any_eq_true] at test
    rcases test.1 with ⟨row, rowMember, same⟩
    rw [Bool.or_eq_true, beq_iff_eq, beq_iff_eq] at same
    rcases rowsLocked row rowMember with ⟨suits, isLocked⟩
    rw [(coherentDb.messages message member).room_of_write suits same]
    exact decide_eq_true isLocked
  unfold allMessages
  rw [filter_of_filter_eq agrees.messages (kept view coherent)
    (kept other coherentOther)]

/-- A settled write row keeps its columns and has the message's key. -/
theorem settledWrite_cases
    {messages : List Message} {write version : MessageWrite}
    (settled : settledWrite messages write = some version) :
    version.id = write.id ∧ version.key = write.key ∧
      version.roomId = write.roomId ∧
      ∃ message ∈ messages, message.key? = some write.key := by
  unfold settledWrite at settled
  split at settled
  · cases found :
        messages.find? fun message =>
          message.key? == some write.key with
    | none => simp [found] at settled
    | some message =>
        simp only [found, Option.map_some, Option.some.injEq] at settled
        subst settled
        exact
          ⟨rfl, rfl, rfl, message, List.mem_of_find?_eq_some found,
            by simpa using List.find?_some found⟩
  · cases settled

theorem settledWrite_locked
    {messages : List Message}
    (messagesLocked :
      ∀ message ∈ messages,
        uses.SuitsMessage message ∧ message.roomId ∈ locked)
    {write version : MessageWrite} (suits : uses.SuitsWrite write)
    (settled : settledWrite messages write = some version) :
    uses.SuitsWrite version ∧ version.roomId = write.roomId ∧
      write.roomId ∈ locked := by
  rcases settledWrite_cases settled with
    ⟨sameId, sameKey, sameRoom, message, member, keyed⟩
  rcases messagesLocked message member with ⟨suitsMessage, isLocked⟩
  refine ⟨⟨?_, ?_⟩, sameRoom, ?_⟩
  · rw [sameId, sameKey]
    exact suits.1
  · rw [sameKey, sameRoom]
    exact suits.2
  · rw [← suitsMessage.room_of_write suits (Or.inr keyed)]
    exact isLocked

theorem settledWrites_agrees
    {messages : List Message}
    (messagesLocked :
      ∀ message ∈ messages,
        uses.SuitsMessage message ∧ message.roomId ∈ locked)
    (coherent : Coherent uses view) (coherentOther : Coherent uses other)
    (agrees : Agrees locked foreign view other) :
    other.messageWrites.filterMap (settledWrite messages) =
      view.messageWrites.filterMap (settledWrite messages) := by
  have silent :
      ∀ db : Database, Coherent uses db → ∀ write ∈ db.messageWrites,
        decide (write.roomId ∈ locked) = false →
          settledWrite messages write = none := by
    intro db coherentDb write member notLocked
    cases settled : settledWrite messages write with
    | none => rfl
    | some version =>
        exact
          absurd
            (settledWrite_locked messagesLocked
              (coherentDb.writes write member) settled).2.2
            (of_decide_eq_false notLocked)
  exact
    filterMap_of_filter_eq agrees.writes (silent view coherent)
      (silent other coherentOther)

/-- What a successful persisting statement does. -/
theorem persistMessages_inversion
    {locals next : TransactionLocals} {writes : WriteSet}
    (ran :
      (persistMessages engine now input).run view locals =
        .ok (writes, next)) :
    ∃ inserted enqueued,
      insertRows Message.conflicts (fun _ _ => (none : Option Failure))
          view.messages
          (offeredMessages (candidates engine view input)
            (roomAllocations (messageCount engine view input)
              view.rooms)) =
          .ok inserted ∧
        inserted.findSome? (messageForeignKeyViolation view) = none ∧
        insertRows sameOutboxEvent outboxPkeyViolation view.messageOutbox
            ((insertedRows inserted (writeRows view input)).map fun row =>
              outboxRow engine now row.message.id
                row.originConnectionId) =
          .ok enqueued ∧
        writes =
          { rooms :=
              view.rooms.filterMap
                (allocatedRoom (messageCount engine view input))
            messages := inserted
            outbox := enqueued
            updatedWrites :=
              view.messageWrites.filterMap
                (settledWrite
                  (allMessages view (writeRows view input) inserted)) } ∧
        next =
          { locals with
            persistedMessages :=
              (insertedRows inserted (writeRows view input)).insertionSort
                (createdBefore engine) } := by
  simp only [persistMessages] at ran
  split at ran
  · cases ran
  · rename_i inserted insertedEq
    split at ran
    · cases ran
    · rename_i references
      split at ran
      · cases ran
      · rename_i enqueued enqueuedEq
        simp only [Except.ok.injEq, Prod.mk.injEq] at ran
        exact
          ⟨inserted, enqueued, insertedEq, references, enqueuedEq,
            ran.1.symm, ran.2.symm⟩

/-- The same messages are inserted into an agreeing table. -/
theorem insertMessages_agrees
    (suited : SuitedInput uses locked input)
    (coherent : Coherent uses view) (coherentOther : Coherent uses other)
    (agrees : Agrees locked foreign view other)
    {allocations : List RoomAllocation} {inserted : List Message}
    (insertedEq :
      insertRows Message.conflicts (fun _ _ => (none : Option Failure))
          view.messages
          (offeredMessages (candidates engine view input) allocations) =
        .ok inserted) :
    insertRows Message.conflicts (fun _ _ => (none : Option Failure))
        other.messages
        (offeredMessages (candidates engine view input) allocations) =
      .ok inserted := by
  apply insertRows_transfer insertedEq
  · rintro row member ⟨old, oldMember, conflict⟩
    rcases offeredMessages_locked suited coherent member with
      ⟨suits, isLocked, key, keyed⟩
    have sameRoom :=
      (coherent.messages old oldMember).room_of_conflict suits keyed
        conflict
    exact
      ⟨old,
        (mem_of_filter_eq agrees.messages
          (decide_eq_true (sameRoom.symm ▸ isLocked))).mpr oldMember,
        conflict⟩
  · intro row member old oldMember
    refine ⟨?_, rfl⟩
    rcases offeredMessages_locked suited coherent
        ((insertRows_sublist insertedEq).subset member) with
      ⟨suits, isLocked, key, keyed⟩
    by_contra conflict
    rw [Bool.not_eq_false] at conflict
    have sameRoom :=
      (coherentOther.messages old oldMember).room_of_conflict suits keyed
        conflict
    have inView :=
      (mem_of_filter_eq agrees.messages
        (decide_eq_true (sameRoom.symm ▸ isLocked))).mp oldMember
    have compatible :=
      (insertRows_compatible insertedEq row member old inView).1
    rw [compatible] at conflict
    cases conflict

/-- The same outbox rows are inserted when no foreign row clashes. -/
theorem enqueue_agrees
    (agrees : Agrees locked foreign view other)
    {offered enqueued : List MessageOutbox}
    (enqueuedEq :
      insertRows sameOutboxEvent outboxPkeyViolation view.messageOutbox
          offered =
        .ok enqueued)
    (apart :
      ∀ theirs ∈ foreign, ∀ row ∈ enqueued, ∀ old ∈ theirs.outbox,
        old.id ≠ row.id ∧ old.event ≠ row.event) :
    insertRows sameOutboxEvent outboxPkeyViolation other.messageOutbox
        offered =
      .ok enqueued := by
  apply insertRows_transfer enqueuedEq
  · rintro row _ ⟨old, oldMember, sameEvent⟩
    exact ⟨old, agrees.outboxKept old oldMember, sameEvent⟩
  · intro row member old oldMember
    rcases agrees.outboxFrom old oldMember with
      inView | ⟨theirs, theirsMember, inTheirs⟩
    · exact insertRows_compatible enqueuedEq row member old inView
    · rcases apart theirs theirsMember row member old inTheirs with
        ⟨ids, events⟩
      exact
        ⟨beq_eq_false_iff_ne.mpr events,
          outboxPkeyViolation_eq_none_iff.mpr ids⟩

theorem persistMessages_local
    (engine : Engine) (now : Timestamp)
    (suited : SuitedInput uses locked input) :
    Local uses locked (persistMessages engine now input) where
  within := by
    intro view locals writes next coherent _ ran
    rcases persistMessages_inversion ran with
      ⟨inserted, enqueued, insertedEq, references, _, rfl, rfl⟩
    rw [List.findSome?_eq_none_iff] at references
    have insertedLocked :=
      insertedMessages_locked suited coherent insertedEq
    have messagesLocked :
        ∀ message ∈
            allMessages view (writeRows view input) inserted,
          uses.SuitsMessage message ∧ message.roomId ∈ locked :=
      fun message member =>
        allMessages_locked
          (fun row rowMember =>
            writeRows_locked suited coherent rowMember)
          insertedLocked coherent member
    refine ⟨⟨?_, by simp, ?_, ?_⟩, ?_⟩
    · intro version member
      rcases List.mem_filterMap.mp member with
        ⟨room, roomMember, allocated⟩
      rcases allocatedRoom_locked suited coherent allocated with
        ⟨sameId, isLocked⟩
      rw [sameId]
      exact
        ⟨isLocked,
          (Database.hasRoom_iff view room.id).mpr
            ⟨room, roomMember, rfl⟩⟩
    · intro version member
      rcases List.mem_filterMap.mp member with
        ⟨write, writeMember, settled⟩
      rcases settledWrite_locked messagesLocked
          (coherent.writes write writeMember) settled with
        ⟨suits, sameRoom, isLocked⟩
      rw [sameRoom]
      exact
        ⟨suits, isLocked, coherent.writeRooms write writeMember⟩
    · intro message member
      rcases insertedLocked message member with ⟨suits, isLocked⟩
      exact
        ⟨suits, isLocked,
          (messageForeignKeyViolation_eq_none_iff.mp
            (references message member)).2⟩
    · intro row member
      rw [List.mem_insertionSort] at member
      rcases List.mem_flatMap.mp member with
        ⟨message, messageMember, inRows⟩
      rcases List.mem_map.mp inRows with ⟨_, _, rfl⟩
      exact (insertedLocked message messageMember).2
  stable := by
    intro view other foreign locals writes next coherent coherentOther
      agrees _ ran apart
    refine ⟨?_, rfl⟩
    rcases persistMessages_inversion ran with
      ⟨inserted, enqueued, insertedEq, references, enqueuedEq, rfl, rfl⟩
    have rows := writeRows_agrees suited coherent coherentOther agrees
    have numbered :
        candidates engine other input = candidates engine view input :=
      candidates_agrees suited coherent coherentOther agrees
    have count :
        messageCount engine other input =
          messageCount engine view input := by
      funext roomId
      rw [messageCount, messageCount, numbered]
    have allocated :
        other.rooms.filterMap
            (allocatedRoom (messageCount engine view input)) =
          view.rooms.filterMap
            (allocatedRoom (messageCount engine view input)) :=
      allocatedRooms_agrees suited coherent agrees
    have allocations :
        roomAllocations (messageCount engine view input) other.rooms =
          roomAllocations (messageCount engine view input)
            view.rooms := by
      rw [roomAllocations, allocated, ← roomAllocations]
    have insertedThere :=
      insertMessages_agrees suited coherent coherentOther agrees
        insertedEq
    have enqueuedThere :=
      enqueue_agrees agrees enqueuedEq fun theirs member =>
        ((clashes_eq_false_iff _ theirs).mp
          (apart theirs member)).2.2.2.2
    have insertedLocked :=
      insertedMessages_locked suited coherent insertedEq
    have rowsLocked :
        ∀ row ∈ writeRows view input,
          uses.SuitsWrite row.write ∧ row.write.roomId ∈ locked :=
      fun row member => writeRows_locked suited coherent member
    have settling :=
      allMessages_agrees inserted rowsLocked coherent coherentOther agrees
    have settled :=
      settledWrites_agrees
        (fun message member =>
          allMessages_locked rowsLocked insertedLocked coherent member)
        coherent coherentOther agrees
    simp only [persistMessages, rows, numbered, count, allocations,
      insertedThere, agrees.messageForeignKeyViolation, references,
      enqueuedThere, allocated, settling, settled]

end Persisting

/-! ## Moving rooms forward -/

section Rooms

variable {uses : Uses} {locked : List RoomId}

theorem maxByRoom_eq_none
    {messages : List BatchPersistedMessageRow} {roomId : RoomId}
    (absent : ∀ row ∈ messages, row.message.roomId ≠ roomId) :
    maxByRoom messages roomId = none := by
  unfold maxByRoom
  induction messages with
  | nil => rfl
  | cons row rest induction =>
      rw [List.foldl_cons,
        if_neg (by simpa using absent row List.mem_cons_self)]
      exact
        induction fun other member =>
          absent other (List.mem_cons_of_mem _ member)

theorem touchedRoom_locked
    {locals : TransactionLocals} (fits : Fits locked locals)
    {room version : Room}
    (touched :
      touchedRoom locals.persistedMessages room = some version) :
    version.id = room.id ∧ room.id ∈ locked := by
  unfold touchedRoom at touched
  cases latest : maxByRoom locals.persistedMessages room.id with
  | none => simp [latest] at touched
  | some time =>
      simp only [latest, Option.map_some, Option.some.injEq] at touched
      refine ⟨by rw [← touched], ?_⟩
      by_contra notLocked
      have absent :
          maxByRoom locals.persistedMessages room.id = none :=
        maxByRoom_eq_none fun row member sameRoom =>
          notLocked (sameRoom ▸ fits row member)
      rw [absent] at latest
      cases latest

theorem updateRoomsLastMessageAt_local
    (uses : Uses) (locked : List RoomId) :
    Local uses locked updateRoomsLastMessageAt where
  within := by
    intro view locals writes next _ fits ran
    simp only [updateRoomsLastMessageAt, Except.ok.injEq,
      Prod.mk.injEq] at ran
    rcases ran with ⟨rfl, rfl⟩
    refine ⟨{ Within.nothing uses locked view with rooms := ?_ }, fits⟩
    intro version member
    rcases List.mem_filterMap.mp member with ⟨room, roomMember, touched⟩
    rcases touchedRoom_locked fits touched with ⟨sameId, isLocked⟩
    rw [sameId]
    exact
      ⟨isLocked,
        (Database.hasRoom_iff view room.id).mpr ⟨room, roomMember, rfl⟩⟩
  stable := by
    intro view other foreign locals writes next _ _ agrees fits ran _
    refine ⟨?_, rfl⟩
    have silent :
        ∀ room : Room, decide (room.id ∈ locked) = false →
          touchedRoom locals.persistedMessages room = none := by
      intro room notLocked
      cases touched : touchedRoom locals.persistedMessages room with
      | none => rfl
      | some version =>
          exact
            absurd (touchedRoom_locked fits touched).2
              (of_decide_eq_false notLocked)
    have same :=
      filterMap_of_filter_eq agrees.rooms (fun room _ => silent room)
        (fun room _ => silent room)
    simp only [updateRoomsLastMessageAt, same] at ran ⊢
    exact ran

/-! ## Messages over REST -/

theorem selectRoomForUpdate_local (uses : Uses) (roomId : RoomId) :
    Local uses [roomId] (selectRoomForUpdate roomId) where
  within := by
    intro view locals writes next _ fits ran
    simp only [selectRoomForUpdate] at ran
    split at ran
    · cases ran
    · simp only [Except.ok.injEq, Prod.mk.injEq] at ran
      rcases ran with ⟨rfl, rfl⟩
      exact ⟨Within.nothing uses [roomId] view, fits⟩
  stable := by
    intro view other foreign locals writes next _ _ agrees _ ran _
    have rows :
        (other.rooms.filter fun room => room.id == roomId) =
          view.rooms.filter fun room => room.id == roomId := by
      simpa [beq_eq_decide] using agrees.rooms
    have found :
        (other.rooms.find? fun room => room.id == roomId) =
          view.rooms.find? fun room => room.id == roomId := by
      rw [← List.head?_filter, ← List.head?_filter, rows]
    constructor
    · simp only [selectRoomForUpdate, found] at ran ⊢
      exact ran
    · simp only [selectRoomForUpdate, rows]

theorem takeSequence_cases
    {roomId : RoomId} {room version : Room}
    (taken : takeSequence roomId room = some version) :
    version.id = room.id ∧ room.id = roomId := by
  unfold takeSequence at taken
  split at taken
  · rename_i same
    exact ⟨by rw [← Option.some.inj taken], same⟩
  · cases taken

theorem incrementNextMessageSeq_local (uses : Uses) (roomId : RoomId) :
    Local uses [roomId] (incrementNextMessageSeq roomId) where
  within := by
    intro view locals writes next _ fits ran
    simp only [incrementNextMessageSeq] at ran
    split at ran
    · rename_i known
      simp only [Except.ok.injEq, Prod.mk.injEq] at ran
      rcases ran with ⟨rfl, rfl⟩
      refine
        ⟨{ Within.nothing uses [roomId] view with rooms := ?_ }, fits⟩
      intro version member
      rcases List.mem_filterMap.mp member with ⟨room, _, taken⟩
      rcases takeSequence_cases taken with ⟨sameId, sameRoom⟩
      rw [sameId, sameRoom]
      exact ⟨List.mem_singleton_self roomId, known⟩
    · cases ran
  stable := by
    intro view other foreign locals writes next _ _ agrees _ ran _
    refine ⟨?_, rfl⟩
    have silent :
        ∀ room : Room, decide (room.id ∈ [roomId]) = false →
          takeSequence roomId room = none := by
      intro room notLocked
      cases taken : takeSequence roomId room with
      | none => rfl
      | some version =>
          have same := (takeSequence_cases taken).2
          simp [same] at notLocked
    have rows :=
      filterMap_of_filter_eq agrees.rooms (fun room _ => silent room)
        (fun room _ => silent room)
    simp only [incrementNextMessageSeq, agrees.hasRoom, rows] at ran ⊢
    exact ran

/-- The new message follows the uses, whatever its number. -/
def SuitedRow
    (uses : Uses) (uuid : MessageId) (now : Timestamp)
    (input : CreateMessageRowInput) : Prop :=
  ∀ roomSequence,
    uses.SuitsMessage (input.toMessage uuid now roomSequence)

theorem insertMessage_inversion
    {uuid : MessageId} {now : Timestamp} {input : CreateMessageRowInput}
    {view : Database} {locals next : TransactionLocals}
    {writes : WriteSet}
    (ran :
      (insertMessage uuid now input).run view locals =
        .ok (writes, next)) :
    messageUniqueViolation view
          (input.toMessage uuid now locals.nextMessageSeq) =
        none ∧
      messageForeignKeyViolation view
          (input.toMessage uuid now locals.nextMessageSeq) =
        none ∧
      writes =
        { messages :=
            [input.toMessage uuid now locals.nextMessageSeq] } ∧
      next =
        { locals with
          createdMessage :=
            some (input.toMessage uuid now locals.nextMessageSeq) } := by
  simp only [insertMessage] at ran
  split at ran
  · cases ran
  · rename_i unique
    split at ran
    · cases ran
    · rename_i references
      simp only [Except.ok.injEq, Prod.mk.injEq] at ran
      exact ⟨unique, references, ran.1.symm, ran.2.symm⟩

theorem insertMessage_local
    {uuid : MessageId} {now : Timestamp} {input : CreateMessageRowInput}
    (suited : SuitedRow uses uuid now input) :
    Local uses [input.roomId] (insertMessage uuid now input) where
  within := by
    intro view locals writes next _ fits ran
    rcases insertMessage_inversion ran with
      ⟨_, references, rfl, rfl⟩
    refine
      ⟨{ Within.nothing uses [input.roomId] view with messages := ?_ },
        fits⟩
    intro message member
    rw [List.mem_singleton] at member
    subst member
    exact
      ⟨suited _, List.mem_singleton_self _,
        (messageForeignKeyViolation_eq_none_iff.mp references).2⟩
  stable := by
    intro view other foreign locals writes next _ _ agrees _ ran apart
    refine ⟨?_, rfl⟩
    rcases insertMessage_inversion ran with
      ⟨unique, references, rfl, rfl⟩
    have uniqueThere :
        messageUniqueViolation other
            (input.toMessage uuid now locals.nextMessageSeq) =
          none := by
      rw [messageUniqueViolation_eq_none_iff] at unique ⊢
      intro old oldMember
      rcases agrees.messagesFrom old oldMember with
        inView | ⟨theirs, theirsMember, inTheirs⟩
      · exact unique old inView
      · exact
          ((clashes_eq_false_iff _ theirs).mp
              (apart theirs theirsMember)).2.2.2.1 _
            (List.mem_singleton_self _) old inTheirs
    simp only [insertMessage, uniqueThere,
      agrees.messageForeignKeyViolation, references]

end Rooms

end ChatBackend.Services.LocalStatements
