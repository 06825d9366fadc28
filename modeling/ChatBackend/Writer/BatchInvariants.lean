import ChatBackend.Storage.TableInvariants
import ChatBackend.Writer.BatchSpecification

/-!
# What a batch keeps

A committed batch keeps the tables sound: the range reserved in a room is
exactly the range of the messages inserted in it.  The inserted messages of a
room stand in the order of acceptance and are numbered from the room's old
next number on.

`batch_result` turns a successful call into `batchResult`, so that callers
see one database and never the statements.
-/

namespace ChatBackend.Writer.BatchInvariants

open ChatBackend.Foundation.RowNumbering
open ChatBackend.Foundation.TableRows
open ChatBackend.Storage.Schema
open ChatBackend.Storage.SequenceMigration
open ChatBackend.Storage.TableInvariants
open ChatBackend.Writer.WriteCommands
open ChatBackend.Writer.BatchTransaction
open ChatBackend.Writer.BatchSpecification

/-! ## Settling -/

/-- Settling a write row is a no-op or makes it PERSISTED. -/
theorem settle_cases (messages : List Message) (write : MessageWrite) :
    settle messages write = write ∨
      (MessageWriteStatus.isOpen write.status = true ∧
        ∃ message ∈ messages,
          message.key? = some write.key ∧
            settle messages write =
              { write with
                status := .persisted
                persistedAt := some message.createdAt
                failedAt := none
                failureReason := none }) := by
  unfold settle settledWrite
  split
  · rename_i isOpen
    cases found :
        messages.find? fun message =>
          message.key? == some write.key with
    | none => exact Or.inl rfl
    | some message =>
        exact
          Or.inr
            ⟨isOpen, message, List.mem_of_find?_eq_some found,
              by simpa using List.find?_some found, rfl⟩
  · exact Or.inl rfl

section SettledColumns

variable (messages : List Message) (write : MessageWrite)

@[simp]
theorem settle_id : (settle messages write).id = write.id := by
  rcases settle_cases messages write with same | ⟨_, _, _, _, same⟩ <;>
    rw [same]

@[simp]
theorem settle_senderId :
    (settle messages write).senderId = write.senderId := by
  rcases settle_cases messages write with same | ⟨_, _, _, _, same⟩ <;>
    rw [same]

@[simp]
theorem settle_requestId :
    (settle messages write).requestId = write.requestId := by
  rcases settle_cases messages write with same | ⟨_, _, _, _, same⟩ <;>
    rw [same]

@[simp]
theorem settle_roomId :
    (settle messages write).roomId = write.roomId := by
  rcases settle_cases messages write with same | ⟨_, _, _, _, same⟩ <;>
    rw [same]

@[simp]
theorem settle_content :
    (settle messages write).content = write.content := by
  rcases settle_cases messages write with same | ⟨_, _, _, _, same⟩ <;>
    rw [same]

@[simp]
theorem settle_acceptedAt :
    (settle messages write).acceptedAt = write.acceptedAt := by
  rcases settle_cases messages write with same | ⟨_, _, _, _, same⟩ <;>
    rw [same]

@[simp]
theorem settle_key : (settle messages write).key = write.key := by
  simp [MessageWrite.key]

end SettledColumns

/-! ## The numbers of the new messages -/

section Numbers

variable {engine : Engine} {now : Timestamp} {db : Database}
  {input : List InputRow}

theorem newMessages_filter_room
    (engine : Engine) (db : Database) (input : List InputRow)
    (roomId : RoomId) :
    (newMessages engine db input).filter
        (fun message => message.roomId == roomId) =
      ((candidates engine (staged db input) input).filter
          fun candidate => candidate.1.write.roomId = roomId).map
        fun candidate =>
          candidateMessage candidate (nextSequence db.rooms roomId) := by
  unfold newMessages
  rw [List.filter_map]
  have sameFilter :
      (candidates engine (staged db input) input).filter
          ((fun message : Message => message.roomId == roomId) ∘
            fun candidate =>
              candidateMessage candidate
                (nextSequence db.rooms candidate.1.write.roomId)) =
        (candidates engine (staged db input) input).filter
          fun candidate => candidate.1.write.roomId = roomId := by
    apply List.filter_congr
    intro candidate _
    rw [Bool.eq_iff_iff]
    simp [candidateMessage]
  rw [sameFilter]
  apply List.map_congr_left
  intro candidate member
  have inRoom : candidate.1.write.roomId = roomId := by
    simpa using (List.mem_filter.mp member).2
  rw [inRoom]

theorem messageCount_eq
    (engine : Engine) (db : Database) (input : List InputRow)
    (roomId : RoomId) :
    messageCount engine (staged db input) input roomId =
      ((writeRows (staged db input) input).filter
          (isCandidate (staged db input))).countP
        fun row => row.write.roomId = roomId := by
  have rows :=
    rowNumber_rows_perm (fun row : WriteRow => row.write.roomId)
      (acceptedBefore engine)
      ((writeRows (staged db input) input).filter
        (isCandidate (staged db input)))
  rw [← rows.countP_eq, List.countP_map]
  apply List.countP_congr
  intro candidate _
  simp

/-- The new messages of a room take the reserved range in its order. -/
theorem newMessages_sequences
    (engine : Engine) (db : Database) (input : List InputRow)
    (roomId : RoomId) :
    roomSequences (newMessages engine db input) roomId =
      List.range' (nextSequence db.rooms roomId)
        (messageCount engine (staged db input) input roomId) := by
  have numbers :=
    rowNumber_numbers (fun row : WriteRow => row.write.roomId)
      (acceptedBefore engine)
      ((writeRows (staged db input) input).filter
        (isCandidate (staged db input))) roomId
  rw [← messageCount_eq engine] at numbers
  have shifted :
      roomSequences (newMessages engine db input) roomId =
        (((candidates engine (staged db input) input).filter
            fun candidate => candidate.1.write.roomId = roomId).map
          Prod.snd).map
          fun number => nextSequence db.rooms roomId + (number - 1) := by
    rw [roomSequences, newMessages_filter_room, List.map_map,
      List.map_map]
    rfl
  rw [shifted]
  unfold candidates
  rw [numbers]
  apply List.ext_getElem
  · simp
  · intro index _ _
    simp

/-- The order of acceptance as an order of messages. -/
def createdInOrder (engine : Engine) (left right : Message) : Prop :=
  left.createdAt < right.createdAt ∨
    (left.createdAt = right.createdAt ∧
      engine.collates left.id right.id = true)

theorem newMessages_sorted :
    (newMessages engine db input).Pairwise (createdInOrder engine) := by
  have : Std.Total (acceptedBefore engine) :=
    ⟨fun left right => by
      rcases lt_trichotomy left.write.acceptedAt
          right.write.acceptedAt with earlier | same | later
      · exact Or.inl (Or.inl earlier)
      · rcases engine.collates_total left.write.id right.write.id with
          before | after
        · exact Or.inl (Or.inr ⟨same, before⟩)
        · exact Or.inr (Or.inr ⟨same.symm, after⟩)
      · exact Or.inr (Or.inl later)⟩
  have : IsTrans WriteRow (acceptedBefore engine) :=
    ⟨fun first second third early late => by
      rcases early with early | ⟨same, early⟩ <;>
        rcases late with late | ⟨same', late⟩
      · exact Or.inl (early.trans late)
      · exact Or.inl (same' ▸ early)
      · exact Or.inl (same ▸ late)
      · exact
          Or.inr
            ⟨same.trans same',
              engine.collates_trans _ _ _ early late⟩⟩
  have sorted :=
    rowNumber_sorted (fun row : WriteRow => row.write.roomId)
      (acceptedBefore engine)
      ((writeRows (staged db input) input).filter
        (isCandidate (staged db input)))
  rw [List.pairwise_map] at sorted
  unfold newMessages
  rw [List.pairwise_map]
  exact sorted

end Numbers

/-! ## A committed batch -/

section Committed

variable {engine : Engine} {now : Timestamp} {db : Database}
  {deduped : List MessageWriteCommand} {input : List InputRow}

theorem sequencesBelow_of_sound (sound : Sound db) :
    SequencesBelow db :=
  fun _ member _ roomMember inRoom =>
    sequence_lt_next sound.numbered member roomMember inRoom

theorem advanceRoom_id (room : Room) :
    (advanceRoom engine db input room).id = room.id :=
  rfl

/-- What settles a write row is stored when the batch commits. -/
theorem settlingMessages_stored
    {message : Message}
    (member : message ∈ settlingMessages engine db input) :
    message ∈ (batchResult engine now db input).messages := by
  rcases List.mem_append.mp member with new | old
  · exact List.mem_append_right _ new
  · exact List.mem_append_left _ (List.mem_filter.mp old).1

/-- A batch keeps the tables sound. -/
theorem batchResult_sound
    (sound : Sound db)
    (unique : (input.map InputRow.key).Nodup)
    (accepted : BatchAccepted engine now db deduped input) :
    Sound (batchResult engine now db input) := by
  have valid := sound.valid
  have writesAccepted := accepted.toWritesAccepted
  have below := sequencesBelow_of_sound sound
  have withMessages :=
    appendMessages_valid valid (newMessages engine db input)
      (newMessages_compatible valid below writesAccepted)
      (newMessages_pairwise valid writesAccepted unique)
      (newMessages_sender valid writesAccepted)
      (newMessages_room valid writesAccepted)
  have withWrites :=
    withWrites_valid withMessages
      ((staged db input).messageWrites.map
        (settle (settlingMessages engine db input)))
      (by
        simpa only [List.map_map, Function.comp_def, settle_id] using
          staged_writeIds valid writesAccepted)
      (by
        simpa only [List.map_map, Function.comp_def, settle_key] using
          staged_writeKeys valid unique)
      (by
        intro write member
        rcases List.mem_map.mp member with ⟨old, oldMember, rfl⟩
        rw [settle_senderId]
        exact staged_writeSender valid writesAccepted old oldMember)
      (by
        intro write member
        rcases List.mem_map.mp member with ⟨old, oldMember, rfl⟩
        rw [settle_roomId]
        exact staged_writeRoom valid writesAccepted old oldMember)
  have withOutbox :=
    withOutbox_valid withWrites
      (db.messageOutbox ++ newOutbox engine now db input)
      (by
        rw [List.map_append, List.nodup_append]
        refine
          ⟨valid.outboxIds,
            List.pairwise_map.mpr accepted.distinctOutboxIds, ?_⟩
        intro oldId oldMember newId newMember
        rcases List.mem_map.mp oldMember with ⟨old, oldIn, rfl⟩
        rcases List.mem_map.mp newMember with ⟨new, newIn, rfl⟩
        exact accepted.freshOutboxIds new newIn old oldIn)
      (by
        rw [List.map_append, List.nodup_append]
        refine ⟨valid.outboxEvents, ?_, ?_⟩
        · refine
            List.pairwise_map.mpr
              ((newOutbox_messageIds valid writesAccepted unique).imp
                fun different same => ?_)
          exact different (congrArg Prod.snd same)
        · intro oldEvent oldMember newEvent newMember same
          rcases List.mem_map.mp oldMember with ⟨old, oldIn, rfl⟩
          rcases List.mem_map.mp newMember with ⟨new, newIn, rfl⟩
          exact
            newOutbox_fresh_event valid new newIn old oldIn
              (congrArg Prod.snd same))
      (by
        intro row member
        rcases List.mem_append.mp member with old | new
        · rcases valid.outboxMessage row old with
            ⟨message, messageMember, same⟩
          exact
            ⟨message, List.mem_append_left _ messageMember, same⟩
        · rcases mem_newOutbox.mp new with
            ⟨candidate, candidateMember, rfl⟩
          exact
            ⟨_,
              List.mem_append_right _
                (mem_newMessages.mpr ⟨candidate, candidateMember, rfl⟩),
              rfl⟩)
  refine ⟨?_, ?_⟩
  · apply
      withRooms_valid withOutbox
        (db.rooms.map (advanceRoom engine db input))
    rw [List.map_map]
    rfl
  · refine
      numbered_allocate (advanceRoom engine db input)
        (messageCount engine (staged db input) input)
        sound.numbered rfl rfl advanceRoom_id (fun _ _ => rfl) ?_
    intro room member
    rw [newMessages_sequences,
      nextSequence_of_mem valid.rooms member]

/-- Inversion for a successful call on a non-empty batch. -/
theorem batch_result
    {commands : List MessageWriteCommand}
    {origin : Option ConnectionId}
    {committed : Database} {returned : List MessageDto}
    (sound : Sound db) (nonempty : commands ≠ [])
    (succeeded :
      processMessageWriteCommands engine now db commands origin =
        .ok (committed, returned)) :
    ∃ deduped,
      dedupeMessageWriteCommands commands = .ok deduped ∧
        ((messageWriteInput deduped origin).map
          InputRow.key).Nodup ∧
        BatchAccepted engine now db deduped
          (messageWriteInput deduped origin) ∧
        committed =
          batchResult engine now db
            (messageWriteInput deduped origin) ∧
        returned =
          ((newRows engine db
                (messageWriteInput deduped origin)).insertionSort
              (createdBefore engine)).map fun row =>
            toMessageDto row.message := by
  obtain ⟨deduped, noConflict, accepted, resultEq⟩ :=
    (processMessageWriteCommands_ok_iff sound.valid
      (sequencesBelow_of_sound sound) nonempty).mp succeeded
  rcases Prod.mk.inj resultEq with ⟨rfl, rfl⟩
  refine ⟨deduped, noConflict, ?_, accepted, rfl, rfl⟩
  rw [messageWriteInput_keys]
  exact dedupe_keys_nodup noConflict

/-- A call with an empty batch does nothing. -/
@[simp]
theorem processMessageWriteCommands_nil
    (origin : Option ConnectionId) :
    processMessageWriteCommands engine now db [] origin =
      .ok (db, []) := by
  simp [processMessageWriteCommands]

/-- A successful call keeps the tables sound. -/
theorem processMessageWriteCommands_sound
    {commands : List MessageWriteCommand}
    {origin : Option ConnectionId}
    {committed : Database} {returned : List MessageDto}
    (sound : Sound db)
    (succeeded :
      processMessageWriteCommands engine now db commands origin =
        .ok (committed, returned)) :
    Sound committed := by
  by_cases empty : commands = []
  · subst empty
    rw [processMessageWriteCommands_nil, Except.ok.injEq] at succeeded
    exact (Prod.mk.inj succeeded).1 ▸ sound
  · rcases batch_result sound empty succeeded with
      ⟨deduped, _, unique, accepted, rfl, _⟩
    exact batchResult_sound sound unique accepted

end Committed

end ChatBackend.Writer.BatchInvariants
