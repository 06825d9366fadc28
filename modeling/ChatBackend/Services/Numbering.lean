import ChatBackend.Services.Transitions

/-!
# Rooms are numbered without gaps

In every reachable state the messages of a room carry the numbers `1, …, n`
and the room's next number is `n + 1`.  A writer batch numbers its messages
of a room from the old next number on, in the order of acceptance.
-/

namespace ChatBackend.Services.Numbering

open ChatBackend.Foundation.TableRows
open ChatBackend.Storage.Schema
open ChatBackend.Storage.SequenceMigration
open ChatBackend.Storage.TableInvariants
open ChatBackend.Writer.WriteCommands
open ChatBackend.Writer.BatchTransaction
open ChatBackend.Writer.BatchSpecification
open ChatBackend.Writer.BatchInvariants
open ChatBackend.Services.Transitions

/-- The messages that a batch inserts in a room, given the write rows. -/
structure NumberedInOrder
    (engine : Engine) (room : Room) (writes : List MessageWrite)
    (inserted : List Message) : Prop where
  consecutive :
    inserted.map Message.roomSequence =
      List.range' room.nextMessageSeq inserted.length
  ordered : inserted.Pairwise (createdInOrder engine)
  accepted :
    ∀ message ∈ inserted, ∃ write ∈ writes,
      write.id = message.id ∧ write.acceptedAt = message.createdAt

theorem numberedInOrder_nil
    (engine : Engine) (room : Room) (writes : List MessageWrite) :
    NumberedInOrder engine room writes [] :=
  { consecutive := rfl
    ordered := List.Pairwise.nil
    accepted := by simp }

section Batch

variable {engine : Engine} {now : Timestamp} {db : Database}
  {deduped : List MessageWriteCommand} {input : List InputRow}

/-- Every new message has the write row from which it was made. -/
theorem newMessages_write
    {message : Message} (member : message ∈ newMessages engine db input) :
    ∃ write ∈ (batchResult engine now db input).messageWrites,
      write.id = message.id ∧ write.acceptedAt = message.createdAt := by
  rcases mem_newMessages.mp member with ⟨candidate, candidateMember, rfl⟩
  have inTable := (mem_writeRows.mp (mem_candidates candidateMember).1).1
  exact ⟨_, List.mem_map_of_mem inTable, by simp [candidateMessage]⟩

theorem newMessages_numberedInOrder
    (valid : db.Valid) {room : Room} (member : room ∈ db.rooms) :
    NumberedInOrder engine room
      (batchResult engine now db input).messageWrites
      ((newMessages engine db input).filter fun message =>
        message.roomId == room.id) where
  consecutive := by
    have numbers :=
      newMessages_sequences engine db input room.id
    rw [nextSequence_of_mem valid.rooms member] at numbers
    have size := congrArg List.length numbers
    rw [roomSequences, List.length_map, List.length_range'] at size
    rw [size]
    exact numbers
  ordered := newMessages_sorted.filter _
  accepted := fun _ inRoom =>
    newMessages_write (List.mem_filter.mp inRoom).1

end Batch

/-- The messages of a batch event are numbered from the old next number. -/
theorem writerBatch_numberedInOrder
    (engine : Engine) (state : ServiceState)
    (sound : Sound state.database)
    (commands : List MessageWriteCommand)
    (origin : Option ConnectionId) :
    ∃ inserted,
      (step engine state
            (.writerBatch commands origin)).database.messages =
          state.database.messages ++ inserted ∧
        ∀ room ∈ state.database.rooms,
          NumberedInOrder engine room
            (step engine state
              (.writerBatch commands origin)).database.messageWrites
            (inserted.filter fun message =>
              message.roomId == room.id) := by
  simp only [step]
  split
  · refine ⟨[], by simp, ?_⟩
    intro room _
    exact numberedInOrder_nil engine room _
  · rename_i committed returned succeeded
    by_cases empty : commands = []
    · subst empty
      rw [processMessageWriteCommands_nil, Except.ok.injEq] at succeeded
      rcases Prod.mk.inj succeeded with ⟨rfl, rfl⟩
      refine ⟨[], by simp, ?_⟩
      intro room _
      exact numberedInOrder_nil engine room _
    · rcases batch_result sound empty succeeded with
        ⟨deduped, _, _, _, rfl, _⟩
      refine ⟨_, rfl, ?_⟩
      intro room member
      exact newMessages_numberedInOrder sound.valid member

/--
Rooms are numbered without gaps in every reachable state, and every batch
continues the numbers of its rooms in the order of acceptance.
-/
theorem reached_numbered
    (engine : Engine) (legacy : LegacyTables) (clock : Timestamp)
    (events : List Event) :
    Numbered (reached engine legacy clock events).database ∧
      ∀ commands origin, ∃ inserted,
        (step engine (reached engine legacy clock events)
              (.writerBatch commands origin)).database.messages =
            (reached engine legacy clock events).database.messages ++
              inserted ∧
          ∀ room ∈ (reached engine legacy clock events).database.rooms,
            NumberedInOrder engine room
              (step engine (reached engine legacy clock events)
                (.writerBatch commands origin)).database.messageWrites
              (inserted.filter fun message =>
                message.roomId == room.id) := by
  have sound := reached_sound engine legacy clock events
  exact
    ⟨sound.numbered,
      writerBatch_numberedInOrder engine _ sound⟩

end ChatBackend.Services.Numbering
