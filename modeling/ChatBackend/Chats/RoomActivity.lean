import ChatBackend.Chats.CallOutcomes
import ChatBackend.Writer.MessageInbox

/-!
# The activity time of rooms

A batch moves the times of its rooms in its own transaction.  A call of
`createMessage` does so in a statement of its own, after the insert, and a
call which finds the message of another one does not do it at all.

The run records the moves of the times.  No time of a room ever goes back,
and it has reached all its confirmed messages exactly if no call recovers the
row of another one before a statement has moved the room that far:
`activity_reaches_confirmed_iff`.
-/

namespace ChatBackend.Chats.RoomActivity

open ChatBackend.Foundation.EventRuns
open ChatBackend.Storage.Schema
open ChatBackend.Storage.SequenceMigration
open ChatBackend.Storage.TableInvariants
open ChatBackend.Writer.BatchTransaction
open ChatBackend.Writer.BatchSpecification
open ChatBackend.Writer.BatchInvariants
open ChatBackend.Writer.DeadLetters
open ChatBackend.Writer.OutboxDrain
open ChatBackend.Writer.MessageInbox
open ChatBackend.Services.Transitions hiding Event step reached
open ChatBackend.Chats.MessageRows
open ChatBackend.Chats.MessageCreation
open ChatBackend.Chats.Idempotency
open ChatBackend.Chats.CallOutcomes

/-! ## The property and its guard -/

/-- The time of the message's room is not before the message. -/
def Reached (db : Database) (message : MessageDto) : Prop :=
  ∃ room ∈ db.rooms,
    room.id = message.chatId ∧ message.createdAt ≤ room.lastMessageAt

instance (db : Database) (message : MessageDto) :
    Decidable (Reached db message) :=
  inferInstanceAs (Decidable (∃ room ∈ db.rooms, _ ∧ _))

/-- All rooms stay, and none of their times goes back. -/
def LaterRooms (before after : Database) : Prop :=
  ∀ room ∈ before.rooms,
    ∃ later ∈ after.rooms,
      later.id = room.id ∧ room.lastMessageAt ≤ later.lastMessageAt

/-- The rooms have reached what calls returned and what batches inserted. -/
structure Confirmed (state : RestState) : Prop where
  returned :
    ∀ call ∈ state.calls, ∀ message, call.stage = .returned message →
      Reached state.service.database message
  inserted :
    ∀ id ∈ state.service.batchMessages,
      ∃ row ∈ state.service.database.messages,
        row.id = id ∧
          Reached state.service.database (toMessageDto row)

/-- A step takes no time back and leaves no confirmed message behind. -/
def KeepsActivity
    (engine : Engine) (state : RestState) (event : Event) : Prop :=
  LaterRooms state.service.database
      (step engine state event).service.database ∧
    Confirmed (step engine state event)

/-- A statement that moved the time of a room, unless it was later. -/
structure RoomMove where
  roomId : RoomId
  time : Timestamp
deriving DecidableEq, Repr

/-- The rooms as they were at the start. -/
def initialMoves (db : Database) : List RoomMove :=
  db.rooms.map fun room =>
    { roomId := room.id, time := room.lastMessageAt }

def messageMove (message : Message) : RoomMove where
  roomId := message.roomId
  time := message.createdAt

/-- `updateLastMessageAt` of a call, unless it is lost on the way. -/
def callMove (call : Call) (answer : Answer) : Option RoomMove :=
  match call.stage with
  | .updatingLastMessageAt row =>
      if answer.connection = .lostBefore then none
      else some { roomId := call.input.chatId, time := row.createdAt }
  | _ => none

/-- The messages that an event of the writer inserts. -/
def insertedMessages
    (engine : Engine) (service : ServiceState)
    (event : Services.Transitions.Event) : List Message :=
  (Services.Transitions.step engine service
      event).database.messages.drop service.database.messages.length

/-- The moves of one event: those of a batch, or the one of a call. -/
def roomMoves (engine : Engine) (state : RestState) :
    Event → List RoomMove
  | .writer event =>
      if isWriter event then
        (insertedMessages engine state.service event).map messageMove
      else []
  | .command index answer =>
      match state.calls[index]? with
      | none => []
      | some call => (callMove call answer).toList
  | _ => []

/--
A call recovers a row only after the room of the row was moved to its time or
to a later one, by the call that inserted it or by a later message.
-/
def RecoversMoved (recorded : Recorded RestState RoomMove) : Event → Prop
  | .command index answer =>
      ∀ call, recorded.state.calls[index]? = some call →
        ∀ requestId, recoveredRequest call answer = some requestId →
          ∀ row ∈ recorded.state.service.database.messages,
            row.key? = some (call.input.senderId, requestId) →
              ∃ move ∈ recorded.entries,
                move.roomId = row.roomId ∧ row.createdAt ≤ move.time
  | _ => True

/-! ## Times of rooms -/

theorem LaterRooms.of_rooms_eq
    {before after : Database} (same : after.rooms = before.rooms) :
    LaterRooms before after := by
  intro room member
  rw [← same] at member
  exact ⟨room, member, rfl, le_refl _⟩

/-- Rooms that are changed one by one. -/
theorem LaterRooms.of_map
    {before after : Database} (version : Room → Room)
    (rooms : after.rooms = before.rooms.map version)
    (sameId : ∀ room, (version room).id = room.id)
    (later :
      ∀ room, room.lastMessageAt ≤ (version room).lastMessageAt) :
    LaterRooms before after := by
  intro room member
  refine ⟨version room, ?_, sameId room, later room⟩
  rw [rooms]
  exact List.mem_map_of_mem member

theorem Reached.later
    {before after : Database} {message : MessageDto}
    (reached : Reached before message)
    (laterRooms : LaterRooms before after) : Reached after message := by
  rcases reached with ⟨room, member, inRoom, bound⟩
  rcases laterRooms room member with ⟨later, laterMember, sameId, time⟩
  exact
    ⟨later, laterMember, sameId.trans inRoom, le_trans bound time⟩

theorem withMessageRow_laterRooms
    (db : Database) (roomId : RoomId) (row : Message) :
    LaterRooms db (withMessageRow db roomId row) := by
  apply LaterRooms.of_map (incrementRoom roomId) rfl
  · exact incrementRoom_id roomId
  · intro room
    unfold incrementRoom takeSequence
    split <;> exact le_refl _

theorem updateLastMessageAt_laterRooms
    (db : Database) (roomId : RoomId) (time : Timestamp) :
    LaterRooms db (updateLastMessageAt db roomId time) := by
  intro room member
  have inTable := List.mem_map_of_mem
    (f := fun room : Room =>
      if room.id = roomId then
        { room with lastMessageAt := max room.lastMessageAt time }
      else room) member
  refine ⟨_, inTable, ?_⟩
  split
  · exact ⟨rfl, le_max_left _ _⟩
  · exact ⟨rfl, le_refl _⟩

/-- The statement moves the room to the time of the row. -/
theorem updateLastMessageAt_reached
    {db : Database} {row : Message} {room : Room}
    (member : room ∈ db.rooms) (inRoom : room.id = row.roomId) :
    Reached (updateLastMessageAt db row.roomId row.createdAt)
      (toMessageDto row) := by
  have inTable := List.mem_map_of_mem
    (f := fun room : Room =>
      if room.id = row.roomId then
        { room with
          lastMessageAt := max room.lastMessageAt row.createdAt }
      else room) member
  rw [if_pos inRoom] at inTable
  exact ⟨_, inTable, inRoom, le_max_right _ _⟩

section Batches

variable {engine : Engine} {now : Timestamp} {db : Database}
  {input : List InputRow}

theorem batchResult_laterRooms :
    LaterRooms db (batchResult engine now db input) := by
  apply LaterRooms.of_map (advanceRoom engine db input) rfl
  · exact advanceRoom_id
  · intro room
    exact
      (le_advanceRoom_iff room room.lastMessageAt).mpr
        (.inl (le_refl _))

/-- A batch moves the room of each new message to its time. -/
theorem batchResult_reached
    (valid : db.Valid) (accepted : WritesAccepted db input)
    {row : Message} (new : row ∈ newMessages engine db input) :
    Reached (batchResult engine now db input) (toMessageDto row) := by
  rcases mem_newMessages.mp new with ⟨candidate, member, rfl⟩
  rcases candidate_room valid accepted member with
    ⟨room, inTable, inRoom⟩
  refine
    ⟨advanceRoom engine db input room, List.mem_map_of_mem inTable,
      (advanceRoom_id room).trans inRoom, ?_⟩
  exact
    (le_advanceRoom_iff room candidate.1.write.acceptedAt).mpr
      (.inr ⟨candidate, member, inRoom.symm, le_refl _⟩)

end Batches

theorem change_laterRooms
    {engine : Engine} {before after : ServiceState}
    {event : Services.Transitions.Event}
    (change : Change engine before event after) :
    LaterRooms before.database after.database := by
  cases change with
  | batch => exact batchResult_laterRooms
  | messageRow uuid input room =>
      exact withMessageRow_laterRooms _ _ _
  | lastMessageAt roomId lastMessageAt =>
      exact updateLastMessageAt_laterRooms _ _ _
  | createDead _ _ _ _ succeeded =>
      rcases createDeadLetter_ok succeeded with ⟨_, _, _, rfl⟩
      exact .of_rooms_eq rfl
  | drain _ succeeds drain _ =>
      rcases drainStep_database engine before.clock before.database
          succeeds drain with
        same | ⟨_, _, _, _, _, completed⟩ | ⟨_, _, _, _, _, _, failed⟩
      · exact .of_rooms_eq (congrArg Database.rooms same)
      · exact
          .of_rooms_eq ((congrArg Database.rooms completed).trans rfl)
      · exact .of_rooms_eq ((congrArg Database.rooms failed).trans rfl)
  | _ => exact .of_rooms_eq rfl

/-- What a batch inserted stays, and its room does not go back. -/
theorem change_inserted
    {engine : Engine} {before after : ServiceState}
    {event : Services.Transitions.Event}
    (change : Change engine before event after)
    (sound : Sound before.database)
    (inserted :
      ∀ id ∈ before.batchMessages,
        ∃ row ∈ before.database.messages,
          row.id = id ∧ Reached before.database (toMessageDto row)) :
    ∀ id ∈ after.batchMessages,
      ∃ row ∈ after.database.messages,
        row.id = id ∧ Reached after.database (toMessageDto row) := by
  have kept :
      ∀ id ∈ before.batchMessages,
        ∃ row ∈ after.database.messages,
          row.id = id ∧ Reached after.database (toMessageDto row) := by
    intro id member
    rcases inserted id member with ⟨row, inTable, sameId, reached⟩
    exact
      ⟨row, change_keeps_messages change inTable, sameId,
        reached.later (change_laterRooms change)⟩
  cases change with
  | batch commands deduped origin ids noConflict unique accepted new =>
      intro id member
      rcases List.mem_append.mp member with old | added
      · exact kept id old
      · rcases List.mem_map.mp (new.mem_iff.mp added) with
          ⟨row, isNew, sameId⟩
        exact
          ⟨row, List.mem_append_right _ isNew, sameId,
            batchResult_reached sound.valid accepted.toWritesAccepted
              isNew⟩
  | _ => exact kept

/-! ## Moves -/

/-- The moves were made, and none is missing. -/
structure Accounted (db : Database) (moves : List RoomMove) : Prop where
  made :
    ∀ move ∈ moves,
      ∃ room ∈ db.rooms,
        room.id = move.roomId ∧ move.time ≤ room.lastMessageAt
  complete :
    ∀ room ∈ db.rooms,
      ∃ move ∈ moves,
        move.roomId = room.id ∧ room.lastMessageAt ≤ move.time

theorem initialMoves_accounted (db : Database) :
    Accounted db (initialMoves db) where
  made := by
    intro move member
    rcases List.mem_map.mp member with ⟨room, inTable, rfl⟩
    exact ⟨room, inTable, rfl, le_refl _⟩
  complete := fun _ inTable =>
    ⟨_, List.mem_map_of_mem inTable, rfl, le_refl _⟩

/-- A room has reached a message exactly if it was moved that far. -/
theorem Accounted.reached_iff
    {db : Database} {moves : List RoomMove}
    (accounted : Accounted db moves) {message : MessageDto} :
    Reached db message ↔
      ∃ move ∈ moves,
        move.roomId = message.chatId ∧ message.createdAt ≤ move.time := by
  constructor
  · rintro ⟨room, inTable, inRoom, bound⟩
    rcases accounted.complete room inTable with
      ⟨move, member, sameRoom, covers⟩
    exact ⟨move, member, sameRoom.trans inRoom, le_trans bound covers⟩
  · rintro ⟨move, member, sameRoom, bound⟩
    rcases accounted.made move member with
      ⟨room, inTable, inRoom, covers⟩
    exact ⟨room, inTable, inRoom.trans sameRoom, le_trans bound covers⟩

/-- One step makes these moves and no others. -/
structure Moves
    (before after : Database) (moves : List RoomMove) : Prop where
  later : LaterRooms before after
  made :
    ∀ move ∈ moves,
      ∃ room ∈ after.rooms,
        room.id = move.roomId ∧ move.time ≤ room.lastMessageAt
  complete :
    ∀ room ∈ after.rooms,
      (∃ old ∈ before.rooms,
          old.id = room.id ∧ room.lastMessageAt ≤ old.lastMessageAt) ∨
        ∃ move ∈ moves,
          move.roomId = room.id ∧ room.lastMessageAt ≤ move.time

theorem Accounted.step
    {before after : Database} {old new : List RoomMove}
    (accounted : Accounted before old) (moves : Moves before after new) :
    Accounted after (new ++ old) where
  made := by
    intro move member
    rcases List.mem_append.mp member with isNew | isOld
    · exact moves.made move isNew
    · rcases accounted.made move isOld with
        ⟨room, inTable, inRoom, bound⟩
      rcases moves.later room inTable with
        ⟨later, laterMember, sameId, time⟩
      exact
        ⟨later, laterMember, sameId.trans inRoom, le_trans bound time⟩
  complete := by
    intro room inTable
    rcases moves.complete room inTable with
      ⟨earlier, earlierMember, sameId, bound⟩ |
        ⟨move, isNew, inRoom, bound⟩
    · rcases accounted.complete earlier earlierMember with
        ⟨move, isOld, inRoom, covers⟩
      exact
        ⟨move, List.mem_append_right _ isOld, inRoom.trans sameId,
          le_trans bound covers⟩
    · exact ⟨move, List.mem_append_left _ isNew, inRoom, bound⟩

theorem Moves.of_rooms_eq
    {before after : Database} (same : after.rooms = before.rooms) :
    Moves before after [] where
  later := .of_rooms_eq same
  made := by simp
  complete := fun room inTable =>
    .inl ⟨room, same ▸ inTable, rfl, le_refl _⟩

/-- A row takes a number of its room, and leaves all times as they are. -/
theorem withMessageRow_moves
    (db : Database) (roomId : RoomId) (row : Message) :
    Moves db (withMessageRow db roomId row) [] where
  later := withMessageRow_laterRooms db roomId row
  made := by simp
  complete := by
    intro room inTable
    rcases List.mem_map.mp inTable with ⟨old, oldMember, rfl⟩
    refine .inl ⟨old, oldMember, (incrementRoom_id roomId old).symm, ?_⟩
    unfold incrementRoom takeSequence
    split <;> exact le_refl _

/-- The statement of a call moves the room of its row. -/
theorem updateLastMessageAt_moves
    {db : Database} {row : Message} {room : Room}
    (member : room ∈ db.rooms) (inRoom : room.id = row.roomId) :
    Moves db (updateLastMessageAt db row.roomId row.createdAt)
      [messageMove row] where
  later := updateLastMessageAt_laterRooms db row.roomId row.createdAt
  made := by
    intro move single
    rw [List.mem_singleton] at single
    subst single
    exact updateLastMessageAt_reached member inRoom
  complete := by
    intro later laterMember
    rcases List.mem_map.mp laterMember with ⟨old, oldMember, rfl⟩
    split
    case isTrue moved =>
        rcases le_total old.lastMessageAt row.createdAt with
          forward | stays
        · exact
            .inr
              ⟨messageMove row, List.mem_singleton_self _, moved.symm,
                le_of_eq (max_eq_right forward)⟩
        · exact
            .inl ⟨old, oldMember, rfl, le_of_eq (max_eq_left stays)⟩
    case isFalse => exact .inl ⟨old, oldMember, rfl, le_refl _⟩

/-- A batch moves the rooms of its new messages. -/
theorem batchResult_moves
    {engine : Engine} {now : Timestamp} {db : Database}
    {input : List InputRow} (valid : db.Valid)
    (accepted : WritesAccepted db input) :
    Moves db (batchResult engine now db input)
      ((newMessages engine db input).map messageMove) where
  later := batchResult_laterRooms
  made := by
    intro move member
    rcases List.mem_map.mp member with ⟨row, new, rfl⟩
    exact batchResult_reached valid accepted new
  complete := by
    intro room inTable
    rcases List.mem_map.mp inTable with ⟨old, oldMember, rfl⟩
    rcases (le_advanceRoom_iff old _).mp (le_refl _) with
      stays | ⟨candidate, member, inRoom, moved⟩
    · exact .inl ⟨old, oldMember, (advanceRoom_id old).symm, stays⟩
    · exact
        .inr
          ⟨_, List.mem_map_of_mem
              (mem_newMessages.mpr ⟨candidate, member, rfl⟩),
            inRoom.trans (advanceRoom_id old).symm, moved⟩

theorem change_moves
    {engine : Engine} {before after : ServiceState}
    {event : Services.Transitions.Event}
    (change : Change engine before event after)
    (writer : isWriter event) (sound : Sound before.database) :
    Moves before.database after.database
      ((after.database.messages.drop
          before.database.messages.length).map messageMove) := by
  -- all events but a batch leave the rooms and the messages as they are
  have quiet
      (rooms : after.database.rooms = before.database.rooms)
      (messages :
        after.database.messages = before.database.messages) :
      Moves before.database after.database
        ((after.database.messages.drop
            before.database.messages.length).map messageMove) := by
    rw [messages, List.drop_length, List.map_nil]
    exact .of_rooms_eq rooms
  cases change with
  | batch commands deduped origin ids noConflict unique accepted new =>
      have added :
          (batchResult engine before.clock before.database
                (messageWriteInput deduped origin)).messages.drop
              before.database.messages.length =
            newMessages engine before.database
              (messageWriteInput deduped origin) :=
        List.drop_left
      rw [added]
      exact batchResult_moves sound.valid accepted.toWritesAccepted
  | messageRow => cases writer
  | lastMessageAt => cases writer
  | createDead _ _ _ _ succeeded =>
      rcases createDeadLetter_ok succeeded with ⟨_, _, _, rfl⟩
      exact quiet rfl rfl
  | drain _ succeeds drain _ =>
      rcases drainStep_database engine before.clock before.database
          succeeds drain with
        same | ⟨_, _, _, _, _, completed⟩ | ⟨_, _, _, _, _, _, failed⟩
      · exact
          quiet (congrArg Database.rooms same)
            (congrArg Database.messages same)
      · exact
          quiet ((congrArg Database.rooms completed).trans rfl)
            ((congrArg Database.messages completed).trans rfl)
      · exact
          quiet ((congrArg Database.rooms failed).trans rfl)
            ((congrArg Database.messages failed).trans rfl)
  | _ => exact quiet rfl rfl

/-! ## The invariant -/

/-- What the stage of a call says about the room. -/
def StageTimed (db : Database) (chatId : RoomId) : Stage → Prop
  | .updatingLastMessageAt row =>
      row.roomId = chatId ∧ ∃ room ∈ db.rooms, room.id = row.roomId
  | .caching _ message recoveredDuplicate =>
      recoveredDuplicate = false → Reached db message
  | .publishing message | .returned message => Reached db message
  | _ => True

structure Timed (recorded : Recorded RestState RoomMove) : Prop where
  keyed : Keyed recorded.state
  accounted : Accounted recorded.state.service.database recorded.entries
  cached :
    ∀ key message, recorded.state.cache.get key = some message →
      Reached recorded.state.service.database message
  calls :
    ∀ call ∈ recorded.state.calls,
      StageTimed recorded.state.service.database call.input.chatId
        call.stage
  inserted :
    ∀ id ∈ recorded.state.service.batchMessages,
      ∃ row ∈ recorded.state.service.database.messages,
        row.id = id ∧
          Reached recorded.state.service.database (toMessageDto row)

theorem Timed.confirmed
    {recorded : Recorded RestState RoomMove} (timed : Timed recorded) :
    Confirmed recorded.state where
  returned := by
    intro call member message returned
    have stage := timed.calls call member
    rw [returned] at stage
    exact stage
  inserted := timed.inserted

theorem StageTimed.later
    {before after : Database} {chatId : RoomId} {stage : Stage}
    (timed : StageTimed before chatId stage)
    (laterRooms : LaterRooms before after) :
    StageTimed after chatId stage := by
  cases stage with
  | updatingLastMessageAt row =>
      rcases timed with ⟨inChat, room, member, inRoom⟩
      rcases laterRooms room member with ⟨later, laterMember, sameId, _⟩
      exact ⟨inChat, later, laterMember, sameId.trans inRoom⟩
  | caching _ _ _ => exact fun fresh => (timed fresh).later laterRooms
  | publishing _ => exact Reached.later timed laterRooms
  | returned _ => exact Reached.later timed laterRooms
  | _ => trivial

theorem stageTimed_of_heldMessage_none
    {db : Database} {chatId : RoomId} {stage : Stage}
    (holdsNone : heldMessage stage = none) :
    StageTimed db chatId stage := by
  cases stage with
  | updatingLastMessageAt _ => cases holdsNone
  | caching _ _ _ => cases holdsNone
  | publishing _ => cases holdsNone
  | returned _ => cases holdsNone
  | _ => trivial

theorem afterCache_timed
    {db : Database} (chatId : RoomId)
    (deps : CreateMessageDependencies) {message : MessageDto}
    (recoveredDuplicate : Bool) (reached : Reached db message) :
    StageTimed db chatId (afterCache deps message recoveredDuplicate) := by
  unfold afterCache
  split <;> exact reached

theorem afterRow_timed
    {db : Database} (input : CreateMessageInput)
    (deps : CreateMessageDependencies) {row : Message}
    (recoveredDuplicate : Bool)
    (reached : Reached db (toMessageDto row)) :
    StageTimed db input.chatId
      (afterRow input deps row recoveredDuplicate) := by
  unfold afterRow
  split
  · exact afterCache_timed _ deps recoveredDuplicate reached
  · exact fun _ => reached

/-! ## Commands -/

/-- What one command of a call keeps. -/
structure CommandTimed (outcome : Outcome) : Prop where
  cached :
    ∀ key message, outcome.cache.get key = some message →
      Reached outcome.database message
  next :
    StageTimed outcome.database outcome.call.input.chatId
      outcome.call.stage

section Commands

variable {db : Database} {cache : Cache} {call : Call} {answer : Answer}
  (cached :
    ∀ key message, cache.get key = some message → Reached db message)
  (timed : StageTimed db call.input.chatId call.stage)
  (recovered :
    ∀ message, recoveredMessage db call answer = some message →
      Reached db message)

include timed in
/-- A command makes the move of its call and no other. -/
theorem runCommand_moves (sound : Sound db) (now : Timestamp) :
    Moves db (runCommand now db cache call answer).database
      (callMove call answer).toList := by
  cases stage : call.stage with
  | creatingRow =>
      have command :=
        @runCommand_outcome db cache call answer sound now
      simp only [callMove, stage, Option.toList_none]
      generalize runCommand now db cache call answer = outcome at command ⊢
      cases command with
      | inserted row => exact withMessageRow_moves _ _ row
      | updated row next updating =>
          rw [stage] at updating
          cases updating
      | _ => exact .of_rooms_eq rfl
  | updatingLastMessageAt row =>
      rw [stage] at timed
      rcases timed with ⟨inChat, room, member, inRoom⟩
      simp only [runCommand, callMove, stage, runUpdateLastMessageAt]
      split
      · exact .of_rooms_eq rfl
      · rw [← inChat]
        exact updateLastMessageAt_moves member inRoom
  | _ =>
      simp only [runCommand, callMove, stage, readDatabase]
      exact .of_rooms_eq rfl

include cached

/-- A command which leaves the tables and the cache alone. -/
theorem CommandTimed.quiet
    {next : Call}
    (timedNext : StageTimed db next.input.chatId next.stage) :
    CommandTimed { database := db, cache := cache, call := next } where
  cached := cached
  next := timedNext

include timed recovered

theorem commandOutcome_timed
    {outcome : Outcome}
    (command : CommandOutcome db cache call answer outcome)
    (later : LaterRooms db outcome.database) :
    CommandTimed outcome := by
  cases command with
  | stopped => exact .quiet cached timed
  | moved next holdsNone request =>
      exact .quiet cached (stageTimed_of_heldMessage_none holdsNone)
  | inserted row room next numbers member sameRoom accepted sender
      inRoom stage soundAfter =>
      refine
        { cached := fun key message hit =>
            (cached key message hit).later later
          next := ?_ }
      rcases stage with rfl | ⟨failure, rfl⟩
      · rcases later room member with ⟨after, afterMember, sameId, _⟩
        exact
          ⟨inRoom, after, afterMember,
            (sameId.trans sameRoom).trans inRoom.symm⟩
      · trivial
  | updated row next updating stage =>
      rw [updating] at timed
      rcases timed with ⟨inChat, room, member, inRoom⟩
      refine
        { cached := fun key message hit =>
            (cached key message hit).later later
          next := ?_ }
      rcases stage with rfl | ⟨failure, rfl⟩
      · apply afterRow_timed
        rw [← inChat]
        exact updateLastMessageAt_reached member inRoom
      · trivial
  | hit message found =>
      rcases cached_of_cachedMessage found with ⟨key, entry⟩
      exact .quiet cached (cached key message entry)
  | found requestId row finding kept found =>
      apply CommandTimed.quiet cached
      rcases recoveredMessage_of_found answer finding kept found with
        ⟨used, caching⟩ | recovers
      · dsimp only
        rw [caching]
        intro fresh
        cases fresh
      · exact
          afterRow_timed call.input call.deps true (recovered _ recovers)
  | cached requestId message recoveredDuplicate written caching stage =>
      have reached : Reached db message := by
        cases recoveredDuplicate with
        | false =>
            rw [caching] at timed
            exact timed rfl
        | true =>
            exact recovered message
              (by simp only [recoveredMessage, caching])
      have stillCached :
          ∀ key other, written.get key = some other →
            Reached db other := by
        rcases stage with rfl | rfl
        · exact cached
        · exact Cache.holds_set cached reached
      exact
        .quiet stillCached
          (afterCache_timed _ call.deps recoveredDuplicate reached)
  | published message events publishing =>
      rw [publishing] at timed
      exact .quiet cached timed

end Commands

/-! ## Runs -/

/-- The system, with the moves of the rooms. -/
def recordedMoves (engine : Engine) :
    Recorded RestState RoomMove → Event → Recorded RestState RoomMove :=
  recordedStep (step engine) (roomMoves engine)

/-- The times go on, and the invariant stays. -/
def TimedAfter
    (engine : Engine) (recorded : Recorded RestState RoomMove)
    (event : Event) : Prop :=
  LaterRooms recorded.state.service.database
      (step engine recorded.state event).service.database ∧
    Timed (recordedMoves engine recorded event)

section Steps

variable (engine : Engine) {recorded : Recorded RestState RoomMove}
  (timed : Timed recorded)

include timed

theorem writer_timed (event : Services.Transitions.Event) :
    TimedAfter engine recorded (.writer event) := by
  have keyed :=
    step_keyed engine recorded.state (.writer event) timed.keyed
  by_cases enabled : isWriter event
  · have change :=
      step_change engine recorded.state.service event timed.keyed.sound
    have moves := change_moves change enabled timed.keyed.sound
    have later := moves.later
    simp only [TimedAfter, recordedMoves, recordedStep, step, roomMoves,
      if_pos enabled] at keyed ⊢
    exact
      ⟨later,
        { keyed := keyed
          accounted := timed.accounted.step moves
          cached := fun key message hit =>
            (timed.cached key message hit).later later
          calls := fun call member =>
            (timed.calls call member).later later
          inserted :=
            change_inserted change timed.keyed.sound timed.inserted }⟩
  · simp only [TimedAfter, recordedMoves, recordedStep, step, roomMoves,
      if_neg enabled]
    exact ⟨.of_rooms_eq rfl, { timed with }⟩

/-- What a call recovers is reached exactly if its room was moved. -/
theorem recovered_reached_iff
    {call : Call} (member : call ∈ recorded.state.calls)
    (answer : Answer) :
    (∀ message,
        recoveredMessage recorded.state.service.database call answer =
            some message →
          Reached recorded.state.service.database message) ↔
      ∀ requestId, recoveredRequest call answer = some requestId →
        ∀ row ∈ recorded.state.service.database.messages,
          row.key? = some (call.input.senderId, requestId) →
            ∃ move ∈ recorded.entries,
              move.roomId = row.roomId ∧ row.createdAt ≤ move.time := by
  have recovers :=
    @recoveredMessage_iff _ call timed.keyed.sound.valid
      (timed.keyed.calls call member) answer
  constructor
  · intro reached requestId request row inTable key
    exact
      timed.accounted.reached_iff.mp
        (reached (toMessageDto row)
          (recovers.mpr ⟨requestId, request, row, inTable, key, rfl⟩))
  · intro moved message recovered
    rcases recovers.mp recovered with
      ⟨requestId, request, row, inTable, key, rfl⟩
    exact
      timed.accounted.reached_iff.mpr
        (moved requestId request row inTable key)

theorem command_timed
    (index : Nat) (answer : Answer)
    (recovers : RecoversMoved recorded (.command index answer)) :
    TimedAfter engine recorded (.command index answer) := by
  have keyed :=
    step_keyed engine recorded.state (.command index answer) timed.keyed
  cases found : recorded.state.calls[index]? with
  | none =>
      simp only [TimedAfter, recordedMoves, recordedStep, step, roomMoves,
        found]
      exact ⟨.of_rooms_eq rfl, { timed with }⟩
  | some call =>
      have member := List.mem_of_getElem? found
      have command :=
        @runCommand_outcome _ recorded.state.cache call answer
          timed.keyed.sound recorded.state.service.clock
      have moves :=
        @runCommand_moves _ recorded.state.cache call answer
          (timed.calls call member) timed.keyed.sound
          recorded.state.service.clock
      have after :=
        commandOutcome_timed timed.cached (timed.calls call member)
          ((recovered_reached_iff timed member answer).mpr
            (recovers call found))
          command moves.later
      simp only [TimedAfter, recordedMoves, recordedStep, step, roomMoves,
        found] at keyed ⊢
      refine
        ⟨moves.later,
          { keyed := keyed
            accounted := timed.accounted.step moves
            cached := after.cached
            calls := ?_
            inserted := ?_ }⟩
      · intro other listed
        rcases List.mem_or_eq_of_mem_set listed with old | rfl
        · exact (timed.calls other old).later moves.later
        · exact after.next
      · intro id listed
        rcases timed.inserted id listed with
          ⟨row, inTable, sameId, reached⟩
        exact
          ⟨row, command.keeps row inTable, sameId,
            reached.later moves.later⟩

theorem call_timed
    (input : CreateMessageInput) (deps : CreateMessageDependencies) :
    TimedAfter engine recorded (.call input deps) := by
  refine
    ⟨.of_rooms_eq rfl,
      { keyed :=
          step_keyed engine recorded.state (.call input deps) timed.keyed
        accounted := timed.accounted
        cached := timed.cached
        inserted := timed.inserted
        calls := ?_ }⟩
  intro call member
  rcases List.mem_append.mp member with old | new
  · exact timed.calls call old
  · rw [List.mem_singleton] at new
    subst new
    exact stageTimed_of_heldMessage_none (firstStage_search input).2.1

theorem expire_timed (key : String) :
    TimedAfter engine recorded (.expire key) := by
  refine
    ⟨.of_rooms_eq rfl,
      { keyed :=
          step_keyed engine recorded.state (.expire key) timed.keyed
        accounted := timed.accounted
        calls := timed.calls
        inserted := timed.inserted
        cached := ?_ }⟩
  intro other message hit
  simp only [recordedMoves, recordedStep, step, Cache.get_remove] at hit
  split at hit
  · cases hit
  · exact timed.cached other message hit

end Steps

theorem step_timed
    (engine : Engine) (recorded : Recorded RestState RoomMove)
    (event : Event) (timed : Timed recorded)
    (recovers : RecoversMoved recorded event) :
    TimedAfter engine recorded event := by
  cases event with
  | writer event => exact writer_timed engine timed event
  | call input deps => exact call_timed engine timed input deps
  | command index answer =>
      exact command_timed engine timed index answer recovers
  | expire key => exact expire_timed engine timed key

theorem recoversMoved_of_keepsActivity
    (engine : Engine) (recorded : Recorded RestState RoomMove)
    (event : Event) (timed : Timed recorded)
    (keeps : KeepsActivity engine recorded.state event) :
    RecoversMoved recorded event := by
  cases event with
  | writer _ => trivial
  | call _ _ => trivial
  | expire _ => trivial
  | command index answer =>
      intro call found
      rw [← recovered_reached_iff timed (List.mem_of_getElem? found)]
      intro message recovered
      have ran :
          (runCommand recorded.state.service.clock
              recorded.state.service.database recorded.state.cache call
              answer).call ∈
            (step engine recorded.state (.command index answer)).calls := by
        simp only [step, found]
        rcases List.getElem?_eq_some_iff.mp found with ⟨inside, _⟩
        exact List.mem_set inside _
      have reached :=
        keeps.2.returned _ ran message
          (returns_recoveredMessage answer _ recovered)
      simp only [step, found] at reached
      rw [database_of_recoveredMessage answer _ recovered] at reached
      exact reached

/-- The start of a run, with the times that the rooms have. -/
def recordedStart
    (engine : Engine) (legacy : LegacyTables) (clock : Timestamp) :
    Recorded RestState RoomMove where
  state := { service := Services.Transitions.initial engine legacy clock }
  entries :=
    initialMoves
      (Services.Transitions.initial engine legacy clock).database

theorem initial_timed
    (engine : Engine) (legacy : LegacyTables) (clock : Timestamp) :
    Timed (recordedStart engine legacy clock) where
  keyed := initial_keyed engine legacy clock
  accounted := initialMoves_accounted _
  cached := by simp [recordedStart, Cache.get]
  calls := by simp [recordedStart]
  inserted := by simp [recordedStart, Services.Transitions.initial]

/--
In a run no time of a room goes back and every confirmed message is reached
exactly if every call that recovers a row does so after its room was moved to
the time of the row.
-/
theorem activity_reaches_confirmed_iff
    (engine : Engine) (legacy : LegacyTables) (clock : Timestamp)
    (events : List Event) :
    EveryStep (step engine) (KeepsActivity engine)
        { service := Services.Transitions.initial engine legacy clock }
        events ↔
      EveryStep (recordedMoves engine) RecoversMoved
        (recordedStart engine legacy clock) events := by
  have unrecorded :=
    @everyStep_recorded _ _ (step engine) _ (roomMoves engine)
      (KeepsActivity engine) (recordedStart engine legacy clock) events
  refine unrecorded.symm.trans ?_
  exact
    everyStep_iff_guarded
      (fun recorded event timed recovers =>
        (step_timed engine recorded event timed recovers).2)
      (fun recorded event timed =>
        ⟨recoversMoved_of_keepsActivity engine recorded event timed,
          fun recovers =>
            have after := step_timed engine recorded event timed recovers
            ⟨after.1, after.2.confirmed⟩⟩)
      (initial_timed engine legacy clock) events

/-! ## A retry after a lost update -/

/-- Ana's request, whose update of the room fails, and its retry. -/
def exampleRetry : List Event :=
  let input : CreateMessageInput :=
    { senderId := "ana"
      chatId := "room"
      body := some "hello"
      requestId := some "request" }
  [.call input {},
    .command 0 {}, .command 0 {}, .command 0 { uuid := "first" },
    .command 0 { connection := .lostBefore },
    .call input {},
    .command 1 {}, .command 1 {}, .command 1 { uuid := "second" },
    .command 1 {}, .command 1 {}]

/-- The retry returns the message, and the room still has its old time. -/
theorem retry_returns_without_activity :
    ¬ EveryStep (step exampleEngine) (KeepsActivity exampleEngine)
        { service :=
            Services.Transitions.initial exampleEngine exampleTables 5 }
        exampleRetry := by
  intro everyStep
  have cut :
      exampleRetry = exampleRetry.dropLast ++ [.command 1 {}] := by
    decide
  rw [cut, everyStep_append] at everyStep
  have confirmed := everyStep.2.1.2
  have returned :
      ∃ call ∈
          (step exampleEngine
            (reached exampleEngine exampleTables 5 exampleRetry.dropLast)
            (.command 1 {})).calls,
        call.stage =
          .returned
            { id := "first"
              chatId := "room"
              senderId := "ana"
              body := "hello"
              createdAt := 5 } := by
    decide +kernel
  rcases returned with ⟨call, member, isReturned⟩
  have isReached := confirmed.returned call member _ isReturned
  exact absurd isReached (by decide +kernel)

end ChatBackend.Chats.RoomActivity
