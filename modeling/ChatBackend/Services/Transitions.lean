import ChatBackend.Chats.MessageRows
import ChatBackend.Foundation.EventRuns
import ChatBackend.Writer.BatchInvariants
import ChatBackend.Writer.DeadLetters
import ChatBackend.Writer.OutboxDrain

/-!
# The services as one transition system

The message writer and the chat service share the database.  The state holds
the database and the calls that are under way between two transactions: dead
letters between their two statements, and drains of the outbox.  It also
keeps two histories: the events whose publish has resolved, and the messages
which writer batches have inserted.

Every event is one atomic transaction or one step of a call.  An event that
is not enabled changes nothing, and so does a transaction which is rolled
back.
-/

namespace ChatBackend.Services.Transitions

open ChatBackend.Foundation.EventRuns
open ChatBackend.Storage.Schema
open ChatBackend.Storage.SequenceMigration
open ChatBackend.Storage.TableInvariants
open ChatBackend.Chats.MessageRows
open ChatBackend.Writer.WriteCommands
open ChatBackend.Writer.BatchTransaction
open ChatBackend.Writer.BatchSpecification
open ChatBackend.Writer.BatchInvariants
open ChatBackend.Writer.DeadLetters
open ChatBackend.Writer.OutboxDrain

/-- A call of `markMessageWriteCommandDead` after its `findUnique`. -/
structure DeadLetterCall where
  command : MessageWriteCommand
  err : Failure
  existing : Option MessageId
deriving DecidableEq, Repr

structure ServiceState where
  database : Database
  clock : Timestamp
  deadLetters : List DeadLetterCall := []
  drains : List Drain := []
  published : List RoomEvent := []
  batchMessages : List MessageId := []
deriving DecidableEq, Repr

inductive Event where
  | writerBatch
      (commands : List MessageWriteCommand)
      (origin : Option ConnectionId)
  | createMessageRow (uuid : MessageId) (input : CreateMessageRowInput)
  | updateLastMessageAt (roomId : RoomId) (lastMessageAt : Timestamp)
  | findDeadLetter (command : MessageWriteCommand) (err : Failure)
  | writeDeadLetter (call : Nat)
  | startDrain
      (deps : DrainMessageOutboxDependencies) (succeeds : Bool)
  | stepDrain (call : Nat) (succeeds : Bool)
  | crashDrain (call : Nat)
  | advanceClock (elapsed : Nat)
deriving DecidableEq, Repr

def initial
    (engine : Engine) (legacy : LegacyTables) (clock : Timestamp) :
    ServiceState :=
  { database := migrate engine legacy
    clock := clock }

/-- One event. A crashed drain makes no more calls, like a rejected one. -/
def step
    (engine : Engine) (state : ServiceState) (event : Event) :
    ServiceState :=
  match event with
  | .writerBatch commands origin =>
      match processMessageWriteCommands engine state.clock
          state.database commands origin with
      | .error _ => state
      | .ok (committed, returned) =>
          { state with
            database := committed
            batchMessages :=
              state.batchMessages ++ returned.map MessageDto.id }
  | .createMessageRow uuid input =>
      match Chats.MessageRows.createMessageRow uuid state.clock
          state.database input with
      | .error _ => state
      | .ok (committed, _) => { state with database := committed }
  | .updateLastMessageAt roomId lastMessageAt =>
      { state with
        database :=
          Chats.MessageRows.updateLastMessageAt state.database roomId
            lastMessageAt }
  | .findDeadLetter command err =>
      { state with
        deadLetters :=
          state.deadLetters ++
            [{ command := command
               err := err
               existing := findMessageWrite state.database command }] }
  | .writeDeadLetter call =>
      match state.deadLetters[call]? with
      | none => state
      | some pending =>
          { state with
            database :=
              Writer.DeadLetters.writeDeadLetter engine state.clock
                state.database pending.command pending.err
                pending.existing
            deadLetters := state.deadLetters.eraseIdx call }
  | .startDrain deps succeeds =>
      let started :=
        Writer.OutboxDrain.startDrain engine state.clock deps succeeds
          state.database
      { state with
        database := started.2
        drains := state.drains ++ [started.1] }
  | .stepDrain call succeeds =>
      match state.drains[call]? with
      | none => state
      | some drain =>
          let outcome :=
            drainStep engine state.clock succeeds state.database drain
          { state with
            database := outcome.database
            drains := state.drains.set call outcome.drain
            published := state.published ++ outcome.published }
  | .crashDrain call =>
      { state with drains := state.drains.set call .rejected }
  | .advanceClock elapsed =>
      { state with clock := state.clock + elapsed }

/-- The state after a list of events from the migrated tables. -/
def reached
    (engine : Engine) (legacy : LegacyTables) (clock : Timestamp)
    (events : List Event) : ServiceState :=
  run (step engine) (initial engine legacy clock) events

/-! ## What an event can do -/

/-- An event with the change it makes, after its transaction is decided. -/
inductive Change (engine : Engine) (before : ServiceState) :
    Event → ServiceState → Prop where
  | idle (event : Event) : Change engine before event before
  | batch
      (commands deduped : List MessageWriteCommand)
      (origin : Option ConnectionId) (ids : List MessageId)
      (noConflict : dedupeMessageWriteCommands commands = .ok deduped)
      (unique :
        ((messageWriteInput deduped origin).map InputRow.key).Nodup)
      (accepted :
        BatchAccepted engine before.clock before.database deduped
          (messageWriteInput deduped origin))
      (inserted :
        ids.Perm
          ((newMessages engine before.database
              (messageWriteInput deduped origin)).map Message.id)) :
      Change engine before (.writerBatch commands origin)
        { before with
          database :=
            batchResult engine before.clock before.database
              (messageWriteInput deduped origin)
          batchMessages := before.batchMessages ++ ids }
  | messageRow
      (uuid : MessageId) (input : CreateMessageRowInput) (room : Room)
      (member : room ∈ before.database.rooms)
      (sameRoom : room.id = input.roomId)
      (accepted :
        RowAccepted before.database
          (input.toMessage uuid before.clock room.nextMessageSeq)) :
      Change engine before (.createMessageRow uuid input)
        { before with
          database :=
            withMessageRow before.database input.roomId
              (input.toMessage uuid before.clock
                room.nextMessageSeq) }
  | lastMessageAt (roomId : RoomId) (lastMessageAt : Timestamp) :
      Change engine before (.updateLastMessageAt roomId lastMessageAt)
        { before with
          database :=
            Chats.MessageRows.updateLastMessageAt before.database
              roomId lastMessageAt }
  | findDeadLetter (command : MessageWriteCommand) (err : Failure) :
      Change engine before (.findDeadLetter command err)
        { before with
          deadLetters :=
            before.deadLetters ++
              [{ command := command
                 err := err
                 existing :=
                   findMessageWrite before.database command }] }
  | markDead
      (call : Nat) (messageWriteId : MessageId) (err : Failure) :
      Change engine before (.writeDeadLetter call)
        { before with
          database :=
            markMessageWriteDead engine before.clock before.database
              messageWriteId err
          deadLetters := before.deadLetters.eraseIdx call }
  | createDead
      (call : Nat) (pending : DeadLetterCall) (created : Database)
      (found : before.deadLetters[call]? = some pending)
      (succeeded :
        createDeadLetter engine before.clock before.database
            pending.command pending.err =
          .ok created) :
      Change engine before (.writeDeadLetter call)
        { before with
          database := created
          deadLetters := before.deadLetters.eraseIdx call }
  | dropDead (call : Nat) :
      Change engine before (.writeDeadLetter call)
        { before with
          deadLetters := before.deadLetters.eraseIdx call }
  | claim
      (deps : DrainMessageOutboxDependencies)
      (publisher : deps.publisher = true) :
      Change engine before (.startDrain deps true)
        { before with
          database :=
            (claimOutbox engine before.clock deps before.database).1
          drains :=
            before.drains ++
              [.loading
                (claimOutbox engine before.clock deps
                  before.database).2] }
  | start
      (deps : DrainMessageOutboxDependencies) (succeeds : Bool)
      (drain : Drain) (finished : drain.isFinished = true) :
      Change engine before (.startDrain deps succeeds)
        { before with drains := before.drains ++ [drain] }
  | drain
      (call : Nat) (succeeds : Bool) (drain : Drain)
      (found : before.drains[call]? = some drain) :
      Change engine before (.stepDrain call succeeds)
        { before with
          database :=
            (drainStep engine before.clock succeeds before.database
              drain).database
          drains :=
            before.drains.set call
              (drainStep engine before.clock succeeds before.database
                drain).drain
          published :=
            before.published ++
              (drainStep engine before.clock succeeds before.database
                drain).published }
  | crash (call : Nat) :
      Change engine before (.crashDrain call)
        { before with drains := before.drains.set call .rejected }
  | clock (elapsed : Nat) :
      Change engine before (.advanceClock elapsed)
        { before with clock := before.clock + elapsed }

/-- The returned messages of a batch are its inserted messages. -/
theorem returned_ids
    (engine : Engine) (db : Database) (input : List InputRow) :
    ((((newRows engine db input).insertionSort
            (createdBefore engine)).map fun row =>
          toMessageDto row.message).map MessageDto.id).Perm
      ((newMessages engine db input).map Message.id) := by
  have sorted :=
    (List.perm_insertionSort (createdBefore engine)
      (newRows engine db input)).map fun row => row.message.id
  rw [List.map_map]
  refine sorted.trans (List.Perm.of_eq ?_)
  simp only [newRows, newMessages, List.map_map]
  rfl

theorem step_change
    (engine : Engine) (state : ServiceState) (event : Event)
    (sound : Sound state.database) :
    Change engine state event (step engine state event) := by
  cases event with
  | writerBatch commands origin =>
      simp only [step]
      split
      · exact .idle _
      · rename_i committed returned succeeded
        by_cases empty : commands = []
        · subst empty
          rw [processMessageWriteCommands_nil, Except.ok.injEq]
            at succeeded
          rcases Prod.mk.inj succeeded with ⟨rfl, rfl⟩
          have unchanged :
              Change engine state (.writerBatch [] origin) state :=
            .idle _
          simpa using unchanged
        · rcases batch_result sound empty succeeded with
            ⟨deduped, noConflict, unique, accepted, rfl, rfl⟩
          exact
            .batch commands deduped origin _ noConflict unique accepted
              (returned_ids engine state.database _)
  | createMessageRow uuid input =>
      simp only [step]
      split
      · exact .idle _
      · rename_i committed created succeeded
        rcases createMessageRow_ok sound.valid succeeded with
          ⟨room, member, sameRoom, accepted, rfl, _⟩
        exact .messageRow uuid input room member sameRoom accepted
  | updateLastMessageAt roomId lastMessageAt =>
      exact .lastMessageAt roomId lastMessageAt
  | findDeadLetter command err => exact .findDeadLetter command err
  | writeDeadLetter call =>
      simp only [step]
      split
      · exact .idle _
      · rename_i pending found
        rcases writeDeadLetter_cases engine state.clock
            state.database pending.command pending.err
            pending.existing with
          ⟨messageWriteId, marked⟩ | same | created
        · rw [marked]
          exact .markDead call messageWriteId pending.err
        · rw [same]
          exact .dropDead call
        · exact .createDead call pending _ found created
  | startDrain deps succeeds =>
      simp only [step, startDrain]
      split
      · exact .start deps succeeds (.returned 0) rfl
      · rename_i hasPublisher
        cases succeeds with
        | false => exact .start deps false .rejected rfl
        | true =>
            simp only [Bool.not_true, Bool.false_eq_true, if_false]
            split
            · rename_i nothing
              rw [claimOutbox_nil nothing]
              exact .start deps true (.returned 0) rfl
            · exact .claim deps (by simpa using hasPublisher)
  | stepDrain call succeeds =>
      simp only [step]
      split
      · exact .idle _
      · rename_i drain found
        exact .drain call succeeds drain found
  | crashDrain call => exact .crash call
  | advanceClock elapsed => exact .clock elapsed

/-! ## Sound tables -/

theorem change_sound
    {engine : Engine} {before after : ServiceState} {event : Event}
    (change : Change engine before event after)
    (sound : Sound before.database) : Sound after.database := by
  cases change with
  | idle => exact sound
  | batch _ _ _ _ _ unique accepted _ =>
      exact batchResult_sound sound unique accepted
  | messageRow _ _ room member sameRoom accepted =>
      exact withMessageRow_sound sound member sameRoom accepted
  | lastMessageAt roomId lastMessageAt =>
      exact updateLastMessageAt_sound sound roomId lastMessageAt
  | findDeadLetter => exact sound
  | markDead _ messageWriteId err =>
      exact markMessageWriteDead_sound sound messageWriteId
  | createDead _ _ _ _ succeeded =>
      exact createDeadLetter_sound sound succeeded
  | dropDead => exact sound
  | claim deps => exact claimOutbox_sound sound deps
  | start => exact sound
  | drain _ succeeds drain _ =>
      exact drainStep_sound sound succeeds drain
  | crash => exact sound
  | clock => exact sound

theorem step_sound
    (engine : Engine) (state : ServiceState) (event : Event)
    (sound : Sound state.database) :
    Sound (step engine state event).database :=
  change_sound (step_change engine state event sound) sound

/-- Nothing removes or changes a message. -/
theorem change_keeps_messages
    {engine : Engine} {before after : ServiceState} {event : Event}
    (change : Change engine before event after)
    {message : Message} (member : message ∈ before.database.messages) :
    message ∈ after.database.messages := by
  cases change with
  | batch => exact List.mem_append_left _ member
  | messageRow => exact List.mem_append_left _ member
  | createDead _ _ _ _ succeeded =>
      rcases createDeadLetter_ok succeeded with ⟨_, _, _, rfl⟩
      exact member
  | drain =>
      change message ∈ (drainStep _ _ _ _ _).database.messages
      rw [drainStep_messages]
      exact member
  | _ => exact member

/-- No event adds, removes or changes a user. -/
theorem change_keeps_users
    {engine : Engine} {before after : ServiceState} {event : Event}
    (change : Change engine before event after) :
    after.database.users = before.database.users := by
  cases change with
  | createDead _ _ _ _ succeeded =>
      rcases createDeadLetter_ok succeeded with ⟨_, _, _, rfl⟩
      rfl
  | drain _ succeeds drain _ =>
      rcases drainStep_database engine before.clock before.database
          succeeds drain with
        same | ⟨_, _, _, _, _, completed⟩ | ⟨_, _, _, _, _, _, failed⟩
      · exact congrArg Database.users same
      · exact (congrArg Database.users completed).trans rfl
      · exact (congrArg Database.users failed).trans rfl
  | _ => rfl

/-- The tables are sound in every reachable state. -/
theorem reached_sound
    (engine : Engine) (legacy : LegacyTables) (clock : Timestamp)
    (events : List Event) :
    Sound (reached engine legacy clock events).database :=
  run_invariant (fun state : ServiceState => Sound state.database)
    (step_sound engine) (migrate_sound engine legacy) events

end ChatBackend.Services.Transitions
