import ChatBackend.Services.Fanout

/-!
# Where the messages of batches come from

The writer consumes commands from a stream.  A batch inserts a message only
for a write row that matches one of its commands, so the message carries what
the command asked for.  A drain only publishes such messages: its row is in
the outbox, and the outbox has rows of inserted messages alone.

`Traced` is this as an invariant, for any list of commands that the batches
were drawn from.
-/

namespace ChatBackend.Services.MessageOrigins

open ChatBackend.Storage.Schema
open ChatBackend.Storage.TableInvariants
open ChatBackend.Writer.WriteCommands
open ChatBackend.Writer.BatchTransaction
open ChatBackend.Writer.BatchSpecification
open ChatBackend.Writer.DeadLetters
open ChatBackend.Writer.OutboxDrain
open ChatBackend.Services.Transitions
open ChatBackend.Services.Fanout

/-! ## Messages and commands -/

/-- The message is what the command asked for. -/
structure Carries
    (command : MessageWriteCommand) (message : Message) : Prop where
  id : message.id = command.messageId
  requestId : message.requestId = some command.requestId
  senderId : message.senderId = command.senderId
  roomId : message.roomId = command.roomId
  content : message.content = command.body

/-- The message of a write row that matches a command. -/
theorem carries_of_matches
    {candidate : WriteRow × Nat} {command : MessageWriteCommand}
    (matched : MatchesWrite candidate.1.write command)
    (startSequence : Nat) :
    Carries command (candidateMessage candidate startSequence) := by
  rcases matched with ⟨key, id, roomId, content⟩
  rcases Prod.mk.inj key with ⟨senderId, requestId⟩
  exact
    { id := id
      requestId := congrArg some requestId
      senderId := senderId
      roomId := roomId
      content := content }

/-- Every message that a batch inserts carries one of its commands. -/
theorem newMessages_carry
    {engine : Engine} {now : Timestamp} {db : Database}
    {deduped : List MessageWriteCommand} {origin : Option ConnectionId}
    (valid : db.Valid)
    (unique : ((messageWriteInput deduped origin).map InputRow.key).Nodup)
    (accepted :
      BatchAccepted engine now db deduped
        (messageWriteInput deduped origin))
    {message : Message}
    (new :
      message ∈
        newMessages engine db (messageWriteInput deduped origin)) :
    ∃ command ∈ deduped, Carries command message := by
  rcases mem_newMessages.mp new with ⟨candidate, isCandidate, rfl⟩
  rcases mem_writeRows.mp (mem_candidates isCandidate).1 with
    ⟨inTable, source, inInput, sameKey, _⟩
  rcases mem_messageWriteInput.mp inInput with ⟨command, listed, rfl⟩
  rcases accepted.matched command listed with ⟨write, inStaged, matched⟩
  have sameWrite : write = candidate.1.write :=
    List.inj_on_of_nodup_map (staged_writeKeys valid unique) inStaged
      inTable (matched.1.trans sameKey)
  subst sameWrite
  exact ⟨command, listed, carries_of_matches matched _⟩

/-! ## The invariant -/

/-- Every message of a batch carries a command of the stream. -/
def Traced
    (stream : List MessageWriteCommand) (state : ServiceState) : Prop :=
  ∀ messageId ∈ state.batchMessages,
    ∃ message ∈ state.database.messages,
      message.id = messageId ∧
        ∃ command ∈ stream, Carries command message

theorem Traced.grow
    {stream later : List MessageWriteCommand}
    {before after : ServiceState} (traced : Traced stream before)
    (consumes : ∀ command ∈ stream, command ∈ later)
    (messages :
      ∀ message ∈ before.database.messages,
        message ∈ after.database.messages)
    (sameBatches : after.batchMessages = before.batchMessages) :
    Traced later after := by
  intro messageId listed
  rw [sameBatches] at listed
  rcases traced messageId listed with
    ⟨message, stored, isMessage, command, inStream, carries⟩
  exact
    ⟨message, messages message stored, isMessage, command,
      consumes command inStream, carries⟩

/-- A batch only takes commands of the stream; other events take none. -/
def Consumes (stream : List MessageWriteCommand) : Event → Prop
  | .writerBatch commands _ => ∀ command ∈ commands, command ∈ stream
  | _ => True

theorem Traced.change
    {stream : List MessageWriteCommand} {engine : Engine}
    {before after : ServiceState} {event : Event}
    (traced : Traced stream before) (sound : Sound before.database)
    (change : Change engine before event after)
    (consumes : Consumes stream event) : Traced stream after := by
  have kept :
      ∀ later : ServiceState,
        (∀ message ∈ before.database.messages,
          message ∈ later.database.messages) →
          later.batchMessages = before.batchMessages →
            Traced stream later :=
    fun later messages sameBatches =>
      traced.grow (fun _ inStream => inStream) messages sameBatches
  have messages :
      ∀ message ∈ before.database.messages,
        message ∈ after.database.messages :=
    fun _ stored => change_keeps_messages change stored
  cases change with
  | batch commands deduped origin ids noConflict unique accepted inserted =>
      intro messageId listed
      rcases List.mem_append.mp listed with old | new
      · exact kept { before with database := _ } messages rfl messageId old
      · rw [inserted.mem_iff] at new
        rcases List.mem_map.mp new with ⟨message, isNew, rfl⟩
        rcases newMessages_carry sound.valid unique accepted isNew with
          ⟨command, inBatch, carries⟩
        rcases dedupeFrom_extends noConflict with ⟨added, rfl, sublist⟩
        exact
          ⟨message, List.mem_append_right _ isNew, rfl, command,
            consumes command (sublist.subset inBatch), carries⟩
  | _ => exact kept _ messages rfl

/-- No event of the services adds, removes or changes a member. -/
theorem change_keeps_members
    {engine : Engine} {before after : ServiceState} {event : Event}
    (change : Change engine before event after) :
    after.database.roomMembers = before.database.roomMembers := by
  cases change with
  | createDead _ _ _ _ succeeded =>
      rcases createDeadLetter_ok succeeded with ⟨_, _, _, rfl⟩
      rfl
  | drain _ succeeds drain _ =>
      rcases drainStep_database engine before.clock before.database
          succeeds drain with
        same | ⟨_, _, _, _, _, completed⟩ | ⟨_, _, _, _, _, _, failed⟩
      · exact congrArg Database.roomMembers same
      · exact (congrArg Database.roomMembers completed).trans rfl
      · exact (congrArg Database.roomMembers failed).trans rfl
  | _ => rfl

/-! ## Published messages -/

/-- The event that a step of a drain publishes, resolved or not. -/
def publishedByStep
    (state : ServiceState) : Event → Option RoomEvent
  | .stepDrain call _ =>
      match state.drains[call]? with
      | some (.publishing _ row message _ _) => some (roomEvent row message)
      | _ => none
  | _ => none

/-- A drain publishes a stored message that carries a command. -/
theorem Traced.published
    {stream : List MessageWriteCommand} {state : ServiceState}
    (traced : Traced stream state) (sound : Sound state.database)
    (bookkeeping : Bookkeeping state) {event : Event}
    {published : RoomEvent}
    (publishes : publishedByStep state event = some published) :
    ∃ row, ∃ message ∈ state.database.messages,
      published = roomEvent row message ∧
        ∃ command ∈ stream, Carries command message := by
  unfold publishedByStep at publishes
  split at publishes
  · split at publishes
    · rename_i messages row message rest count isDrain
      cases publishes
      have drain :=
        bookkeeping.drains _ (List.mem_of_getElem? isDrain)
      rcases drain.publishing _ _ _ _ _ rfl with ⟨stored, isMessage⟩
      rcases drain.pending row (List.mem_cons_self ..) with
        ⟨outbox, inOutbox, _, sameMessage⟩
      have inserted := (bookkeeping.events outbox inOutbox).2
      rcases traced _ inserted with
        ⟨other, otherStored, isOther, carried⟩
      have same : other = message :=
        message_separate sound.valid otherStored stored
          (.inl (isOther.trans (sameMessage.trans isMessage.symm)))
      exact ⟨row, message, stored, rfl, same ▸ carried⟩
    · cases publishes
  · cases publishes

end ChatBackend.Services.MessageOrigins
