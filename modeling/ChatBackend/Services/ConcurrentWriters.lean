import ChatBackend.Services.LocalStatements
import ChatBackend.Storage.SequenceMigration

/-!
# Concurrent writers

Batches of the message writer and REST messages of the chat service run as
transactions of one database, statement by statement and in any order.  When
every key is used with one room and every message id with one key, their
statements are `Local` to the rooms that the first statement locks, so two
transactions with other locks cannot see each other.

`concurrent_writers_serialisable` is the result: the final tables are those
of the committed calls, one after another in the order of their commits.
-/

namespace ChatBackend.Services.ConcurrentWriters

open ChatBackend.Foundation.EventRuns
open ChatBackend.Foundation.LockingSchedules
open ChatBackend.Foundation.Transactions
open ChatBackend.Storage.Schema
open ChatBackend.Storage.SequenceMigration
open ChatBackend.Writer.WriteCommands
open ChatBackend.Writer.BatchTransaction
open ChatBackend.Chats.MessageRows
open ChatBackend.Services.RoomFootprints
open ChatBackend.Services.LocalStatements

/-! ## Calls -/

/-- A call that writes messages, with the time and the id it is given. -/
inductive WriteCall where
  | batch
      (now : Timestamp) (commands : List MessageWriteCommand)
      (originConnectionId : Option ConnectionId)
  | message
      (uuid : MessageId) (now : Timestamp)
      (input : CreateMessageRowInput)
deriving DecidableEq, Repr

/-- The call throws before its transaction begins. -/
def refuse (failure : Failure) : Statement where
  locks := fun _ => []
  run := fun _ _ => .error failure

/-- The statements of `processMessageWriteCommands` or `createMessageRow`. -/
def WriteCall.statements (engine : Engine) : WriteCall → List Statement
  | .batch now commands originConnectionId =>
      if commands = [] then []
      else
        match dedupeMessageWriteCommands commands with
        | .error failure => [refuse failure]
        | .ok deduped =>
            batchStatements engine now deduped originConnectionId
  | .message uuid now input =>
      createMessageRowStatements uuid now input

/-- The call when nothing runs beside it. -/
def WriteCall.alone
    (engine : Engine) (db : Database) :
    WriteCall → Except Failure Database
  | .batch now commands originConnectionId =>
      (processMessageWriteCommands engine now db commands
        originConnectionId).map Prod.fst
  | .message uuid now input =>
      (createMessageRow uuid now db input).map Prod.fst

/-- Whole calls one after another, none of which may fail. -/
def oneAfterAnother
    (engine : Engine) :
    List WriteCall → Database → Except Failure Database
  | [], db => .ok db
  | call :: rest, db =>
      match call.alone engine db with
      | .error failure => .error failure
      | .ok committed => oneAfterAnother engine rest committed

section Calls

variable {engine : Engine} {db committed : Database}
  {locals : TransactionLocals} {call : WriteCall}

theorem WriteCall.alone_of_statements
    (ran :
      runStatements Database.apply (call.statements engine) db {} =
        .ok (committed, locals)) :
    call.alone engine db = .ok committed := by
  cases call with
  | batch now commands originConnectionId =>
      simp only [statements] at ran
      simp only [alone, processMessageWriteCommands]
      split at ran
      · rename_i empty
        simp only [runStatements_nil, Except.ok.injEq,
          Prod.mk.injEq] at ran
        rw [if_pos empty, ran.1]
        rfl
      · rename_i nonempty
        rw [if_neg nonempty]
        cases accepted : dedupeMessageWriteCommands commands with
        | error failure =>
            rw [accepted] at ran
            simp [runStatements, refuse] at ran
        | ok deduped =>
            rw [accepted] at ran
            dsimp only at ran ⊢
            rw [ran]
            rfl
  | message uuid now input =>
      simp only [statements] at ran
      simp only [alone, createMessageRow, ran]
      rfl

theorem oneAfterAnother_of_runSerially
    {Tx : Type} {calls : Tx → WriteCall} {order : List Tx}
    (ran :
      runSerially Database.apply {}
          (fun tx => (calls tx).statements engine) order db =
        .ok committed) :
    oneAfterAnother engine (order.map calls) db = .ok committed := by
  induction order generalizing db with
  | nil => exact ran
  | cons tx rest induction =>
      simp only [runSerially] at ran
      split at ran
      · cases ran
      · rename_i middle _ first
        simp only [List.map_cons, oneAfterAnother,
          WriteCall.alone_of_statements first]
        exact induction ran

end Calls

/-! ## The use of keys and message ids -/

/-- A message id, its key if it has one, and the room it goes to. -/
structure Usage where
  messageId : MessageId
  key? : Option WriteKey
  roomId : RoomId
deriving DecidableEq, Repr

def MessageWriteCommand.usage (command : MessageWriteCommand) : Usage where
  messageId := command.messageId
  key? := some command.key
  roomId := command.roomId

def MessageWrite.usage (write : MessageWrite) : Usage where
  messageId := write.id
  key? := some write.key
  roomId := write.roomId

def Message.usage (message : Message) : Usage where
  messageId := message.id
  key? := message.key?
  roomId := message.roomId

def CreateMessageRowInput.usage
    (input : CreateMessageRowInput) (uuid : MessageId) : Usage where
  messageId := input.messageId uuid
  key? :=
    (truthy input.requestId).map fun requestId =>
      (input.senderId, requestId)
  roomId := input.roomId

def WriteCall.usages : WriteCall → List Usage
  | .batch _ commands _ => commands.map MessageWriteCommand.usage
  | .message uuid _ input => [CreateMessageRowInput.usage input uuid]

def storedUsages (db : Database) : List Usage :=
  db.messageWrites.map MessageWrite.usage ++
    db.messages.map Message.usage

/-- Used by a stored row or by one of the calls. -/
def Used {Tx : Type} (calls : Tx → WriteCall) (start : Database)
    (usage : Usage) : Prop :=
  usage ∈ storedUsages start ∨ ∃ tx, usage ∈ (calls tx).usages

/-- One room for every key; one key, or never any, for every id. -/
structure SingleUse (used : Usage → Prop) : Prop where
  rooms :
    ∀ left right key, used left → used right → left.key? = some key →
      right.key? = some key → left.roomId = right.roomId
  keys :
    ∀ left right, used left → used right →
      left.messageId = right.messageId → left.key? = right.key?

def Uses.Suits (uses : Uses) (usage : Usage) : Prop :=
  uses.keyOf usage.messageId = usage.key? ∧
    ∀ key, usage.key? = some key → uses.roomOf key = usage.roomId

/-- Single use gives each key its room and each id its key. -/
theorem SingleUse.exists_uses
    {used : Usage → Prop} (single : SingleUse used) :
    ∃ uses, ∀ usage, used usage → Uses.Suits uses usage := by
  classical
  refine
    ⟨{ roomOf := fun key =>
         if known : ∃ usage, used usage ∧ usage.key? = some key then
           known.choose.roomId
         else ""
       keyOf := fun messageId =>
         if known : ∃ usage, used usage ∧ usage.messageId = messageId then
           known.choose.key?
         else none }, ?_⟩
  intro usage isUsed
  constructor
  · have known :
        ∃ other, used other ∧ other.messageId = usage.messageId :=
      ⟨usage, isUsed, rfl⟩
    simp only [dif_pos known]
    exact
      single.keys _ usage known.choose_spec.1 isUsed
        known.choose_spec.2
  · intro key keyed
    have known : ∃ other, used other ∧ other.key? = some key :=
      ⟨usage, isUsed, keyed⟩
    simp only [dif_pos known]
    exact
      single.rooms _ usage key known.choose_spec.1 isUsed
        known.choose_spec.2 keyed

section Uses

variable {uses : Uses}

theorem suitsWrite_of_usage
    {write : MessageWrite}
    (suits : Uses.Suits uses (MessageWrite.usage write)) :
    uses.SuitsWrite write :=
  ⟨suits.1, suits.2 write.key rfl⟩

theorem coherent_of_usages
    {db : Database} (valid : db.Valid)
    (suits : ∀ usage ∈ storedUsages db, Uses.Suits uses usage) :
    Coherent uses db where
  writes := fun _ member =>
    suitsWrite_of_usage
      (suits _ (List.mem_append_left _ (List.mem_map_of_mem member)))
  messages := fun _ member =>
    suits _ (List.mem_append_right _ (List.mem_map_of_mem member))
  writeRooms := valid.writeRoom

/-! ## The rooms of a call -/

/-- The rooms that the first statement of the call locks. -/
def WriteCall.lockedRooms : WriteCall → List RoomId
  | .batch _ commands _ =>
      match dedupeMessageWriteCommands commands with
      | .error _ => []
      | .ok deduped => deduped.map MessageWriteCommand.roomId
  | .message _ _ input => [input.roomId]

theorem refuse_local (locked : List RoomId) (failure : Failure) :
    Local uses locked (refuse failure) where
  within := by simp [refuse]
  stable := by simp [refuse]

/-- The input of a batch follows the uses. -/
theorem suitedInput_of_usages
    {commands deduped : List MessageWriteCommand}
    (accepted : dedupeMessageWriteCommands commands = .ok deduped)
    (suits :
      ∀ command ∈ commands,
        Uses.Suits uses (MessageWriteCommand.usage command))
    (originConnectionId : Option ConnectionId) :
    SuitedInput uses (deduped.map MessageWriteCommand.roomId)
      (messageWriteInput deduped originConnectionId) where
  writes := by
    intro row member
    rcases List.mem_map.mp member with ⟨command, kept, rfl⟩
    have suited :=
      suits command ((dedupe_sublist accepted).subset kept)
    exact ⟨suited.1, suited.2 command.key rfl⟩
  rooms := by
    intro row member
    rcases List.mem_map.mp member with ⟨command, kept, rfl⟩
    exact List.mem_map_of_mem kept

/-- All statements of a call are local to the rooms that it locks. -/
theorem WriteCall.statements_local
    (engine : Engine) (call : WriteCall)
    (suits : ∀ usage ∈ call.usages, Uses.Suits uses usage) :
    ∀ statement ∈ call.statements engine,
      Local uses call.lockedRooms statement := by
  cases call with
  | batch now commands originConnectionId =>
      intro statement member
      simp only [statements] at member
      split at member
      · cases member
      · split at member
        · rw [List.mem_singleton] at member
          exact member ▸ refuse_local _ _
        · rename_i deduped accepted
          have suited :=
            suitedInput_of_usages accepted
              (fun command inBatch =>
                suits _ (List.mem_map_of_mem inBatch))
              originConnectionId
          simp only [lockedRooms, accepted]
          simp only [batchStatements, List.mem_cons, List.not_mem_nil,
            or_false] at member
          rcases member with rfl | rfl | rfl | rfl | rfl
          · exact selectRoomsForUpdate_local uses _
          · exact insertMessageWrites_local suited
          · exact selectMessageWrites_local suited deduped
          · exact persistMessages_local engine now suited
          · exact updateRoomsLastMessageAt_local uses _
  | message uuid now input =>
      intro statement member
      have suited : SuitedRow uses uuid now input :=
        fun _ => suits _ (List.mem_singleton_self _)
      simp only [statements, createMessageRowStatements, List.mem_cons,
        List.not_mem_nil, or_false] at member
      rcases member with rfl | rfl | rfl
      · exact selectRoomForUpdate_local uses input.roomId
      · exact incrementNextMessageSeq_local uses input.roomId
      · exact insertMessage_local suited

end Uses

/-! ## Separate rooms -/

section Separation

variable {engine : Engine} {uses : Uses} {call : WriteCall}
  {db : Database} {trace : Trace WriteSet TransactionLocals RowLock}

theorem roomLock_mem
    {roomId : RoomId} {wanted : Room → Bool}
    (known : db.hasRoom roomId = true)
    (isWanted : ∀ room : Room, room.id = roomId → wanted room = true) :
    RowLock.room roomId ∈
      (db.rooms.filter wanted).map fun room => RowLock.room room.id := by
  rcases (Database.hasRoom_iff db roomId).mp known with
    ⟨room, member, sameId⟩
  exact
    List.mem_map.mpr
      ⟨room, List.mem_filter.mpr ⟨member, isWanted room sameId⟩,
        by rw [sameId]⟩

/-- The first statement of a call locks its rooms, as far as they exist. -/
theorem WriteCall.first_locks
    {statement : Statement} {others : List Statement}
    (first : call.statements engine = statement :: others)
    {roomId : RoomId} (member : roomId ∈ call.lockedRooms)
    (known : db.hasRoom roomId = true) :
    RowLock.room roomId ∈ statement.locks db := by
  cases call with
  | batch now commands originConnectionId =>
      simp only [statements] at first
      simp only [lockedRooms] at member
      split at first
      · cases first
      · split at first
        · rename_i rejected
          simp [rejected] at member
        · rename_i deduped accepted
          simp only [accepted] at member
          simp only [batchStatements, List.cons.injEq] at first
          rw [← first.1]
          refine roomLock_mem known fun room sameId => ?_
          rw [List.contains_eq_mem, sameId]
          exact decide_eq_true member
  | message uuid now input =>
      simp only [statements, createMessageRowStatements,
        List.cons.injEq] at first
      rw [lockedRooms, List.mem_singleton] at member
      rw [← first.1]
      refine roomLock_mem known fun room sameId => ?_
      rw [sameId, member, beq_self_eq_true]

/-- What was executed of a call has locked its existing rooms. -/
theorem WriteCall.executed_locks
    {done rest : List Statement}
    (prefix' : done ++ rest = call.statements engine) (begun : done ≠ [])
    (executed : execute Database.apply done db {} = .ok trace)
    {roomId : RoomId} (member : roomId ∈ call.lockedRooms)
    (known : db.hasRoom roomId = true) :
    RowLock.room roomId ∈ trace.locks := by
  cases done with
  | nil => exact absurd rfl begun
  | cons statement later =>
      rcases execute_cons_ok executed with ⟨_, _, _, _, _, rfl⟩
      exact
        List.mem_append_left _
          (WriteCall.first_locks prefix'.symm member known)

theorem WriteCall.lockedRooms_of_nil
    (nothing : call.statements engine = []) : call.lockedRooms = [] := by
  cases call with
  | batch now commands originConnectionId =>
      simp only [statements] at nothing
      split at nothing
      · rename_i empty
        rw [lockedRooms, empty]
        rfl
      · split at nothing
        · cases nothing
        · cases nothing
  | message uuid now input => cases nothing

/-- Calls that follow one use of keys and ids are separable. -/
theorem calls_separable
    {Tx : Type} (engine : Engine) (calls : Tx → WriteCall)
    (suits :
      ∀ tx, ∀ usage ∈ (calls tx).usages, Uses.Suits uses usage) :
    Separable Database.apply clashes ({} : TransactionLocals)
      (fun tx => (calls tx).statements engine) (Coherent uses) where
  symmetric := clashes_symmetric
  preserved := by
    intro tx db trace coherent executed
    exact
      (execute_within
        (WriteCall.statements_local engine (calls tx) (suits tx))
        coherent (by simp [Fits]) executed).2
  stable := by
    intro tx other db done rest mine theirs _ coherent split executed
      otherExecuted locksApart writesApart
    rcases Decidable.em (done = []) with rfl | begun
    · exact executed
    · have outside :
          ∀ roomId ∈ (calls other).lockedRooms,
            db.hasRoom roomId = true →
              roomId ∉ (calls tx).lockedRooms := by
        intro roomId theirRoom known myRoom
        rcases Decidable.em ((calls other).statements engine = []) with
          nothing | something
        · rw [WriteCall.lockedRooms_of_nil nothing] at theirRoom
          cases theirRoom
        · exact
            locksApart (.room roomId)
              (WriteCall.executed_locks split begun executed myRoom known)
              (WriteCall.executed_locks (List.append_nil _) something
                otherExecuted theirRoom known)
      have theirWrites :=
        (execute_within
          (WriteCall.statements_local engine (calls other) (suits other))
          coherent (by simp [Fits]) otherExecuted).1
      rcases agrees_after coherent theirWrites outside with
        ⟨agrees, coherentAfter⟩
      refine
        execute_stable ?_ coherent coherentAfter agrees (by simp [Fits])
          executed writesApart
      intro statement member
      refine
        WriteCall.statements_local engine (calls tx) (suits tx) statement ?_
      rw [← split]
      exact List.mem_append_left _ member

end Separation

/-! ## Serialisability -/

/-- The calls of a schedule before their first statement. -/
def beforeCalls
    {Tx : Type} (engine : Engine) (calls : Tx → WriteCall)
    (start : Database) :
    System Database WriteSet TransactionLocals Failure RowLock Tx :=
  System.start (fun tx => (calls tx).statements engine) {} start

/--
In every interleaving of their statements, writer batches and REST messages
leave the tables that the committed ones produce alone, in the order of
their commits.
-/
theorem concurrent_writers_serialisable
    {Tx : Type} [Fintype Tx] [DecidableEq Tx]
    (engine : Engine) (calls : Tx → WriteCall) (start : Database)
    (valid : start.Valid) (single : SingleUse (Used calls start))
    (schedule : List (Event Tx RowLock)) :
    let final :=
      run (step Database.apply clashes) (beforeCalls engine calls start)
        schedule
    final.commits.Nodup ∧
      (∀ tx,
        tx ∈ final.commits ↔ (final.sessions tx).phase = .committed) ∧
      oneAfterAnother engine (final.commits.map calls) start =
        .ok final.store := by
  rcases single.exists_uses with ⟨uses, suits⟩
  have separable :=
    calls_separable engine calls fun tx usage member =>
      suits usage (Or.inr ⟨tx, member⟩)
  have coherent : Coherent uses start :=
    coherent_of_usages valid fun usage member =>
      suits usage (Or.inl member)
  have serial := serialisable separable coherent schedule
  exact
    ⟨serial.once, serial.committed,
      oneAfterAnother_of_runSerially serial.serial⟩

/-- A batch and a REST message into one room. -/
def exampleCalls (rest : Bool) : WriteCall :=
  if rest then
    .message "5b1c0e0e" 1000
      { senderId := "ben", roomId := "room", content := "hi" }
  else .batch 1000 [exampleCommand] none

/-- The REST message waits for the room, then follows the batch. -/
def exampleSchedule : List (Event Bool RowLock) :=
  [.acquire false (.room "room"), .execute false,
    .acquire true (.room "room"), .execute true,
    .execute false, .acquire false (.messageWrite exampleCommand.messageId),
    .execute false, .execute true, .execute false, .execute false,
    .commit false, .acquire true (.room "room"), .execute true,
    .execute true, .execute true, .commit true]

theorem exampleCalls_singleUse :
    SingleUse
      (Used exampleCalls (migrate exampleEngine exampleTables)) := by
  have listed :
      ∀ usage,
        Used exampleCalls (migrate exampleEngine exampleTables) usage →
          usage ∈ (exampleCalls false).usages ++
            (exampleCalls true).usages := by
    intro usage used
    rcases used with stored | ⟨tx, member⟩
    · cases stored
    · cases tx with
      | false => exact List.mem_append_left _ member
      | true => exact List.mem_append_right _ member
  have rooms :
      ∀ left ∈ (exampleCalls false).usages ++ (exampleCalls true).usages,
        ∀ right ∈
            (exampleCalls false).usages ++ (exampleCalls true).usages,
          left.key? = right.key? → left.key?.isSome = true →
            left.roomId = right.roomId := by
    decide
  have keys :
      ∀ left ∈ (exampleCalls false).usages ++ (exampleCalls true).usages,
        ∀ right ∈
            (exampleCalls false).usages ++ (exampleCalls true).usages,
          left.messageId = right.messageId → left.key? = right.key? := by
    decide
  constructor
  · intro left right key leftUsed rightUsed leftKey rightKey
    exact
      rooms left (listed left leftUsed) right (listed right rightUsed)
        (leftKey.trans rightKey.symm) (by rw [leftKey]; rfl)
  · exact fun left right leftUsed rightUsed =>
      keys left (listed left leftUsed) right (listed right rightUsed)

theorem concurrent_writers_serialisable_example :
    let final :=
      run (step Database.apply clashes)
        (beforeCalls exampleEngine exampleCalls
          (migrate exampleEngine exampleTables))
        exampleSchedule
    final.commits = [false, true] ∧
      oneAfterAnother exampleEngine (final.commits.map exampleCalls)
          (migrate exampleEngine exampleTables) =
        .ok final.store :=
  ⟨by decide,
    (concurrent_writers_serialisable exampleEngine exampleCalls
      (migrate exampleEngine exampleTables) (migrate_valid _ _)
      exampleCalls_singleUse exampleSchedule).2.2⟩

end ChatBackend.Services.ConcurrentWriters
