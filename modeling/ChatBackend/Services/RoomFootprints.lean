import ChatBackend.Chats.MessageRows
import ChatBackend.Foundation.LockingSchedules
import ChatBackend.Writer.BatchSpecification

/-!
# What a transaction can see of other rooms

The statements that write messages lock rooms first.  When every key is used
with one room and every message id with one key, the rows that such a
statement reads and writes all belong to its rooms.

`Agrees` compares two databases that differ by the writes of transactions in
other rooms, and `Local` says that a statement has the same result on both.
It is proved of each statement of the batch transaction and of the
transaction behind REST messages.
-/

namespace ChatBackend.Services.RoomFootprints

open ChatBackend.Foundation.LockingSchedules
open ChatBackend.Foundation.RowNumbering
open ChatBackend.Foundation.TableRows
open ChatBackend.Storage.Schema
open ChatBackend.Writer.WriteCommands
open ChatBackend.Writer.BatchTransaction
open ChatBackend.Writer.BatchSpecification
open ChatBackend.Chats.MessageRows

/-! ## The use of keys and ids -/

/-- One room for every key, and at most one key for every message id. -/
structure Uses where
  roomOf : WriteKey → RoomId
  keyOf : MessageId → Option WriteKey

def Uses.SuitsWrite (uses : Uses) (write : MessageWrite) : Prop :=
  uses.keyOf write.id = some write.key ∧
    uses.roomOf write.key = write.roomId

def Uses.SuitsMessage (uses : Uses) (message : Message) : Prop :=
  uses.keyOf message.id = message.key? ∧
    ∀ key, message.key? = some key → uses.roomOf key = message.roomId

/-- The stored rows follow the use of keys and ids. -/
structure Coherent (uses : Uses) (db : Database) : Prop where
  writes : ∀ write ∈ db.messageWrites, uses.SuitsWrite write
  messages : ∀ message ∈ db.messages, uses.SuitsMessage message
  writeRooms :
    ∀ write ∈ db.messageWrites, db.hasRoom write.roomId = true

section Uses

variable {uses : Uses} {left right : MessageWrite}
  {message other : Message}

theorem Uses.SuitsWrite.room_of_key
    (suitsLeft : uses.SuitsWrite left) (suitsRight : uses.SuitsWrite right)
    (same : left.key = right.key) : left.roomId = right.roomId := by
  rw [← suitsLeft.2, ← suitsRight.2, same]

theorem Uses.SuitsWrite.room_of_id
    (suitsLeft : uses.SuitsWrite left) (suitsRight : uses.SuitsWrite right)
    (same : left.id = right.id) : left.roomId = right.roomId := by
  apply suitsLeft.room_of_key suitsRight
  have keys := suitsLeft.1
  rw [same, suitsRight.1] at keys
  exact (Option.some.inj keys).symm

/-- A message with the id or the key of a write row is in its room. -/
theorem Uses.SuitsMessage.room_of_write
    (suits : uses.SuitsMessage message)
    (suitsWrite : uses.SuitsWrite left)
    (same :
      message.id = left.id ∨ message.key? = some left.key) :
    message.roomId = left.roomId := by
  have sameKey : message.key? = some left.key := by
    rcases same with sameId | sameKey
    · rw [← suits.1, sameId, suitsWrite.1]
    · exact sameKey
  rw [← suits.2 left.key sameKey, suitsWrite.2]

/-- Messages that clash in a unique index are in one room, with a key. -/
theorem Uses.SuitsMessage.room_of_conflict
    (suits : uses.SuitsMessage message) (suitsOther : uses.SuitsMessage other)
    {key : WriteKey} (keyed : other.key? = some key)
    (conflict : message.conflicts other = true) :
    message.roomId = other.roomId := by
  by_contra apart
  apply Bool.false_ne_true
  rw [← conflict, eq_comm, Message.conflicts_eq_false_iff]
  have keysApart : message.key? ≠ some key := by
    intro sameKey
    apply apart
    rw [← suits.2 key sameKey, suitsOther.2 key keyed]
  refine ⟨?_, ?_, fun sameRoom => absurd sameRoom apart⟩
  · intro sameId
    apply keysApart
    rw [← suits.1, sameId, suitsOther.1, keyed]
  · intro otherKey otherKeyed
    rw [keyed, Option.some.injEq] at otherKeyed
    exact otherKeyed ▸ keysApart

end Uses

/-! ## Writes within rooms -/

/-- The rows of a write set belong to the rooms and follow the uses. -/
structure Within
    (uses : Uses) (locked : List RoomId) (view : Database)
    (writes : WriteSet) : Prop where
  rooms :
    ∀ room ∈ writes.rooms, room.id ∈ locked ∧ view.hasRoom room.id = true
  insertedWrites :
    ∀ write ∈ writes.insertedWrites,
      uses.SuitsWrite write ∧ write.roomId ∈ locked ∧
        view.hasRoom write.roomId = true
  updatedWrites :
    ∀ write ∈ writes.updatedWrites,
      uses.SuitsWrite write ∧ write.roomId ∈ locked ∧
        view.hasRoom write.roomId = true
  messages :
    ∀ message ∈ writes.messages,
      uses.SuitsMessage message ∧ message.roomId ∈ locked ∧
        view.hasRoom message.roomId = true

section Writes

variable {uses : Uses} {locked : List RoomId} {view : Database}
  {writes : WriteSet}

theorem Within.nothing
    (uses : Uses) (locked : List RoomId) (view : Database) :
    Within uses locked view {} where
  rooms := by simp
  insertedWrites := by simp
  updatedWrites := by simp
  messages := by simp

/-- Writes within rooms keep the database coherent. -/
theorem Within.coherent
    (within : Within uses locked view writes)
    (coherent : Coherent uses view) :
    Coherent uses (view.apply writes) where
  writes := by
    intro write member
    rcases List.mem_append.mp member with old | new
    · rcases mem_replaceVersions old with version | kept
      · exact (within.updatedWrites write version).1
      · exact coherent.writes write kept
    · exact (within.insertedWrites write new).1
  messages := by
    intro message member
    rcases List.mem_append.mp member with old | new
    · exact coherent.messages message old
    · exact (within.messages message new).1
  writeRooms := by
    intro write member
    rw [Database.apply_hasRoom]
    rcases List.mem_append.mp member with old | new
    · rcases mem_replaceVersions old with version | kept
      · exact (within.updatedWrites write version).2.2
      · exact coherent.writeRooms write kept
    · exact (within.insertedWrites write new).2.2

end Writes

/-! ## Clashes -/

/--
The write sets update one row, or insert rows that share an entry of a
unique index: PostgreSQL lets the later one wait.
-/
def clashes (left right : WriteSet) : Bool :=
  (left.rooms.any fun row =>
      right.rooms.any fun other => other.id == row.id) ||
    (left.updatedWrites.any fun row =>
      right.updatedWrites.any fun other => other.id == row.id) ||
    (left.insertedWrites.any fun row =>
      right.insertedWrites.any fun other =>
        other.id == row.id || other.key == row.key) ||
    (left.messages.any fun row =>
      right.messages.any fun other => other.conflicts row) ||
    left.outbox.any fun row =>
      right.outbox.any fun other =>
        other.id == row.id || other.event == row.event

theorem clashes_eq_false_iff (left right : WriteSet) :
    clashes left right = false ↔
      (∀ row ∈ left.rooms, ∀ other ∈ right.rooms, other.id ≠ row.id) ∧
        (∀ row ∈ left.updatedWrites, ∀ other ∈ right.updatedWrites,
          other.id ≠ row.id) ∧
        (∀ row ∈ left.insertedWrites, ∀ other ∈ right.insertedWrites,
          other.id ≠ row.id ∧ other.key ≠ row.key) ∧
        (∀ row ∈ left.messages, ∀ other ∈ right.messages,
          other.conflicts row = false) ∧
        ∀ row ∈ left.outbox, ∀ other ∈ right.outbox,
          other.id ≠ row.id ∧ other.event ≠ row.event := by
  simp [clashes, and_assoc]

theorem clashes_symmetric
    (left right : WriteSet) (apart : clashes left right = false) :
    clashes right left = false := by
  rw [clashes_eq_false_iff] at apart ⊢
  rcases apart with ⟨rooms, updated, inserted, messages, outbox⟩
  refine ⟨?_, ?_, ?_, ?_, ?_⟩
  · exact fun row member other otherMember =>
      (rooms other otherMember row member).symm
  · exact fun row member other otherMember =>
      (updated other otherMember row member).symm
  · exact fun row member other otherMember =>
      ⟨(inserted other otherMember row member).1.symm,
        (inserted other otherMember row member).2.symm⟩
  · exact fun row member other otherMember =>
      Message.conflicts_symm (messages other otherMember row member)
  · exact fun row member other otherMember =>
      ⟨(outbox other otherMember row member).1.symm,
        (outbox other otherMember row member).2.symm⟩

/-! ## Agreement -/

/-- `other` is `view` after foreign writes outside the rooms. -/
structure Agrees
    (locked : List RoomId) (foreign : List WriteSet)
    (view other : Database) : Prop where
  users : other.users = view.users
  roomIds : other.rooms.map Room.id = view.rooms.map Room.id
  rooms :
    (other.rooms.filter fun room => decide (room.id ∈ locked)) =
      view.rooms.filter fun room => decide (room.id ∈ locked)
  writes :
    (other.messageWrites.filter fun write =>
        decide (write.roomId ∈ locked)) =
      view.messageWrites.filter fun write =>
        decide (write.roomId ∈ locked)
  messages :
    (other.messages.filter fun message =>
        decide (message.roomId ∈ locked)) =
      view.messages.filter fun message =>
        decide (message.roomId ∈ locked)
  messagesFrom :
    ∀ message ∈ other.messages, message ∈ view.messages ∨
      ∃ theirs ∈ foreign, message ∈ theirs.messages
  outboxKept : ∀ row ∈ view.messageOutbox, row ∈ other.messageOutbox
  outboxFrom :
    ∀ row ∈ other.messageOutbox, row ∈ view.messageOutbox ∨
      ∃ theirs ∈ foreign, row ∈ theirs.outbox

section Agreement

variable {uses : Uses} {locked : List RoomId} {foreign : List WriteSet}
  {view other : Database} {writes : WriteSet}

theorem Agrees.refl
    (locked : List RoomId) (foreign : List WriteSet) (view : Database) :
    Agrees locked foreign view view where
  users := rfl
  roomIds := rfl
  rooms := rfl
  writes := rfl
  messages := rfl
  messagesFrom := fun _ => Or.inl
  outboxKept := fun _ => id
  outboxFrom := fun _ => Or.inl

theorem Agrees.hasUser
    (agrees : Agrees locked foreign view other) (id : UserId) :
    other.hasUser id = view.hasUser id := by
  rw [Database.hasUser, Database.hasUser, agrees.users]

theorem Agrees.hasRoom
    (agrees : Agrees locked foreign view other) (id : RoomId) :
    other.hasRoom id = view.hasRoom id :=
  Database.hasRoom_congr agrees.roomIds id

theorem Agrees.messageForeignKeyViolation
    (agrees : Agrees locked foreign view other) :
    messageForeignKeyViolation other = messageForeignKeyViolation view := by
  funext row
  simp only [Storage.Schema.messageForeignKeyViolation, agrees.hasUser,
    agrees.hasRoom]

theorem Agrees.writeForeignKeyViolation
    (agrees : Agrees locked foreign view other) :
    writeForeignKeyViolation other = writeForeignKeyViolation view := by
  funext row
  simp only [Storage.Schema.writeForeignKeyViolation, agrees.hasUser,
    agrees.hasRoom]

/-- Versions of write rows keep the rooms that rows are selected by. -/
theorem filter_newVersions
    (coherent : Coherent uses view)
    (suited : ∀ write ∈ writes.updatedWrites, uses.SuitsWrite write) :
    ((replaceVersions MessageWrite.id writes.updatedWrites
          view.messageWrites).filter fun write =>
        decide (write.roomId ∈ locked)) =
      replaceVersions MessageWrite.id writes.updatedWrites
        (view.messageWrites.filter fun write =>
          decide (write.roomId ∈ locked)) := by
  apply filter_replaceVersions
  intro row member version versionMember sameId
  rw [(suited version versionMember).room_of_id
    (coherent.writes row member) sameId]

/-- The same writes on both sides keep the agreement. -/
theorem Agrees.apply
    (agrees : Agrees locked foreign view other)
    (coherent : Coherent uses view) (coherentOther : Coherent uses other)
    (suited : ∀ write ∈ writes.updatedWrites, uses.SuitsWrite write) :
    Agrees locked foreign (view.apply writes) (other.apply writes) where
  users := agrees.users
  roomIds := by
    rw [Database.apply_roomIds, Database.apply_roomIds, agrees.roomIds]
  rooms := by
    simp only [Database.apply]
    rw [filter_replaceVersions, filter_replaceVersions, agrees.rooms]
    · intro row _ version _ same
      rw [same]
    · intro row _ version _ same
      rw [same]
  writes := by
    simp only [Database.apply, List.filter_append]
    rw [filter_newVersions coherent suited,
      filter_newVersions coherentOther suited, agrees.writes]
  messages := by
    simp only [Database.apply, List.filter_append, agrees.messages]
  messagesFrom := by
    intro message member
    rcases List.mem_append.mp member with old | new
    · rcases agrees.messagesFrom message old with inView | theirs
      · exact Or.inl (List.mem_append_left _ inView)
      · exact Or.inr theirs
    · exact Or.inl (List.mem_append_right _ new)
  outboxKept := by
    intro row member
    rcases List.mem_append.mp member with old | new
    · exact List.mem_append_left _ (agrees.outboxKept row old)
    · exact List.mem_append_right _ new
  outboxFrom := by
    intro row member
    rcases List.mem_append.mp member with old | new
    · rcases agrees.outboxFrom row old with inView | theirs
      · exact Or.inl (List.mem_append_left _ inView)
      · exact Or.inr theirs
    · exact Or.inl (List.mem_append_right _ new)

/-- Foreign writes outside the rooms keep the agreement. -/
theorem Agrees.foreignWrites
    {theirLocked : List RoomId} {start : Database}
    (agrees : Agrees locked foreign view other)
    (member : writes ∈ foreign) (coherent : Coherent uses other)
    (within : Within uses theirLocked start writes)
    (outside :
      ∀ id ∈ theirLocked, start.hasRoom id = true → id ∉ locked) :
    Agrees locked foreign view (other.apply writes) where
  users := agrees.users
  roomIds := by rw [Database.apply_roomIds, agrees.roomIds]
  rooms := by
    rw [← agrees.rooms]
    simp only [Database.apply]
    rw [filter_replaceVersions, replaceVersions_eq_self]
    · intro row rowMember version versionMember same
      have kept : row.id ∈ locked := by
        simpa using (List.mem_filter.mp rowMember).2
      rcases within.rooms version versionMember with ⟨inRooms, exists'⟩
      exact outside _ inRooms exists' (same ▸ kept)
    · intro row _ version _ same
      rw [same]
  writes := by
    rw [← agrees.writes]
    simp only [Database.apply, List.filter_append]
    rw [filter_newVersions coherent
        fun write updated => (within.updatedWrites write updated).1,
      replaceVersions_eq_self, List.append_right_eq_self,
      List.filter_eq_nil_iff]
    · intro write inserted inRooms
      rcases within.insertedWrites write inserted with
        ⟨_, theirRoom, exists'⟩
      exact outside _ theirRoom exists' (by simpa using inRooms)
    · intro row rowMember version versionMember same
      rcases List.mem_filter.mp rowMember with ⟨inTable, inRooms⟩
      rcases within.updatedWrites version versionMember with
        ⟨suits, theirRoom, exists'⟩
      refine outside _ theirRoom exists' ?_
      rw [suits.room_of_id (coherent.writes row inTable) same]
      simpa using inRooms
  messages := by
    rw [← agrees.messages]
    simp only [Database.apply, List.filter_append]
    rw [List.append_right_eq_self, List.filter_eq_nil_iff]
    intro message inserted inRooms
    rcases within.messages message inserted with ⟨_, theirRoom, exists'⟩
    exact outside _ theirRoom exists' (by simpa using inRooms)
  messagesFrom := by
    intro message inOther
    rcases List.mem_append.mp inOther with old | new
    · exact agrees.messagesFrom message old
    · exact Or.inr ⟨writes, member, new⟩
  outboxKept := fun row inView =>
    List.mem_append_left _ (agrees.outboxKept row inView)
  outboxFrom := by
    intro row inOther
    rcases List.mem_append.mp inOther with old | new
    · exact agrees.outboxFrom row old
    · exact Or.inr ⟨writes, member, new⟩

end Agreement

/-! ## Local statements -/

/-- The messages that a transaction keeps are messages of its rooms. -/
def Fits (locked : List RoomId) (locals : TransactionLocals) : Prop :=
  ∀ row ∈ locals.persistedMessages, row.message.roomId ∈ locked

/-- A statement that neither writes nor depends on rows of other rooms. -/
structure Local
    (uses : Uses) (locked : List RoomId) (statement : Statement) :
    Prop where
  within :
    ∀ view locals writes next, Coherent uses view → Fits locked locals →
      statement.run view locals = .ok (writes, next) →
      Within uses locked view writes ∧ Fits locked next
  stable :
    ∀ view other foreign locals writes next, Coherent uses view →
      Coherent uses other → Agrees locked foreign view other →
      Fits locked locals →
      statement.run view locals = .ok (writes, next) →
      (∀ theirs ∈ foreign, clashes writes theirs = false) →
      statement.run other locals = .ok (writes, next) ∧
        statement.locks other = statement.locks view

section Execution

variable {uses : Uses} {locked : List RoomId} {foreign : List WriteSet}
  {view other : Database} {statements : List Statement}
  {locals : TransactionLocals}
  {trace : Trace WriteSet TransactionLocals RowLock}

/-- Local statements write rows of their rooms only. -/
theorem execute_within
    (allLocal : ∀ statement ∈ statements, Local uses locked statement)
    (coherent : Coherent uses view) (fits : Fits locked locals)
    (executed :
      execute Database.apply statements view locals = .ok trace) :
    (∀ writes ∈ trace.writes, Within uses locked view writes) ∧
      Coherent uses (trace.writes.foldl Database.apply view) := by
  induction statements generalizing view locals trace with
  | nil =>
      simp only [execute, Except.ok.injEq] at executed
      subst executed
      exact ⟨by simp, coherent⟩
  | cons statement rest induction =>
      rcases execute_cons_ok executed with
        ⟨writes, next, later, ran, continued, rfl⟩
      rcases (allLocal statement List.mem_cons_self).within view locals
          writes next coherent fits ran with
        ⟨within, nextFits⟩
      rcases induction
          (fun other member =>
            allLocal other (List.mem_cons_of_mem _ member))
          (within.coherent coherent) nextFits continued with
        ⟨laterWithin, finalCoherent⟩
      refine ⟨?_, finalCoherent⟩
      intro written member
      rcases List.mem_cons.mp member with rfl | laterMember
      · exact within
      · have inView := laterWithin written laterMember
        constructor
        · simpa using inView.rooms
        · simpa using inView.insertedWrites
        · simpa using inView.updatedWrites
        · simpa using inView.messages

/-- Local statements have the same results after foreign writes. -/
theorem execute_stable
    (allLocal : ∀ statement ∈ statements, Local uses locked statement)
    (coherent : Coherent uses view) (coherentOther : Coherent uses other)
    (agrees : Agrees locked foreign view other)
    (fits : Fits locked locals)
    (executed :
      execute Database.apply statements view locals = .ok trace)
    (apart :
      ∀ writes ∈ trace.writes, ∀ theirs ∈ foreign,
        clashes writes theirs = false) :
    execute Database.apply statements other locals = .ok trace := by
  induction statements generalizing view other locals trace with
  | nil =>
      simp only [execute, Except.ok.injEq] at executed
      subst executed
      rfl
  | cons statement rest induction =>
      rcases execute_cons_ok executed with
        ⟨writes, next, later, ran, continued, rfl⟩
      have isLocal := allLocal statement List.mem_cons_self
      rcases isLocal.within view locals writes next coherent fits ran with
        ⟨within, nextFits⟩
      rcases isLocal.stable view other foreign locals writes next coherent
          coherentOther agrees fits ran
          (apart writes List.mem_cons_self) with
        ⟨ranThere, sameLocks⟩
      have withinThere :=
        (isLocal.within other locals writes next coherentOther fits
          ranThere).1
      have continuedThere :
          execute Database.apply rest (other.apply writes) next =
            .ok later := by
        refine
          induction
            (fun statement member =>
              allLocal statement (List.mem_cons_of_mem _ member))
            (within.coherent coherent)
            (withinThere.coherent coherentOther)
            (agrees.apply coherent coherentOther
              fun write updated => (within.updatedWrites write updated).1)
            nextFits continued ?_
        exact fun written member =>
          apart written (List.mem_cons_of_mem _ member)
      rw [execute_cons ranThere continuedThere, sameLocks]

/-- Foreign transactions of other rooms leave an agreeing database. -/
theorem agrees_after
    {theirLocked : List RoomId} {others : List WriteSet}
    (coherent : Coherent uses view)
    (within :
      ∀ writes ∈ others, Within uses theirLocked view writes)
    (outside :
      ∀ id ∈ theirLocked, view.hasRoom id = true → id ∉ locked) :
    Agrees locked others view (others.foldl Database.apply view) ∧
      Coherent uses (others.foldl Database.apply view) := by
  have general :
      ∀ (written : List WriteSet) (after : Database), written ⊆ others →
        Agrees locked others view after → Coherent uses after →
        (∀ id, after.hasRoom id = view.hasRoom id) →
          Agrees locked others view
              (written.foldl Database.apply after) ∧
            Coherent uses (written.foldl Database.apply after) := by
    intro written
    induction written with
    | nil => exact fun after _ agrees coherentAfter _ =>
        ⟨agrees, coherentAfter⟩
    | cons writes rest induction =>
        intro after subset agrees coherentAfter sameRooms
        have member := subset List.mem_cons_self
        have inView := within writes member
        have inAfter : Within uses theirLocked after writes := by
          constructor
          · simpa [sameRooms] using inView.rooms
          · simpa [sameRooms] using inView.insertedWrites
          · simpa [sameRooms] using inView.updatedWrites
          · simpa [sameRooms] using inView.messages
        refine
          induction (after.apply writes)
            (fun other later => subset (List.mem_cons_of_mem _ later))
            (agrees.foreignWrites member coherentAfter inView outside)
            (inAfter.coherent coherentAfter) ?_
        intro id
        rw [Database.apply_hasRoom, sameRooms]
  exact
    general others view (List.Subset.refl _)
      (Agrees.refl locked others view) coherent fun _ => rfl

end Execution

end ChatBackend.Services.RoomFootprints
