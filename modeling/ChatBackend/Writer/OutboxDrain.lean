import ChatBackend.Storage.TableInvariants
import ChatBackend.Writer.BatchTransaction

/-!
# Draining the outbox

`drainMessageOutbox` claims rows of the outbox in one transaction, loads the
messages of the claimed rows, and publishes them one after another.  A row
whose publish resolves is completed in a second transaction; any error on the
way is recorded on the row by `markOutboxFailed`.

A call that is under way is a `Drain`, named by the next thing that it waits
for.  `drainStep` performs this one thing, with a flag for its success, and so
describes one call among others that run at the same time.  `drainMessageOutbox`
itself repeats `drainStep` to the end.
-/

namespace ChatBackend.Writer.OutboxDrain

open ChatBackend.Foundation.TableRows
open ChatBackend.Storage.Schema
open ChatBackend.Storage.TableInvariants
open ChatBackend.Storage.SequenceMigration
open ChatBackend.Writer.BatchTransaction

/-! ## The claim -/

/-- `DrainMessageOutboxDependencies`; only the presence of Redis matters. -/
structure DrainMessageOutboxDependencies where
  publisher : Bool
  limit : Option Int := none
  staleLockMs : Option Int := none
deriving DecidableEq, Repr

def DrainMessageOutboxDependencies.claimLimit
    (deps : DrainMessageOutboxDependencies) : Nat :=
  (max 1 (deps.limit.getD 100)).toNat

def DrainMessageOutboxDependencies.claimStaleLockMs
    (deps : DrainMessageOutboxDependencies) : Int :=
  max 1 (deps.staleLockMs.getD 30000)

structure ClaimedOutboxRow where
  id : String
  messageId : MessageId
  originConnectionId : Option ConnectionId
  attempts : Nat
deriving DecidableEq, Repr

/-- The `WHERE` clause of `claimable`; a comparison with NULL is not true. -/
def isClaimable
    (now : Timestamp) (staleLockMs : Int) (row : MessageOutbox) : Bool :=
  ((row.status == .pending || row.status == .failed) &&
      match row.nextAttemptAt with
      | none => true
      | some nextAttemptAt => decide (nextAttemptAt ≤ now)) ||
    (row.status == .publishing &&
      match row.lockedAt with
      | none => false
      | some lockedAt => decide (lockedAt < now - staleLockMs))

/-- `ORDER BY "createdAt", "id"`. -/
def enqueuedBefore (engine : Engine) (left right : MessageOutbox) : Prop :=
  left.createdAt < right.createdAt ∨
    (left.createdAt = right.createdAt ∧
      engine.collates left.id right.id = true)

instance (engine : Engine) : DecidableRel (enqueuedBefore engine) :=
  fun left right =>
    inferInstanceAs
      (Decidable
        (left.createdAt < right.createdAt ∨
          (left.createdAt = right.createdAt ∧
            engine.collates left.id right.id = true)))

/-- `claimable`: the rows that the claim takes. -/
def claimable
    (engine : Engine) (now : Timestamp)
    (deps : DrainMessageOutboxDependencies) (db : Database) :
    List MessageOutbox :=
  ((db.messageOutbox.filter
      (isClaimable now deps.claimStaleLockMs)).insertionSort
    (enqueuedBefore engine)).take deps.claimLimit

/-- The new version of a claimed row. -/
def claimedVersion
    (now : Timestamp) (row : MessageOutbox) : MessageOutbox :=
  { row with
    status := .publishing
    attempts := row.attempts + 1
    lockedAt := some now
    nextAttemptAt := none
    updatedAt := now }

def claimRow
    (now : Timestamp) (taken : List MessageOutbox)
    (row : MessageOutbox) : MessageOutbox :=
  if taken.any fun other => other.id == row.id then
    claimedVersion now row
  else row

/-- `RETURNING` of the claim. -/
def returnedRow (row : MessageOutbox) : ClaimedOutboxRow :=
  { id := row.id
    messageId := row.messageId
    originConnectionId := row.originConnectionId
    attempts := row.attempts + 1 }

/-- The claim; the order of `claimable` is not the order of the result. -/
def claimOutbox
    (engine : Engine) (now : Timestamp)
    (deps : DrainMessageOutboxDependencies) (db : Database) :
    Database × List ClaimedOutboxRow :=
  let taken := claimable engine now deps db
  ({ db with
      messageOutbox := db.messageOutbox.map (claimRow now taken) },
    (engine.returningOrder now taken).map returnedRow)

theorem claimOutbox_perm
    (engine : Engine) (now : Timestamp)
    (deps : DrainMessageOutboxDependencies) (db : Database) :
    (claimOutbox engine now deps db).2.Perm
      ((claimable engine now deps db).map returnedRow) :=
  (engine.returningOrder_perm now _).map returnedRow

/-- The result has the rows of `claimable`. -/
theorem mem_claimOutbox
    {engine : Engine} {now : Timestamp}
    {deps : DrainMessageOutboxDependencies} {db : Database}
    {claimed : ClaimedOutboxRow} :
    claimed ∈ (claimOutbox engine now deps db).2 ↔
      ∃ row ∈ claimable engine now deps db, returnedRow row = claimed :=
  (claimOutbox_perm engine now deps db).mem_iff.trans List.mem_map

/-! ## The statements for one row -/

/-- `message.findMany` for the messages of the claimed rows. -/
def loadMessages
    (db : Database) (claimed : List ClaimedOutboxRow) : List Message :=
  db.messages.filter fun message =>
    (claimed.map ClaimedOutboxRow.messageId).contains message.id

/-- The event that goes out on the channel of a room. -/
structure RoomEvent where
  channel : String
  type : String := messageCreated
  roomId : RoomId
  message : MessageDto
  originConnectionId : Option ConnectionId
deriving DecidableEq, Repr

def roomEventChannel (roomId : RoomId) : String :=
  "room:" ++ roomId ++ ":events"

def roomEvent (row : ClaimedOutboxRow) (message : Message) : RoomEvent :=
  let dto := toMessageDto message
  { channel := roomEventChannel dto.chatId
    roomId := dto.chatId
    message := dto
    originConnectionId := truthy row.originConnectionId }

/-- The outbox update of the success transaction. -/
def publishedVersion
    (now : Timestamp) (id : String) (row : MessageOutbox) :
    MessageOutbox :=
  if row.id = id then
    { row with
      status := .published
      publishedAt := some now
      lockedAt := none
      failureReason := none
      updatedAt := now }
  else row

/-- The write update of the success transaction. -/
def fanoutedVersion
    (messageId : MessageId) (write : MessageWrite) : MessageWrite :=
  if write.id = messageId ∧ write.status = .persisted then
    { write with
      status := .fanouted
      failedAt := none
      failureReason := none }
  else write

/-- The success transaction. -/
def completeOutboxRow
    (now : Timestamp) (db : Database) (row : ClaimedOutboxRow) :
    Database :=
  { db with
    messageOutbox := db.messageOutbox.map (publishedVersion now row.id)
    messageWrites :=
      db.messageWrites.map (fanoutedVersion row.messageId) }

def retryDelayMs (attempts : Nat) : Nat :=
  min 60000 (max 1000 (attempts * attempts * 1000))

/-- The update of `markOutboxFailed` on one row. -/
def failedVersion
    (engine : Engine) (now : Timestamp) (claimed : ClaimedOutboxRow)
    (err : Failure) (row : MessageOutbox) : MessageOutbox :=
  if row.id = claimed.id then
    { row with
      status := .failed
      nextAttemptAt := some (now + retryDelayMs claimed.attempts)
      lockedAt := none
      failureReason := some (engine.formatFailureReason err)
      updatedAt := now }
  else row

def markOutboxFailed
    (engine : Engine) (now : Timestamp) (db : Database)
    (row : ClaimedOutboxRow) (err : Failure) : Database :=
  { db with
    messageOutbox :=
      db.messageOutbox.map (failedVersion engine now row err) }

/-! ## A call under way -/

/-- A call of `drainMessageOutbox`, by what it waits for next. -/
inductive Drain where
  | loading (claimed : List ClaimedOutboxRow)
  | publishing
      (messages : List Message) (row : ClaimedOutboxRow)
      (message : Message) (rest : List ClaimedOutboxRow)
      (published : Nat)
  | completing
      (messages : List Message) (row : ClaimedOutboxRow)
      (rest : List ClaimedOutboxRow) (published : Nat)
  | failing
      (messages : List Message) (row : ClaimedOutboxRow)
      (err : Failure) (rest : List ClaimedOutboxRow)
      (published : Nat)
  | returned (published : Nat)
  | rejected
deriving DecidableEq, Repr

/-- The head of the loop over the claimed rows. -/
def nextRow
    (messages : List Message) (published : Nat) :
    List ClaimedOutboxRow → Drain
  | [] => .returned published
  | row :: rest =>
      match messages.find? fun message => message.id == row.messageId with
      | none => .failing messages row .messageNotFound rest published
      | some message => .publishing messages row message rest published

/-- The call up to the end of its claim. -/
def startDrain
    (engine : Engine) (now : Timestamp)
    (deps : DrainMessageOutboxDependencies) (succeeds : Bool)
    (db : Database) : Drain × Database :=
  if !deps.publisher then (.returned 0, db)
  else if !succeeds then (.rejected, db)
  else
    let (claimedDb, claimed) := claimOutbox engine now deps db
    if claimed = [] then (.returned 0, claimedDb)
    else (.loading claimed, claimedDb)

/-- What one step of a call leaves behind. -/
structure DrainOutcome where
  drain : Drain
  database : Database
  published : List RoomEvent := []
deriving DecidableEq, Repr

/-- Perform the next thing the call waits for. -/
def drainStep
    (engine : Engine) (now : Timestamp) (succeeds : Bool)
    (db : Database) (drain : Drain) : DrainOutcome :=
  match drain with
  | .loading claimed =>
      if succeeds then
        { drain := nextRow (loadMessages db claimed) 0 claimed
          database := db }
      else { drain := .rejected, database := db }
  | .publishing messages row message rest published =>
      if succeeds then
        { drain := .completing messages row rest published
          database := db
          published := [roomEvent row message] }
      else
        { drain := .failing messages row .unavailable rest published
          database := db }
  | .completing messages row rest published =>
      if succeeds then
        { drain := nextRow messages (published + 1) rest
          database := completeOutboxRow now db row }
      else
        { drain := .failing messages row .unavailable rest published
          database := db }
  | .failing messages row err rest published =>
      if succeeds then
        { drain := nextRow messages published rest
          database := markOutboxFailed engine now db row err }
      else { drain := .rejected, database := db }
  | .returned published =>
      { drain := .returned published, database := db }
  | .rejected => { drain := .rejected, database := db }

/-- The rows that a call still has to settle. -/
def Drain.pendingRows : Drain → List ClaimedOutboxRow
  | .loading claimed => claimed
  | .publishing _ row _ rest _ => row :: rest
  | .completing _ row rest _ => row :: rest
  | .failing _ row _ rest _ => row :: rest
  | .returned _ => []
  | .rejected => []

/-- No call is made after the end. -/
def Drain.isFinished : Drain → Bool
  | .returned _ => true
  | .rejected => true
  | _ => false

/-- A bound on the number of calls which are still made. -/
def Drain.remainingCalls : Drain → Nat
  | .loading claimed => 3 * claimed.length + 1
  | .publishing _ _ _ rest _ => 3 * rest.length + 3
  | .completing _ _ rest _ => 3 * rest.length + 2
  | .failing _ _ _ rest _ => 3 * rest.length + 1
  | .returned _ => 0
  | .rejected => 0

theorem nextRow_remainingCalls
    (messages : List Message) (published : Nat)
    (rows : List ClaimedOutboxRow) :
    (nextRow messages published rows).remainingCalls ≤
      3 * rows.length := by
  cases rows with
  | nil => exact Nat.le_refl 0
  | cons row rest =>
      simp only [nextRow]
      split
      · change 3 * rest.length + 1 ≤ 3 * (rest.length + 1)
        omega
      · change 3 * rest.length + 3 ≤ 3 * (rest.length + 1)
        omega

/-- Every step of a call brings it closer to its end. -/
theorem drainStep_remainingCalls
    (engine : Engine) (now : Timestamp) (succeeds : Bool)
    (db : Database) {drain : Drain}
    (unfinished : drain.isFinished = false) :
    (drainStep engine now succeeds db drain).drain.remainingCalls <
      drain.remainingCalls := by
  cases drain with
  | loading claimed =>
      cases succeeds with
      | false => exact Nat.succ_pos _
      | true =>
          exact
            Nat.lt_succ_of_le
              (nextRow_remainingCalls (loadMessages db claimed) 0 claimed)
  | publishing messages row message rest published =>
      cases succeeds <;> simp [drainStep, Drain.remainingCalls]
  | completing messages row rest published =>
      cases succeeds with
      | false => exact Nat.lt_succ_self _
      | true =>
          have bound :=
            nextRow_remainingCalls messages (published + 1) rest
          exact Nat.lt_of_le_of_lt bound (by simp [Drain.remainingCalls])
  | failing messages row err rest published =>
      cases succeeds with
      | false => exact Nat.succ_pos _
      | true =>
          exact
            Nat.lt_succ_of_le
              (nextRow_remainingCalls messages published rest)
  | returned published => simp [Drain.isFinished] at unfinished
  | rejected => simp [Drain.isFinished] at unfinished

/-! ## What the statements keep -/

section Versions

variable (engine : Engine) (now : Timestamp)
  (taken : List MessageOutbox) (claimed : ClaimedOutboxRow)
  (id : String) (err : Failure) (row : MessageOutbox)

@[simp]
theorem claimRow_id : (claimRow now taken row).id = row.id := by
  unfold claimRow
  split <;> rfl

@[simp]
theorem claimRow_event : (claimRow now taken row).event = row.event := by
  unfold claimRow
  split <;> rfl

@[simp]
theorem publishedVersion_id :
    (publishedVersion now id row).id = row.id := by
  unfold publishedVersion
  split <;> rfl

@[simp]
theorem publishedVersion_event :
    (publishedVersion now id row).event = row.event := by
  unfold publishedVersion
  split <;> rfl

@[simp]
theorem failedVersion_id :
    (failedVersion engine now claimed err row).id = row.id := by
  unfold failedVersion
  split <;> rfl

@[simp]
theorem failedVersion_event :
    (failedVersion engine now claimed err row).event = row.event := by
  unfold failedVersion
  split <;> rfl

end Versions

section Fanouted

variable (messageId : MessageId) (write : MessageWrite)

@[simp]
theorem fanoutedVersion_id :
    (fanoutedVersion messageId write).id = write.id := by
  unfold fanoutedVersion
  split <;> rfl

@[simp]
theorem fanoutedVersion_key :
    (fanoutedVersion messageId write).key = write.key := by
  unfold fanoutedVersion
  split <;> rfl

@[simp]
theorem fanoutedVersion_roomId :
    (fanoutedVersion messageId write).roomId = write.roomId := by
  unfold fanoutedVersion
  split <;> rfl

@[simp]
theorem fanoutedVersion_content :
    (fanoutedVersion messageId write).content = write.content := by
  unfold fanoutedVersion
  split <;> rfl

/-- Only the PERSISTED row of the message changes, to FANOUTED. -/
theorem fanoutedVersion_cases :
    fanoutedVersion messageId write = write ∨
      (write.id = messageId ∧ write.status = .persisted ∧
        (fanoutedVersion messageId write).status = .fanouted) := by
  unfold fanoutedVersion
  split
  · rename_i matched
    exact Or.inr ⟨matched.1, matched.2, rfl⟩
  · exact Or.inl rfl

end Fanouted

section Kept

variable {engine : Engine} {now : Timestamp} {db : Database}

theorem claimOutbox_sound
    (sound : Sound db) (deps : DrainMessageOutboxDependencies) :
    Sound (claimOutbox engine now deps db).1 :=
  { valid :=
      mapOutbox_valid sound.valid (claimRow_id now _)
        (claimRow_event now _)
    numbered := numbered_of_same sound.numbered rfl rfl }

theorem completeOutboxRow_sound
    (sound : Sound db) (row : ClaimedOutboxRow) :
    Sound (completeOutboxRow now db row) :=
  { valid :=
      mapWrites_valid
        (mapOutbox_valid sound.valid (publishedVersion_id now row.id)
          (publishedVersion_event now row.id))
        (fanoutedVersion_id row.messageId)
        (fanoutedVersion_key row.messageId)
        (fanoutedVersion_roomId row.messageId)
    numbered := numbered_of_same sound.numbered rfl rfl }

theorem markOutboxFailed_sound
    (sound : Sound db) (row : ClaimedOutboxRow) (err : Failure) :
    Sound (markOutboxFailed engine now db row err) :=
  { valid :=
      mapOutbox_valid sound.valid (failedVersion_id engine now row err)
        (failedVersion_event engine now row err)
    numbered := numbered_of_same sound.numbered rfl rfl }

/-- A claim that finds nothing changes nothing. -/
theorem claimOutbox_nil
    {deps : DrainMessageOutboxDependencies}
    (nothing : (claimOutbox engine now deps db).2 = []) :
    (claimOutbox engine now deps db).1 = db := by
  have noRow : claimable engine now deps db = [] := by
    have rows := claimOutbox_perm engine now deps db
    rw [nothing] at rows
    exact List.map_eq_nil_iff.mp rows.nil_eq.symm
  have unclaimed : claimRow now [] = id := rfl
  simp [claimOutbox, noRow, unclaimed]

/-- What a step does to the database: nothing, or it settles one row. -/
theorem drainStep_database
    (engine : Engine) (now : Timestamp) (db : Database)
    (succeeds : Bool) (drain : Drain) :
    (drainStep engine now succeeds db drain).database = db ∨
      (∃ messages row rest published,
        drain = .completing messages row rest published ∧
          (drainStep engine now succeeds db drain).database =
            completeOutboxRow now db row) ∨
      ∃ messages row err rest published,
        drain = .failing messages row err rest published ∧
          (drainStep engine now succeeds db drain).database =
            markOutboxFailed engine now db row err := by
  cases drain with
  | loading claimed => cases succeeds <;> exact Or.inl rfl
  | publishing messages row message rest published =>
      cases succeeds <;> exact Or.inl rfl
  | completing messages row rest published =>
      cases succeeds with
      | false => exact Or.inl rfl
      | true =>
          exact
            Or.inr
              (Or.inl ⟨messages, row, rest, published, rfl, rfl⟩)
  | failing messages row err rest published =>
      cases succeeds with
      | false => exact Or.inl rfl
      | true =>
          exact
            Or.inr
              (Or.inr ⟨messages, row, err, rest, published, rfl, rfl⟩)
  | returned published => exact Or.inl rfl
  | rejected => exact Or.inl rfl

theorem drainStep_messages (succeeds : Bool) (drain : Drain) :
    (drainStep engine now succeeds db drain).database.messages =
      db.messages := by
  rcases drainStep_database engine now db succeeds drain with
    same | ⟨_, _, _, _, _, completed⟩ | ⟨_, _, _, _, _, _, failed⟩
  · rw [same]
  · rw [completed]
    rfl
  · rw [failed]
    rfl

theorem drainStep_sound
    (sound : Sound db) (succeeds : Bool) (drain : Drain) :
    Sound (drainStep engine now succeeds db drain).database := by
  rcases drainStep_database engine now db succeeds drain with
    same | ⟨_, row, _, _, _, completed⟩ | ⟨_, row, err, _, _, _, failed⟩
  · exact same.symm ▸ sound
  · exact completed.symm ▸ completeOutboxRow_sound sound row
  · exact failed.symm ▸ markOutboxFailed_sound sound row err

end Kept

/-! ## The rows of a claim -/

/-- A claimed row is PUBLISHING and locked, another one is unchanged. -/
theorem claimRow_cases
    (now : Timestamp) (taken : List MessageOutbox)
    (row : MessageOutbox) :
    claimRow now taken row = row ∨
      claimRow now taken row = claimedVersion now row := by
  unfold claimRow
  split
  · exact Or.inr rfl
  · exact Or.inl rfl

/-- The rows that a claim returns are rows of the outbox. -/
theorem claimed_inOutbox
    {engine : Engine} {now : Timestamp} {db : Database}
    {deps : DrainMessageOutboxDependencies} {row : ClaimedOutboxRow}
    (member : row ∈ (claimOutbox engine now deps db).2) :
    ∃ stored ∈ db.messageOutbox,
      stored.id = row.id ∧ stored.messageId = row.messageId ∧
        isClaimable now deps.claimStaleLockMs stored = true := by
  rcases mem_claimOutbox.mp member with ⟨stored, taken, rfl⟩
  have sorted := List.mem_of_mem_take taken
  rw [List.mem_insertionSort] at sorted
  rcases List.mem_filter.mp sorted with ⟨inTable, isOpen⟩
  exact ⟨stored, inTable, rfl, rfl, isOpen⟩

/-- A row of the claim becomes PUBLISHING, the others stay. -/
theorem claimRow_eq
    (engine : Engine) (now : Timestamp) {db : Database}
    (valid : db.Valid) (deps : DrainMessageOutboxDependencies)
    {row : MessageOutbox} (member : row ∈ db.messageOutbox) :
    (row ∈ claimable engine now deps db ∧
        claimRow now (claimable engine now deps db) row =
          claimedVersion now row) ∨
      (row ∉ claimable engine now deps db ∧
        claimRow now (claimable engine now deps db) row = row) := by
  by_cases taken : row ∈ claimable engine now deps db
  · left
    refine ⟨taken, ?_⟩
    unfold claimRow
    rw [if_pos (List.any_eq_true.mpr ⟨row, taken, by simp⟩)]
  · right
    refine ⟨taken, ?_⟩
    unfold claimRow
    rw [if_neg]
    rw [Bool.not_eq_true, List.any_eq_false]
    intro other otherTaken sameId
    have sorted := List.mem_of_mem_take otherTaken
    rw [List.mem_insertionSort] at sorted
    have same : other = row :=
      eq_of_unique_key valid.outboxIds (List.mem_filter.mp sorted).1
        member (by simpa using sameId)
    exact taken (same ▸ otherTaken)

/-- A row of the claim satisfies the claim condition. -/
theorem mem_claimable
    {engine : Engine} {now : Timestamp} {db : Database}
    {deps : DrainMessageOutboxDependencies} {row : MessageOutbox}
    (taken : row ∈ claimable engine now deps db) :
    row ∈ db.messageOutbox ∧
      isClaimable now deps.claimStaleLockMs row = true := by
  have sorted := List.mem_of_mem_take taken
  rw [List.mem_insertionSort] at sorted
  exact List.mem_filter.mp sorted

/-- A PUBLISHED row is never claimed. -/
theorem isClaimable_status
    {now : Timestamp} {staleLockMs : Int} {row : MessageOutbox}
    (isOpen : isClaimable now staleLockMs row = true) :
    row.status ≠ .published := by
  intro published
  simp [isClaimable, published] at isOpen

/-- No row is claimed twice by one claim. -/
theorem claimable_ids
    (engine : Engine) (now : Timestamp) {db : Database}
    (valid : db.Valid) (deps : DrainMessageOutboxDependencies) :
    ((claimable engine now deps db).map MessageOutbox.id).Nodup := by
  have kept :
      (db.messageOutbox.filter
          (isClaimable now deps.claimStaleLockMs)).Sublist
        db.messageOutbox :=
    List.filter_sublist
  have sorted :
      (((db.messageOutbox.filter
              (isClaimable now deps.claimStaleLockMs)).insertionSort
            (enqueuedBefore engine)).map MessageOutbox.id).Nodup :=
    ((List.perm_insertionSort (enqueuedBefore engine) _).map
        MessageOutbox.id).nodup_iff.mpr
      ((kept.map MessageOutbox.id).nodup valid.outboxIds)
  exact ((List.take_sublist _ _).map MessageOutbox.id).nodup sorted

/-! ## The rows that a call still holds -/

@[simp]
theorem nextRow_pendingRows
    (messages : List Message) (published : Nat)
    (rows : List ClaimedOutboxRow) :
    (nextRow messages published rows).pendingRows = rows := by
  cases rows with
  | nil => rfl
  | cons row rest =>
      cases found :
          messages.find? fun message => message.id == row.messageId <;>
        simp [nextRow, found, Drain.pendingRows]

/-- A step settles the row at its head, or leaves the database alone. -/
theorem drainStep_pendingRows
    (engine : Engine) (now : Timestamp) (succeeds : Bool)
    (db : Database) (drain : Drain) :
    ((drainStep engine now succeeds db drain).database = db ∧
        (drainStep engine now succeeds db
            drain).drain.pendingRows.Sublist
          drain.pendingRows) ∨
      ∃ row,
        drain.pendingRows =
            row ::
              (drainStep engine now succeeds db
                drain).drain.pendingRows ∧
          ((drainStep engine now succeeds db drain).database =
              completeOutboxRow now db row ∨
            ∃ err,
              (drainStep engine now succeeds db drain).database =
                markOutboxFailed engine now db row err) := by
  cases drain with
  | loading claimed =>
      cases succeeds with
      | false => exact Or.inl ⟨rfl, List.nil_sublist _⟩
      | true =>
          refine Or.inl ⟨rfl, ?_⟩
          change
            (nextRow (loadMessages db claimed) 0
                claimed).pendingRows.Sublist claimed
          rw [nextRow_pendingRows]
  | publishing messages row message rest published =>
      cases succeeds <;> exact Or.inl ⟨rfl, List.Sublist.refl _⟩
  | completing messages row rest published =>
      cases succeeds with
      | false => exact Or.inl ⟨rfl, List.Sublist.refl _⟩
      | true =>
          refine Or.inr ⟨row, ?_, Or.inl rfl⟩
          exact
            congrArg (row :: ·)
              (nextRow_pendingRows messages (published + 1) rest).symm
  | failing messages row err rest published =>
      cases succeeds with
      | false => exact Or.inl ⟨rfl, List.nil_sublist _⟩
      | true =>
          refine Or.inr ⟨row, ?_, Or.inr ⟨err, rfl⟩⟩
          exact
            congrArg (row :: ·)
              (nextRow_pendingRows messages published rest).symm
  | returned published => exact Or.inl ⟨rfl, List.Sublist.refl _⟩
  | rejected => exact Or.inl ⟨rfl, List.Sublist.refl _⟩

end ChatBackend.Writer.OutboxDrain
