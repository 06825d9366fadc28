import ChatBackend.Services.Fanout
import ChatBackend.Writer.CalmDrains

/-!
# The outbox empties

Batches, drains that fail or crash, and dead letters leave rows in the outbox
in any mixture of statuses.  What a drain writes on a row keeps it from the
next drains for a minute at most, or until its lock is stale: `Punctual` is
this bound, as an invariant of all interleavings.

Hence, from any reachable state, when the failures stop and this time has
passed, enough drains publish each waiting message exactly once.
-/

namespace ChatBackend.Services.OutboxProgress

open ChatBackend.Foundation.EventRuns
open ChatBackend.Foundation.Transactions
open ChatBackend.Storage.Schema
open ChatBackend.Storage.SequenceMigration
open ChatBackend.Storage.TableInvariants
open ChatBackend.Writer.WriteCommands
open ChatBackend.Writer.BatchSpecification
open ChatBackend.Writer.BatchTransaction
open ChatBackend.Writer.DeadLetters
open ChatBackend.Writer.OutboxDrain
open ChatBackend.Writer.BatchHandling
open ChatBackend.Writer.CalmDrains
open ChatBackend.Services.Transitions
open ChatBackend.Services.Fanout

/-! ## How far ahead a row is scheduled -/

/-- The longest delay of `retryDelayMs`. -/
def longestRetryMs : Int :=
  60000

/-- A row is scheduled within a minute, and locked in the past. -/
structure OnTime (clock : Timestamp) (row : MessageOutbox) : Prop where
  scheduled :
    ∀ nextAttemptAt ∈ row.nextAttemptAt,
      nextAttemptAt ≤ clock + longestRetryMs
  locked : ∀ lockedAt ∈ row.lockedAt, lockedAt ≤ clock

def Punctual (clock : Timestamp) (db : Database) : Prop :=
  ∀ row ∈ db.messageOutbox, OnTime clock row

theorem OnTime.later
    {clock later : Timestamp} {row : MessageOutbox}
    (onTime : OnTime clock row) (advanced : clock ≤ later) :
    OnTime later row where
  scheduled := fun nextAttemptAt isNext =>
    le_trans (onTime.scheduled nextAttemptAt isNext)
      (Int.add_le_add_right advanced _)
  locked := fun lockedAt isLock =>
    le_trans (onTime.locked lockedAt isLock) advanced

theorem Punctual.mapped
    {clock : Timestamp} {db after : Database}
    {version : MessageOutbox → MessageOutbox}
    (punctual : Punctual clock db)
    (mapped : after.messageOutbox = db.messageOutbox.map version)
    (versions :
      ∀ row, OnTime clock row → OnTime clock (version row)) :
    Punctual clock after := by
  intro row member
  rw [mapped] at member
  rcases List.mem_map.mp member with ⟨old, inTable, rfl⟩
  exact versions old (punctual old inTable)

section Versions

variable (engine : Engine) {clock : Timestamp} {row : MessageOutbox}

theorem claimRow_onTime
    (taken : List MessageOutbox) (onTime : OnTime clock row) :
    OnTime clock (claimRow clock taken row) := by
  rcases claimRow_cases clock taken row with same | claimed
  · rw [same]
    exact onTime
  · rw [claimed]
    exact
      { scheduled := by simp [claimedVersion]
        locked := by simp [claimedVersion] }

theorem publishedVersion_onTime (id : String) (onTime : OnTime clock row) :
    OnTime clock (publishedVersion clock id row) := by
  unfold publishedVersion
  split
  · exact
      { scheduled := onTime.scheduled
        locked := by simp }
  · exact onTime

theorem retryDelayMs_le (attempts : Nat) :
    (retryDelayMs attempts : Int) ≤ longestRetryMs := by
  have bounded : retryDelayMs attempts ≤ 60000 := Nat.min_le_left _ _
  exact Int.ofNat_le.mpr bounded

theorem failedVersion_onTime
    (claimed : ClaimedOutboxRow) (err : Failure)
    (onTime : OnTime clock row) :
    OnTime clock (failedVersion engine clock claimed err row) := by
  unfold failedVersion
  split
  · exact
      { scheduled := by
          simpa using retryDelayMs_le claimed.attempts
        locked := by simp }
  · exact onTime

end Versions

theorem drainStep_punctual
    (engine : Engine) {clock : Timestamp} {db : Database}
    (punctual : Punctual clock db) (succeeds : Bool) (drain : Drain) :
    Punctual clock
      (drainStep engine clock succeeds db drain).database := by
  rcases drainStep_database engine clock db succeeds drain with
    same | ⟨_, row, _, _, _, completed⟩ | ⟨_, row, err, _, _, _, failed⟩
  · exact same.symm ▸ punctual
  · rw [completed]
    exact
      punctual.mapped rfl fun _ onTime =>
        publishedVersion_onTime row.id onTime
  · rw [failed]
    exact
      punctual.mapped rfl fun _ onTime =>
        failedVersion_onTime engine row err onTime

/-- Every event keeps the rows on time. -/
theorem change_punctual
    {engine : Engine} {before after : ServiceState} {event : Event}
    (change : Change engine before event after)
    (punctual : Punctual before.clock before.database) :
    Punctual after.clock after.database := by
  cases change with
  | idle => exact punctual
  | batch commands deduped origin ids noConflict unique accepted inserted =>
      intro row member
      rcases List.mem_append.mp member with old | new
      · exact punctual row old
      · rcases mem_newOutbox.mp new with ⟨candidate, _, rfl⟩
        exact
          { scheduled := by simp [outboxRow]
            locked := by simp [outboxRow] }
  | messageRow => exact punctual
  | lastMessageAt => exact punctual
  | findDeadLetter => exact punctual
  | markDead => exact punctual
  | createDead call pending created found succeeded =>
      rcases createDeadLetter_ok succeeded with ⟨_, _, _, rfl⟩
      exact punctual
  | dropDead => exact punctual
  | claim deps =>
      exact
        punctual.mapped rfl fun _ onTime => claimRow_onTime _ onTime
  | start => exact punctual
  | drain call succeeds drain found =>
      exact drainStep_punctual engine punctual succeeds drain
  | crash => exact punctual
  | clock elapsed =>
      exact fun row member =>
        (punctual row member).later
          (Int.le_add_of_nonneg_right (Int.natCast_nonneg elapsed))

theorem initial_punctual
    (engine : Engine) (legacy : LegacyTables) (clock : Timestamp) :
    Punctual (initial engine legacy clock).clock
      (initial engine legacy clock).database := by
  simp [Punctual, initial, migrate]

theorem reached_punctual
    (engine : Engine) (legacy : LegacyTables) (clock : Timestamp)
    (events : List Event) :
    Punctual (reached engine legacy clock events).clock
      (reached engine legacy clock events).database := by
  have both :=
    run_invariant
      (fun state : ServiceState =>
        Sound state.database ∧ Punctual state.clock state.database)
      (fun state event both =>
        ⟨step_sound engine state event both.1,
          change_punctual (step_change engine state event both.1)
            both.2⟩)
      ⟨migrate_sound engine legacy,
        initial_punctual engine legacy clock⟩
      events
  exact both.2

/-! ## Progress -/

/-- When a row that is on time can be claimed at the latest. -/
def patienceMs (deps : DrainMessageOutboxDependencies) : Int :=
  max longestRetryMs (deps.claimStaleLockMs + 1)

theorem stale_of_patient
    {lockedAt clock staleLockMs now : Int} (past : lockedAt ≤ clock)
    (late : clock + (staleLockMs + 1) ≤ now) :
    lockedAt < now - staleLockMs := by
  omega

/-- After the patience every row that waits can be claimed. -/
theorem dueFrom_patience
    {clock : Timestamp} {db : Database} (punctual : Punctual clock db)
    (locked :
      ∀ row ∈ db.messageOutbox,
        row.status = .publishing → row.lockedAt.isSome)
    (deps : DrainMessageOutboxDependencies) :
    DueFrom (clock + patienceMs deps) deps.claimStaleLockMs db := by
  intro row member waiting now late
  have onTime := punctual row member
  have retried : clock + longestRetryMs ≤ now :=
    le_trans (Int.add_le_add_left (Int.le_max_left _ _) _) late
  have stale : clock + (deps.claimStaleLockMs + 1) ≤ now :=
    le_trans (Int.add_le_add_left (Int.le_max_right _ _) _) late
  have scheduled :
      ∀ nextAttemptAt ∈ row.nextAttemptAt, nextAttemptAt ≤ now :=
    fun nextAttemptAt isNext =>
      le_trans (onTime.scheduled nextAttemptAt isNext) retried
  cases status : row.status with
  | pending =>
      cases next : row.nextAttemptAt <;>
        simp_all [isClaimable]
  | failed =>
      cases next : row.nextAttemptAt <;>
        simp_all [isClaimable]
  | publishing =>
      rcases Option.isSome_iff_exists.mp (locked row member status) with
        ⟨lockedAt, isLock⟩
      have past := onTime.locked lockedAt isLock
      simp [isClaimable, status, isLock, stale_of_patient past stale]
  | published => simp [isWaiting, status] at waiting

/--
From any reachable state: when the failures have stopped and every row could
have been retried or its lock is stale, as many drains as the outbox needs
all succeed, publish the stored message of each waiting row exactly once and
nothing else, leave no row waiting, and no PERSISTED write behind whose row
was waiting.
-/
theorem outbox_empties
    (engine : Engine) (legacy : LegacyTables) (clock : Timestamp)
    (events : List Event) (deps : DrainMessageOutboxDependencies)
    (hasPublisher : deps.publisher = true) (writer : WriterState)
    (sameTables :
      writer.database = (reached engine legacy clock events).database)
    (calm : Calm writer.outages)
    (late :
      From
        ((reached engine legacy clock events).clock + patienceMs deps)
        writer.clock)
    (rounds : Nat)
    (enough :
      (waitingQueue engine writer.database).length ≤
        rounds * deps.claimLimit) :
    (∀ row ∈ waitingQueue engine writer.database,
        ∃ message ∈ writer.database.messages,
          message.id = row.messageId ∧
            waitingEvent writer.database.messages (returnedRow row) =
              some (roomEvent (returnedRow row) message)) ∧
      ∃ after,
        drainRepeatedly engine deps rounds writer = (true, after) ∧
          waitingQueue engine after.database = [] ∧
          (∃ published,
            after.published = writer.published ++ published ∧
              published.Perm
                ((waitingQueue engine writer.database).filterMap
                  fun row =>
                    waitingEvent writer.database.messages
                      (returnedRow row))) ∧
          ∀ write ∈ after.database.messageWrites,
            write.status = .persisted →
              ∀ row ∈ waitingQueue engine writer.database,
                row.messageId ≠ write.id := by
  have sound : Sound writer.database :=
    sameTables ▸ reached_sound engine legacy clock events
  have due :
      DueFrom
        ((reached engine legacy clock events).clock + patienceMs deps)
        deps.claimStaleLockMs writer.database :=
    sameTables ▸
      dueFrom_patience (reached_punctual engine legacy clock events)
        (reached_bookkeeping engine legacy clock events).locked deps
  constructor
  · intro row inQueue
    rw [waitingQueue, List.mem_insertionSort] at inQueue
    rcases sound.valid.outboxMessage row
        (List.mem_of_mem_filter inQueue) with
      ⟨message, member, sameId⟩
    have found :
        (writer.database.messages.find? fun message =>
          message.id == row.messageId).isSome :=
      List.find?_isSome.mpr ⟨message, member, by simp [sameId]⟩
    rcases Option.isSome_iff_exists.mp found with ⟨stored, isStored⟩
    refine
      ⟨stored, List.mem_of_find?_eq_some isStored,
        by simpa using List.find?_some isStored, ?_⟩
    have sameRow : (returnedRow row).messageId = row.messageId := rfl
    rw [waitingEvent, sameRow, isStored]
    rfl
  · rcases drainRepeatedly_calm hasPublisher sound due late calm
        enough with
      ⟨after, drains, empty, published, fanouted⟩
    exact
      ⟨after, drains, empty, published,
        fun write member persisted =>
          (fanouted write member persisted).2⟩

/-- A batch of one message, and a drain whose publish fails. -/
def exampleEvents : List Event :=
  [.writerBatch [exampleCommand] none,
    .startDrain { publisher := true } true, .stepDrain 0 true,
    .stepDrain 0 false, .stepDrain 0 true]

theorem outbox_empties_failed :
    let db :=
      (reached exampleEngine exampleTables 1000 exampleEvents).database
    db.messageOutbox.map MessageOutbox.status = [.failed] ∧
      ∃ after,
        drainRepeatedly exampleEngine { publisher := true } 1
            (WriterState.begin db (Stream'.const 61000)
              (Stream'.const false)) =
          (true, after) ∧
          waitingQueue exampleEngine after.database = [] := by
  intro db
  have minuteLater :
      (reached exampleEngine exampleTables 1000 exampleEvents).clock +
          patienceMs { publisher := true } =
        61000 := by
    decide
  have emptied :=
    outbox_empties exampleEngine exampleTables 1000 exampleEvents
      { publisher := true } rfl
      (WriterState.begin db (Stream'.const 61000) (Stream'.const false))
      rfl (fun _ => rfl) (fun _ => le_of_eq minuteLater) 1 (by decide)
  rcases emptied.2 with ⟨after, drains, empty, _⟩
  exact ⟨by decide, after, drains, empty⟩

end ChatBackend.Services.OutboxProgress
