import ChatBackend.Foundation.StableOrder
import ChatBackend.Writer.BatchHandling

/-!
# Drains without failures

When no call fails, a drain publishes the messages of all the rows that it
claims and completes each row after its publish.  `drainRepeatedly` makes one
call after the other.  If every row that waits can be claimed, the calls take
the rows from the front of the queue that `ORDER BY "createdAt", "id"` makes
of them, so that enough calls publish every message once.  The rows of one
claim come in any order.
-/

namespace ChatBackend.Writer.CalmDrains

open ChatBackend.Foundation.StableOrder
open ChatBackend.Foundation.TableRows
open ChatBackend.Foundation.Transactions
open ChatBackend.Storage.Schema
open ChatBackend.Storage.TableInvariants
open ChatBackend.Writer.BatchTransaction
open ChatBackend.Writer.OutboxDrain
open ChatBackend.Writer.BatchHandling

/-! ## The queue of waiting rows -/

def isWaiting (row : MessageOutbox) : Bool :=
  row.status != .published

/-- The rows that are not PUBLISHED, in the order of `claimable`. -/
def waitingQueue (engine : Engine) (db : Database) : List MessageOutbox :=
  (db.messageOutbox.filter isWaiting).insertionSort
    (enqueuedBefore engine)

/-- The event that a row publishes. -/
def waitingEvent
    (messages : List Message) (row : ClaimedOutboxRow) :
    Option RoomEvent :=
  (messages.find? fun message => message.id == row.messageId).map
    (roomEvent row)

/-- `drainMessageOutbox`, called one time after the other. -/
def drainRepeatedly
    (engine : Engine) (deps : DrainMessageOutboxDependencies) :
    Nat → WriterState → Bool × WriterState
  | 0, state => (true, state)
  | rounds + 1, state =>
      let (drained, after) := drainMessageOutbox engine deps state
      let (others, last) := drainRepeatedly engine deps rounds after
      (drained && others, last)

instance enqueuedBefore_total (engine : Engine) :
    Std.Total (enqueuedBefore engine) where
  total left right := by
    rcases lt_trichotomy left.createdAt right.createdAt with
      earlier | same | later
    · exact Or.inl (Or.inl earlier)
    · rcases engine.collates_total left.id right.id with first | second
      · exact Or.inl (Or.inr ⟨same, first⟩)
      · exact Or.inr (Or.inr ⟨same.symm, second⟩)
    · exact Or.inr (Or.inl later)

instance enqueuedBefore_trans (engine : Engine) :
    IsTrans MessageOutbox (enqueuedBefore engine) where
  trans first second third := by
    rintro (early | ⟨same, before⟩) (late | ⟨alike, after⟩)
    · exact Or.inl (lt_trans early late)
    · exact Or.inl (alike ▸ early)
    · exact Or.inl (same ▸ late)
    · exact
        Or.inr
          ⟨same.trans alike,
            engine.collates_trans _ _ _ before after⟩

/-! ## Completing the rows of a claim -/

/-- Every reading of the clock is at the time or after it. -/
def From (time : Timestamp) (clock : Stream' Timestamp) : Prop :=
  ∀ reading, time ≤ clock.get reading

theorem From.tail
    {time : Timestamp} {clock : Stream' Timestamp}
    (late : From time clock) : From time clock.tail :=
  fun reading => late (reading + 1)

/-- The success transactions of the rows, at every second reading. -/
def completeRows :
    Stream' Timestamp → List ClaimedOutboxRow → Database → Database
  | _, [], db => db
  | clock, row :: rest, db =>
      completeRows clock.tail.tail rest
        (completeOutboxRow clock.tail.head db row)

/-- Without failures the next call succeeds, and the drain goes on. -/
theorem finishDrain_step
    (engine : Engine) {drain : Drain} {state : WriterState}
    (unfinished : drain.isFinished = false) (calm : Calm state.outages) :
    finishDrain engine drain state =
      let outcome :=
        drainStep engine state.clock.head true state.database drain
      finishDrain engine outcome.drain
        { state with
          database := outcome.database
          clock := state.clock.tail
          outages := state.outages.tail
          published := state.published ++ outcome.published } := by
  have succeeds : state.outages.head = false := calm 0
  rw [finishDrain, dif_pos unfinished, succeeds]
  rfl

/-- Without failures the loop publishes and completes row after row. -/
theorem finishDrain_rows
    (engine : Engine) {messages : List Message}
    {rows : List ClaimedOutboxRow}
    (loaded :
      ∀ row ∈ rows, ∃ message ∈ messages, message.id = row.messageId)
    (published : Nat) (state : WriterState)
    (calm : Calm state.outages) :
    ∃ after,
      finishDrain engine (nextRow messages published rows) state =
          (true, after) ∧
        after.database = completeRows state.clock rows state.database ∧
        Calm after.outages ∧
        (∀ time, From time state.clock → From time after.clock) ∧
        after.published =
          state.published ++ rows.filterMap (waitingEvent messages) := by
  induction rows generalizing published state with
  | nil =>
      refine ⟨state, ?_, rfl, calm, fun _ late => late, by simp⟩
      rw [finishDrain]
      rfl
  | cons row rest induction =>
      have isLoaded :
          (messages.find? fun message =>
            message.id == row.messageId).isSome := by
        rcases loaded row (by simp) with ⟨message, member, sameId⟩
        exact List.find?_isSome.mpr ⟨message, member, by simp [sameId]⟩
      rcases Option.isSome_iff_exists.mp isLoaded with ⟨message, found⟩
      rcases induction
          (fun other member =>
            loaded other (List.mem_cons_of_mem _ member))
          (published + 1)
          { state with
            database :=
              completeOutboxRow state.clock.tail.head state.database row
            clock := state.clock.tail.tail
            outages := state.outages.tail.tail
            published := state.published ++ [roomEvent row message] }
          calm.tail.tail with
        ⟨after, finished, database, stillCalm, still, events⟩
      refine
        ⟨after, ?_, database, stillCalm,
          fun time late => still time late.tail.tail, ?_⟩
      · rw [← finished]
        have start :
            nextRow messages published (row :: rest) =
              .publishing messages row message rest published := by
          simp [nextRow, found]
        rw [start, finishDrain_step engine rfl calm]
        dsimp only [drainStep, if_true]
        rw [finishDrain_step engine rfl calm.tail]
        simp [drainStep]
      · simp [events, waitingEvent, found]

theorem completeRows_sound
    (clock : Stream' Timestamp) (rows : List ClaimedOutboxRow)
    {db : Database} (sound : Sound db) :
    Sound (completeRows clock rows db) := by
  induction rows generalizing clock db with
  | nil => exact sound
  | cons row rest induction =>
      exact induction _ (completeOutboxRow_sound sound row)

/-- The rows are PUBLISHED, and everything else stays what it was. -/
theorem completeRows_spec
    (clock : Stream' Timestamp) (rows : List ClaimedOutboxRow)
    (db : Database) :
    (completeRows clock rows db).messages = db.messages ∧
      (completeRows clock rows db).messageWrites =
        rows.foldl
          (fun writes row => writes.map (fanoutedVersion row.messageId))
          db.messageWrites ∧
      ∃ version : MessageOutbox → MessageOutbox,
        (completeRows clock rows db).messageOutbox =
            db.messageOutbox.map version ∧
          ∀ row,
            (version row).id = row.id ∧ (version row).event = row.event ∧
              ((∃ claimed ∈ rows, claimed.id = row.id) →
                (version row).status = .published) ∧
              ((∀ claimed ∈ rows, claimed.id ≠ row.id) →
                version row = row) := by
  induction rows generalizing clock db with
  | nil =>
      refine ⟨rfl, rfl, id, by simp [completeRows], fun row => ?_⟩
      simp
  | cons first rest induction =>
      rcases induction clock.tail.tail
          (completeOutboxRow clock.tail.head db first) with
        ⟨messages, writes, version, outbox, spec⟩
      refine
        ⟨messages, writes,
          version ∘ publishedVersion clock.tail.head first.id, ?_, ?_⟩
      · rw [← List.map_map]
        exact outbox
      · intro row
        rcases spec (publishedVersion clock.tail.head first.id row) with
          ⟨sameId, sameEvent, isPublished, untouched⟩
        rw [publishedVersion_id] at sameId isPublished untouched
        rw [publishedVersion_event] at sameEvent
        refine ⟨sameId, sameEvent, ?_, ?_⟩
        · rintro ⟨claimed, member, isRow⟩
          by_cases later : ∃ other ∈ rest, other.id = row.id
          · exact isPublished later
          · have settled :
                version (publishedVersion clock.tail.head first.id row) =
                  publishedVersion clock.tail.head first.id row :=
              untouched (by simpa using later)
            rcases List.mem_cons.mp member with rfl | inRest
            · rw [Function.comp_apply, settled]
              simp [publishedVersion, isRow]
            · exact absurd ⟨claimed, inRest, isRow⟩ later
        · intro others
          have notFirst : row.id ≠ first.id :=
            (others first (by simp)).symm
          have settled :=
            untouched fun claimed member =>
              others claimed (List.mem_cons_of_mem _ member)
          simpa [publishedVersion, notFirst] using settled

/-! ## One drain -/

/-- From some time on every waiting row satisfies the claim condition. -/
def DueFrom
    (time : Timestamp) (staleLockMs : Int) (db : Database) : Prop :=
  ∀ row ∈ db.messageOutbox, isWaiting row = true →
    ∀ now, time ≤ now → isClaimable now staleLockMs row = true

/-- A drain that took the first rows of the queue. -/
structure Drained
    (engine : Engine) (limit : Nat) (before after : WriterState) :
    Prop where
  calm : Calm after.outages
  clock : ∀ time, From time before.clock → From time after.clock
  published :
    ∃ events,
      after.published = before.published ++ events ∧
        events.Perm
          (((waitingQueue engine before.database).take limit).filterMap
            fun row =>
              waitingEvent before.database.messages (returnedRow row))
  queue :
    waitingQueue engine after.database =
      (waitingQueue engine before.database).drop limit
  messages : after.database.messages = before.database.messages
  fanouted :
    ∀ write ∈ after.database.messageWrites, write.status = .persisted →
      write ∈ before.database.messageWrites ∧
        ∀ row ∈ (waitingQueue engine before.database).take limit,
          row.messageId ≠ write.id

section Drains

variable {engine : Engine} {deps : DrainMessageOutboxDependencies}
  {db : Database} {now time : Timestamp}

/-- The claim takes the first rows of the queue when all of them are due. -/
theorem claimable_eq_take
    (due : DueFrom time deps.claimStaleLockMs db) (late : time ≤ now) :
    claimable engine now deps db =
      (waitingQueue engine db).take deps.claimLimit := by
  have same :
      db.messageOutbox.filter (isClaimable now deps.claimStaleLockMs) =
        db.messageOutbox.filter isWaiting := by
    apply List.filter_congr
    intro row member
    rw [Bool.eq_iff_iff]
    constructor
    · intro isOpen
      simpa [isWaiting] using isClaimable_status isOpen
    · intro waiting
      exact due row member waiting now late
  rw [claimable, same]
  rfl

/-- A filter that drops the first rows of a list keeps the others. -/
theorem filter_notMem_take
    {rows : List MessageOutbox} (distinct : rows.Nodup) (limit : Nat) :
    rows.filter (fun row => decide (row ∉ rows.take limit)) =
      rows.drop limit := by
  have parts : rows.take limit ++ rows.drop limit = rows :=
    List.take_append_drop limit rows
  have apart := List.disjoint_take_drop distinct (Nat.le_refl limit)
  generalize rows.take limit = first at parts apart ⊢
  generalize rows.drop limit = others at parts apart ⊢
  rw [← parts, List.filter_append]
  have none : first.filter (fun row => decide (row ∉ first)) = [] := by
    simp
  have all : others.filter (fun row => decide (row ∉ first)) = others := by
    rw [List.filter_eq_self]
    intro row member
    simpa using fun inFirst => apart inFirst member
  rw [none, all, List.nil_append]

/-- Rows that become PUBLISHED leave the queue. -/
theorem waitingQueue_mapped
    (engine : Engine) {after : Database} {taken : List MessageOutbox}
    {version : MessageOutbox → MessageOutbox}
    (mapped : after.messageOutbox = db.messageOutbox.map version)
    (settled :
      ∀ row ∈ db.messageOutbox,
        (row ∈ taken → (version row).status = .published) ∧
          (row ∉ taken → version row = row)) :
    waitingQueue engine after =
      (waitingQueue engine db).filter
        fun row => decide (row ∉ taken) := by
  have left :
      after.messageOutbox.filter isWaiting =
        (db.messageOutbox.filter isWaiting).filter
          fun row => decide (row ∉ taken) := by
    rw [mapped]
    generalize db.messageOutbox = rows at settled
    induction rows with
    | nil => rfl
    | cons row rest induction =>
        have others :=
          induction fun other member =>
            settled other (List.mem_cons_of_mem _ member)
        rcases settled row (by simp) with ⟨published, same⟩
        by_cases isTaken : row ∈ taken
        · have leaves : isWaiting (version row) = false := by
            simp [isWaiting, published isTaken]
          rw [List.map_cons, List.filter_cons_of_neg (by simp [leaves]),
            others]
          cases waits : isWaiting row <;>
            simp [waits, isTaken]
        · rw [List.map_cons, same isTaken]
          cases waits : isWaiting row <;>
            simp [waits, isTaken, others]
  rw [waitingQueue, left, ← filter_insertionSort]
  rfl

/-- A write that is still PERSISTED was so before, and is of no row. -/
theorem persisted_after
    (rows : List ClaimedOutboxRow) {writes : List MessageWrite}
    {write : MessageWrite}
    (member :
      write ∈
        rows.foldl
          (fun writes row => writes.map (fanoutedVersion row.messageId))
          writes)
    (persisted : write.status = .persisted) :
    write ∈ writes ∧ ∀ row ∈ rows, row.messageId ≠ write.id := by
  induction rows generalizing writes with
  | nil => exact ⟨member, by simp⟩
  | cons row rest induction =>
      rcases induction member with ⟨inMapped, others⟩
      rcases List.mem_map.mp inMapped with ⟨old, inWrites, version⟩
      rcases fanoutedVersion_cases row.messageId old with
        same | ⟨_, _, fanouted⟩
      · rw [same] at version
        subst version
        refine ⟨inWrites, ?_⟩
        intro other otherMember
        rcases List.mem_cons.mp otherMember with rfl | inRest
        · intro isWrite
          have moved :=
            congrArg MessageWrite.status same
          simp [fanoutedVersion, isWrite, persisted] at moved
        · exact others other inRest
      · rw [version, persisted] at fanouted
        cases fanouted

/-- The messages of the claimed rows are found among those loaded. -/
theorem waitingEvent_loaded
    {claimed : List ClaimedOutboxRow} {row : ClaimedOutboxRow}
    (member : row ∈ claimed) :
    waitingEvent (loadMessages db claimed) row =
      waitingEvent db.messages row := by
  have same :
      (loadMessages db claimed).find?
          (fun message => message.id == row.messageId) =
        db.messages.find? fun message => message.id == row.messageId := by
    rw [loadMessages, List.find?_filter]
    congr 1
    funext message
    by_cases isRow : message.id = row.messageId
    · have present :
          row.messageId ∈ claimed.map ClaimedOutboxRow.messageId :=
        List.mem_map_of_mem member
      simpa [isRow] using present
    · simp [isRow]
  rw [waitingEvent, same]
  rfl

end Drains

/-- A claim that succeeds: nothing is loaded for an empty one. -/
theorem startDrain_succeeds
    (engine : Engine) (now : Timestamp)
    {deps : DrainMessageOutboxDependencies}
    (hasPublisher : deps.publisher = true) (db : Database) :
    startDrain engine now deps true db =
      (if (claimOutbox engine now deps db).2 = [] then .returned 0
        else .loading (claimOutbox engine now deps db).2,
        (claimOutbox engine now deps db).1) := by
  unfold startDrain
  rw [if_neg (by simp [hasPublisher]), if_neg (by simp)]
  dsimp only
  split <;> rfl

/-- Without failures a drain claims, loads and then takes row after row. -/
theorem drain_starts
    (engine : Engine) {deps : DrainMessageOutboxDependencies}
    (hasPublisher : deps.publisher = true) {state : WriterState}
    (calm : Calm state.outages) :
    let claim := claimOutbox engine state.clock.head deps state.database
    ∃ running : WriterState,
      drainMessageOutbox engine deps state =
          finishDrain engine
            (nextRow (loadMessages claim.1 claim.2) 0 claim.2) running ∧
        running.database = claim.1 ∧
        running.published = state.published ∧
        Calm running.outages ∧
        ∀ time, From time state.clock → From time running.clock := by
  intro claim
  let begun : WriterState :=
    { state with
      database := claim.1
      clock := state.clock.tail
      outages := state.outages.tail }
  have succeeds : state.outages.head = false := calm 0
  have start :
      drainMessageOutbox engine deps state =
        finishDrain engine
          (if claim.2 = [] then .returned 0 else .loading claim.2)
          begun := by
    unfold drainMessageOutbox
    rw [if_neg (by simp [hasPublisher]), succeeds, Bool.not_false,
      startDrain_succeeds engine _ hasPublisher]
  by_cases nothing : claim.2 = []
  · refine ⟨begun, ?_, rfl, rfl, calm.tail, fun _ late => late.tail⟩
    rw [start, if_pos nothing, nothing]
    rfl
  · refine
      ⟨{ begun with
          clock := begun.clock.tail
          outages := begun.outages.tail },
        ?_, rfl, rfl, calm.tail.tail, fun _ late => late.tail.tail⟩
    rw [start, if_neg nothing, finishDrain_step engine rfl calm.tail]
    simp [drainStep, begun]

/-- The messages of a claim are loaded. -/
theorem claim_loaded
    {engine : Engine} {now : Timestamp}
    {deps : DrainMessageOutboxDependencies} {db : Database}
    (sound : Sound db) :
    let claim := claimOutbox engine now deps db
    ∀ row ∈ claim.2, ∃ message ∈ loadMessages claim.1 claim.2,
      message.id = row.messageId := by
  intro claim row member
  rcases mem_claimOutbox.mp member with ⟨stored, taken, isRow⟩
  rcases sound.valid.outboxMessage stored (mem_claimable taken).1 with
    ⟨message, isMessage, sameId⟩
  have sameMessage : message.id = row.messageId := by
    rw [← isRow]
    exact sameId
  refine ⟨message, List.mem_filter.mpr ⟨isMessage, ?_⟩, sameMessage⟩
  rw [List.contains_iff_mem, sameMessage]
  exact List.mem_map_of_mem member

/-- The rows of a claim are PUBLISHED in the end, the others untouched. -/
theorem claim_completed
    (engine : Engine) (now : Timestamp) (clock : Stream' Timestamp)
    (deps : DrainMessageOutboxDependencies) {db : Database}
    (sound : Sound db) :
    let claim := claimOutbox engine now deps db
    let after := completeRows clock claim.2 claim.1
    ∃ version : MessageOutbox → MessageOutbox,
      after.messageOutbox = db.messageOutbox.map version ∧
        ∀ row ∈ db.messageOutbox,
          (row ∈ claimable engine now deps db →
              (version row).status = .published) ∧
            (row ∉ claimable engine now deps db → version row = row) := by
  intro claim after
  rcases completeRows_spec clock claim.2 claim.1 with
    ⟨_, _, version, outbox, spec⟩
  let taken := claimable engine now deps db
  refine ⟨version ∘ claimRow now taken, ?_, ?_⟩
  · rw [← List.map_map]
    exact outbox
  intro row member
  rcases spec (claimRow now taken row) with
    ⟨_, _, isPublished, untouched⟩
  rw [claimRow_id] at isPublished untouched
  constructor
  · intro inTaken
    exact
      isPublished
        ⟨returnedRow row, mem_claimOutbox.mpr ⟨row, inTaken, rfl⟩, rfl⟩
  · intro notTaken
    rcases claimRow_eq engine now sound.valid deps member with
      ⟨inTaken, _⟩ | ⟨_, same⟩
    · exact absurd inTaken notTaken
    · have others : ∀ other ∈ claim.2, other.id ≠ row.id := by
        intro other inClaimed sameId
        rcases mem_claimOutbox.mp inClaimed with ⟨stored, inTaken, rfl⟩
        have isRow : stored = row :=
          eq_of_unique_key sound.valid.outboxIds
            (mem_claimable inTaken).1 member sameId
        exact notTaken (isRow ▸ inTaken)
      exact (untouched others).trans same

theorem waitingQueue_nodup
    (engine : Engine) {db : Database} (sound : Sound db) :
    (waitingQueue engine db).Nodup := by
  have rows : db.messageOutbox.Nodup :=
    List.Nodup.of_map _ sound.valid.outboxIds
  exact
    (List.perm_insertionSort (enqueuedBefore engine) _).nodup_iff.mpr
      (rows.filter isWaiting)

/-- Rows that stay in the queue are due as before. -/
theorem DueFrom.kept
    {time : Timestamp} {staleLockMs : Int} {db after : Database}
    {taken : List MessageOutbox}
    {version : MessageOutbox → MessageOutbox}
    (due : DueFrom time staleLockMs db)
    (mapped : after.messageOutbox = db.messageOutbox.map version)
    (settled :
      ∀ row ∈ db.messageOutbox,
        (row ∈ taken → (version row).status = .published) ∧
          (row ∉ taken → version row = row)) :
    DueFrom time staleLockMs after := by
  intro row member waiting now late
  rw [mapped] at member
  rcases List.mem_map.mp member with ⟨old, inTable, rfl⟩
  by_cases isTaken : old ∈ taken
  · simp [isWaiting, (settled old inTable).1 isTaken] at waiting
  · rw [(settled old inTable).2 isTaken] at waiting ⊢
    exact due old inTable waiting now late

/-- Without failures a drain takes the first rows of the queue. -/
theorem drain_calm
    {engine : Engine} {deps : DrainMessageOutboxDependencies}
    (hasPublisher : deps.publisher = true) {time : Timestamp}
    {state : WriterState} (sound : Sound state.database)
    (due : DueFrom time deps.claimStaleLockMs state.database)
    (late : From time state.clock) (calm : Calm state.outages) :
    ∃ after,
      drainMessageOutbox engine deps state = (true, after) ∧
        Drained engine deps.claimLimit state after ∧
        Sound after.database ∧
        DueFrom time deps.claimStaleLockMs after.database := by
  rcases drain_starts engine hasPublisher calm with
    ⟨running, drains, database, events, runningCalm, runningLate⟩
  rcases finishDrain_rows engine (claim_loaded sound) 0 running
      runningCalm with
    ⟨after, finished, completed, afterCalm, afterLate, published⟩
  rw [database] at completed
  have taken :
      claimable engine state.clock.head deps state.database =
        (waitingQueue engine state.database).take deps.claimLimit :=
    claimable_eq_take due (late 0)
  rcases claim_completed engine state.clock.head running.clock deps
      sound with
    ⟨version, mapped, settled⟩
  rcases completeRows_spec running.clock
      (claimOutbox engine state.clock.head deps state.database).2
      (claimOutbox engine state.clock.head deps state.database).1 with
    ⟨messages, writes, _⟩
  rw [← completed] at mapped messages writes
  have stillDue := due.kept mapped settled
  have queue := waitingQueue_mapped engine mapped settled
  rw [taken, filter_notMem_take (waitingQueue_nodup engine sound)] at queue
  have claimed :
      (claimOutbox engine state.clock.head deps state.database).2.Perm
        (((waitingQueue engine state.database).take
            deps.claimLimit).map returnedRow) := by
    rw [← taken]
    exact claimOutbox_perm engine state.clock.head deps state.database
  refine ⟨after, drains.trans finished, ?_, ?_, stillDue⟩
  · constructor
    · exact afterCalm
    · exact fun time late => afterLate time (runningLate time late)
    · have sameEvents :
          (claimOutbox engine state.clock.head deps
                state.database).2.filterMap
              (waitingEvent
                (loadMessages
                  (claimOutbox engine state.clock.head deps
                    state.database).1
                  (claimOutbox engine state.clock.head deps
                    state.database).2)) =
            (claimOutbox engine state.clock.head deps
                state.database).2.filterMap
              (waitingEvent state.database.messages) :=
        List.filterMap_congr fun row member => waitingEvent_loaded member
      refine ⟨_, by rw [published, events, sameEvents], ?_⟩
      have inQueue :=
        claimed.filterMap (waitingEvent state.database.messages)
      rw [List.filterMap_map] at inQueue
      exact inQueue
    · exact queue
    · exact messages
    · intro write member persisted
      rw [writes] at member
      rcases persisted_after _ member persisted with ⟨before, others⟩
      refine ⟨before, fun row inTaken => ?_⟩
      exact
        others (returnedRow row)
          (claimed.mem_iff.mpr (List.mem_map_of_mem inTaken))
  · rw [completed]
    exact completeRows_sound _ _ (claimOutbox_sound sound deps)

/-! ## Many drains -/

/-- Enough drains publish the whole queue, each message once. -/
theorem drainRepeatedly_calm
    {engine : Engine} {deps : DrainMessageOutboxDependencies}
    (hasPublisher : deps.publisher = true) {time : Timestamp}
    {rounds : Nat} {state : WriterState} (sound : Sound state.database)
    (due : DueFrom time deps.claimStaleLockMs state.database)
    (late : From time state.clock) (calm : Calm state.outages)
    (enough :
      (waitingQueue engine state.database).length ≤
        rounds * deps.claimLimit) :
    ∃ after,
      drainRepeatedly engine deps rounds state = (true, after) ∧
        waitingQueue engine after.database = [] ∧
        (∃ events,
          after.published = state.published ++ events ∧
            events.Perm
              ((waitingQueue engine state.database).filterMap
                fun row =>
                  waitingEvent state.database.messages
                    (returnedRow row))) ∧
        ∀ write ∈ after.database.messageWrites,
          write.status = .persisted →
            write ∈ state.database.messageWrites ∧
              ∀ row ∈ waitingQueue engine state.database,
                row.messageId ≠ write.id := by
  induction rounds generalizing state with
  | zero =>
      have empty : waitingQueue engine state.database = [] := by
        simpa using enough
      exact
        ⟨state, rfl, empty, ⟨[], by simp [empty]⟩, fun _ member _ =>
          ⟨member, by simp [empty]⟩⟩
  | succ rounds induction =>
      rcases drain_calm hasPublisher sound due late calm with
        ⟨middle, drained, effect, middleSound, middleDue⟩
      have fewer :
          (waitingQueue engine middle.database).length ≤
            rounds * deps.claimLimit := by
        rw [effect.queue, List.length_drop]
        rw [Nat.succ_mul] at enough
        omega
      rcases induction middleSound middleDue (effect.clock time late)
          effect.calm fewer with
        ⟨after, others, empty, ⟨lastEvents, published, lastRows⟩,
          fanouted⟩
      rcases effect.published with ⟨firstEvents, begun, firstRows⟩
      refine ⟨after, ?_, empty, ?_, ?_⟩
      · simp [drainRepeatedly, drained, others]
      · rw [effect.queue, effect.messages] at lastRows
        have allRows := firstRows.append lastRows
        rw [← List.filterMap_append, List.take_append_drop] at allRows
        exact
          ⟨firstEvents ++ lastEvents,
            by rw [published, begun, List.append_assoc], allRows⟩
      · intro write member persisted
        rcases fanouted write member persisted with ⟨inMiddle, last⟩
        rcases effect.fanouted write inMiddle persisted with
          ⟨inTable, first⟩
        rw [effect.queue] at last
        refine ⟨inTable, fun row inQueue => ?_⟩
        rw [← List.take_append_drop deps.claimLimit
          (waitingQueue engine state.database)] at inQueue
        rcases List.mem_append.mp inQueue with early | late
        · exact first row early
        · exact last row late

end ChatBackend.Writer.CalmDrains
