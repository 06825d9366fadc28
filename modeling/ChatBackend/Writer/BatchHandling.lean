import ChatBackend.Writer.BatchInvariants
import ChatBackend.Writer.DeadLetters
import ChatBackend.Writer.OutboxDrain

/-!
# Handling a batch of queued messages

`handleMessageBatch` writes a whole batch, drains the outbox and acknowledges
every entry.  When anything fails it splits the batch in two and handles the
halves, and a single entry that fails is handled by
`handleSingleMessageWrite`, which records a dead letter on the last delivery
attempt.

The state holds the committed database and what the handler has told the
queue.  Two streams supply what the handler does not control: the times that
its statements read, and which of its calls to the database and to Redis
fail.
-/

namespace ChatBackend.Writer.BatchHandling

open ChatBackend.Foundation.Transactions
open ChatBackend.Storage.Schema
open ChatBackend.Writer.WriteCommands
open ChatBackend.Writer.BatchTransaction
open ChatBackend.Writer.DeadLetters
open ChatBackend.Writer.OutboxDrain

/-! ## The state of the writer -/

/-- A decoded message of the queue; `msg` is its place in the stream. -/
structure QueuedMessageWrite where
  msg : Nat
  command : MessageWriteCommand
  deliveryAttempt : Int
deriving DecidableEq, Repr

structure WriterSettings where
  publisher : Bool := false
  maxDeliveryAttempts : Int := 5
  disableFanout : Bool := false
deriving DecidableEq, Repr

/-- A call of `msg.ack()`, with the database at that time. -/
structure Acknowledgement where
  entry : QueuedMessageWrite
  database : Database
deriving DecidableEq, Repr

structure WriterState where
  database : Database
  clock : Stream' Timestamp
  outages : Stream' Bool
  acks : List Acknowledgement := []
  naks : List QueuedMessageWrite := []
  published : List RoomEvent := []

/-- The state of the writer when it takes a batch. -/
def WriterState.begin
    (db : Database) (clock : Stream' Timestamp)
    (outages : Stream' Bool) : WriterState :=
  { database := db, clock := clock, outages := outages }

def WriterState.ack
    (state : WriterState) (entry : QueuedMessageWrite) : WriterState :=
  { state with
    acks :=
      state.acks ++ [{ entry := entry, database := state.database }] }

def WriterState.nak
    (state : WriterState) (entry : QueuedMessageWrite) : WriterState :=
  { state with naks := state.naks ++ [entry] }

/-! ## Processing commands -/

/--
`processMessageWriteCommands` under outages.  The update of `lastMessageAt`
counts as a call also when the batch stored nothing and the code skips it; an
outage of it is then one of the commit that follows.
-/
def attemptMessageWriteCommands
    (engine : Engine) (commands : List MessageWriteCommand)
    (originConnectionId : Option ConnectionId) (state : WriterState) :
    Except Failure (List MessageDto) × WriterState :=
  if commands = [] then (.ok [], state)
  else
    match dedupeMessageWriteCommands commands with
    | .error failure => (.error failure, state)
    | .ok deduped =>
        match runStatementsUnder Database.apply .unavailable
            (batchStatements engine state.clock.head deduped
              originConnectionId)
            state.outages state.database {} with
        | (.error failure, outages) =>
            (.error failure,
              { state with
                clock := state.clock.tail
                outages := outages })
        | (.ok (committed, locals), outages) =>
            (.ok
                (locals.persistedMessages.map fun row =>
                  toMessageDto row.message),
              { state with
                database := committed
                clock := state.clock.tail
                outages := outages })

/-- The last delivery attempt of an entry has been reached. -/
def isFinalAttempt
    (settings : WriterSettings) (entry : QueuedMessageWrite) : Bool :=
  decide
    (max 1 entry.deliveryAttempt ≥ max 1 settings.maxDeliveryAttempts)

/-- `processMessageWriteCommand` with the options of its one caller. -/
def processMessageWriteCommand
    (engine : Engine) (settings : WriterSettings)
    (entry : QueuedMessageWrite) (state : WriterState) :
    Except Failure (Option MessageDto) × WriterState :=
  match attemptMessageWriteCommands engine [entry.command]
      entry.command.originConnectionId state with
  | (.ok messages, after) => (.ok messages.head?, after)
  | (.error err, after) =>
      if isFinalAttempt settings entry then
        let (marked, outages) :=
          markMessageWriteCommandDead engine after.clock.head
            after.outages after.database entry.command err
        (.ok none,
          { after with
            database := marked
            clock := after.clock.tail
            outages := outages })
      else (.error err, after)

/-! ## Draining the outbox -/

/-- Make the calls of a drain to its end; the result is its success. -/
def finishDrain
    (engine : Engine) (drain : Drain) (state : WriterState) :
    Bool × WriterState :=
  if _ : drain.isFinished = false then
    let outcome :=
      drainStep engine state.clock.head (!state.outages.head)
        state.database drain
    finishDrain engine outcome.drain
      { state with
        database := outcome.database
        clock := state.clock.tail
        outages := state.outages.tail
        published := state.published ++ outcome.published }
  else (drain != .rejected, state)
termination_by drain.remainingCalls
decreasing_by
  exact drainStep_remainingCalls engine _ _ _ ‹_›

def drainMessageOutbox
    (engine : Engine) (deps : DrainMessageOutboxDependencies)
    (state : WriterState) : Bool × WriterState :=
  if !deps.publisher then (true, state)
  else
    let (drain, claimed) :=
      startDrain engine state.clock.head deps (!state.outages.head)
        state.database
    finishDrain engine drain
      { state with
        database := claimed
        clock := state.clock.tail
        outages := state.outages.tail }

/-- The drain after a write, unless fanout is disabled. -/
def fanout
    (engine : Engine) (settings : WriterSettings) (limit : Int)
    (state : WriterState) : Bool × WriterState :=
  if settings.disableFanout then (true, state)
  else
    drainMessageOutbox engine
      { publisher := settings.publisher, limit := some limit } state

/-! ## Handling entries -/

def handleSingleMessageWrite
    (engine : Engine) (settings : WriterSettings)
    (entry : QueuedMessageWrite) (state : WriterState) : WriterState :=
  match processMessageWriteCommand engine settings entry state with
  | (.error _, after) => after.nak entry
  | (.ok _, after) =>
      match fanout engine settings 100 after with
      | (true, drained) => drained.ack entry
      | (false, drained) => drained.nak entry

/-- The body of the `try` block of `handleMessageBatch`, before the acks. -/
def tryMessageBatch
    (engine : Engine) (settings : WriterSettings)
    (batch : List QueuedMessageWrite) (state : WriterState) :
    Bool × WriterState :=
  match attemptMessageWriteCommands engine
      (batch.map QueuedMessageWrite.command) none state with
  | (.error _, after) => (false, after)
  | (.ok _, after) =>
      fanout engine settings (max batch.length 100) after

def handleMessageBatch
    (engine : Engine) (settings : WriterSettings)
    (batch : List QueuedMessageWrite) (state : WriterState) :
    WriterState :=
  match tryMessageBatch engine settings batch state with
  | (true, after) => batch.foldl WriterState.ack after
  | (false, after) =>
      if 1 < batch.length then
        -- `Math.ceil(batch.length / 2)`
        let midpoint := (batch.length + 1) / 2
        handleMessageBatch engine settings (batch.drop midpoint)
          (handleMessageBatch engine settings (batch.take midpoint)
            after)
      else
        match batch with
        | [] => after
        | entry :: _ =>
            handleSingleMessageWrite engine settings entry after
termination_by batch.length
decreasing_by
  · rw [List.length_take]
    omega
  · rw [List.length_drop]
    omega

/-- Induction over a batch and the halves into which it is split. -/
@[elab_as_elim]
theorem split_induction
    {motive : List QueuedMessageWrite → Prop}
    (halves :
      ∀ batch,
        (1 < batch.length →
          motive (batch.take ((batch.length + 1) / 2))) →
        (1 < batch.length →
          motive (batch.drop ((batch.length + 1) / 2))) →
        motive batch)
    (batch : List QueuedMessageWrite) : motive batch := by
  induction length : batch.length using Nat.strong_induction_on
      generalizing batch with
  | _ size induction =>
      apply halves
      · intro several
        refine induction _ ?_ _ rfl
        rw [List.length_take]
        omega
      · intro several
        refine induction _ ?_ _ rfl
        rw [List.length_drop]
        omega

/-- What happens to a batch: all acks, two halves, nothing, or one entry. -/
theorem handleMessageBatch_cases
    (engine : Engine) (settings : WriterSettings)
    (batch : List QueuedMessageWrite) (state : WriterState) :
    (∃ after,
        tryMessageBatch engine settings batch state = (true, after) ∧
          handleMessageBatch engine settings batch state =
            batch.foldl WriterState.ack after) ∨
      ∃ after,
        tryMessageBatch engine settings batch state = (false, after) ∧
          ((1 < batch.length ∧
              handleMessageBatch engine settings batch state =
                handleMessageBatch engine settings
                  (batch.drop ((batch.length + 1) / 2))
                  (handleMessageBatch engine settings
                    (batch.take ((batch.length + 1) / 2)) after)) ∨
            (batch = [] ∧
              handleMessageBatch engine settings batch state = after) ∨
            ∃ entry,
              batch = [entry] ∧
                handleMessageBatch engine settings batch state =
                  handleSingleMessageWrite engine settings entry
                    after) := by
  rw [handleMessageBatch]
  split
  · rename_i after tried
    exact Or.inl ⟨after, tried, rfl⟩
  · rename_i after tried
    refine Or.inr ⟨after, tried, ?_⟩
    split
    · rename_i several
      exact Or.inl ⟨several, rfl⟩
    · rename_i alone
      right
      match batch, alone with
      | [], _ => exact Or.inl ⟨rfl, rfl⟩
      | [entry], _ => exact Or.inr ⟨entry, rfl, rfl⟩
      | first :: second :: rest, alone =>
          exact absurd (by simp) alone

/-! ## What an attempt does -/

section Attempt

variable {engine : Engine} {commands : List MessageWriteCommand}
  {origin : Option ConnectionId} {state after : WriterState}

/-- A successful attempt commits what the transaction commits. -/
theorem attempt_ok
    {messages : List MessageDto}
    (succeeded :
      attemptMessageWriteCommands engine commands origin state =
        (.ok messages, after)) :
    processMessageWriteCommands engine state.clock.head state.database
          commands origin =
        .ok (after.database, messages) ∧
      after.acks = state.acks ∧ after.naks = state.naks := by
  unfold attemptMessageWriteCommands at succeeded
  unfold processMessageWriteCommands
  split at succeeded
  · rename_i empty
    simp only [Prod.mk.injEq, Except.ok.injEq] at succeeded
    rcases succeeded with ⟨rfl, rfl⟩
    simp [empty]
  · rename_i nonempty
    rw [if_neg nonempty]
    cases noConflict : dedupeMessageWriteCommands commands with
    | error failure =>
        rw [noConflict] at succeeded
        simp at succeeded
    | ok deduped =>
        rw [noConflict] at succeeded
        dsimp only at succeeded ⊢
        split at succeeded
        · simp at succeeded
        · rename_i committed locals outages ran
          simp only [Prod.mk.injEq, Except.ok.injEq] at succeeded
          rcases succeeded with ⟨rfl, rfl⟩
          have transaction :=
            runStatementsUnder_ok (congrArg Prod.fst ran)
          rw [transaction]
          exact ⟨rfl, rfl, rfl⟩

/-- A failed attempt commits nothing. -/
theorem attempt_error
    {failure : Failure}
    (failed :
      attemptMessageWriteCommands engine commands origin state =
        (.error failure, after)) :
    after.database = state.database ∧ after.acks = state.acks ∧
      after.naks = state.naks := by
  unfold attemptMessageWriteCommands at failed
  split at failed
  · simp at failed
  · split at failed
    · simp only [Prod.mk.injEq] at failed
      rcases failed with ⟨_, rfl⟩
      exact ⟨rfl, rfl, rfl⟩
    · split at failed
      · simp only [Prod.mk.injEq] at failed
        rcases failed with ⟨_, rfl⟩
        exact ⟨rfl, rfl, rfl⟩
      · simp at failed

/-- An entry whose transaction commits is processed with its message. -/
theorem process_committed
    (settings : WriterSettings) {entry : QueuedMessageWrite}
    {messages : List MessageDto}
    (committed :
      attemptMessageWriteCommands engine [entry.command]
          entry.command.originConnectionId state =
        (.ok messages, after)) :
    processMessageWriteCommand engine settings entry state =
      (.ok messages.head?, after) := by
  rw [processMessageWriteCommand, committed]

/--
An entry whose transaction fails is processed with an error; on its last
attempt it is processed without one, and its dead letter may be written.
-/
theorem process_failed
    (settings : WriterSettings) {entry : QueuedMessageWrite}
    {failure : Failure}
    (failed :
      attemptMessageWriteCommands engine [entry.command]
          entry.command.originConnectionId state =
        (.error failure, after)) :
    (isFinalAttempt settings entry = false ∧
        processMessageWriteCommand engine settings entry state =
          (.error failure, after)) ∨
      (isFinalAttempt settings entry = true ∧
        ∃ marked outages,
          processMessageWriteCommand engine settings entry state =
              (.ok none,
                { after with
                  database := marked
                  clock := after.clock.tail
                  outages := outages }) ∧
            (marked = after.database ∨
              marked =
                writeDeadLetter engine after.clock.head after.database
                  entry.command failure
                  (findMessageWrite after.database entry.command))) := by
  rw [processMessageWriteCommand, failed]
  by_cases final : isFinalAttempt settings entry = true
  · simp only [if_pos final]
    exact
      Or.inr
        ⟨final, _, _, rfl,
          markMessageWriteCommandDead_cases engine _ _ _ _ _⟩
  · simp only [if_neg final]
    exact Or.inl ⟨Bool.eq_false_iff.mpr final, trivial⟩

/-- Without outages an attempt has the result of the transaction. -/
theorem attempt_calm
    (engine : Engine) (commands : List MessageWriteCommand)
    (origin : Option ConnectionId) (calm : Calm state.outages) :
    (attemptMessageWriteCommands engine commands origin state).1 =
        (processMessageWriteCommands engine state.clock.head
          state.database commands origin).map Prod.snd ∧
      Calm
        (attemptMessageWriteCommands engine commands origin
          state).2.outages := by
  unfold attemptMessageWriteCommands processMessageWriteCommands
  split
  · exact ⟨rfl, calm⟩
  · cases dedupeMessageWriteCommands commands with
    | error failure => exact ⟨rfl, calm⟩
    | ok deduped =>
        rcases runStatementsUnder_calm calm
            (batchStatements engine state.clock.head deduped origin)
            state.database {} with
          ⟨result, stillCalm⟩
        simp only
        rw [← result]
        split
        · rename_i failure outages ran
          rw [ran] at stillCalm ⊢
          exact ⟨rfl, stillCalm⟩
        · rename_i committed locals outages ran
          rw [ran] at stillCalm ⊢
          exact ⟨rfl, stillCalm⟩

/-- An attempt leaves no outage behind where there was none. -/
theorem attempt_stillCalm
    {outcome : Except Failure (List MessageDto)}
    (calm : Calm state.outages)
    (attempted :
      attemptMessageWriteCommands engine commands origin state =
        (outcome, after)) :
    Calm after.outages := by
  have stillCalm := (attempt_calm engine commands origin calm).2
  rwa [attempted] at stillCalm

/-- Without outages an attempt fails as the transaction does. -/
theorem failed_of_attempt
    {failure : Failure} (calm : Calm state.outages)
    (attempted :
      attemptMessageWriteCommands engine commands origin state =
        (.error failure, after)) :
    processMessageWriteCommands engine state.clock.head state.database
        commands origin =
      .error failure := by
  have result := (attempt_calm engine commands origin calm).1
  rw [attempted] at result
  cases processed :
      processMessageWriteCommands engine state.clock.head state.database
        commands origin with
  | error other =>
      simp only [processed, Except.map, Except.error.injEq] at result
      rw [result]
  | ok outcome => simp [processed, Except.map] at result

end Attempt

@[simp]
theorem ackAll_database
    (batch : List QueuedMessageWrite) (state : WriterState) :
    (batch.foldl WriterState.ack state).database = state.database := by
  induction batch generalizing state with
  | nil => rfl
  | cons entry rest induction =>
      rw [List.foldl_cons, induction]
      rfl

@[simp]
theorem ackAll_outages
    (batch : List QueuedMessageWrite) (state : WriterState) :
    (batch.foldl WriterState.ack state).outages = state.outages := by
  induction batch generalizing state with
  | nil => rfl
  | cons entry rest induction =>
      rw [List.foldl_cons, induction]
      rfl

/-- All acknowledgements of a batch see the same database. -/
theorem ackAll_acks
    (batch : List QueuedMessageWrite) (state : WriterState) :
    (batch.foldl WriterState.ack state).acks =
      state.acks ++
        batch.map fun entry =>
          { entry := entry, database := state.database } := by
  induction batch generalizing state with
  | nil => simp
  | cons entry rest induction =>
      rw [List.foldl_cons, induction]
      simp [WriterState.ack]

@[simp]
theorem ackAll_naks
    (batch : List QueuedMessageWrite) (state : WriterState) :
    (batch.foldl WriterState.ack state).naks = state.naks := by
  induction batch generalizing state with
  | nil => rfl
  | cons entry rest induction =>
      rw [List.foldl_cons, induction]
      rfl

end ChatBackend.Writer.BatchHandling
