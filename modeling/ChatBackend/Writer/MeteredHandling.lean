import ChatBackend.Foundation.EventRuns
import ChatBackend.Writer.BatchHandling

/-!
# The counters of the writer

`createWriterMetrics` keeps counters, and `handleMessageBatch` and
`handleSingleMessageWrite` move them while they handle entries.  The two
handlers are stated here with these calls in their places;
`handleMessageBatch_writer` says that the counters change nothing else.

A call of `handleMessageBatch` is a list of attempts: the `try` block of a
batch, or an entry handled alone.  `attempts` is this list, and
`run_attempts` says that the call does what its attempts do one after
another.  Between two attempts other clients may change the database.

The latency trackers and the queue lengths of the source are left out, since
no counter depends on them.
-/

namespace ChatBackend.Writer.MeteredHandling

open ChatBackend.Foundation.EventRuns
open ChatBackend.Storage.Schema
open ChatBackend.Storage.SequenceMigration
open ChatBackend.Storage.TableInvariants
open ChatBackend.Writer.WriteCommands
open ChatBackend.Writer.BatchTransaction
open ChatBackend.Writer.BatchHandling

/-! ## Counters -/

structure WriterMetrics where
  batchSuccess : Nat := 0
  batchFailure : Nat := 0
  batchSplit : Nat := 0
  batchSplitCommands : Nat := 0
  commandsPersisted : Nat := 0
  messagesCreated : Nat := 0
  deadCommands : Nat := 0
deriving DecidableEq, Repr

def WriterMetrics.recordBatchSuccess
    (metrics : WriterMetrics) (commands createdMessages : Nat) :
    WriterMetrics :=
  { metrics with
    batchSuccess := metrics.batchSuccess + 1
    commandsPersisted := metrics.commandsPersisted + commands
    messagesCreated := metrics.messagesCreated + createdMessages }

def WriterMetrics.recordBatchFailure (metrics : WriterMetrics) :
    WriterMetrics :=
  { metrics with batchFailure := metrics.batchFailure + 1 }

def WriterMetrics.recordBatchSplit
    (metrics : WriterMetrics) (commands : Nat) : WriterMetrics :=
  { metrics with
    batchSplit := metrics.batchSplit + 1
    batchSplitCommands := metrics.batchSplitCommands + commands }

def WriterMetrics.recordDeadCommand (metrics : WriterMetrics) :
    WriterMetrics :=
  { metrics with deadCommands := metrics.deadCommands + 1 }

structure MeteredWriter where
  writer : WriterState
  metrics : WriterMetrics := {}

/-! ## Handling entries -/

/-- The `try` block of `handleMessageBatch`; the result is its success. -/
def MeteredWriter.tryMessageBatch
    (engine : Engine) (settings : WriterSettings)
    (batch : List QueuedMessageWrite) (state : MeteredWriter) :
    Bool × MeteredWriter :=
  match attemptMessageWriteCommands engine
      (batch.map QueuedMessageWrite.command) none state.writer with
  | (.error _, after) => (false, { state with writer := after })
  | (.ok messages, after) =>
      match fanout engine settings (max batch.length 100) after with
      | (false, drained) => (false, { state with writer := drained })
      | (true, drained) =>
          (true,
            { writer := batch.foldl WriterState.ack drained
              metrics :=
                state.metrics.recordBatchSuccess batch.length
                  messages.length })

def MeteredWriter.handleSingleMessageWrite
    (engine : Engine) (settings : WriterSettings)
    (entry : QueuedMessageWrite) (state : MeteredWriter) :
    MeteredWriter :=
  match processMessageWriteCommand engine settings entry
      state.writer with
  | (.error _, after) =>
      { writer := after.nak entry
        metrics := state.metrics.recordBatchFailure }
  | (.ok message, after) =>
      match fanout engine settings 100 after with
      | (false, drained) =>
          { writer := drained.nak entry
            metrics := state.metrics.recordBatchFailure }
      | (true, drained) =>
          let counted :=
            if message = none ∧
                entry.deliveryAttempt ≥ settings.maxDeliveryAttempts then
              state.metrics.recordDeadCommand
            else state.metrics
          { writer := drained.ack entry
            metrics :=
              counted.recordBatchSuccess 1
                (if message = none then 0 else 1) }

def MeteredWriter.handleMessageBatch
    (engine : Engine) (settings : WriterSettings)
    (batch : List QueuedMessageWrite) (state : MeteredWriter) :
    MeteredWriter :=
  match state.tryMessageBatch engine settings batch with
  | (true, after) => after
  | (false, after) =>
      if 1 < batch.length then
        let split : MeteredWriter :=
          { after with
            metrics := after.metrics.recordBatchSplit batch.length }
        let midpoint := (batch.length + 1) / 2
        handleMessageBatch engine settings (batch.drop midpoint)
          (handleMessageBatch engine settings (batch.take midpoint)
            split)
      else
        match batch with
        | [] =>
            -- `entry.command` throws in the `try` block of the single path
            { after with metrics := after.metrics.recordBatchFailure }
        | entry :: _ =>
            after.handleSingleMessageWrite engine settings entry
termination_by batch.length
decreasing_by
  · rw [List.length_take]
    omega
  · rw [List.length_drop]
    omega

/-! ## The counters change nothing else -/

section SameWriter

variable (engine : Engine) (settings : WriterSettings)
  (batch : List QueuedMessageWrite) (entry : QueuedMessageWrite)
  (state : MeteredWriter)

theorem tryMessageBatch_writer :
    (state.tryMessageBatch engine settings batch).1 =
        (tryMessageBatch engine settings batch state.writer).1 ∧
      (state.tryMessageBatch engine settings batch).2.writer =
        if (tryMessageBatch engine settings batch state.writer).1 then
          batch.foldl WriterState.ack
            (tryMessageBatch engine settings batch state.writer).2
        else
          (tryMessageBatch engine settings batch state.writer).2 := by
  unfold MeteredWriter.tryMessageBatch tryMessageBatch
  rcases attemptMessageWriteCommands engine
      (batch.map QueuedMessageWrite.command) none state.writer with
    ⟨failure | messages, after⟩
  · exact ⟨rfl, rfl⟩
  · simp only
    rcases fanout engine settings (max batch.length 100) after with
      ⟨succeeded, drained⟩
    cases succeeded <;> exact ⟨rfl, rfl⟩

theorem handleSingleMessageWrite_writer :
    (state.handleSingleMessageWrite engine settings entry).writer =
      handleSingleMessageWrite engine settings entry state.writer := by
  unfold MeteredWriter.handleSingleMessageWrite
    handleSingleMessageWrite
  rcases processMessageWriteCommand engine settings entry
      state.writer with
    ⟨failure | message, after⟩
  · rfl
  · simp only
    rcases fanout engine settings 100 after with ⟨succeeded, drained⟩
    cases succeeded <;> rfl

end SameWriter

/-- With counters the handler does what it does without them. -/
theorem handleMessageBatch_writer
    (engine : Engine) (settings : WriterSettings)
    (batch : List QueuedMessageWrite) (state : MeteredWriter) :
    (state.handleMessageBatch engine settings batch).writer =
      handleMessageBatch engine settings batch state.writer := by
  induction batch using split_induction generalizing state with
  | halves batch first second =>
      have tried := tryMessageBatch_writer engine settings batch state
      rw [MeteredWriter.handleMessageBatch]
      rcases handleMessageBatch_cases engine settings batch
          state.writer with
        ⟨after, succeeded, handled⟩ | ⟨after, failed, rest⟩
      · rw [succeeded] at tried
        rw [handled]
        split
        · rename_i metered eq
          rw [eq] at tried
          exact tried.2
        · rename_i metered eq
          rw [eq] at tried
          cases tried.1
      · rw [failed] at tried
        split
        · rename_i metered eq
          rw [eq] at tried
          cases tried.1
        · rename_i metered eq
          rw [eq] at tried
          have sameWriter : metered.writer = after := tried.2
          rcases rest with
            ⟨several, handled⟩ | ⟨rfl, handled⟩ | ⟨entry, rfl, handled⟩
          · rw [if_pos several, handled]
            rw [second several, first several, sameWriter]
          · rw [handled]
            exact sameWriter
          · rw [handled, ← sameWriter]
            exact
              handleSingleMessageWrite_writer engine settings entry
                metered

/-! ## Attempts -/

inductive WriterEvent where
  | batch (batch : List QueuedMessageWrite)
  | single (entry : QueuedMessageWrite)
  | elsewhere (database : Database)
deriving DecidableEq, Repr

/-- Entries come with a delivery attempt, other clients keep the tables. -/
def WriterEvent.Regular : WriterEvent → Prop
  | .batch entries => ∀ entry ∈ entries, 1 ≤ entry.deliveryAttempt
  | .single entry => 1 ≤ entry.deliveryAttempt
  | .elsewhere database => Sound database

/-- What the `catch` block counts before it goes on with the entries. -/
def MeteredWriter.caught
    (batch : List QueuedMessageWrite) (state : MeteredWriter) :
    MeteredWriter :=
  { state with
    metrics :=
      if 1 < batch.length then
        state.metrics.recordBatchSplit batch.length
      else if batch = [] then state.metrics.recordBatchFailure
      else state.metrics }

def MeteredWriter.changed
    (database : Database) (state : MeteredWriter) : MeteredWriter :=
  { state with writer := { state.writer with database := database } }

/-- One attempt of the handler, or a change by another client. -/
def MeteredWriter.step
    (engine : Engine) (settings : WriterSettings)
    (state : MeteredWriter) : WriterEvent → MeteredWriter
  | .batch batch =>
      match state.tryMessageBatch engine settings batch with
      | (true, after) => after
      | (false, after) => after.caught batch
  | .single entry => state.handleSingleMessageWrite engine settings entry
  | .elsewhere database => state.changed database

/-- What an attempt with a batch does to the writer. -/
theorem step_batch_writer
    (engine : Engine) (settings : WriterSettings)
    (batch : List QueuedMessageWrite) (state : MeteredWriter) :
    (state.step engine settings (.batch batch)).writer =
      if (tryMessageBatch engine settings batch state.writer).1 then
        batch.foldl WriterState.ack
          (tryMessageBatch engine settings batch state.writer).2
      else (tryMessageBatch engine settings batch state.writer).2 := by
  have tried := tryMessageBatch_writer engine settings batch state
  rw [← tried.2, MeteredWriter.step]
  split
  · rename_i after eq
    rw [eq]
  · rename_i after eq
    rw [eq]
    rfl

/-- The attempts of a call of `handleMessageBatch`, in their order. -/
def MeteredWriter.attempts
    (engine : Engine) (settings : WriterSettings)
    (batch : List QueuedMessageWrite) (state : MeteredWriter) :
    List WriterEvent :=
  .batch batch ::
    match state.tryMessageBatch engine settings batch with
    | (true, _) => []
    | (false, after) =>
        if 1 < batch.length then
          let split := after.caught batch
          let midpoint := (batch.length + 1) / 2
          attempts engine settings (batch.take midpoint) split ++
            attempts engine settings (batch.drop midpoint)
              (split.handleMessageBatch engine settings
                (batch.take midpoint))
        else batch.map .single
termination_by batch.length
decreasing_by
  · rw [List.length_take]
    omega
  · rw [List.length_drop]
    omega

/-- A call does what its attempts do one after another. -/
theorem run_attempts
    (engine : Engine) (settings : WriterSettings)
    (batch : List QueuedMessageWrite) (state : MeteredWriter) :
    run (MeteredWriter.step engine settings) state
        (state.attempts engine settings batch) =
      state.handleMessageBatch engine settings batch := by
  induction batch using split_induction generalizing state with
  | halves batch first second =>
      rw [MeteredWriter.attempts, MeteredWriter.handleMessageBatch,
        run_cons, MeteredWriter.step]
      split
      · rfl
      · rename_i after failed
        split
        · rename_i several
          have counted :
              after.caught batch =
                { after with
                  metrics :=
                    after.metrics.recordBatchSplit batch.length } := by
            rw [MeteredWriter.caught, if_pos several]
          simp only
          rw [run_append, first several, second several, counted]
        · rename_i alone
          match batch, alone with
          | [], _ => rfl
          | [entry], _ => rfl
          | first :: second :: rest, alone => exact absurd (by simp) alone

/-- The attempts of a call are made with its own entries. -/
theorem attempts_own
    (engine : Engine) (settings : WriterSettings)
    (batch : List QueuedMessageWrite) (state : MeteredWriter) :
    ∀ event ∈ state.attempts engine settings batch,
      (∃ part, event = .batch part ∧ part ⊆ batch) ∨
        ∃ entry ∈ batch, event = .single entry := by
  induction batch using split_induction generalizing state with
  | halves batch first second =>
      intro event member
      rw [MeteredWriter.attempts, List.mem_cons] at member
      rcases member with rfl | later
      · exact .inl ⟨batch, rfl, List.Subset.refl batch⟩
      · split at later
        · cases later
        · split at later
          · rename_i several
            rcases List.mem_append.mp later with inFirst | inSecond
            · rcases first several _ event inFirst with
                ⟨part, rfl, inside⟩ | ⟨entry, inside, rfl⟩
              · exact
                  .inl ⟨part, rfl,
                    List.Subset.trans inside (List.take_subset _ _)⟩
              · exact .inr ⟨entry, List.mem_of_mem_take inside, rfl⟩
            · rcases second several _ event inSecond with
                ⟨part, rfl, inside⟩ | ⟨entry, inside, rfl⟩
              · exact
                  .inl ⟨part, rfl,
                    List.Subset.trans inside (List.drop_subset _ _)⟩
              · exact .inr ⟨entry, List.mem_of_mem_drop inside, rfl⟩
          · rcases List.mem_map.mp later with ⟨entry, inside, rfl⟩
            exact .inr ⟨entry, inside, rfl⟩

theorem attempts_regular
    (engine : Engine) (settings : WriterSettings)
    {batch : List QueuedMessageWrite} (state : MeteredWriter)
    (numbered : ∀ entry ∈ batch, 1 ≤ entry.deliveryAttempt) :
    ∀ event ∈ state.attempts engine settings batch, event.Regular := by
  intro event member
  rcases attempts_own engine settings batch state event member with
    ⟨part, rfl, inside⟩ | ⟨entry, inside, rfl⟩
  · exact fun entry listed => numbered entry (inside listed)
  · exact numbered entry inside

/-- An entry is tried as a batch, and alone when this fails. -/
theorem attempts_singleton
    (engine : Engine) (settings : WriterSettings)
    (entry : QueuedMessageWrite) (state : MeteredWriter) :
    state.attempts engine settings [entry] =
      .batch [entry] ::
        if (tryMessageBatch engine settings [entry] state.writer).1 then
          []
        else [.single entry] := by
  have tried :=
    (tryMessageBatch_writer engine settings [entry] state).1
  rw [MeteredWriter.attempts, ← tried]
  rcases state.tryMessageBatch engine settings [entry] with
    ⟨succeeded, after⟩
  cases succeeded <;> rfl

/-- The transaction of an entry that is handled alone commits. -/
def entryCommits
    (engine : Engine) (state : WriterState)
    (entry : QueuedMessageWrite) : Bool :=
  (attemptMessageWriteCommands engine [entry.command]
    entry.command.originConnectionId state).1.isOk

/-- The writer after the transaction of an attempt, before its drain. -/
def afterTransaction
    (engine : Engine) (settings : WriterSettings)
    (state : WriterState) : WriterEvent → WriterState
  | .batch batch =>
      (attemptMessageWriteCommands engine
        (batch.map QueuedMessageWrite.command) none state).2
  | .single entry =>
      (processMessageWriteCommand engine settings entry state).2
  | .elsewhere _ => state

/-- The drain that follows the transaction of an attempt succeeds. -/
def drainSucceeds
    (engine : Engine) (settings : WriterSettings)
    (state : WriterState) : WriterEvent → Bool
  | .batch batch =>
      (fanout engine settings (max batch.length 100)
        (afterTransaction engine settings state (.batch batch))).1
  | .single entry =>
      (fanout engine settings 100
        (afterTransaction engine settings state (.single entry))).1
  | .elsewhere _ => true

/-! ## Sequences of calls -/

inductive WriterCall where
  | handle (batch : List QueuedMessageWrite)
  | elsewhere (database : Database)
deriving DecidableEq, Repr

def MeteredWriter.call
    (engine : Engine) (settings : WriterSettings)
    (state : MeteredWriter) : WriterCall → MeteredWriter
  | .handle batch => state.handleMessageBatch engine settings batch
  | .elsewhere database => state.changed database

def WriterCall.Regular : WriterCall → Prop
  | .handle batch => ∀ entry ∈ batch, 1 ≤ entry.deliveryAttempt
  | .elsewhere database => Sound database

/-- The attempts of a sequence of calls. -/
def MeteredWriter.callAttempts
    (engine : Engine) (settings : WriterSettings)
    (state : MeteredWriter) : List WriterCall → List WriterEvent
  | [] => []
  | .handle batch :: rest =>
      state.attempts engine settings batch ++
        callAttempts engine settings
          (state.handleMessageBatch engine settings batch) rest
  | .elsewhere database :: rest =>
      .elsewhere database ::
        callAttempts engine settings (state.changed database) rest

theorem run_callAttempts
    (engine : Engine) (settings : WriterSettings)
    (calls : List WriterCall) (state : MeteredWriter) :
    run (MeteredWriter.step engine settings) state
        (state.callAttempts engine settings calls) =
      run (MeteredWriter.call engine settings) state calls := by
  induction calls generalizing state with
  | nil => rfl
  | cons call rest induction =>
      cases call with
      | handle batch =>
          rw [MeteredWriter.callAttempts, run_append, run_attempts,
            induction, run_cons, MeteredWriter.call]
      | elsewhere database =>
          rw [MeteredWriter.callAttempts, run_cons, run_cons]
          exact induction (state.changed database)

theorem callAttempts_regular
    (engine : Engine) (settings : WriterSettings)
    {calls : List WriterCall} (state : MeteredWriter)
    (regular : ∀ call ∈ calls, call.Regular) :
    ∀ event ∈ state.callAttempts engine settings calls,
      event.Regular := by
  induction calls generalizing state with
  | nil => simp [MeteredWriter.callAttempts]
  | cons call rest induction =>
      have first : call.Regular := regular call List.mem_cons_self
      have others : ∀ other ∈ rest, other.Regular := fun other member =>
        regular other (List.mem_cons_of_mem _ member)
      intro event member
      cases call with
      | handle batch =>
          rcases List.mem_append.mp member with own | later
          · exact attempts_regular engine settings state first event own
          · exact induction _ others event later
      | elsewhere database =>
          rcases List.mem_cons.mp member with rfl | later
          · exact first
          · exact induction _ others event later

end ChatBackend.Writer.MeteredHandling
