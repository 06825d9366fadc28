import ChatBackend.Foundation.EventRuns
import ChatBackend.Writer.BatchHandling

/-!
# The pipeline of the message writer

`startMessageWriter` decodes messages one at a time, collects them in
`currentBatch`, and hands batches to `handleMessageBatch`, a bounded number
of them at the same time.  Its loop, the flush timer, the batches that
finish, and `close` run one after the other on the event loop; an event of
the model is one such turn.

`decoded`, `handed` and `finished` record the history: the messages that
were decoded, the batches that were handed over, and the positions in this
list of those whose handling is over.
-/

namespace ChatBackend.Writer.BatchPipeline

open ChatBackend.Foundation.EventRuns
open ChatBackend.Writer.WriteCommands
open ChatBackend.Writer.BatchHandling

/-! ## Messages -/

structure JsMsg (Data : Type) where
  seq : Nat
  data : Data
  deliveryCount : Option Int
  ackFails : Bool

/-- What `decodeQueuedMessageWrite` does with a message. -/
inductive Decoding where
  | queued (entry : QueuedMessageWrite)
  | acknowledged
  | rejected
  | thrown

variable {Data : Type}

def readDeliveryAttempt (msg : JsMsg Data) : Int :=
  max 1 (msg.deliveryCount.getD 1)

def decodeQueuedMessageWrite
    (decodeMessageWriteCommand : Data → Option MessageWriteCommand)
    (maxDeliveryAttempts : Int) (msg : JsMsg Data) : Decoding :=
  let deliveryAttempt := readDeliveryAttempt msg
  match decodeMessageWriteCommand msg.data with
  | some command =>
      .queued
        { msg := msg.seq
          command := command
          deliveryAttempt := deliveryAttempt }
  | none =>
      if maxDeliveryAttempts ≤ deliveryAttempt then
        if msg.ackFails then .thrown else .acknowledged
      else .rejected

/-! ## States -/

structure Settings (Data : Type) where
  batchSize : Int
  batchConcurrency : Int
  batchFlushMs : Int
  maxDeliveryAttempts : Int
  decodeMessageWriteCommand : Data → Option MessageWriteCommand

def Settings.maxBatchSize (settings : Settings Data) : Nat :=
  (max 1 settings.batchSize).toNat

def Settings.maxBatchConcurrency (settings : Settings Data) : Nat :=
  (max 1 settings.batchConcurrency).toNat

def Settings.flushDelayMs (settings : Settings Data) : Int :=
  max 0 settings.batchFlushMs

/-- Where the loop over the messages is. -/
inductive Loop (Data : Type) where
  | iterating
  | racing (msg : JsMsg Data) (tasks : List Nat)
  | ended

/-- How far `close` has come. -/
inductive Closing where
  | notCalled
  | closingMessages
  | awaitingLoop
  | awaitingIdle
  | resolved
deriving DecidableEq, Repr

structure State (Data : Type) where
  currentBatch : List QueuedMessageWrite
  pendingBatches : List (List QueuedMessageWrite)
  inFlight : List Nat
  flushTimer : Bool
  loop : Loop Data
  closing : Closing
  decoded : List QueuedMessageWrite
  handed : List (List QueuedMessageWrite)
  finished : List Nat

def State.start : State Data where
  currentBatch := []
  pendingBatches := []
  inFlight := []
  flushTimer := false
  loop := .iterating
  closing := .notCalled
  decoded := []
  handed := []
  finished := []

inductive Event (Data : Type) where
  | arrive (msg : JsMsg Data)
  | raceSettles
  | loopEnds
  | fireTimer
  | complete (task : Nat)
  | close
  | messagesClosed
  | loopAwaited

/-! ## Turns -/

section Turns

variable (settings : Settings Data) (state : State Data)

/-- The loop of `pump`, over the pending batches. -/
def startBatches
    (concurrency : Nat) :
    List (List QueuedMessageWrite) → State Data → State Data
  | [], state => { state with pendingBatches := [] }
  | batch :: rest, state =>
      if state.inFlight.length < concurrency then
        startBatches concurrency rest
          { state with
            inFlight := state.inFlight ++ [state.handed.length]
            handed := state.handed ++ [batch] }
      else { state with pendingBatches := batch :: rest }

def pump : State Data :=
  startBatches settings.maxBatchConcurrency state.pendingBatches state

def flushCurrentBatch : State Data :=
  let cleared := { state with flushTimer := false }
  if state.currentBatch.isEmpty then cleared
  else
    pump settings
      { cleared with
        currentBatch := []
        pendingBatches := state.pendingBatches ++ [state.currentBatch] }

def scheduleFlush : State Data :=
  if settings.flushDelayMs ≤ 0 then flushCurrentBatch settings state
  else { state with flushTimer := true }

/-- The rest of an iteration, once there is room. -/
def accept (msg : JsMsg Data) : State Data :=
  match
    decodeQueuedMessageWrite settings.decodeMessageWriteCommand
      settings.maxDeliveryAttempts msg
  with
  | .queued entry =>
      let pushed :=
        { state with
          loop := .iterating
          currentBatch := state.currentBatch ++ [entry]
          decoded := state.decoded ++ [entry] }
      if settings.maxBatchSize ≤ pushed.currentBatch.length then
        flushCurrentBatch settings pushed
      else scheduleFlush settings pushed
  | .acknowledged => { state with loop := .iterating }
  | .rejected => { state with loop := .iterating }
  | .thrown => { state with loop := .ended }

/-- The check of the inner loop, which waits while there is no room. -/
def awaitRoom (msg : JsMsg Data) : State Data :=
  if settings.maxBatchConcurrency * 2 ≤ state.pendingBatches.length ∧
      state.inFlight ≠ [] then
    { state with loop := .racing msg state.inFlight }
  else accept settings state msg

def isIdle : Bool :=
  state.pendingBatches.isEmpty && state.inFlight.isEmpty &&
    state.currentBatch.isEmpty

def notifyIdle : State Data :=
  if isIdle state ∧ state.closing = .awaitingIdle then
    { state with closing := .resolved }
  else state

/-- `waitForIdle`, called by `close` after its flush. -/
def waitForIdle : State Data :=
  if isIdle state then { state with closing := .resolved }
  else notifyIdle { state with closing := .awaitingIdle }

/-- The `finally` callback of a task. -/
def complete (task : Nat) : State Data :=
  if task ∈ state.inFlight then
    notifyIdle
      (pump settings
        { state with
          inFlight := state.inFlight.erase task
          finished := state.finished ++ [task] })
  else state

def step : Event Data → State Data
  | .arrive msg =>
      match state.loop with
      | .iterating =>
          if state.closing = .notCalled then awaitRoom settings state msg
          else { state with loop := .ended }
      | _ => state
  | .raceSettles =>
      match state.loop with
      | .racing msg tasks =>
          if tasks.any fun task => task ∉ state.inFlight then
            awaitRoom settings state msg
          else state
      | _ => state
  | .loopEnds =>
      match state.loop with
      | .iterating => { state with loop := .ended }
      | _ => state
  | .fireTimer =>
      if state.flushTimer then flushCurrentBatch settings state
      else state
  | .complete task => complete settings state task
  | .close =>
      if state.closing = .notCalled then
        { state with closing := .closingMessages }
      else state
  | .messagesClosed =>
      if state.closing = .closingMessages then
        { state with closing := .awaitingLoop }
      else state
  | .loopAwaited =>
      match state.closing, state.loop with
      | .awaitingLoop, .ended =>
          waitForIdle (flushCurrentBatch settings state)
      | _, _ => state

end Turns

/-! ## What is conserved -/

/-- Where the decoded messages are, and which batches are in flight. -/
structure Conserved
    (settings : Settings Data) (state : State Data) : Prop where
  decoded :
    state.decoded =
      state.handed.flatten ++ state.pendingBatches.flatten ++
        state.currentBatch
  sizes :
    ∀ batch ∈ state.handed ++ state.pendingBatches,
      1 ≤ batch.length ∧ batch.length ≤ settings.maxBatchSize
  distinct : state.inFlight.Nodup
  concurrency : state.inFlight.length ≤ settings.maxBatchConcurrency
  handled :
    ∀ task, task < state.handed.length ↔
      task ∈ state.inFlight ∨ task ∈ state.finished

/-- The queues while a turn adds to them. -/
structure Filling
    (settings : Settings Data) (state : State Data) : Prop
    extends Conserved settings state where
  backlog :
    state.pendingBatches.length ≤ settings.maxBatchConcurrency * 2
  busy :
    state.pendingBatches ≠ [] →
      settings.maxBatchConcurrency ≤ state.inFlight.length
  room :
    state.currentBatch ≠ [] →
      state.pendingBatches.length < settings.maxBatchConcurrency * 2
  within : state.currentBatch.length ≤ settings.maxBatchSize

/-- The queues between two turns. -/
structure Orderly
    (settings : Settings Data) (state : State Data) : Prop
    extends Filling settings state where
  below : state.currentBatch.length < settings.maxBatchSize
  flushed :
    state.closing = .awaitingIdle ∨ state.closing = .resolved →
      state.loop = .ended ∧ state.currentBatch = []
  drained :
    state.closing = .resolved →
      state.pendingBatches = [] ∧ state.inFlight = []

theorem Settings.one_le_maxBatchSize (settings : Settings Data) :
    1 ≤ settings.maxBatchSize := by
  unfold Settings.maxBatchSize
  omega

theorem Settings.one_le_maxBatchConcurrency (settings : Settings Data) :
    1 ≤ settings.maxBatchConcurrency := by
  unfold Settings.maxBatchConcurrency
  omega

/-- How many batches are started, and what is left. -/
theorem startBatches_eq
    (concurrency : Nat) (batches : List (List QueuedMessageWrite))
    (state : State Data) :
    ∃ started rest,
      batches = started ++ rest ∧
        startBatches concurrency batches state =
          { state with
            pendingBatches := rest
            handed := state.handed ++ started
            inFlight :=
              state.inFlight ++
                List.range' state.handed.length started.length } ∧
          (rest ≠ [] →
            concurrency ≤ state.inFlight.length + started.length) ∧
            (state.inFlight.length ≤ concurrency →
              state.inFlight.length + started.length ≤ concurrency) := by
  induction batches generalizing state with
  | nil =>
      exact ⟨[], [], rfl, by simp [startBatches], by simp, by simp⟩
  | cons batch rest induction =>
      rw [startBatches]
      split
      · rename_i room
        rcases induction
            { state with
              inFlight := state.inFlight ++ [state.handed.length]
              handed := state.handed ++ [batch] } with
          ⟨started, left, same, result, full, bounded⟩
        refine
          ⟨batch :: started, left, by rw [same, List.cons_append], ?_,
            fun some => ?_, fun within => ?_⟩
        · rw [result]
          simp [List.range'_succ]
        · have reached := full some
          simp only [List.length_append, List.length_cons,
            List.length_nil] at reached ⊢
          omega
        · have reached := bounded (by simp; omega)
          simp only [List.length_append, List.length_cons,
            List.length_nil] at reached ⊢
          omega
      · rename_i full
        exact
          ⟨[], batch :: rest, rfl, by simp, fun _ => by simpa using full,
            fun within => by simpa using within⟩

section Queues

variable {settings : Settings Data} {state : State Data}

/-- Pumping moves batches from the queue into flight. -/
structure Pumped
    (settings : Settings Data) (before after : State Data) : Prop where
  conserved : Conserved settings after
  shorter :
    after.pendingBatches.length ≤ before.pendingBatches.length
  busy :
    after.pendingBatches ≠ [] →
      settings.maxBatchConcurrency ≤ after.inFlight.length
  currentBatch : after.currentBatch = before.currentBatch
  loop : after.loop = before.loop
  closing : after.closing = before.closing

theorem pump_spec (conserved : Conserved settings state) :
    Pumped settings state (pump settings state) := by
  rcases startBatches_eq settings.maxBatchConcurrency
      state.pendingBatches state with
    ⟨started, rest, same, result, full, bounded⟩
  have pumped : pump settings state = _ := result
  rw [pumped]
  have fresh :
      ∀ task ∈ List.range' state.handed.length started.length,
        state.handed.length ≤ task ∧
          task < state.handed.length + started.length := by
    intro task member
    rw [List.mem_range'_1] at member
    exact member
  constructor
  case conserved =>
    constructor
    case decoded =>
      rw [conserved.decoded, same]
      simp
    case sizes =>
      intro batch member
      apply conserved.sizes batch
      rw [same]
      simpa [or_assoc] using member
    case distinct =>
      refine
        List.nodup_append.mpr
          ⟨conserved.distinct, List.nodup_range', ?_⟩
      rintro task old other new rfl
      have known := (conserved.handled task).mpr (Or.inl old)
      have isFresh := (fresh task new).1
      omega
    case concurrency =>
      simpa using bounded conserved.concurrency
    case handled =>
      intro task
      simp only [List.length_append, List.mem_append, List.mem_range'_1]
      have known := conserved.handled task
      constructor
      · intro below
        by_cases old : task < state.handed.length
        · rcases known.mp old with flying | done
          · exact Or.inl (Or.inl flying)
          · exact Or.inr done
        · exact Or.inl (Or.inr ⟨by omega, below⟩)
      · rintro ((flying | new) | done)
        · have below := known.mpr (Or.inl flying)
          omega
        · exact new.2
        · have below := known.mpr (Or.inr done)
          omega
  case shorter =>
    rw [same]
    simp
  case busy =>
    intro some
    simpa using full some
  case currentBatch => rfl
  case loop => rfl
  case closing => rfl

theorem flush_of_empty (isEmpty : state.currentBatch = []) :
    flushCurrentBatch settings state =
      { state with flushTimer := false } := by
  rw [flushCurrentBatch, if_pos (by rw [isEmpty]; rfl)]

theorem flush_of_ne (nonempty : state.currentBatch ≠ []) :
    flushCurrentBatch settings state =
      pump settings
        { state with
          flushTimer := false
          currentBatch := []
          pendingBatches :=
            state.pendingBatches ++ [state.currentBatch] } := by
  rw [flushCurrentBatch, if_neg (by rwa [List.isEmpty_iff])]

/-- After a flush, the current batch is empty. -/
theorem flush_spec (filling : Filling settings state) :
    Filling settings (flushCurrentBatch settings state) ∧
      (flushCurrentBatch settings state).currentBatch = [] ∧
        (flushCurrentBatch settings state).loop = state.loop ∧
          (flushCurrentBatch settings state).closing =
            state.closing := by
  by_cases isEmpty : state.currentBatch = []
  · rw [flush_of_empty isEmpty]
    exact ⟨{ filling with }, isEmpty, rfl, rfl⟩
  · rw [flush_of_ne isEmpty]
    have queued :
        Conserved settings
          { state with
            flushTimer := false
            currentBatch := []
            pendingBatches :=
              state.pendingBatches ++ [state.currentBatch] } :=
      { filling with
        decoded := by
          rw [filling.decoded]
          simp
        sizes := by
          intro batch member
          simp only [List.mem_append, List.mem_singleton] at member
          rcases member with handed | pending | rfl
          · exact filling.sizes batch (List.mem_append_left _ handed)
          · exact filling.sizes batch (List.mem_append_right _ pending)
          · exact
              ⟨List.length_pos_iff.mpr isEmpty, filling.within⟩ }
    have pumped := pump_spec queued
    have room := filling.room isEmpty
    have shorter := pumped.shorter
    simp only [List.length_append, List.length_singleton] at shorter
    refine
      ⟨{ pumped.conserved with
          backlog := by omega
          busy := pumped.busy
          room := fun some => absurd pumped.currentBatch some
          within := by
            rw [pumped.currentBatch]
            exact Nat.zero_le _ },
        pumped.currentBatch, pumped.loop, pumped.closing⟩

/-- While there is room, nothing is waiting or the bound is not reached. -/
theorem Orderly.hasRoom
    (orderly : Orderly settings state)
    (passed :
      ¬(settings.maxBatchConcurrency * 2 ≤
            state.pendingBatches.length ∧
          state.inFlight ≠ [])) :
    state.pendingBatches.length < settings.maxBatchConcurrency * 2 := by
  have positive := settings.one_le_maxBatchConcurrency
  by_cases idle : state.inFlight = []
  · by_cases queued : state.pendingBatches = []
    · rw [queued]
      simp only [List.length_nil]
      omega
    · have busy := orderly.busy queued
      rw [idle] at busy
      simp only [List.length_nil] at busy
      omega
  · rw [not_and_not_right] at passed
    by_contra full
    exact idle (passed (by omega))

/-- The turn goes on in a queue that it may have flushed. -/
structure Continues
    (settings : Settings Data) (before after : State Data) : Prop where
  filling : Filling settings after
  below : after.currentBatch.length < settings.maxBatchSize
  closing : after.closing = before.closing

theorem flush_continues (filling : Filling settings state) :
    Continues settings state (flushCurrentBatch settings state) := by
  rcases flush_spec filling with ⟨flushed, isEmpty, _, closing⟩
  refine ⟨flushed, ?_, closing⟩
  rw [isEmpty]
  exact settings.one_le_maxBatchSize

theorem accept_continues
    (orderly : Orderly settings state)
    (room :
      state.pendingBatches.length < settings.maxBatchConcurrency * 2)
    (msg : JsMsg Data) :
    Continues settings state (accept settings state msg) := by
  unfold accept
  split
  · rename_i entry _
    have pushed :
        Filling settings
          { state with
            loop := .iterating
            currentBatch := state.currentBatch ++ [entry]
            decoded := state.decoded ++ [entry] } :=
      { orderly with
        decoded := by
          rw [orderly.decoded]
          simp
        room := fun _ => room
        within := by
          have below := orderly.below
          simp only [List.length_append, List.length_singleton]
          omega }
    dsimp only
    split
    · exact { flush_continues pushed with }
    · rename_i notFull
      unfold scheduleFlush
      split
      · exact { flush_continues pushed with }
      · exact
          { filling := { pushed with }
            below := Nat.lt_of_not_le notFull
            closing := rfl }
  · exact ⟨{ orderly with }, orderly.below, rfl⟩
  · exact ⟨{ orderly with }, orderly.below, rfl⟩
  · exact ⟨{ orderly with }, orderly.below, rfl⟩

end Queues

/-! ## Turns keep the queues orderly -/

section Orderly

variable {settings : Settings Data} {state : State Data}

theorem Orderly.start (settings : Settings Data) :
    Orderly settings State.start where
  decoded := rfl
  sizes := by simp [State.start]
  distinct := List.nodup_nil
  concurrency := Nat.zero_le _
  handled := by simp [State.start]
  backlog := Nat.zero_le _
  busy := fun some => absurd rfl some
  room := fun some => absurd rfl some
  within := Nat.zero_le _
  below := settings.one_le_maxBatchSize
  flushed := by simp [State.start]
  drained := by simp [State.start]

/-- Before the loop has ended, `close` does not wait for idleness. -/
theorem Orderly.notFlushed
    (orderly : Orderly settings state) (running : state.loop ≠ .ended) :
    ¬(state.closing = .awaitingIdle ∨ state.closing = .resolved) :=
  fun late => running (orderly.flushed late).1

theorem Continues.orderly
    {before after : State Data}
    (continues : Continues settings before after)
    (early :
      ¬(before.closing = .awaitingIdle ∨ before.closing = .resolved)) :
    Orderly settings after :=
  { continues.filling with
    below := continues.below
    flushed := fun late => absurd (continues.closing ▸ late) early
    drained := fun late =>
      absurd (Or.inr (continues.closing ▸ late)) early }

theorem Orderly.awaitRoom
    (orderly : Orderly settings state) (running : state.loop ≠ .ended)
    (msg : JsMsg Data) :
    Orderly settings (BatchPipeline.awaitRoom settings state msg) := by
  have early := orderly.notFlushed running
  unfold BatchPipeline.awaitRoom
  split
  · exact
      { orderly with
        flushed := fun late => absurd late early
        drained := orderly.drained }
  · rename_i passed
    exact
      (accept_continues orderly (orderly.hasRoom passed) msg).orderly
        early

theorem isIdle_iff :
    isIdle state = true ↔
      state.pendingBatches = [] ∧ state.inFlight = [] ∧
        state.currentBatch = [] := by
  simp [isIdle, and_assoc]

/-- The state apart from `close`, and what `close` waits for. -/
theorem notifyIdle_orderly
    (filling : Filling settings state)
    (below : state.currentBatch.length < settings.maxBatchSize)
    (flushed :
      state.closing = .awaitingIdle →
        state.loop = .ended ∧ state.currentBatch = [])
    (unresolved : state.closing ≠ .resolved) :
    Orderly settings (notifyIdle state) := by
  unfold notifyIdle
  split
  · rename_i idle
    rcases isIdle_iff.mp idle.1 with ⟨noPending, noFlight, _⟩
    exact
      { filling with
        below := below
        flushed := fun _ => flushed idle.2
        drained := fun _ => ⟨noPending, noFlight⟩ }
  · exact
      { filling with
        below := below
        flushed := fun late =>
          late.elim flushed fun resolved => absurd resolved unresolved
        drained := fun resolved => absurd resolved unresolved }

theorem Orderly.complete
    (orderly : Orderly settings state) (task : Nat) :
    Orderly settings (BatchPipeline.complete settings state task) := by
  unfold BatchPipeline.complete
  split
  · rename_i flying
    have unresolved : state.closing ≠ .resolved := by
      intro resolved
      rw [(orderly.drained resolved).2] at flying
      cases flying
    have released :
        Conserved settings
          { state with
            inFlight := state.inFlight.erase task
            finished := state.finished ++ [task] } :=
      { decoded := orderly.decoded
        sizes := orderly.sizes
        distinct := orderly.distinct.erase task
        concurrency :=
          (List.length_erase_le).trans orderly.concurrency
        handled := by
          intro other
          rw [orderly.handled other]
          simp only [orderly.distinct.mem_erase_iff, List.mem_append,
            List.mem_singleton]
          by_cases same : other = task
          · subst same
            simp [flying]
          · simp [same] }
    have pumped := pump_spec released
    have shorter :
        (pump settings _).pendingBatches.length ≤
          state.pendingBatches.length :=
      pumped.shorter
    have backlog := orderly.backlog
    apply notifyIdle_orderly
    · exact
        { pumped.conserved with
          backlog := shorter.trans backlog
          busy := pumped.busy
          room := by
            intro some
            rw [pumped.currentBatch] at some
            exact shorter.trans_lt (orderly.room some)
          within := by
            rw [pumped.currentBatch]
            exact orderly.within }
    · rw [pumped.currentBatch]
      exact orderly.below
    · intro waiting
      rw [pumped.closing] at waiting
      rw [pumped.loop, pumped.currentBatch]
      exact orderly.flushed (Or.inl waiting)
    · rw [pumped.closing]
      exact unresolved
  · exact orderly

theorem Orderly.fireTimer (orderly : Orderly settings state) :
    Orderly settings (flushCurrentBatch settings state) := by
  by_cases late :
      state.closing = .awaitingIdle ∨ state.closing = .resolved
  · rw [flush_of_empty (orderly.flushed late).2]
    exact { orderly with }
  · exact (flush_continues orderly.toFilling).orderly late

theorem Orderly.loopAwaited
    (orderly : Orderly settings state) (ended : state.loop = .ended) :
    Orderly settings
      (waitForIdle (flushCurrentBatch settings state)) := by
  rcases flush_spec orderly.toFilling with
    ⟨filling, isEmpty, loop, closing⟩
  have below :
      (flushCurrentBatch settings state).currentBatch.length <
        settings.maxBatchSize :=
    (flush_continues orderly.toFilling).below
  unfold waitForIdle
  split
  · rename_i idle
    rcases isIdle_iff.mp idle with ⟨noPending, noFlight, _⟩
    exact
      { filling with
        below := below
        flushed := fun _ => ⟨loop.trans ended, isEmpty⟩
        drained := fun _ => ⟨noPending, noFlight⟩ }
  · apply notifyIdle_orderly
    · exact { filling with }
    · exact below
    · exact fun _ => ⟨loop.trans ended, isEmpty⟩
    · simp

theorem Orderly.step
    (orderly : Orderly settings state) (event : Event Data) :
    Orderly settings (BatchPipeline.step settings state event) := by
  unfold BatchPipeline.step
  split
  · split
    · rename_i iterating
      split
      · exact orderly.awaitRoom (by rw [iterating]; simp) _
      · have early := orderly.notFlushed (by rw [iterating]; simp)
        exact
          { orderly with
            flushed := fun late => absurd late early
            drained := orderly.drained }
    · exact orderly
  · split
    · rename_i racing
      split
      · exact orderly.awaitRoom (by rw [racing]; simp) _
      · exact orderly
    · exact orderly
  · split
    · rename_i iterating
      have early := orderly.notFlushed (by rw [iterating]; simp)
      exact
        { orderly with
          flushed := fun late => absurd late early
          drained := orderly.drained }
    · exact orderly
  · split
    · exact orderly.fireTimer
    · exact orderly
  · exact orderly.complete _
  · split
    · exact { orderly with flushed := by simp, drained := by simp }
    · exact orderly
  · split
    · exact { orderly with flushed := by simp, drained := by simp }
    · exact orderly
  · split
    · rename_i ended
      exact orderly.loopAwaited ended
    · exact orderly

end Orderly

/-! ## Runs -/

/-- What holds of the pipeline at all times. -/
structure Sound
    (settings : Settings Data) (state : State Data) : Prop
    extends Conserved settings state where
  backlog :
    state.pendingBatches.length ≤ settings.maxBatchConcurrency * 2
  closed :
    state.closing = .resolved →
      state.decoded = state.handed.flatten ∧
        ∀ task < state.handed.length, task ∈ state.finished

/--
In every run, the decoded messages are those of the batches that were
handed over, then the pending batches, then the current batch; batches and
queues keep their bounds; and when `close` has resolved, every decoded
message was in a batch whose handling is over.
-/
theorem pipeline_sound
    (settings : Settings Data) (events : List (Event Data)) :
    Sound settings
      (run (BatchPipeline.step settings) State.start events) := by
  have orderly :
      Orderly settings
        (run (BatchPipeline.step settings) State.start events) :=
    run_invariant (Orderly settings)
      (fun _ event orderly => orderly.step event)
      (Orderly.start settings) events
  refine
    { orderly.toConserved with
      backlog := orderly.backlog
      closed := fun resolved => ?_ }
  have drained := orderly.drained resolved
  constructor
  · rw [orderly.decoded, drained.1,
      (orderly.flushed (Or.inr resolved)).2]
    simp
  · intro task below
    rcases (orderly.handled task).mp below with flying | done
    · rw [drained.2] at flying
      cases flying
    · exact done

end ChatBackend.Writer.BatchPipeline
