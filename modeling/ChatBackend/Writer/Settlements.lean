import ChatBackend.Writer.Acknowledgements
import ChatBackend.Writer.BatchPipeline
import ChatBackend.Writer.BatchSplitting

/-!
# Every message is settled once

The handler of a batch tells the queue about each entry, with `msg.ack()` or
with `msg.nak()`.  Which of the two depends on what its calls to the database
and to Redis come to, among all the other batches that are in flight;
`Settles` leaves this open and keeps what the splitting of the batch implies.
`handleMessageBatch` settles its batch in this sense from every state.

A turn of the whole writer is a turn of the pipeline, where a task that
completes has settled its batch.  The answers to the queue are then those of
the finished tasks, so that every message that was decoded has exactly one
answer when `close` resolves.
-/

namespace ChatBackend.Writer.Settlements

open ChatBackend.Foundation.EventRuns
open ChatBackend.Storage.Schema
open ChatBackend.Writer.WriteCommands
open ChatBackend.Writer.BatchHandling
open ChatBackend.Writer.OutboxDrain
open ChatBackend.Writer.Acknowledgements
open ChatBackend.Writer.BatchSplitting
open ChatBackend.Writer.BatchPipeline

/-! ## The answers of one handler -/

/-- How a batch can be settled: all acks, two halves, nothing, or a nak. -/
inductive Settles :
    List QueuedMessageWrite → List QueuedMessageWrite →
      List QueuedMessageWrite → Prop where
  | whole (batch : List QueuedMessageWrite) : Settles batch batch []
  | halves
      {batch firstAcks firstNaks secondAcks secondNaks :
        List QueuedMessageWrite}
      (first :
        Settles (batch.take ((batch.length + 1) / 2)) firstAcks
          firstNaks)
      (second :
        Settles (batch.drop ((batch.length + 1) / 2)) secondAcks
          secondNaks) :
      Settles batch (firstAcks ++ secondAcks) (firstNaks ++ secondNaks)
  | nak (entry : QueuedMessageWrite) : Settles [entry] [] [entry]

theorem perm_halves
    {Entry : Type} (firstAcks firstNaks secondAcks secondNaks : List Entry) :
    (firstAcks ++ secondAcks ++ (firstNaks ++ secondNaks)).Perm
      (firstAcks ++ firstNaks ++ (secondAcks ++ secondNaks)) := by
  simp only [List.append_assoc]
  refine List.Perm.append_left firstAcks ?_
  rw [← List.append_assoc, ← List.append_assoc]
  exact List.Perm.append_right secondNaks List.perm_append_comm

/-- Each entry has one answer, and the answers keep the order. -/
theorem Settles.once
    {batch acks naks : List QueuedMessageWrite}
    (settles : Settles batch acks naks) :
    acks.Sublist batch ∧ naks.Sublist batch ∧
      (acks ++ naks).Perm batch := by
  induction settles with
  | whole batch => simp
  | @halves batch firstAcks firstNaks secondAcks secondNaks _ _ first
      second =>
      rcases first with ⟨firstAcked, firstNaked, firstAll⟩
      rcases second with ⟨secondAcked, secondNaked, secondAll⟩
      have parts := List.take_append_drop ((batch.length + 1) / 2) batch
      have acked := firstAcked.append secondAcked
      have naked := firstNaked.append secondNaked
      have all := firstAll.append secondAll
      rw [parts] at acked naked all
      exact
        ⟨acked, naked,
          (perm_halves firstAcks firstNaks secondAcks secondNaks).trans
            all⟩
  | nak entry => simp

section Handler

variable (engine : Engine) (settings : WriterSettings)

/-- What an attempt or a drain does to the answers: nothing. -/
theorem finishDrain_naks (drain : Drain) (state : WriterState) :
    (finishDrain engine drain state).2.naks = state.naks := by
  fun_induction finishDrain engine drain state with
  | case1 drain state unfinished outcome induction => exact induction
  | case2 drain state finished => rfl

theorem fanout_replies (limit : Int) (state : WriterState) :
    replies (fanout engine settings limit state).2 = replies state := by
  have naks :
      (fanout engine settings limit state).2.naks = state.naks := by
    unfold fanout
    split
    · rfl
    · unfold drainMessageOutbox
      split
      · rfl
      · exact finishDrain_naks engine _ _
  rw [replies, (fanout_kept engine settings limit state).2, naks]
  rfl

theorem attempt_replies
    (commands : List MessageWriteCommand) (origin : Option ConnectionId)
    (state : WriterState) :
    replies
        (attemptMessageWriteCommands engine commands origin state).2 =
      replies state := by
  cases attempted :
      attemptMessageWriteCommands engine commands origin state with
  | mk outcome after =>
      cases outcome with
      | ok messages =>
          rcases attempt_ok attempted with ⟨_, acks, naks⟩
          simp [replies, acks, naks]
      | error failure =>
          rcases attempt_error attempted with ⟨_, acks, naks⟩
          simp [replies, acks, naks]

theorem tryMessageBatch_replies
    (batch : List QueuedMessageWrite) (state : WriterState) :
    replies (tryMessageBatch engine settings batch state).2 =
      replies state := by
  have attempted :=
    attempt_replies engine (batch.map QueuedMessageWrite.command) none
      state
  unfold tryMessageBatch
  split
  · rename_i failed
    rw [failed] at attempted
    exact attempted
  · rename_i succeeded
    rw [succeeded] at attempted
    rw [fanout_replies]
    exact attempted

theorem process_replies
    (entry : QueuedMessageWrite) (state : WriterState) :
    replies (processMessageWriteCommand engine settings entry state).2 =
      replies state := by
  have attempted :=
    attempt_replies engine [entry.command]
      entry.command.originConnectionId state
  unfold processMessageWriteCommand
  split
  · rename_i succeeded
    rw [succeeded] at attempted
    exact attempted
  · rename_i failed
    rw [failed] at attempted
    split <;> exact attempted

/-- Answers that were added to those there were. -/
def Adds
    (before after : WriterState) (acks naks : List QueuedMessageWrite) :
    Prop :=
  replies after = ((replies before).1 ++ acks, (replies before).2 ++ naks)

theorem handleSingle_settles
    (entry : QueuedMessageWrite) (state : WriterState) :
    Adds state (handleSingleMessageWrite engine settings entry state)
        [entry] [] ∨
      Adds state (handleSingleMessageWrite engine settings entry state)
        [] [entry] := by
  have processed := process_replies engine settings entry state
  unfold handleSingleMessageWrite
  split
  · rename_i failed
    rw [failed] at processed
    right
    rw [Adds, ← processed]
    simp [replies, WriterState.nak]
  · rename_i after succeeded
    rw [succeeded] at processed
    have drained := fanout_replies engine settings 100 after
    rw [processed] at drained
    split
    · rename_i done
      rw [done] at drained
      left
      rw [Adds, ← drained]
      simp [replies, WriterState.ack]
    · rename_i stuck
      rw [stuck] at drained
      right
      rw [Adds, ← drained]
      simp [replies, WriterState.nak]

/-- The handler settles its batch, from every state of the writer. -/
theorem handleMessageBatch_settles
    (batch : List QueuedMessageWrite) (state : WriterState) :
    ∃ acks naks,
      Settles batch acks naks ∧
        Adds state (handleMessageBatch engine settings batch state) acks
          naks := by
  induction batch using split_induction generalizing state with
  | halves batch first second =>
      have quiet := tryMessageBatch_replies engine settings batch state
      rcases handleMessageBatch_cases engine settings batch state with
        ⟨after, tried, result⟩ | ⟨after, tried, result⟩
      · rw [tried] at quiet
        refine ⟨batch, [], .whole batch, ?_⟩
        rw [result, Adds, ← quiet]
        simp [replies, ackAll_acks, Function.comp_def]
      · rw [tried] at quiet
        rcases result with
          ⟨several, result⟩ | ⟨rfl, result⟩ | ⟨entry, rfl, result⟩
        · rcases first several after with
            ⟨firstAcks, firstNaks, firstSettles, firstAdds⟩
          rcases second several _ with
            ⟨secondAcks, secondNaks, secondSettles, secondAdds⟩
          refine
            ⟨_, _, .halves firstSettles secondSettles, ?_⟩
          rw [result, Adds, secondAdds, firstAdds, ← quiet]
          simp
        · refine ⟨[], [], .whole [], ?_⟩
          rw [result, Adds, ← quiet]
          simp
        · rcases handleSingle_settles engine settings entry after with
            acked | naked
          · refine ⟨[entry], [], .whole [entry], ?_⟩
            rw [result, Adds, ← quiet]
            exact acked
          · refine ⟨[], [entry], .nak entry, ?_⟩
            rw [result, Adds, ← quiet]
            exact naked

/--
Whatever fails on the way, the handler answers each entry of its batch once,
and the acks and the naks are in the order of the batch.
-/
theorem batch_settled_once
    (batch : List QueuedMessageWrite) (state : WriterState) :
    let after := handleMessageBatch engine settings batch state
    ∃ acks naks,
      after.acks.map Acknowledgement.entry =
          state.acks.map Acknowledgement.entry ++ acks ∧
        after.naks = state.naks ++ naks ∧
        acks.Sublist batch ∧ naks.Sublist batch ∧
        (acks ++ naks).Perm batch := by
  intro after
  rcases handleMessageBatch_settles engine settings batch state with
    ⟨acks, naks, settles, adds⟩
  exact
    ⟨acks, naks, congrArg Prod.fst adds, congrArg Prod.snd adds,
      settles.once⟩

end Handler

/-! ## Turns start batches -/

/-- Batches are handed over as new tasks, and nothing is finished. -/
def Starts {Data : Type} (before after : State Data) : Prop :=
  after.finished = before.finished ∧
    ∃ started,
      after.handed = before.handed ++ started ∧
        after.inFlight =
          before.inFlight ++
            List.range' before.handed.length started.length

section Starts

variable {Data : Type} {settings : Settings Data}
  {before middle after state : State Data}

theorem Starts.of_same
    (finished : after.finished = before.finished)
    (handed : after.handed = before.handed)
    (inFlight : after.inFlight = before.inFlight) :
    Starts before after :=
  ⟨finished, [], by simp [handed], by simp [inFlight]⟩

theorem Starts.trans
    (first : Starts before middle) (second : Starts middle after) :
    Starts before after := by
  rcases first with ⟨firstDone, early, firstHanded, firstFlying⟩
  rcases second with ⟨secondDone, late, secondHanded, secondFlying⟩
  refine ⟨secondDone.trans firstDone, early ++ late, ?_, ?_⟩
  · rw [secondHanded, firstHanded, List.append_assoc]
  · rw [secondFlying, firstFlying, firstHanded, List.length_append,
      List.length_append, ← List.range'_append_1, List.append_assoc]

theorem pump_starts (state : State Data) :
    Starts state (pump settings state) := by
  rcases startBatches_eq settings.maxBatchConcurrency
      state.pendingBatches state with
    ⟨started, rest, _, result, _⟩
  have pumped : pump settings state = _ := result
  rw [pumped]
  exact ⟨rfl, started, rfl, rfl⟩

theorem flush_starts (state : State Data) :
    Starts state (flushCurrentBatch settings state) := by
  by_cases isEmpty : state.currentBatch = []
  · rw [flush_of_empty isEmpty]
    exact .of_same rfl rfl rfl
  · rw [flush_of_ne isEmpty]
    exact Starts.trans (.of_same rfl rfl rfl) (pump_starts _)

theorem accept_starts (state : State Data) (msg : JsMsg Data) :
    Starts state (accept settings state msg) := by
  unfold accept
  split
  · dsimp only
    split
    · exact Starts.trans (.of_same rfl rfl rfl) (flush_starts _)
    · unfold scheduleFlush
      split
      · exact Starts.trans (.of_same rfl rfl rfl) (flush_starts _)
      · exact .of_same rfl rfl rfl
  · exact .of_same rfl rfl rfl
  · exact .of_same rfl rfl rfl
  · exact .of_same rfl rfl rfl

theorem awaitRoom_starts (state : State Data) (msg : JsMsg Data) :
    Starts state (awaitRoom settings state msg) := by
  unfold awaitRoom
  split
  · exact .of_same rfl rfl rfl
  · exact accept_starts state msg

theorem notifyIdle_starts (state : State Data) :
    Starts state (notifyIdle state) := by
  unfold notifyIdle
  split <;> exact .of_same rfl rfl rfl

theorem waitForIdle_starts (state : State Data) :
    Starts state (waitForIdle state) := by
  unfold waitForIdle
  split
  · exact .of_same rfl rfl rfl
  · exact Starts.trans (.of_same rfl rfl rfl) (notifyIdle_starts _)

/-- A turn without the end of a task starts batches at most. -/
theorem step_starts
    {event : Event Data} (other : ∀ task, event ≠ .complete task)
    (state : State Data) :
    Starts state (BatchPipeline.step settings state event) := by
  have unchanged : Starts state state := .of_same rfl rfl rfl
  cases event with
  | arrive msg =>
      simp only [BatchPipeline.step]
      split
      · split
        · exact awaitRoom_starts state msg
        · exact .of_same rfl rfl rfl
      · exact unchanged
  | raceSettles =>
      simp only [BatchPipeline.step]
      split
      · split
        · exact awaitRoom_starts state _
        · exact unchanged
      · exact unchanged
  | loopEnds =>
      simp only [BatchPipeline.step]
      split
      · exact .of_same rfl rfl rfl
      · exact unchanged
  | fireTimer =>
      simp only [BatchPipeline.step]
      split
      · exact flush_starts state
      · exact unchanged
  | complete task => exact absurd rfl (other task)
  | close =>
      simp only [BatchPipeline.step]
      split
      · exact .of_same rfl rfl rfl
      · exact unchanged
  | messagesClosed =>
      simp only [BatchPipeline.step]
      split
      · exact .of_same rfl rfl rfl
      · exact unchanged
  | loopAwaited =>
      simp only [BatchPipeline.step]
      split
      · exact (flush_starts state).trans (waitForIdle_starts _)
      · exact unchanged

/-- The end of a task moves it to the finished ones. -/
theorem complete_starts
    {task : Nat} (flying : task ∈ state.inFlight) :
    Starts
      { state with
        inFlight := state.inFlight.erase task
        finished := state.finished ++ [task] }
      (BatchPipeline.step settings state (.complete task)) := by
  simp only [BatchPipeline.step, complete, if_pos flying]
  exact (pump_starts _).trans (notifyIdle_starts _)

end Starts

/-! ## Turns of the writer -/

/-- The pipeline, with what the queue has been told. -/
structure WriterRun (Data : Type) where
  pipeline : State Data
  acks : List QueuedMessageWrite
  naks : List QueuedMessageWrite

def WriterRun.start {Data : Type} : WriterRun Data where
  pipeline := State.start
  acks := []
  naks := []

/-- A task completes when its handler has settled its batch. -/
inductive Turn {Data : Type} (settings : Settings Data)
    (run : WriterRun Data) : WriterRun Data → Prop where
  | quiet (event : Event Data)
      (other : ∀ task, event ≠ .complete task) :
      Turn settings run
        { run with
          pipeline := BatchPipeline.step settings run.pipeline event }
  | settled (task : Nat) (batch acks naks : List QueuedMessageWrite)
      (flying : task ∈ run.pipeline.inFlight)
      (handed : run.pipeline.handed[task]? = some batch)
      (settles : Settles batch acks naks) :
      Turn settings run
        { pipeline :=
            BatchPipeline.step settings run.pipeline (.complete task)
          acks := run.acks ++ acks
          naks := run.naks ++ naks }

/-- The batch of a task. -/
def batchOf {Data : Type} (state : State Data) (task : Nat) :
    List QueuedMessageWrite :=
  (state.handed[task]?).getD []

/-- The answers are those of the finished tasks. -/
structure Answered {Data : Type} (settings : Settings Data)
    (run : WriterRun Data) : Prop where
  orderly : Orderly settings run.pipeline
  tasks :
    (run.pipeline.finished ++ run.pipeline.inFlight).Perm
      (List.range run.pipeline.handed.length)
  answers :
    (run.acks ++ run.naks).Perm
      (run.pipeline.finished.flatMap (batchOf run.pipeline))

section Answers

variable {Data : Type} {settings : Settings Data}
  {before after : State Data} {acks naks : List QueuedMessageWrite}

theorem tasks_of_starts
    (starts : Starts before after)
    (tasks :
      (before.finished ++ before.inFlight).Perm
        (List.range before.handed.length)) :
    (after.finished ++ after.inFlight).Perm
      (List.range after.handed.length) := by
  rcases starts with ⟨finished, started, handed, inFlight⟩
  have split :
      List.range (before.handed.length + started.length) =
        List.range before.handed.length ++
          List.range' before.handed.length started.length := by
    rw [List.range_eq_range', List.range_eq_range',
      List.range'_append_1.symm, Nat.zero_add]
  rw [finished, handed, inFlight, List.length_append, split,
    ← List.append_assoc]
  exact tasks.append_right _

/-- Batches that are handed over later are not those of finished tasks. -/
theorem answers_of_starts
    (starts : Starts before after)
    (tasks :
      (before.finished ++ before.inFlight).Perm
        (List.range before.handed.length)) :
    after.finished.flatMap (batchOf after) =
      before.finished.flatMap (batchOf before) := by
  rcases starts with ⟨finished, started, handed, _⟩
  rw [finished]
  apply List.flatMap_congr
  intro task member
  have below : task < before.handed.length := by
    simpa using tasks.mem_iff.mp (List.mem_append_left _ member)
  rw [batchOf, batchOf, handed, List.getElem?_append_left below]

theorem batches_flatten
    (state : State Data) :
    (List.range state.handed.length).flatMap (batchOf state) =
      state.handed.flatten := by
  have each :
      (List.range state.handed.length).map (batchOf state) =
        state.handed := by
    apply List.ext_getElem (by simp)
    intro task _ below
    simp [batchOf, below]
  rw [List.flatMap_def, each]

end Answers

theorem Turn.answered
    {Data : Type} {settings : Settings Data} {before after : WriterRun Data}
    (turn : Turn settings before after)
    (answered : Answered settings before) : Answered settings after := by
  cases turn with
  | quiet event other =>
      have starts :
          Starts before.pipeline
            (BatchPipeline.step settings before.pipeline event) :=
        step_starts other before.pipeline
      exact
        { orderly := answered.orderly.step event
          tasks := tasks_of_starts starts answered.tasks
          answers := by
            rw [answers_of_starts starts answered.tasks]
            exact answered.answers }
  | settled task batch acks naks flying handed settles =>
      have tasks :
          (before.pipeline.finished ++ [task] ++
              before.pipeline.inFlight.erase task).Perm
            (List.range before.pipeline.handed.length) := by
        rw [List.append_assoc]
        exact
          ((List.perm_cons_erase flying).symm.append_left _).trans
            answered.tasks
      have starts :
          Starts
            { before.pipeline with
              inFlight := before.pipeline.inFlight.erase task
              finished := before.pipeline.finished ++ [task] }
            (BatchPipeline.step settings before.pipeline
              (.complete task)) :=
        complete_starts flying
      refine
        { orderly := answered.orderly.step (.complete task)
          tasks := tasks_of_starts starts tasks
          answers := ?_ }
      rw [answers_of_starts starts tasks, List.flatMap_append]
      refine
        (perm_halves _ _ _ _).trans
          (List.Perm.append answered.answers ?_)
      have isBatch : batchOf before.pipeline task = batch := by
        rw [batchOf, handed]
        rfl
      rw [List.flatMap_singleton]
      exact isBatch ▸ settles.once.2.2

theorem Answered.start {Data : Type} (settings : Settings Data) :
    Answered settings WriterRun.start where
  orderly := Orderly.start settings
  tasks := List.Perm.refl _
  answers := List.Perm.refl _

/--
In every run of the writer, with any number of handlers in flight, no
message that was decoded is answered twice, and when `close` has resolved
each of them has exactly one answer.
-/
theorem writer_settles_once
    {Data : Type} {settings : Settings Data} {run : WriterRun Data}
    (reached :
      Relation.ReflTransGen (Turn settings) WriterRun.start run) :
    (run.acks ++ run.naks).Subperm run.pipeline.decoded ∧
      (run.pipeline.closing = .resolved →
        (run.acks ++ run.naks).Perm run.pipeline.decoded) := by
  have answered : Answered settings run := by
    induction reached with
    | refl => exact Answered.start settings
    | tail _ turn induction => exact turn.answered induction
  have batches :
      (run.acks ++ run.naks ++
          run.pipeline.inFlight.flatMap (batchOf run.pipeline)).Perm
        run.pipeline.handed.flatten := by
    rw [← batches_flatten]
    refine (answered.answers.append_right _).trans ?_
    rw [← List.flatMap_append]
    exact answered.tasks.flatMap_right _
  have decoded := answered.orderly.decoded
  constructor
  · have inBatches :
        (run.acks ++ run.naks).Subperm run.pipeline.handed.flatten :=
      (List.sublist_append_left _ _).subperm.trans batches.subperm
    rw [decoded, List.append_assoc]
    exact inBatches.trans (List.sublist_append_left _ _).subperm
  · intro resolved
    rcases answered.orderly.drained resolved with ⟨pending, flying⟩
    have flushed :=
      (answered.orderly.flushed (Or.inr resolved)).2
    rw [flying] at batches
    rw [decoded, pending, flushed]
    simpa using batches

/-- Batches of one message, and a message that decodes. -/
def exampleSettings : Settings Unit where
  batchSize := 1
  batchConcurrency := 1
  batchFlushMs := 0
  maxDeliveryAttempts := 5
  decodeMessageWriteCommand := fun _ => some exampleCommand

def exampleMsg : JsMsg Unit where
  seq := 1
  data := ()
  deliveryCount := some 1
  ackFails := false

def secondMsg : JsMsg Unit :=
  { exampleMsg with seq := 2 }

def secondEntry : QueuedMessageWrite :=
  { exampleEntry with msg := 2 }

/-- A message is stored and the next one rejected, then the writer closes. -/
theorem writer_settles_once_both :
    let closed :=
      run (BatchPipeline.step exampleSettings) State.start
        [.arrive exampleMsg, .complete 0, .arrive secondMsg, .complete 1,
          .close, .messagesClosed, .loopEnds, .loopAwaited]
    closed.closing = .resolved ∧
      ([exampleEntry] ++ [secondEntry]).Perm closed.decoded := by
  intro closed
  have turns :
      Relation.ReflTransGen (Turn exampleSettings) WriterRun.start
        { pipeline := closed
          acks := [exampleEntry]
          naks := [secondEntry] } :=
    ((((((((Relation.ReflTransGen.refl.tail
                (.quiet (.arrive exampleMsg) (by simp))).tail
              (.settled 0 [exampleEntry] [exampleEntry] [] (by decide) rfl
                (.whole [exampleEntry]))).tail
            (.quiet (.arrive secondMsg) (by simp))).tail
          (.settled 1 [secondEntry] [] [secondEntry] (by decide) rfl
            (.nak secondEntry))).tail
        (.quiet .close (by simp))).tail
      (.quiet .messagesClosed (by simp))).tail
    (.quiet .loopEnds (by simp))).tail (.quiet .loopAwaited (by simp)))
  exact ⟨rfl, (writer_settles_once turns).2 rfl⟩

end ChatBackend.Writer.Settlements
