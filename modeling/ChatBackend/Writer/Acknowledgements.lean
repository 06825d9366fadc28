import ChatBackend.Writer.MeteredHandling
import ChatBackend.Writer.RecordedCommands

/-!
# Acknowledged commands

The queue forgets a command once its entry is acknowledged, so a command that
is acknowledged without being recorded is lost.  `NeverLost` says that this
has not happened.

It happens in two ways.  On the last delivery attempt an entry is acknowledged
also when its dead letter could not be written.  And two commands whose keys
are spelled alike count as duplicates, so that only the first one is stored.
`LossFree` excludes both for one attempt of the handler, and
`never_lost_iff` shows that nothing else loses a command.
-/

namespace ChatBackend.Writer.Acknowledgements

open ChatBackend.Foundation.EventRuns
open ChatBackend.Storage.Schema
open ChatBackend.Storage.SequenceMigration
open ChatBackend.Storage.TableInvariants
open ChatBackend.Writer.WriteCommands
open ChatBackend.Writer.BatchTransaction
open ChatBackend.Writer.BatchSpecification
open ChatBackend.Writer.BatchInvariants
open ChatBackend.Writer.DeadLetters
open ChatBackend.Writer.OutboxDrain
open ChatBackend.Writer.BatchHandling
open ChatBackend.Writer.InboxAcceptance
open ChatBackend.Writer.MeteredHandling
open ChatBackend.Writer.RecordedCommands

/-! ## Loss of commands -/

/-- From its acknowledgement on, every command is recorded. -/
def NeverLost (final : WriterState) : Prop :=
  ∀ ack ∈ final.acks,
    Recorded ack.database ack.entry.command.key ∧
      Recorded final.database ack.entry.command.key

instance (db : Database) (key : WriteKey) :
    Decidable (Recorded db key) :=
  inferInstanceAs (Decidable (_ ∨ _))

/-- The outages that are left after the transaction of an entry. -/
def outagesAfter
    (engine : Engine) (state : WriterState)
    (entry : QueuedMessageWrite) : Stream' Bool :=
  (attemptMessageWriteCommands engine [entry.command]
    entry.command.originConnectionId state).2.outages

/--
A batch that goes through drops no unrecorded command as a duplicate of
another key.  When the transaction of an unrecorded entry fails on the last
attempt, its dead letter is written, unless the drain fails afterwards and the
entry is not acknowledged.
-/
def LossFree
    (engine : Engine) (settings : WriterSettings)
    (state : MeteredWriter) : WriterEvent → Prop
  | .batch batch =>
      (tryMessageBatch engine settings batch state.writer).1 = true →
        ∀ deduped,
          dedupeMessageWriteCommands
              (batch.map QueuedMessageWrite.command) =
            .ok deduped →
          ∀ entry ∈ batch,
            Recorded state.writer.database entry.command.key ∨
              entry.command.key ∈ deduped.map MessageWriteCommand.key
  | .single entry =>
      isFinalAttempt settings entry = true →
        ¬ Recorded state.writer.database entry.command.key →
          entryCommits engine state.writer entry = false →
            drainSucceeds engine settings state.writer
                (.single entry) = true →
              ¬ DeadLetterFails (outagesAfter engine state.writer entry)
                state.writer.database entry.command
  | .elsewhere _ => True

/-! ## What the calls of the handler keep -/

section Calls

variable {engine : Engine} {settings : WriterSettings}
  {state : WriterState}

theorem attempt_acks
    (engine : Engine) (commands : List MessageWriteCommand)
    (origin : Option ConnectionId) (state : WriterState) :
    (attemptMessageWriteCommands engine commands origin state).2.acks =
      state.acks := by
  cases attempted :
      attemptMessageWriteCommands engine commands origin state with
  | mk outcome after =>
      cases outcome with
      | ok messages => exact (attempt_ok attempted).2.1
      | error failure => exact (attempt_error attempted).2.1

theorem finishDrain_kept
    (engine : Engine) (drain : Drain) (state : WriterState) :
    OutboxOnly state.database
        (finishDrain engine drain state).2.database ∧
      (finishDrain engine drain state).2.acks = state.acks := by
  fun_induction finishDrain engine drain state with
  | case1 drain state unfinished outcome induction =>
      have step :=
        drainStep_outboxOnly engine state.clock.head
          (!state.outages.head) state.database drain
      exact ⟨step.trans induction.1, induction.2⟩
  | case2 drain state finished => exact ⟨OutboxOnly.refl _, rfl⟩

/-- A drain changes the outbox and the progress of write rows only. -/
theorem fanout_kept
    (engine : Engine) (settings : WriterSettings) (limit : Int)
    (state : WriterState) :
    OutboxOnly state.database
        (fanout engine settings limit state).2.database ∧
      (fanout engine settings limit state).2.acks = state.acks := by
  unfold fanout
  split
  · exact ⟨OutboxOnly.refl _, rfl⟩
  · unfold drainMessageOutbox
    split
    · exact ⟨OutboxOnly.refl _, rfl⟩
    · have started :=
        startDrain_outboxOnly engine state.clock.head
          { publisher := settings.publisher, limit := some limit }
          (!state.outages.head) state.database
      rcases finishDrain_kept engine
          (startDrain engine state.clock.head
            { publisher := settings.publisher, limit := some limit }
            (!state.outages.head) state.database).1
          { state with
            database :=
              (startDrain engine state.clock.head
                { publisher := settings.publisher, limit := some limit }
                (!state.outages.head) state.database).2
            clock := state.clock.tail
            outages := state.outages.tail } with
        ⟨finished, acks⟩
      exact ⟨started.trans finished, acks⟩

/-- The commands of a committed call are recorded, or were dropped. -/
theorem attempt_recorded
    {commands : List MessageWriteCommand}
    {origin : Option ConnectionId} {messages : List MessageDto}
    {after : WriterState}
    (sound : Sound state.database)
    (succeeded :
      attemptMessageWriteCommands engine commands origin state =
        (.ok messages, after)) :
    Sound after.database ∧ Grows state.database after.database ∧
      ∃ deduped,
        dedupeMessageWriteCommands commands = .ok deduped ∧
          ∀ key,
            Recorded after.database key ↔
              Recorded state.database key ∨
                key ∈ deduped.map MessageWriteCommand.key := by
  have processed := (attempt_ok succeeded).1
  refine ⟨processMessageWriteCommands_sound sound processed, ?_⟩
  by_cases empty : commands = []
  · subst empty
    rw [processMessageWriteCommands_nil, Except.ok.injEq] at processed
    rw [← (Prod.mk.inj processed).1]
    refine ⟨Grows.refl _, [], rfl, by simp⟩
  · rcases batch_result sound empty processed with
      ⟨deduped, noConflict, _, accepted, committed, _⟩
    rw [committed]
    refine ⟨batchResult_grows engine _ _ _, deduped, noConflict, ?_⟩
    intro key
    rw [batchResult_recorded, messageWriteInput_keys]

end Calls

/-! ## Acknowledgements along a run -/

/-- Every acknowledged command was recorded when it was acknowledged. -/
def AcksRecorded (state : WriterState) : Prop :=
  ∀ ack ∈ state.acks, Recorded ack.database ack.entry.command.key

/-- The tables are sound and have grown since every acknowledgement. -/
structure Kept (state : WriterState) : Prop where
  sound : Sound state.database
  acked : ∀ ack ∈ state.acks, Grows ack.database state.database

theorem Kept.neverLost_iff {state : WriterState} (kept : Kept state) :
    NeverLost state ↔ AcksRecorded state := by
  constructor
  · exact fun never ack member => (never ack member).1
  · intro recorded ack member
    exact
      ⟨recorded ack member,
        (kept.acked ack member).recorded (recorded ack member)⟩

section Steps

variable {engine : Engine} {settings : WriterSettings}
  {state after : WriterState} {batch : List QueuedMessageWrite}
  {entry : QueuedMessageWrite}

/-- A change of the tables on the way to the next acknowledgement. -/
structure Advances (state after : WriterState) : Prop where
  sound : Sound after.database
  grows : Grows state.database after.database
  acks : after.acks = state.acks

theorem Kept.advance
    (kept : Kept state) (advances : Advances state after) :
    Kept after where
  sound := advances.sound
  acked := by
    intro ack member
    rw [advances.acks] at member
    exact (kept.acked ack member).trans advances.grows

theorem Kept.ack (kept : Kept state) : Kept (state.ack entry) where
  sound := kept.sound
  acked := by
    intro ack member
    rcases List.mem_append.mp member with old | new
    · exact kept.acked ack old
    · rw [List.mem_singleton] at new
      rw [new]
      exact Grows.refl _

theorem Kept.ackAll (kept : Kept state) :
    Kept (batch.foldl WriterState.ack state) := by
  induction batch generalizing state with
  | nil => exact kept
  | cons entry rest induction => exact induction kept.ack

theorem acksRecorded_ack_iff :
    AcksRecorded (state.ack entry) ↔
      AcksRecorded state ∧ Recorded state.database entry.command.key := by
  simp [AcksRecorded, WriterState.ack, or_imp, forall_and]

theorem acksRecorded_ackAll_iff :
    AcksRecorded (batch.foldl WriterState.ack state) ↔
      AcksRecorded state ∧
        ∀ entry ∈ batch, Recorded state.database entry.command.key := by
  induction batch generalizing state with
  | nil => simp
  | cons entry rest induction =>
      rw [List.foldl_cons, induction, acksRecorded_ack_iff, and_assoc]
      simp [WriterState.ack]

theorem acksRecorded_of_advances (advances : Advances state after) :
    AcksRecorded after ↔ AcksRecorded state := by
  rw [AcksRecorded, AcksRecorded, advances.acks]

theorem Advances.trans
    {middle : WriterState} (first : Advances state middle)
    (second : Advances middle after) : Advances state after :=
  ⟨second.sound, first.grows.trans second.grows,
    second.acks.trans first.acks⟩

theorem fanout_advances
    (engine : Engine) (settings : WriterSettings)
    (sound : Sound state.database) (limit : Int) :
    Advances state (fanout engine settings limit state).2 := by
  rcases fanout_kept engine settings limit state with ⟨kept, acks⟩
  exact ⟨kept.sound sound, kept.grows, acks⟩

theorem fanout_recorded_iff
    (engine : Engine) (settings : WriterSettings) (limit : Int)
    (state : WriterState) (key : WriteKey) :
    Recorded (fanout engine settings limit state).2.database key ↔
      Recorded state.database key :=
  have kept := (fanout_kept engine settings limit state).1
  ⟨kept.recorded key, kept.grows.recorded⟩

/-! ## One attempt with a batch -/

/-- What is recorded when the `try` block succeeds: what was kept. -/
theorem tryMessageBatch_kept
    (engine : Engine) (settings : WriterSettings)
    (batch : List QueuedMessageWrite) (sound : Sound state.database) :
    Advances state (tryMessageBatch engine settings batch state).2 ∧
      ((tryMessageBatch engine settings batch state).1 = true →
        ∃ deduped,
          dedupeMessageWriteCommands
                (batch.map QueuedMessageWrite.command) =
              .ok deduped ∧
            ∀ key,
              Recorded
                  (tryMessageBatch engine settings batch
                    state).2.database
                  key ↔
                Recorded state.database key ∨
                  key ∈ deduped.map MessageWriteCommand.key) := by
  unfold tryMessageBatch
  cases attempted :
      attemptMessageWriteCommands engine
        (batch.map QueuedMessageWrite.command) none state with
  | mk outcome committed =>
      cases outcome with
      | error failure =>
          rcases attempt_error attempted with ⟨unchanged, acks, _⟩
          refine ⟨⟨unchanged ▸ sound, ?_, acks⟩, by simp⟩
          rw [unchanged]
          exact Grows.refl _
      | ok messages =>
          rcases attempt_recorded sound attempted with
            ⟨soundAfter, grows, deduped, noConflict, recorded⟩
          have committing : Advances state committed :=
            ⟨soundAfter, grows, (attempt_ok attempted).2.1⟩
          refine
            ⟨committing.trans
                (fanout_advances engine settings soundAfter _),
              fun _ => ⟨deduped, noConflict, fun key => ?_⟩⟩
          rw [fanout_recorded_iff, recorded]

/-- A batch loses nothing exactly if it drops nothing that is unrecorded. -/
theorem batch_recorded_iff
    (sound : Sound state.database) (recorded : AcksRecorded state) :
    AcksRecorded
        (if (tryMessageBatch engine settings batch state).1 then
          batch.foldl WriterState.ack
            (tryMessageBatch engine settings batch state).2
        else (tryMessageBatch engine settings batch state).2) ↔
      LossFree engine settings { writer := state } (.batch batch) := by
  rcases tryMessageBatch_kept engine settings batch sound with
    ⟨advances, kept⟩
  have before := (acksRecorded_of_advances advances).mpr recorded
  rw [LossFree]
  split
  · rename_i succeeded
    rcases kept succeeded with ⟨deduped, noConflict, after⟩
    rw [acksRecorded_ackAll_iff]
    constructor
    · rintro ⟨_, all⟩ _ other sameDeduped entry member
      rw [noConflict, Except.ok.injEq] at sameDeduped
      subst sameDeduped
      exact (after _).mp (all entry member)
    · intro free
      exact
        ⟨before, fun entry member =>
          (after _).mpr (free succeeded deduped noConflict entry member)⟩
  · rename_i failed
    exact ⟨fun _ succeeded => (failed succeeded).elim, fun _ => before⟩

/-! ## One attempt with an entry -/

/-- An entry handled alone: a nak, or an ack after its drain. -/
theorem single_cases
    (engine : Engine) (settings : WriterSettings)
    (entry : QueuedMessageWrite) (state : WriterState) :
    let processed := processMessageWriteCommand engine settings entry state
    let drained := fanout engine settings 100 processed.2
    handleSingleMessageWrite engine settings entry state =
      match processed.1 with
      | .error _ => processed.2.nak entry
      | .ok _ =>
          if drained.1 then drained.2.ack entry
          else drained.2.nak entry := by
  unfold handleSingleMessageWrite
  rcases processMessageWriteCommand engine settings entry state with
    ⟨failure | message, after⟩
  · rfl
  · dsimp only
    rcases fanout engine settings 100 after with ⟨succeeded, drained⟩
    cases succeeded <;> rfl

/--
Processing an entry records it, unless the transaction fails on the last
attempt and the dead letter is not written either.
-/
theorem process_kept
    (engine : Engine) (settings : WriterSettings)
    (entry : QueuedMessageWrite) (sound : Sound state.database) :
    let processed := processMessageWriteCommand engine settings entry state
    Advances state processed.2 ∧
      match processed.1 with
      | .error _ => isFinalAttempt settings entry = false
      | .ok _ =>
          Recorded processed.2.database entry.command.key ↔
            (isFinalAttempt settings entry = true →
              ¬ Recorded state.database entry.command.key →
                entryCommits engine state entry = false →
                  ¬ DeadLetterFails (outagesAfter engine state entry)
                    state.database entry.command) := by
  unfold processMessageWriteCommand entryCommits outagesAfter
  cases attempted :
      attemptMessageWriteCommands engine [entry.command]
        entry.command.originConnectionId state with
  | mk outcome after =>
      cases outcome with
      | ok messages =>
          rcases attempt_recorded sound attempted with
            ⟨soundAfter, grows, deduped, noConflict, recorded⟩
          rw [dedupe_singleton, Except.ok.injEq] at noConflict
          have isRecorded : Recorded after.database entry.command.key :=
            (recorded _).mpr (Or.inr (by simp [← noConflict]))
          refine
            ⟨⟨soundAfter, grows, (attempt_ok attempted).2.1⟩, ?_⟩
          exact ⟨fun _ _ _ => Bool.noConfusion, fun _ => isRecorded⟩
      | error failure =>
          rcases attempt_error attempted with ⟨unchanged, acks, _⟩
          have soundAfter : Sound after.database := unchanged ▸ sound
          by_cases final : isFinalAttempt settings entry = true
          · simp only [if_pos final]
            have marks :=
              markMessageWriteCommandDead_cases engine after.clock.head
                after.outages after.database entry.command failure
            have kept :
                Sound
                    (markMessageWriteCommandDead engine after.clock.head
                      after.outages after.database entry.command
                      failure).1 ∧
                  Grows after.database
                    (markMessageWriteCommandDead engine after.clock.head
                      after.outages after.database entry.command
                      failure).1 := by
              rcases marks with same | written
              · rw [same]
                exact ⟨soundAfter, Grows.refl _⟩
              · rw [written]
                exact
                  ⟨writeDeadLetter_sound soundAfter _,
                    writeDeadLetter_grows engine _ _ _ _ _⟩
            rw [unchanged] at kept
            refine ⟨⟨?_, ?_, acks⟩, ?_⟩
            · rw [unchanged]
              exact kept.1
            · rw [unchanged]
              exact kept.2
            · rw [unchanged]
              by_cases before : Recorded state.database entry.command.key
              · exact
                  ⟨fun _ _ unrecorded => (unrecorded before).elim,
                    fun _ => kept.2.recorded before⟩
              · rw [deadLetter_recorded_iff before]
                exact
                  ⟨fun written _ _ _ => written,
                    fun free => free final before rfl⟩
          · simp only [if_neg final]
            refine ⟨⟨soundAfter, ?_, acks⟩, Bool.eq_false_iff.mpr final⟩
            rw [unchanged]
            exact Grows.refl _

theorem single_kept
    (engine : Engine) (settings : WriterSettings)
    (entry : QueuedMessageWrite) (kept : Kept state) :
    Kept (handleSingleMessageWrite engine settings entry state) := by
  rcases process_kept engine settings entry kept.sound with
    ⟨advances, _⟩
  have processed := kept.advance advances
  have drained :=
    processed.advance
      (fanout_advances engine settings processed.sound 100)
  rw [single_cases]
  split
  · exact ⟨processed.sound, processed.acked⟩
  · split
    · exact drained.ack
    · exact ⟨drained.sound, drained.acked⟩

/-- An entry is lost exactly if its dead letter fails before its ack. -/
theorem single_recorded_iff
    (sound : Sound state.database) (recorded : AcksRecorded state) :
    AcksRecorded (handleSingleMessageWrite engine settings entry state) ↔
      LossFree engine settings { writer := state } (.single entry) := by
  rcases process_kept engine settings entry sound with
    ⟨advances, result⟩
  have drained :=
    advances.trans (fanout_advances engine settings advances.sound 100)
  have before := (acksRecorded_of_advances drained).mpr recorded
  rw [single_cases, LossFree, drainSucceeds, afterTransaction]
  split at result
  · rename_i failure failed
    dsimp only
    refine ⟨fun _ final => ?_, fun _ => ?_⟩
    · rw [result] at final
      cases final
    · exact (acksRecorded_of_advances advances).mpr recorded
  · rename_i message succeeded
    dsimp only
    split
    · rename_i drains
      rw [acksRecorded_ack_iff, fanout_recorded_iff, result]
      exact
        ⟨fun free final unrecorded fails _ =>
            free.2 final unrecorded fails,
          fun free =>
            ⟨before, fun final unrecorded fails =>
              free final unrecorded fails drains⟩⟩
    · rename_i stops
      exact
        ⟨fun _ _ _ _ drains => (stops drains).elim, fun _ => before⟩

end Steps

/-! ## Runs -/

/-- Other clients keep off while a batch is handled. -/
def WriterEvent.Own : WriterEvent → Prop
  | .elsewhere _ => False
  | _ => True

section Runs

variable (engine : Engine) (settings : WriterSettings)

theorem step_kept
    (state : MeteredWriter) (event : WriterEvent)
    (own : WriterEvent.Own event) (kept : Kept state.writer) :
    Kept (state.step engine settings event).writer := by
  cases event with
  | elsewhere database => exact own.elim
  | single entry =>
      rw [MeteredWriter.step, handleSingleMessageWrite_writer]
      exact single_kept engine settings entry kept
  | batch batch =>
      have advances :=
        (tryMessageBatch_kept engine settings batch kept.sound).1
      rw [step_batch_writer]
      split
      · exact (kept.advance advances).ackAll
      · exact kept.advance advances

theorem step_recorded_iff
    (state : MeteredWriter) (event : WriterEvent)
    (own : WriterEvent.Own event) (kept : Kept state.writer)
    (recorded : AcksRecorded state.writer) :
    AcksRecorded (state.step engine settings event).writer ↔
      LossFree engine settings state event := by
  cases event with
  | elsewhere database => exact own.elim
  | single entry =>
      rw [MeteredWriter.step, handleSingleMessageWrite_writer]
      exact single_recorded_iff kept.sound recorded
  | batch batch =>
      rw [step_batch_writer]
      exact batch_recorded_iff kept.sound recorded

/-- Acknowledgements are never taken back. -/
theorem acks_subset_step
    (state : MeteredWriter) (event : WriterEvent) :
    state.writer.acks ⊆ (state.step engine settings event).writer.acks := by
  cases event with
  | elsewhere database => exact List.Subset.refl _
  | single entry =>
      have processed :
          (processMessageWriteCommand engine settings entry
              state.writer).2.acks =
            state.writer.acks := by
        have acks :=
          attempt_acks engine [entry.command]
            entry.command.originConnectionId state.writer
        unfold processMessageWriteCommand
        split
        · rename_i attempted
          rw [attempted] at acks
          exact acks
        · rename_i attempted
          rw [attempted] at acks
          split <;> exact acks
      have drained :=
        (fanout_kept engine settings 100
          (processMessageWriteCommand engine settings entry
            state.writer).2).2
      rw [MeteredWriter.step, handleSingleMessageWrite_writer,
        single_cases]
      rw [processed] at drained
      split
      · rw [WriterState.nak, processed]
        exact List.Subset.refl _
      · split
        · rw [WriterState.ack, drained]
          exact List.subset_append_left _ _
        · rw [WriterState.nak, drained]
          exact List.Subset.refl _
  | batch batch =>
      have tried :
          (tryMessageBatch engine settings batch state.writer).2.acks =
            state.writer.acks := by
        have acks :=
          attempt_acks engine (batch.map QueuedMessageWrite.command) none
            state.writer
        unfold tryMessageBatch
        split
        · rename_i attempted
          rw [attempted] at acks
          exact acks
        · rename_i attempted
          rw [attempted] at acks
          exact (fanout_kept engine settings _ _).2.trans acks
      rw [step_batch_writer]
      split
      · rw [ackAll_acks, tried]
        exact List.subset_append_left _ _
      · rw [tried]
        exact List.Subset.refl _

/--
A call of `handleMessageBatch` loses no command exactly if each of its
attempts is free of loss: no committed batch drops an unrecorded command as a
duplicate of another key, and no dead letter of an unrecorded command fails
before the entry is acknowledged.
-/
theorem never_lost_iff
    (batch : List QueuedMessageWrite) {db : Database} (sound : Sound db)
    (clock : Stream' Timestamp) (outages : Stream' Bool) :
    NeverLost
        (handleMessageBatch engine settings batch
          (.begin db clock outages)) ↔
      EveryStep (MeteredWriter.step engine settings)
        (LossFree engine settings) { writer := .begin db clock outages }
        (MeteredWriter.attempts engine settings batch
          { writer := .begin db clock outages }) := by
  let start : MeteredWriter := { writer := .begin db clock outages }
  let attempts := start.attempts engine settings batch
  have own :
      EveryStep (MeteredWriter.step engine settings)
        (fun _ event => WriterEvent.Own event) start attempts := by
    refine everyStep_of_forall (fun _ event member => ?_) start
    rcases attempts_own engine settings batch start event member with
      ⟨part, rfl, _⟩ | ⟨entry, _, rfl⟩ <;> trivial
  have begun : Kept start.writer :=
    ⟨sound, by simp [start, WriterState.begin]⟩
  have nothing : AcksRecorded start.writer := by
    simp [AcksRecorded, start, WriterState.begin]
  have final :
      handleMessageBatch engine settings batch start.writer =
        (run (MeteredWriter.step engine settings) start
          attempts).writer := by
    rw [run_attempts, handleMessageBatch_writer]
  have kept :
      Kept
        (run (MeteredWriter.step engine settings) start
          attempts).writer :=
    @run_guarded _ _ _ (fun state => Kept state.writer)
      (fun _ event => WriterEvent.Own event)
      (fun state event keeps isOwn =>
        step_kept engine settings state event isOwn keeps)
      start begun attempts own
  change
    NeverLost (handleMessageBatch engine settings batch start.writer) ↔ _
  rw [final, kept.neverLost_iff]
  have everyStep :=
    @everyStep_iff_run _ _ (MeteredWriter.step engine settings)
      (fun state => AcksRecorded state.writer)
      (fun state event recorded ack member =>
        recorded ack (acks_subset_step engine settings state event member))
      start nothing attempts
  rw [← everyStep]
  exact
    @everyStep_iff_assumed _ _ _
      (fun state => Kept state.writer ∧ AcksRecorded state.writer)
      (fun _ event => WriterEvent.Own event) (LossFree engine settings) _
      (fun state event keeps isOwn free =>
        ⟨step_kept engine settings state event isOwn keeps.1,
          (step_recorded_iff engine settings state event isOwn keeps.1
            keeps.2).mpr free⟩)
      (fun state event keeps isOwn =>
        step_recorded_iff engine settings state event isOwn keeps.1
          keeps.2)
      start ⟨begun, nothing⟩ attempts own

end Runs

/-- The first delivery of a command. -/
def exampleEntry : QueuedMessageWrite :=
  { msg := 1, command := exampleCommand, deliveryAttempt := 1 }

/-- Both transactions of a last delivery fail, then the outage is over. -/
def exampleOutage : WriterState :=
  .begin (migrate exampleEngine exampleTables) (Stream'.const 2000)
    (Stream'.cons true (Stream'.cons true (Stream'.const false)))

/-- The dead letter of the entry is written before it is acknowledged. -/
theorem never_lost_iff_dead_letter :
    NeverLost
      (handleMessageBatch exampleEngine { disableFanout := true }
        [{ exampleEntry with deliveryAttempt := 5 }] exampleOutage) := by
  refine
    (never_lost_iff exampleEngine { disableFanout := true } _
        (migrate_sound exampleEngine exampleTables) _ _).mpr ?_
  rw [attempts_singleton, if_neg (by decide)]
  refine ⟨fun succeeded => ?_, fun _ _ _ _ => by decide, trivial⟩
  exact absurd succeeded (by decide)

/-- The last delivery of a command for a room that does not exist. -/
def lostEntry : QueuedMessageWrite :=
  { msg := 1
    command := { exampleCommand with roomId := "nowhere" }
    deliveryAttempt := 5 }

/-- Without any outage the entry is acknowledged and nowhere recorded. -/
theorem missing_room_is_lost :
    let final :=
      handleMessageBatch exampleEngine { disableFanout := true }
        [lostEntry]
        (.begin (migrate exampleEngine exampleTables)
          (Stream'.const 2000) (Stream'.const false))
    ¬ NeverLost final ∧
      final.acks.map Acknowledgement.entry = [lostEntry] ∧
        ¬ Recorded final.database lostEntry.command.key := by
  let start : WriterState :=
    .begin (migrate exampleEngine exampleTables)
      (Stream'.const 2000) (Stream'.const false)
  let failed :=
    (tryMessageBatch exampleEngine { disableFanout := true } [lostEntry]
      start).2
  have handled :
      handleMessageBatch exampleEngine { disableFanout := true }
          [lostEntry] start =
        handleSingleMessageWrite exampleEngine { disableFanout := true }
          lostEntry failed := by
    have tried :
        (tryMessageBatch exampleEngine { disableFanout := true }
            [lostEntry] start).1 = false := by
      decide
    rcases handleMessageBatch_cases exampleEngine
        { disableFanout := true } [lostEntry] start with
      ⟨after, succeeded, _⟩ |
        ⟨after, tried', ⟨several, _⟩ | ⟨empty, _⟩ | ⟨entry, same, eq⟩⟩
    · rw [succeeded] at tried
      cases tried
    · simp at several
    · cases empty
    · cases same
      rw [eq]
      simp only [failed, tried']
  have acked :
      (handleSingleMessageWrite exampleEngine { disableFanout := true }
            lostEntry failed).acks.map Acknowledgement.entry =
        [lostEntry] := by
    decide
  have lost :
      ¬ Recorded
        (handleSingleMessageWrite exampleEngine { disableFanout := true }
          lostEntry failed).database
        lostEntry.command.key := by
    decide
  rw [← handled] at acked lost
  refine ⟨?_, acked, lost⟩
  intro never
  have inAcks :
      lostEntry ∈
        (handleMessageBatch exampleEngine { disableFanout := true }
          [lostEntry] start).acks.map Acknowledgement.entry := by
    rw [acked]
    exact List.mem_cons_self
  rcases List.mem_map.mp inAcks with ⟨ack, member, sameEntry⟩
  exact lost (sameEntry ▸ (never ack member).2)

end ChatBackend.Writer.Acknowledgements
