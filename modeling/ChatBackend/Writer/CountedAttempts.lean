import ChatBackend.Writer.Acknowledgements
import ChatBackend.Writer.MeteredHandling

/-!
# What the counters of the writer count

`messages_created` should be the number of message rows that the transactions
of the writer inserted, and `dead_commands` the number of commands that were
given up on their last delivery attempt without a message row.  A ledger
beside the writer keeps both.

The counters move after the drain of the outbox, so a drain that fails leaves
what its transaction did uncounted.  And an entry handled alone on its last
attempt counts as dead whenever no message comes back, also when its message
row exists already.  `Counted` excludes both, and
`writer_counters_match_iff` shows that the counters match after every attempt
under exactly this condition.
-/

namespace ChatBackend.Writer.CountedAttempts

open ChatBackend.Foundation.EventRuns
open ChatBackend.Storage.Schema
open ChatBackend.Storage.SequenceMigration
open ChatBackend.Storage.TableInvariants
open ChatBackend.Writer.WriteCommands
open ChatBackend.Writer.BatchTransaction
open ChatBackend.Writer.BatchSpecification
open ChatBackend.Writer.BatchInvariants
open ChatBackend.Writer.DeadLetters
open ChatBackend.Writer.BatchHandling
open ChatBackend.Writer.MeteredHandling
open ChatBackend.Writer.Acknowledgements

/-! ## What an attempt does -/

/-- The message rows that were not there before. -/
def addedMessages (before after : Database) : List Message :=
  after.messages.filter fun message => message ∉ before.messages

def HasMessage (db : Database) (key : WriteKey) : Prop :=
  ∃ message ∈ db.messages, message.key? = some key

instance (db : Database) (key : WriteKey) :
    Decidable (HasMessage db key) :=
  inferInstanceAs (Decidable (∃ _ ∈ _, _))

/--
A transaction stores nothing for the command: a message has its id or its
key, or its write row is DEAD.
-/
def PassedOver (db : Database) (command : MessageWriteCommand) : Prop :=
  (∃ message ∈ db.messages,
      message.id = command.messageId ∨
        message.key? = some command.key) ∨
    ∃ write ∈ db.messageWrites,
      write.key = command.key ∧ write.status = .dead

instance (db : Database) (command : MessageWriteCommand) :
    Decidable (PassedOver db command) :=
  inferInstanceAs (Decidable (_ ∨ _))

/-- The message rows that the transaction of an attempt inserts. -/
def insertedMessages
    (engine : Engine) (settings : WriterSettings)
    (state : WriterState) (event : WriterEvent) : List Message :=
  addedMessages state.database
    (afterTransaction engine settings state event).database

/--
The command that an attempt gives up without a message row: its transaction
fails on the last delivery attempt.
-/
def givenUpCommands
    (engine : Engine) (settings : WriterSettings)
    (state : WriterState) : WriterEvent → List QueuedMessageWrite
  | .single entry =>
      if isFinalAttempt settings entry ∧
          ¬ entryCommits engine state entry ∧
          ¬ HasMessage state.database entry.command.key then
        [entry]
      else []
  | .batch _ => []
  | .elsewhere _ => []

/-! ## The ledger -/

/-- The writer, with what its attempts have done so far. -/
structure WriterLedger where
  metered : MeteredWriter
  inserted : List Message := []
  givenUp : List QueuedMessageWrite := []

/-- The ledger of a writer that starts. -/
def WriterLedger.begin
    (db : Database) (clock : Stream' Timestamp)
    (outages : Stream' Bool) : WriterLedger :=
  { metered := { writer := .begin db clock outages } }

def WriterLedger.step
    (engine : Engine) (settings : WriterSettings)
    (ledger : WriterLedger) (event : WriterEvent) : WriterLedger :=
  { metered := ledger.metered.step engine settings event
    inserted :=
      ledger.inserted ++
        insertedMessages engine settings ledger.metered.writer event
    givenUp :=
      ledger.givenUp ++
        givenUpCommands engine settings ledger.metered.writer event }

/-- Both counters agree with the ledger. -/
def CountersMatch (ledger : WriterLedger) : Prop :=
  ledger.metered.metrics.messagesCreated = ledger.inserted.length ∧
    ledger.metered.metrics.deadCommands = ledger.givenUp.length

instance (ledger : WriterLedger) : Decidable (CountersMatch ledger) :=
  inferInstanceAs (Decidable (_ ∧ _))

/--
The condition under which an attempt is counted as it should be.  Its drain
succeeds if there is something to count; and an entry that is handled alone
on its last attempt, with a drain that succeeds, has no message row yet, nor
anything else for which a transaction that commits passes it over.
-/
structure Counted
    (engine : Engine) (settings : WriterSettings)
    (ledger : WriterLedger) (event : WriterEvent) : Prop where
  drained :
    insertedMessages engine settings ledger.metered.writer event ≠ [] ∨
        givenUpCommands engine settings ledger.metered.writer event ≠
          [] →
      drainSucceeds engine settings ledger.metered.writer event = true
  unsettled :
    ∀ entry, event = .single entry →
      isFinalAttempt settings entry = true →
        drainSucceeds engine settings ledger.metered.writer event =
            true →
          ¬ HasMessage ledger.metered.writer.database
              entry.command.key ∧
            (entryCommits engine ledger.metered.writer entry = true →
              ¬ PassedOver ledger.metered.writer.database
                  entry.command)

/-! ## What a transaction inserts -/

section Transaction

variable {engine : Engine} {now : Timestamp} {db : Database}
  {deduped : List MessageWriteCommand} {input : List InputRow}

/-- Without a change of the messages none are added. -/
theorem addedMessages_of_same
    {before after : Database} (same : after.messages = before.messages) :
    addedMessages before after = [] := by
  simp [addedMessages, same]

@[simp]
theorem addedMessages_self (db : Database) : addedMessages db db = [] :=
  addedMessages_of_same rfl

/-- The rows that a batch adds are its new messages. -/
theorem addedMessages_batchResult
    (sound : Sound db)
    (accepted : BatchAccepted engine now db deduped input) :
    addedMessages db (batchResult engine now db input) =
      newMessages engine db input := by
  have fresh :
      ∀ message ∈ newMessages engine db input,
        decide (message ∉ db.messages) = true := by
    intro message member
    rw [decide_eq_true_eq]
    intro old
    have compatible :=
      newMessages_compatible sound.valid (sequencesBelow_of_sound sound)
        accepted.toWritesAccepted message member message old
    exact ((Message.conflicts_eq_false_iff _ _).mp compatible).1 rfl
  have known :
      ∀ message ∈ db.messages,
        ¬ decide (message ∉ db.messages) = true := by
    intro message member
    simp [member]
  change
    (db.messages ++ newMessages engine db input).filter
        (fun message => decide (message ∉ db.messages)) =
      newMessages engine db input
  rw [List.filter_append, List.filter_eq_nil_iff.mpr known,
    List.filter_eq_self.mpr fresh, List.nil_append]

theorem newRows_length
    (engine : Engine) (db : Database) (input : List InputRow) :
    (newRows engine db input).length =
      (newMessages engine db input).length := by
  simp [newRows, newMessages]

/-- The write row of a candidate belongs to a command of the batch. -/
theorem candidate_key
    {candidate : WriteRow × Nat}
    (member : candidate ∈ candidates engine (staged db input) input) :
    candidate.1.write ∈ (staged db input).messageWrites ∧
      candidate.1.write.key ∈ input.map InputRow.key := by
  rcases mem_writeRows.mp (mem_candidates member).1 with
    ⟨stored, source, sourceMember, sameKey, _⟩
  exact ⟨stored, List.mem_map.mpr ⟨source, sourceMember, sameKey⟩⟩

variable {command : MessageWriteCommand}

/-- A batch of one key inserts one message at most. -/
theorem newMessages_single_length
    (valid : db.Valid) (keys : input.map InputRow.key = [command.key]) :
    (newMessages engine db input).length ≤ 1 := by
  have unique : (input.map InputRow.key).Nodup := by
    rw [keys]
    exact List.nodup_singleton _
  have distinct :=
    candidates_column_nodup engine (staged db input) unique
      (staged_writeKeys valid unique)
  have same :
      (candidates engine (staged db input) input).map
          (fun candidate => candidate.1.write.key) =
        List.replicate
          (candidates engine (staged db input) input).length
          command.key := by
    rw [List.eq_replicate_iff]
    refine ⟨List.length_map _, ?_⟩
    intro key member
    rcases List.mem_map.mp member with ⟨candidate, candidateMember, rfl⟩
    have inInput := (candidate_key candidateMember).2
    rw [keys, List.mem_singleton] at inInput
    exact inInput
  rw [same, List.nodup_replicate] at distinct
  rw [newMessages, List.length_map]
  exact distinct

/-- A command that is not passed over gets its message. -/
theorem newMessages_ne_nil
    (keys : input.map InputRow.key = [command.key])
    (accepted : BatchAccepted engine now db [command] input)
    (notPassed : ¬ PassedOver db command) :
    newMessages engine db input ≠ [] := by
  rcases accepted.matched command List.mem_cons_self with
    ⟨write, stored, sameKey, sameId, _⟩
  have alive : write.status ≠ .dead := by
    intro dead
    rcases List.mem_append.mp stored with old | new
    · exact notPassed (Or.inr ⟨write, old, sameKey, dead⟩)
    · rcases (mem_newWrites.mp new).1 with ⟨source, _, rfl⟩
      cases dead
  have inInput : command.key ∈ input.map InputRow.key := by
    rw [keys]
    exact List.mem_singleton_self _
  rcases List.mem_map.mp inInput with ⟨source, sourceMember, sourceKey⟩
  have joined :
      (⟨write, source.originConnectionId⟩ : WriteRow) ∈
        writeRows (staged db input) input :=
    mem_writeRows.mpr
      ⟨stored, source, sourceMember, sourceKey.trans sameKey.symm, rfl⟩
  have offered :
      isCandidate (staged db input) ⟨write, source.originConnectionId⟩ =
        true := by
    rw [isCandidate_iff]
    refine ⟨alive, fun message member => ⟨?_, ?_⟩⟩
    · intro takesId
      exact
        notPassed
          (Or.inl ⟨message, member, Or.inl (takesId.trans sameId)⟩)
    · intro takesKey
      rw [sameKey] at takesKey
      exact notPassed (Or.inl ⟨message, member, Or.inr takesKey⟩)
  rcases exists_candidate engine joined offered with
    ⟨number, candidateMember⟩
  have inserted := mem_newMessages.mpr ⟨_, candidateMember, rfl⟩
  exact List.ne_nil_of_mem inserted

/-- A command that is passed over gets no message. -/
theorem newMessages_eq_nil
    (sound : Sound db) (keys : input.map InputRow.key = [command.key])
    (accepted : BatchAccepted engine now db [command] input)
    (passed : PassedOver db command) :
    newMessages engine db input = [] := by
  have unique : (input.map InputRow.key).Nodup := by
    rw [keys]
    exact List.nodup_singleton _
  have distinct := staged_writeKeys sound.valid unique
  rcases accepted.matched command List.mem_cons_self with
    ⟨write, stored, sameKey, sameId, _⟩
  rw [List.eq_nil_iff_forall_not_mem]
  intro message member
  rcases mem_newMessages.mp member with ⟨candidate, candidateMember, _⟩
  have own := candidate_key candidateMember
  rw [keys, List.mem_singleton] at own
  have offered :=
    isCandidate_iff.mp (mem_candidates candidateMember).2
  have sameWrite : candidate.1.write = write :=
    List.inj_on_of_nodup_map distinct own.1 stored
      (own.2.trans sameKey.symm)
  rw [sameWrite] at offered
  rcases passed with
    ⟨old, oldMember, takesId | takesKey⟩ |
      ⟨dead, deadMember, deadKey, isDead⟩
  · exact (offered.2 old oldMember).1 (takesId.trans sameId.symm)
  · exact
      (offered.2 old oldMember).2
        (takesKey.trans (congrArg some sameKey.symm))
  · have sameDead : dead = write :=
      List.inj_on_of_nodup_map distinct
        (List.mem_append_left _ deadMember) stored
        (deadKey.trans sameKey.symm)
    exact offered.1 (sameDead ▸ isDead)

end Transaction

section Attempts

variable {engine : Engine} {settings : WriterSettings}
  {state after : WriterState} {messages : List MessageDto}
  {commands : List MessageWriteCommand} {command : MessageWriteCommand}
  {origin : Option ConnectionId}

/-- A transaction that commits returns the messages that it inserted. -/
theorem attempt_inserts
    (sound : Sound state.database)
    (succeeded :
      attemptMessageWriteCommands engine commands origin state =
        (.ok messages, after)) :
    Sound after.database ∧
      (addedMessages state.database after.database).length =
        messages.length := by
  have processed := (attempt_ok succeeded).1
  refine ⟨processMessageWriteCommands_sound sound processed, ?_⟩
  by_cases empty : commands = []
  · subst empty
    rw [processMessageWriteCommands_nil, Except.ok.injEq] at processed
    rcases Prod.mk.inj processed with ⟨same, rfl⟩
    rw [← same, addedMessages_self]
    rfl
  · rcases batch_result sound empty processed with
      ⟨deduped, _, _, accepted, committed, rfl⟩
    rw [committed, addedMessages_batchResult sound accepted,
      List.length_map, List.length_insertionSort, newRows_length]

/-- The transaction of one command returns its message or nothing. -/
theorem attempt_single
    (sound : Sound state.database)
    (succeeded :
      attemptMessageWriteCommands engine [command] origin state =
        (.ok messages, after)) :
    messages.length ≤ 1 ∧
      (messages = [] ↔ PassedOver state.database command) := by
  have processed := (attempt_ok succeeded).1
  rcases batch_result sound (List.cons_ne_nil _ _) processed with
    ⟨deduped, noConflict, _, accepted, _, rfl⟩
  rw [dedupe_singleton, Except.ok.injEq] at noConflict
  subst noConflict
  have keys :
      (messageWriteInput [command] origin).map InputRow.key =
        [command.key] :=
    messageWriteInput_keys [command] origin
  rw [← List.length_eq_zero_iff, List.length_map,
    List.length_insertionSort, newRows_length, List.length_eq_zero_iff]
  refine ⟨newMessages_single_length sound.valid keys, ?_, ?_⟩
  · intro nothing
    by_contra notPassed
    exact newMessages_ne_nil keys accepted notPassed nothing
  · exact newMessages_eq_nil sound keys accepted

end Attempts

/-! ## What an attempt counts -/

section Counts

variable {engine : Engine} {settings : WriterSettings}
  {state : MeteredWriter} {after : WriterState}

theorem isFinalAttempt_iff
    {entry : QueuedMessageWrite} (numbered : 1 ≤ entry.deliveryAttempt) :
    isFinalAttempt settings entry = true ↔
      entry.deliveryAttempt ≥ settings.maxDeliveryAttempts := by
  simp only [isFinalAttempt, decide_eq_true_eq]
  omega

/--
An attempt keeps the tables sound, counts its new messages if its drain
succeeds, and adds a number of dead commands.
-/
structure Counts
    (engine : Engine) (settings : WriterSettings)
    (state : MeteredWriter) (event : WriterEvent) (dead : Nat) :
    Prop where
  sound :
    Sound (state.step engine settings event).writer.database
  created :
    (state.step engine settings event).metrics.messagesCreated =
      state.metrics.messagesCreated +
        (if drainSucceeds engine settings state.writer event then
          (insertedMessages engine settings state.writer event).length
        else 0)
  dead :
    (state.step engine settings event).metrics.deadCommands =
      state.metrics.deadCommands + dead

@[simp]
theorem caught_messagesCreated
    (batch : List QueuedMessageWrite) (state : MeteredWriter) :
    (state.caught batch).metrics.messagesCreated =
      state.metrics.messagesCreated := by
  unfold MeteredWriter.caught
  split_ifs <;> rfl

@[simp]
theorem caught_deadCommands
    (batch : List QueuedMessageWrite) (state : MeteredWriter) :
    (state.caught batch).metrics.deadCommands =
      state.metrics.deadCommands := by
  unfold MeteredWriter.caught
  split_ifs <;> rfl

/-- A batch counts no dead command. -/
theorem batch_counts
    (batch : List QueuedMessageWrite)
    (sound : Sound state.writer.database) :
    Counts engine settings state (.batch batch) 0 := by
  cases attempted :
      attemptMessageWriteCommands engine
        (batch.map QueuedMessageWrite.command) none state.writer with
  | mk outcome committed =>
      have inserts :
          insertedMessages engine settings state.writer (.batch batch) =
            addedMessages state.writer.database committed.database := by
        rw [insertedMessages, afterTransaction, attempted]
      have drains :
          drainSucceeds engine settings state.writer (.batch batch) =
            (fanout engine settings (max batch.length 100)
              committed).1 := by
        rw [drainSucceeds, afterTransaction, attempted]
      cases outcome with
      | error failure =>
          have unchanged := (attempt_error attempted).1
          have failed :
              state.step engine settings (.batch batch) =
                ({ state with writer := committed } :
                  MeteredWriter).caught batch := by
            rw [MeteredWriter.step, MeteredWriter.tryMessageBatch,
              attempted]
          rw [unchanged, addedMessages_self] at inserts
          constructor
          · rw [failed]
            change Sound committed.database
            rw [unchanged]
            exact sound
          · rw [failed, inserts, List.length_nil, ite_self]
            exact caught_messagesCreated batch _
          · rw [failed]
            exact caught_deadCommands batch _
      | ok messages =>
          rcases attempt_inserts sound attempted with ⟨soundAfter, count⟩
          have kept :=
            (fanout_kept engine settings (max batch.length 100)
              committed).1
          cases fanned :
              fanout engine settings (max batch.length 100) committed with
          | mk succeeded drained =>
              rw [fanned] at kept drains
              cases succeeded with
              | false =>
                  have failed :
                      state.step engine settings (.batch batch) =
                        ({ state with writer := drained } :
                          MeteredWriter).caught batch := by
                    simp only [MeteredWriter.step,
                      MeteredWriter.tryMessageBatch, attempted, fanned]
                  constructor
                  · rw [failed]
                    exact kept.sound soundAfter
                  · rw [failed, drains]
                    exact caught_messagesCreated batch _
                  · rw [failed]
                    exact caught_deadCommands batch _
              | true =>
                  have succeeds :
                      state.step engine settings (.batch batch) =
                        { writer := batch.foldl WriterState.ack drained
                          metrics :=
                            state.metrics.recordBatchSuccess batch.length
                              messages.length } := by
                    simp only [MeteredWriter.step,
                      MeteredWriter.tryMessageBatch, attempted, fanned]
                  constructor
                  · rw [succeeds, ackAll_database]
                    exact kept.sound soundAfter
                  · rw [succeeds, drains, if_pos rfl, inserts, count]
                    rfl
                  · rw [succeeds]
                    rfl

/-- The transaction and the drain of an entry that is handled alone. -/
theorem single_effects
    {entry : QueuedMessageWrite}
    {result : Except Failure (Option MessageDto)}
    (processed :
      processMessageWriteCommand engine settings entry state.writer =
        (result, after)) :
    insertedMessages engine settings state.writer (.single entry) =
        addedMessages state.writer.database after.database ∧
      drainSucceeds engine settings state.writer (.single entry) =
        (fanout engine settings 100 after).1 := by
  rw [insertedMessages, drainSucceeds, afterTransaction, processed]
  exact ⟨rfl, rfl⟩

/-- What is counted for an entry that went through without an error. -/
theorem processed_counts
    {entry : QueuedMessageWrite} {message : Option MessageDto}
    (numbered : 1 ≤ entry.deliveryAttempt)
    (processed :
      processMessageWriteCommand engine settings entry state.writer =
        (.ok message, after)) :
    (state.handleSingleMessageWrite engine settings
          entry).writer.database =
        (fanout engine settings 100 after).2.database ∧
      (state.handleSingleMessageWrite engine settings
          entry).metrics.messagesCreated =
        state.metrics.messagesCreated +
          (if drainSucceeds engine settings state.writer
              (.single entry) then
            message.toList.length
          else 0) ∧
      (state.handleSingleMessageWrite engine settings
          entry).metrics.deadCommands =
        state.metrics.deadCommands +
          (if drainSucceeds engine settings state.writer
                (.single entry) ∧
              isFinalAttempt settings entry ∧ message = none then
            1
          else 0) := by
  rw [(single_effects processed).2,
    MeteredWriter.handleSingleMessageWrite, processed]
  simp only [isFinalAttempt_iff numbered]
  rcases fanout engine settings 100 after with ⟨succeeded, drained⟩
  cases succeeded with
  | false => exact ⟨rfl, rfl, rfl⟩
  | true =>
      cases message with
      | some returned =>
          simp [WriterMetrics.recordBatchSuccess, WriterState.ack]
      | none =>
          by_cases last :
              entry.deliveryAttempt ≥ settings.maxDeliveryAttempts
          · simp [last, WriterMetrics.recordBatchSuccess,
              WriterMetrics.recordDeadCommand, WriterState.ack]
          · simp [last, WriterMetrics.recordBatchSuccess,
              WriterState.ack]

/-- An entry whose transaction commits dies if it was passed over. -/
theorem committed_counts
    {entry : QueuedMessageWrite} {messages : List MessageDto}
    (numbered : 1 ≤ entry.deliveryAttempt)
    (sound : Sound state.writer.database)
    (attempted :
      attemptMessageWriteCommands engine [entry.command]
          entry.command.originConnectionId state.writer =
        (.ok messages, after)) :
    Counts engine settings state (.single entry)
      (if drainSucceeds engine settings state.writer (.single entry) ∧
          isFinalAttempt settings entry ∧
          PassedOver state.writer.database entry.command then
        1
      else 0) := by
  have processed := process_committed settings attempted
  rcases attempt_inserts sound attempted with ⟨soundAfter, count⟩
  rcases attempt_single sound attempted with ⟨atMostOne, passed⟩
  rcases processed_counts numbered processed with
    ⟨database, created, dead⟩
  have sameLength :
      messages.head?.toList.length = messages.length := by
    match messages, atMostOne with
    | [], _ => rfl
    | [message], _ => rfl
  constructor
  · rw [MeteredWriter.step, database]
    exact (fanout_kept engine settings 100 after).1.sound soundAfter
  · rw [MeteredWriter.step, created, sameLength,
      (single_effects processed).1, count]
  · simp only [MeteredWriter.step, dead, List.head?_eq_none_iff, passed]

/-- An entry whose transaction fails dies on its last attempt. -/
theorem failed_counts
    {entry : QueuedMessageWrite} {failure : Failure}
    (numbered : 1 ≤ entry.deliveryAttempt)
    (sound : Sound state.writer.database)
    (attempted :
      attemptMessageWriteCommands engine [entry.command]
          entry.command.originConnectionId state.writer =
        (.error failure, after)) :
    Counts engine settings state (.single entry)
      (if drainSucceeds engine settings state.writer (.single entry) ∧
          isFinalAttempt settings entry then
        1
      else 0) := by
  have unchanged := (attempt_error attempted).1
  rcases process_failed settings attempted with
    ⟨notFinal, processed⟩ | ⟨final, marked, outages, processed, written⟩
  · have rejected :
        state.step engine settings (.single entry) =
          { writer := after.nak entry
            metrics := state.metrics.recordBatchFailure } := by
      rw [MeteredWriter.step, MeteredWriter.handleSingleMessageWrite,
        processed]
    constructor
    · rw [rejected]
      change Sound after.database
      rw [unchanged]
      exact sound
    · rw [rejected, (single_effects processed).1, unchanged,
        addedMessages_self, List.length_nil, ite_self]
      rfl
    · rw [rejected, notFinal]
      simp [WriterMetrics.recordBatchFailure]
  · rw [unchanged] at written
    have kept :
        Sound marked ∧
          marked.messages = state.writer.database.messages := by
      rcases written with rfl | rfl
      · exact ⟨sound, rfl⟩
      · exact
          ⟨writeDeadLetter_sound sound _,
            writeDeadLetter_messages engine _ _ _ _ _⟩
    rcases processed_counts numbered processed with
      ⟨database, created, dead⟩
    constructor
    · rw [MeteredWriter.step, database]
      exact (fanout_kept engine settings 100 _).1.sound kept.1
    · rw [MeteredWriter.step, created, (single_effects processed).1,
        addedMessages_of_same kept.2]
      rfl
    · simp only [MeteredWriter.step, dead, and_true]

/--
An entry alone counts as dead if its drain succeeds and on its last attempt
its transaction failed or passed it over.
-/
theorem single_counts
    {entry : QueuedMessageWrite} (numbered : 1 ≤ entry.deliveryAttempt)
    (sound : Sound state.writer.database) :
    Counts engine settings state (.single entry)
      (if drainSucceeds engine settings state.writer (.single entry) ∧
          isFinalAttempt settings entry ∧
          (entryCommits engine state.writer entry →
            PassedOver state.writer.database entry.command) then
        1
      else 0) := by
  cases attempted :
      attemptMessageWriteCommands engine [entry.command]
        entry.command.originConnectionId state.writer with
  | mk outcome after =>
      cases outcome with
      | ok messages =>
          have commits : entryCommits engine state.writer entry = true := by
            rw [entryCommits, attempted]
            rfl
          simp only [commits, forall_const]
          exact committed_counts numbered sound attempted
      | error failure =>
          have fails :
              entryCommits engine state.writer entry = false := by
            rw [entryCommits, attempted]
            rfl
          simp only [fails, Bool.false_eq_true, false_implies, and_true]
          exact failed_counts numbered sound attempted

end Counts

/-! ## The counters of a run -/

/-- An entry can have a message row only if it is passed over. -/
theorem HasMessage.passedOver
    {db : Database} {command : MessageWriteCommand}
    (present : HasMessage db command.key) : PassedOver db command := by
  rcases present with ⟨message, member, same⟩
  exact Or.inl ⟨message, member, Or.inr same⟩

/-- A ledger whose counters match, over sound tables. -/
structure Matching (ledger : WriterLedger) : Prop where
  sound : Sound ledger.metered.writer.database
  counters : CountersMatch ledger

section Steps

variable {engine : Engine} {settings : WriterSettings}
  {ledger : WriterLedger} {event : WriterEvent}

theorem step_sound
    (sound : Sound ledger.metered.writer.database)
    (regular : event.Regular) :
    Sound
      (ledger.step engine settings event).metered.writer.database := by
  cases event with
  | batch batch => exact (batch_counts batch sound).sound
  | single entry => exact (single_counts regular sound).sound
  | elsewhere database => exact regular

/-- All rows are counted if there are none or if they are counted at all. -/
theorem counted_all_iff (drained : Bool) (rows : List Message) :
    (if drained then rows.length else 0) = rows.length ↔
      (rows ≠ [] → drained = true) := by
  cases drained with
  | true => simp
  | false => simp [eq_comm]

theorem givenUp_length
    (state : WriterState) (entry : QueuedMessageWrite) :
    (givenUpCommands engine settings state (.single entry)).length =
      if isFinalAttempt settings entry ∧
          ¬ entryCommits engine state entry ∧
          ¬ HasMessage state.database entry.command.key then
        1
      else 0 := by
  rw [givenUpCommands]
  split_ifs <;> rfl

theorem givenUp_ne_nil_iff
    (state : WriterState) (entry : QueuedMessageWrite) :
    givenUpCommands engine settings state (.single entry) ≠ [] ↔
      isFinalAttempt settings entry ∧
        ¬ entryCommits engine state entry ∧
        ¬ HasMessage state.database entry.command.key := by
  simp [givenUpCommands]

/--
An entry on its last attempt is counted as dead exactly when it is given up
if the give-up is followed by a drain, and if a drain never follows anything
else: a message that is present, or a transaction that passes the entry over.
-/
theorem dead_counted_iff
    {drained final commits passed present : Prop}
    [Decidable drained] [Decidable final] [Decidable commits]
    [Decidable passed] [Decidable present]
    (implied : present → passed) :
    (if drained ∧ final ∧ (commits → passed) then 1 else 0) =
        (if final ∧ ¬ commits ∧ ¬ present then 1 else 0) ↔
      (final ∧ ¬ commits ∧ ¬ present → drained) ∧
        (final → drained → ¬ present ∧ (commits → ¬ passed)) := by
  split_ifs with counted given given
  · refine iff_of_true rfl ⟨fun _ => counted.1, fun _ _ => ?_⟩
    exact ⟨given.2.2, fun commit => absurd commit given.2.1⟩
  · refine iff_of_false not_false ?_
    rintro ⟨_, unsettled⟩
    rcases unsettled counted.2.1 counted.1 with ⟨absent, alive⟩
    exact
      given
        ⟨counted.2.1, fun commit => alive commit (counted.2.2 commit),
          absent⟩
  · refine iff_of_false not_false ?_
    rintro ⟨drains, _⟩
    exact
      counted
        ⟨drains given, given.1, fun commit => absurd commit given.2.1⟩
  · refine iff_of_true rfl ⟨fun gives => absurd gives given, ?_⟩
    intro last drains
    have alive : ¬ (commits → passed) := fun passes =>
      counted ⟨drains, last, passes⟩
    rw [Classical.not_imp] at alive
    exact ⟨fun here => alive.2 (implied here), fun _ => alive.2⟩

/-- The counters match after a step exactly when it is counted. -/
theorem step_matches_iff
    (matching : Matching ledger) (regular : event.Regular) :
    CountersMatch (ledger.step engine settings event) ↔
      Counted engine settings ledger event := by
  rcases matching with ⟨sound, created, dead⟩
  cases event with
  | batch batch =>
      have counts :
          Counts engine settings ledger.metered (.batch batch) 0 :=
        batch_counts batch sound
      rw [CountersMatch, WriterLedger.step, counts.created, counts.dead,
        created, dead, List.length_append, Nat.add_left_cancel_iff,
        counted_all_iff]
      constructor
      · rintro ⟨drained, _⟩
        exact
          { drained := fun something =>
              something.elim drained fun given => absurd rfl given
            unsettled := fun entry same => by cases same }
      · intro counted
        exact
          ⟨fun something => counted.drained (Or.inl something),
            by simp [givenUpCommands]⟩
  | single entry =>
      have counts := @single_counts engine settings _ _ regular sound
      rw [CountersMatch, WriterLedger.step, counts.created, counts.dead,
        created, dead, List.length_append,
        List.length_append, Nat.add_left_cancel_iff,
        Nat.add_left_cancel_iff, counted_all_iff, givenUp_length,
        dead_counted_iff HasMessage.passedOver, ← givenUp_ne_nil_iff]
      constructor
      · rintro ⟨drained, givenDrained, unsettled⟩
        exact
          { drained := fun something =>
              something.elim drained givenDrained
            unsettled := fun other same => by
              cases same
              exact unsettled }
      · intro counted
        exact
          ⟨fun something => counted.drained (Or.inl something),
            fun something => counted.drained (Or.inr something),
            counted.unsettled entry rfl⟩
  | elsewhere database =>
      have unchanged :
          CountersMatch (ledger.step engine settings
            (.elsewhere database)) := by
        rw [CountersMatch, WriterLedger.step, List.length_append,
          List.length_append, insertedMessages, afterTransaction,
          addedMessages_self]
        exact ⟨created, dead⟩
      refine iff_of_true unchanged ?_
      exact
        { drained := fun _ => rfl
          unsettled := fun entry same => by cases same }

/-- A counted step keeps a ledger matching. -/
theorem step_matching
    (matching : Matching ledger) (regular : event.Regular)
    (counted : Counted engine settings ledger event) :
    Matching (ledger.step engine settings event) where
  sound := step_sound matching.sound regular
  counters := (step_matches_iff matching regular).mpr counted

/--
The ledger of any attempts, also of calls that run at the same time: the
counters match after each of them exactly when all are counted.
-/
theorem attempts_match_iff
    {events : List WriterEvent} (matching : Matching ledger)
    (regular : ∀ event ∈ events, event.Regular) :
    EveryStep (WriterLedger.step engine settings)
        (fun ledger event =>
          CountersMatch (ledger.step engine settings event))
        ledger events ↔
      EveryStep (WriterLedger.step engine settings)
        (Counted engine settings) ledger events :=
  everyStep_iff_assumed
    (fun _ _ matching regular counted =>
      step_matching matching regular counted)
    (fun _ _ matching regular => step_matches_iff matching regular)
    matching
    (everyStep_of_forall (fun _ event member => regular event member)
      ledger)

/-- The writer of a ledger does what it does without the ledger. -/
theorem run_metered
    (engine : Engine) (settings : WriterSettings)
    (ledger : WriterLedger) (events : List WriterEvent) :
    (run (WriterLedger.step engine settings) ledger events).metered =
      run (MeteredWriter.step engine settings) ledger.metered events := by
  induction events generalizing ledger with
  | nil => rfl
  | cons event rest induction =>
      rw [run_cons, run_cons]
      exact induction (ledger.step engine settings event)

end Steps

/--
For every sequence of calls from sound tables, with any outages: the attempts
of the calls do what the calls do, and both counters match after every
attempt if and only if every attempt is counted.
-/
theorem writer_counters_match_iff
    (engine : Engine) (settings : WriterSettings) {db : Database}
    (sound : Sound db) (clock : Stream' Timestamp)
    (outages : Stream' Bool) {calls : List WriterCall}
    (regular : ∀ call ∈ calls, call.Regular) :
    let start := WriterLedger.begin db clock outages
    let attempts := start.metered.callAttempts engine settings calls
    (run (WriterLedger.step engine settings) start attempts).metered =
        run (MeteredWriter.call engine settings) start.metered calls ∧
      (EveryStep (WriterLedger.step engine settings)
          (fun ledger event =>
            CountersMatch (ledger.step engine settings event))
          start attempts ↔
        EveryStep (WriterLedger.step engine settings)
          (Counted engine settings) start attempts) := by
  intro start attempts
  have matching : Matching start := ⟨sound, rfl, rfl⟩
  constructor
  · rw [run_metered]
    exact run_callAttempts engine settings calls start.metered
  · exact
      attempts_match_iff matching
        (callAttempts_regular engine settings start.metered regular)

/-- The last delivery of a command for a room that does not exist. -/
def unstorableEntry : QueuedMessageWrite :=
  { msg := 2
    command :=
      { exampleCommand with
        messageId := "msg_2", requestId := "r2", roomId := "nowhere" }
    deliveryAttempt := 5 }

/-- A batch of both is split; one message is stored, one command dies. -/
theorem writer_counters_match_iff_example :
    let start :=
      WriterLedger.begin (migrate exampleEngine exampleTables)
        (Stream'.const 2000) (Stream'.const false)
    let settings : WriterSettings := { publisher := true }
    let attempts :=
      start.metered.callAttempts exampleEngine settings
        [.handle [exampleEntry, unstorableEntry]]
    let final :=
      run (MeteredWriter.call exampleEngine settings) start.metered
        [.handle [exampleEntry, unstorableEntry]]
    EveryStep (WriterLedger.step exampleEngine settings)
        (fun ledger event =>
          CountersMatch (ledger.step exampleEngine settings event))
        start attempts ∧
      final.metrics.messagesCreated = 1 ∧
      final.metrics.deadCommands = 1 := by
  intro start settings attempts final
  have regular :
      ∀ call ∈ [WriterCall.handle [exampleEntry, unstorableEntry]],
        call.Regular := by
    simp only [List.forall_mem_singleton, WriterCall.Regular]
    decide
  have both :=
    writer_counters_match_iff exampleEngine settings
      (migrate_sound exampleEngine exampleTables)
      (Stream'.const 2000) (Stream'.const false) regular
  have split :
      attempts =
        [.batch [exampleEntry, unstorableEntry], .batch [exampleEntry],
          .batch [unstorableEntry], .single unstorableEntry] := by
    decide +kernel
  refine ⟨both.2.mpr ?_, by decide +kernel⟩
  change EveryStep _ _ start attempts
  rw [split]
  refine ⟨?_, ?_, ?_, ?_, trivial⟩
  · exact ⟨fun _ => by decide +kernel, fun _ same => by cases same⟩
  · exact ⟨fun _ => by decide +kernel, fun _ same => by cases same⟩
  · exact ⟨fun _ => by decide +kernel, fun _ same => by cases same⟩
  · refine ⟨fun _ => by decide +kernel, fun entry same => ?_⟩
    cases same
    decide +kernel

/-- The last delivery of a command. -/
def lastEntry : QueuedMessageWrite :=
  { exampleEntry with deliveryAttempt := 5 }

/--
The transaction of the batch commits and its drain fails; then the entry is
handled alone and finds its own row.  The new row is not counted, and the
command counts as dead.
-/
theorem failed_drain_is_miscounted :
    let start :=
      WriterLedger.begin (migrate exampleEngine exampleTables)
        (Stream'.const 2000) (fun call => call == 6)
    let settings : WriterSettings := { publisher := true }
    let final :=
      run (WriterLedger.step exampleEngine settings) start
        (start.metered.callAttempts exampleEngine settings
          [.handle [lastEntry]])
    ¬ CountersMatch final ∧
      final.metered.metrics.messagesCreated = 0 ∧
      final.inserted.length = 1 ∧
      final.metered.metrics.deadCommands = 1 ∧
      final.givenUp = [] ∧
      HasMessage final.metered.writer.database lastEntry.command.key := by
  decide +kernel

end ChatBackend.Writer.CountedAttempts
