import ChatBackend.Writer.BatchHandling
import ChatBackend.Writer.InboxTables
import Mathlib.Logic.Function.Basic

/-!
# Splitting a batch

A batch that fails is split and handled in halves, down to single entries.
Without outages, and with fanout disabled, the tables afterwards are the same
as if every entry had been handled on its own, in the order of arrival, and
the same entries are acknowledged.

Both runs are related by `Related`: they are the same inbox, and have given
the same replies.  The handler of a single entry keeps the relation because
its result only depends on the inbox, and an accepted batch keeps it because
a delivery can be cut anywhere.
-/

namespace ChatBackend.Writer.BatchSplitting

open ChatBackend.Foundation.IdempotentInbox
open ChatBackend.Foundation.TableRows
open ChatBackend.Foundation.Transactions
open ChatBackend.Storage.Schema
open ChatBackend.Storage.SequenceMigration
open ChatBackend.Storage.TableInvariants
open ChatBackend.Writer.WriteCommands
open ChatBackend.Writer.BatchTransaction
open ChatBackend.Writer.BatchSpecification
open ChatBackend.Writer.BatchInvariants
open ChatBackend.Writer.DeadLetters
open ChatBackend.Writer.BatchHandling
open ChatBackend.Writer.MessageInbox
open ChatBackend.Writer.InboxAcceptance
open ChatBackend.Writer.InboxTables

/-! ## Dead letters in the inbox -/

/-- The progress of an entry that is marked dead. -/
def deadProgress
    (engine : Engine) (err : Failure) (progress : Progress) : Progress :=
  if progress.status = .pending then
    { progress with
      status := .dead
      failureReason := some (engine.formatFailureReason err) }
  else progress

open Classical in
/-- The inbox after a dead letter was recorded. -/
noncomputable def deadLettered
    (engine : Engine) (directory : Directory) (inbox : MessageInbox)
    (command : MessageWriteCommand) (err : Failure) : MessageInbox :=
  if ∃ entry ∈ inbox.entries, entry.key = command.key then
    { inbox with
      progress :=
        Function.update inbox.progress command.key
          (deadProgress engine err (inbox.progress command.key)) }
  else if (∃ entry ∈ inbox.entries, entry.id = command.messageId) ∨
      ¬ directory.user command.senderId ∨
      ¬ directory.room command.roomId then
    inbox
  else
    { inbox with
      entries :=
        inbox.entries ∪
          {entry | entryOf (deadLetter engine 0 command err) = entry}
      progress :=
        Function.update inbox.progress command.key
          (progressOf true (deadLetter engine 0 command err)) }

section DeadLetters

variable {engine : Engine} {now : Timestamp} {db : Database}
  {command : MessageWriteCommand} {err : Failure}

theorem progressOf_deadWrite (write : MessageWrite) :
    progressOf true (deadWrite engine now write.id err write) =
      deadProgress engine err (progressOf true write) := by
  by_cases pending : write.status = .pending
  · simp [deadWrite, deadProgress, progressOf, pending]
  · simp [deadWrite, deadProgress, progressOf, pending]

theorem inboxOf_markDead
    (valid : db.Valid) {write : MessageWrite}
    (member : write ∈ db.messageWrites) :
    inboxOf true (markMessageWriteDead engine now db write.id err) =
      { inboxOf true db with
        progress :=
          Function.update (inboxOf true db).progress write.key
            (deadProgress engine err
              ((inboxOf true db).progress write.key)) } := by
  apply Inbox.ext
  · ext entry
    rw [mem_entries, markMessageWriteDead, List.map_map]
    have same :
        entryOf ∘ deadWrite engine now write.id err = entryOf := by
      funext other
      exact entryOf_deadWrite engine now write.id err other
    rw [same]
    exact (mem_entries true).symm
  · funext key
    have found :
        ((markMessageWriteDead engine now db write.id
              err).messageWrites.find? fun other => other.key == key) =
          (db.messageWrites.find? fun other => other.key == key).map
            (deadWrite engine now write.id err) := by
      simp only [markMessageWriteDead, List.find?_map]
      congr 2
      funext other
      simp
    rw [progress_eq_find, found, progress_of_mem true valid member]
    dsimp only
    by_cases sameKey : key = write.key
    · subst sameKey
      rw [← List.head?_filter, filter_unique_key valid.writeKeys member,
        Function.update_self]
      exact progressOf_deadWrite write
    · rw [Function.update_of_ne sameKey]
      rw [progress_eq_find]
      cases other : db.messageWrites.find? fun other => other.key == key with
      | none => rfl
      | some stored =>
          have storedMember := List.mem_of_find?_eq_some other
          have storedKey : stored.key = key := by
            simpa using List.find?_some other
          have apart : stored.id ≠ write.id := by
            intro sameId
            have same :=
              eq_of_unique_key valid.writeIds storedMember member sameId
            exact sameKey (storedKey ▸ congrArg MessageWrite.key same)
          simp [deadWrite, apart]
  · rfl
  · rfl

theorem inboxOf_createDead
    (absent : ∀ write ∈ db.messageWrites, write.key ≠ command.key) :
    inboxOf true
        { db with
          messageWrites :=
            db.messageWrites ++ [deadLetter engine now command err] } =
      { inboxOf true db with
        entries :=
          (inboxOf true db).entries ∪
            {entry | entryOf (deadLetter engine 0 command err) = entry}
        progress :=
          Function.update (inboxOf true db).progress command.key
            (progressOf true (deadLetter engine 0 command err)) } := by
  apply Inbox.ext
  · ext entry
    rw [mem_entries, List.map_append, List.mem_append,
      ← mem_entries true]
    simp only [List.map_cons, List.map_nil, List.mem_singleton,
      Set.mem_union, Set.mem_ofPred_eq]
    exact or_congr Iff.rfl eq_comm
  · funext key
    rw [progress_eq_find, List.find?_append]
    dsimp only
    by_cases sameKey : key = command.key
    · subst sameKey
      have notFound :
          (db.messageWrites.find? fun write =>
            write.key == command.key) = none := by
        rw [List.find?_eq_none]
        intro write member
        simpa using absent write member
      rw [notFound, Function.update_self, List.find?_cons_of_pos]
      · rfl
      · exact beq_self_eq_true _
    · rw [Function.update_of_ne sameKey, List.find?_cons_of_neg]
      · simp [inboxOf]
      · intro same
        exact sameKey (beq_iff_eq.mp same).symm
  · rfl
  · rfl

/-- A dead letter changes the inbox as `deadLettered` says. -/
theorem inboxOf_writeDeadLetter
    (engine : Engine) (now : Timestamp) (valid : db.Valid)
    (command : MessageWriteCommand) (err : Failure) :
    inboxOf true
        (writeDeadLetter engine now db command err
          (findMessageWrite db command)) =
      deadLettered engine (directoryOf db) (inboxOf true db) command
        err := by
  rw [deadLettered, entries_key_iff, entries_id_iff]
  cases found :
      db.messageWrites.find? fun write => write.key == command.key with
  | some write =>
      have member := List.mem_of_find?_eq_some found
      have sameKey : write.key = command.key := by
        simpa using List.find?_some found
      rw [if_pos ⟨write, member, sameKey⟩, findMessageWrite, found,
        ← sameKey]
      exact inboxOf_markDead valid member
  | none =>
      rw [List.find?_eq_none] at found
      have absent :
          ∀ write ∈ db.messageWrites, write.key ≠ command.key := by
        intro write member
        simpa using found write member
      have unknown :
          ¬ ∃ write ∈ db.messageWrites, write.key = command.key := by
        rintro ⟨write, member, same⟩
        exact absent write member same
      rw [if_neg unknown, findMessageWrite, List.find?_eq_none.mpr found,
        Option.map_none]
      cases outcome : createDeadLetter engine now db command err with
      | ok created =>
          rw [writeDeadLetter_created outcome]
          rcases createDeadLetter_ok outcome with
            ⟨fresh, user, room, rfl⟩
          rw [if_neg]
          · exact inboxOf_createDead absent
          · rintro (⟨write, member, same⟩ | noUser | noRoom)
            · exact (fresh write member).1 same
            · exact noUser user
            · exact noRoom room
      | error failure =>
          rw [writeDeadLetter_rejected outcome, if_pos]
          by_contra accepted
          simp only [not_or, not_not, not_exists, not_and] at accepted
          rcases accepted with ⟨fresh, user, room⟩
          have unique :
              writeUniqueViolation db
                  (deadLetter engine now command err) =
                none :=
            writeUniqueViolation_eq_none_iff.mpr fun old member =>
              ⟨fresh old member, absent old member⟩
          have references :
              writeForeignKeyViolation db
                  (deadLetter engine now command err) =
                none :=
            writeForeignKeyViolation_eq_none_iff.mpr ⟨user, room⟩
          simp [createDeadLetter, unique, references] at outcome

end DeadLetters

/-! ## One entry -/

open Classical in
/-- The inbox after one entry, and whether the entry is acknowledged. -/
noncomputable def handled
    (engine : Engine) (settings : WriterSettings)
    (directory : Directory) (inbox : MessageInbox)
    (entry : QueuedMessageWrite) : MessageInbox × Bool :=
  if Accepts engine directory inbox none [entry.command] then
    (absorb inbox (delivered engine none [entry.command]), true)
  else if isFinalAttempt settings entry then
    (deadLettered engine directory inbox entry.command
        (rejection directory inbox entry.command),
      true)
  else (inbox, false)

/-- What the writer knows to be true between two entries. -/
structure Steady (start : Database) (state : WriterState) : Prop where
  sound : Sound state.database
  grown : Extends start state.database
  calm : Calm state.outages

/-- The replies to the queue, by their entries. -/
def replies
    (state : WriterState) :
    List QueuedMessageWrite × List QueuedMessageWrite :=
  (state.acks.map Acknowledgement.entry, state.naks)

/-- The replies after one more entry was acknowledged or not. -/
def reply
    (before : List QueuedMessageWrite × List QueuedMessageWrite)
    (entry : QueuedMessageWrite) (acked : Bool) :
    List QueuedMessageWrite × List QueuedMessageWrite :=
  if acked then (before.1 ++ [entry], before.2)
  else (before.1, before.2 ++ [entry])

section Single

variable {engine : Engine} {settings : WriterSettings}
  {start : Database} {state : WriterState}
  {entry : QueuedMessageWrite}

theorem delivered_own
    (engine : Engine) (command : MessageWriteCommand) :
    delivered engine command.originConnectionId [command] =
      delivered engine none [command] := by
  simp [delivered, messageWriteInput, Option.or_self]

theorem accepts_congr
    {directory : Directory} {inbox : MessageInbox}
    {first second : Option ConnectionId}
    {commands : List MessageWriteCommand}
    (same :
      delivered engine first commands = delivered engine second commands)
    (accepts : Accepts engine directory inbox first commands) :
    Accepts engine directory inbox second commands := by
  rcases accepts with
    ⟨ids, senders, rooms, matched, freshOutbox, distinctOutbox⟩
  rw [same] at *
  exact ⟨ids, senders, rooms, matched, freshOutbox, distinctOutbox⟩

theorem faithful_singleton (command : MessageWriteCommand) :
    MapKeysFaithful [command] := by
  intro left leftMember right rightMember _
  rw [List.mem_singleton] at leftMember rightMember
  rw [leftMember, rightMember]

/-- A successful call grows the tables. -/
theorem processed_extends
    {now : Timestamp} {db committed : Database}
    {commands : List MessageWriteCommand}
    {origin : Option ConnectionId} {returned : List MessageDto}
    (sound : Sound db)
    (succeeded :
      processMessageWriteCommands engine now db commands origin =
        .ok (committed, returned)) :
    Extends db committed := by
  by_cases empty : commands = []
  · subst empty
    rw [processMessageWriteCommands_nil, Except.ok.injEq] at succeeded
    rcases Prod.mk.inj succeeded with ⟨rfl, _⟩
    exact Extends.refl db
  · rcases batch_result sound empty succeeded with
      ⟨deduped, _, _, _, rfl, _⟩
    exact batchResult_extends engine now db _

/-- A failed call fails with the rejection of its command. -/
theorem not_accepts_of_error
    {now : Timestamp} {db : Database} {command : MessageWriteCommand}
    {failure : Failure}
    (sound : Sound db)
    (failed :
      processMessageWriteCommands engine now db [command]
          command.originConnectionId =
        .error failure) :
    ¬ Accepts engine (directoryOf db) (inboxOf true db) none [command] ∧
      failure = rejection (directoryOf db) (inboxOf true db) command := by
  refine ⟨?_, rejected true sound failed⟩
  intro accepts
  rcases accepted_command_succeeds now sound
      (accepts_congr (delivered_own engine command).symm accepts) with
    ⟨committed, returned, succeeded⟩
  rw [failed] at succeeded
  cases succeeded

/-- A successful call delivers its command. -/
theorem accepts_of_ok
    {now : Timestamp} {db committed : Database}
    {command : MessageWriteCommand} {returned : List MessageDto}
    (sound : Sound db)
    (succeeded :
      processMessageWriteCommands engine now db [command]
          command.originConnectionId =
        .ok (committed, returned)) :
    Accepts engine (directoryOf db) (inboxOf true db) none [command] ∧
      inboxOf true committed =
        absorb (inboxOf true db) (delivered engine none [command]) := by
  rcases processed_inbox true sound (faithful_singleton command)
      (List.cons_ne_nil _ _) succeeded with
    ⟨accepts, inboxEq⟩
  rw [delivered_own] at inboxEq
  exact ⟨accepts_congr (delivered_own engine command) accepts, inboxEq⟩

/-- Without outages a dead letter is recorded at once. -/
theorem markMessageWriteCommandDead_calm
    {now : Timestamp} {outages : Stream' Bool} {db : Database}
    {command : MessageWriteCommand} {err : Failure}
    (calm : Calm outages) :
    markMessageWriteCommandDead engine now outages db command err =
      (writeDeadLetter engine now db command err
          (findMessageWrite db command),
        outages.tail.tail) := by
  have first : outages.head = false := calm 0
  have second : outages.tail.head = false := calm 1
  simp [markMessageWriteCommandDead, first, second]

theorem fanout_disabled
    (noFanout : settings.disableFanout = true) (limit : Int)
    (state : WriterState) :
    fanout engine settings limit state = (true, state) := by
  simp [fanout, noFanout]

/-- The handler of one entry does what the inbox decides. -/
theorem handleSingle_handled
    (noFanout : settings.disableFanout = true)
    (steady : Steady start state) :
    Steady start
        (handleSingleMessageWrite engine settings entry state) ∧
      inboxOf true
          (handleSingleMessageWrite engine settings entry
            state).database =
        (handled engine settings (directoryOf start)
          (inboxOf true state.database) entry).1 ∧
      replies (handleSingleMessageWrite engine settings entry state) =
        reply (replies state) entry
          (handled engine settings (directoryOf start)
            (inboxOf true state.database) entry).2 := by
  have sound := steady.sound
  rw [← steady.grown.directory]
  simp only [handleSingleMessageWrite, processMessageWriteCommand,
    fanout_disabled noFanout]
  cases attempted :
      attemptMessageWriteCommands engine [entry.command]
        entry.command.originConnectionId state with
  | mk outcome after =>
      have stillCalm := attempt_stillCalm steady.calm attempted
      cases outcome with
      | ok messages =>
          rcases attempt_ok attempted with ⟨succeeded, acks, naks⟩
          rcases accepts_of_ok sound succeeded with ⟨accepts, inboxEq⟩
          rw [handled, if_pos accepts]
          refine ⟨⟨?_, ?_, stillCalm⟩, inboxEq, ?_⟩
          · exact processMessageWriteCommands_sound sound succeeded
          · exact
              steady.grown.trans (processed_extends sound succeeded)
          · simp [replies, reply, WriterState.ack, acks, naks]
      | error failure =>
          rcases attempt_error attempted with ⟨unchanged, acks, naks⟩
          rcases not_accepts_of_error sound
              (failed_of_attempt steady.calm attempted) with
            ⟨rejects, failureEq⟩
          rw [handled, if_neg rejects]
          by_cases final : isFinalAttempt settings entry = true
          · simp only [if_pos final,
              markMessageWriteCommandDead_calm stillCalm, unchanged]
            refine ⟨⟨?_, ?_, stillCalm.tail.tail⟩, ?_, ?_⟩
            · exact writeDeadLetter_sound sound _
            · exact
                steady.grown.trans
                  (writeDeadLetter_extends engine _ _ _ _ _)
            · rw [← failureEq]
              exact
                inboxOf_writeDeadLetter engine _ sound.valid _ failure
            · simp [replies, reply, WriterState.ack, acks, naks]
          · simp only [if_neg final]
            refine ⟨⟨?_, ?_, stillCalm⟩, ?_, ?_⟩
            · exact unchanged ▸ sound
            · exact unchanged ▸ steady.grown
            · exact congrArg (inboxOf true) unchanged
            · simp [replies, reply, WriterState.nak, acks, naks]

end Single

/-! ## Entries one by one -/

/-- Handle the entries one at a time, in the order of arrival. -/
def handleOneByOne
    (engine : Engine) (settings : WriterSettings)
    (batch : List QueuedMessageWrite) (state : WriterState) :
    WriterState :=
  batch.foldl
    (fun state entry =>
      handleSingleMessageWrite engine settings entry state)
    state

theorem handleOneByOne_append
    (engine : Engine) (settings : WriterSettings)
    (first second : List QueuedMessageWrite) (state : WriterState) :
    handleOneByOne engine settings (first ++ second) state =
      handleOneByOne engine settings second
        (handleOneByOne engine settings first state) :=
  List.foldl_append

/-- Two runs with the same inbox and the same replies. -/
structure Related (start : Database) (left right : WriterState) :
    Prop where
  leftSteady : Steady start left
  rightSteady : Steady start right
  inbox : inboxOf true left.database = inboxOf true right.database
  replies : replies left = replies right

section Runs

variable {engine : Engine} {settings : WriterSettings}
  {start : Database} {left right : WriterState}
  {batch : List QueuedMessageWrite}

theorem Related.single
    (noFanout : settings.disableFanout = true)
    (related : Related start left right) (entry : QueuedMessageWrite) :
    Related start
      (handleSingleMessageWrite engine settings entry left)
      (handleSingleMessageWrite engine settings entry right) := by
  rcases handleSingle_handled noFanout related.leftSteady with
    ⟨leftSteady, leftInbox, leftReplies⟩
  rcases handleSingle_handled noFanout related.rightSteady with
    ⟨rightSteady, rightInbox, rightReplies⟩
  refine ⟨leftSteady, rightSteady, ?_, ?_⟩
  · rw [leftInbox, rightInbox, related.inbox]
  · rw [leftReplies, rightReplies, related.inbox, related.replies]

/-- An accepted batch, one by one, is one delivery of the batch. -/
theorem oneByOne_accepted
    (noFanout : settings.disableFanout = true)
    (steady : Steady start right)
    (accepts :
      Accepts engine (directoryOf start) (inboxOf true right.database)
        none (batch.map QueuedMessageWrite.command)) :
    Steady start (handleOneByOne engine settings batch right) ∧
      inboxOf true
          (handleOneByOne engine settings batch right).database =
        absorb (inboxOf true right.database)
          (delivered engine none
            (batch.map QueuedMessageWrite.command)) ∧
      replies (handleOneByOne engine settings batch right) =
        ((replies right).1 ++ batch, (replies right).2) := by
  induction batch generalizing right with
  | nil =>
      refine ⟨steady, ?_, by simp [handleOneByOne]⟩
      exact (absorb_nothing fun _ => rfl).symm
  | cons entry rest induction =>
      have valid := steady.sound.valid
      have keyed :
          Keyed (messageRules engine)
            (inboxOf true right.database).entries :=
        inboxOf_keyed valid
      have cut :
          (entry :: rest).map QueuedMessageWrite.command =
            [entry.command] ++ rest.map QueuedMessageWrite.command :=
        rfl
      rw [cut] at accepts ⊢
      have now := accepts.of_append_left keyed
      have later := accepts.of_append_right keyed
      have distinct := accepts.distinct keyed
      rw [delivered_append] at distinct
      rcases handleSingle_handled noFanout steady with
        ⟨afterSteady, afterInbox, afterReplies⟩
      rw [handled, if_pos now] at afterInbox afterReplies
      dsimp only at afterInbox afterReplies
      rw [← afterInbox] at later
      rcases induction afterSteady later with
        ⟨finalSteady, finalInbox, finalReplies⟩
      refine ⟨finalSteady, ?_, ?_⟩
      · have whole :=
          absorb_append distinct (inboxOf_decisive valid)
        rw [delivered_append, ← whole, ← afterInbox]
        exact finalInbox
      · rw [afterReplies] at finalReplies
        refine finalReplies.trans ?_
        simp [reply]

/-- A batch that commits at once is the same as its entries one by one. -/
theorem related_of_committed
    (noFanout : settings.disableFanout = true)
    (faithful :
      MapKeysFaithful (batch.map QueuedMessageWrite.command))
    (related : Related start left right)
    {messages : List MessageDto} {after : WriterState}
    (committed :
      attemptMessageWriteCommands engine
          (batch.map QueuedMessageWrite.command) none left =
        (.ok messages, after)) :
    Related start (batch.foldl WriterState.ack after)
      (handleOneByOne engine settings batch right) := by
  have sound := related.leftSteady.sound
  rcases attempt_ok committed with ⟨succeeded, acks, naks⟩
  have stillCalm :=
    attempt_stillCalm related.leftSteady.calm committed
  have ackedSteady : Steady start (batch.foldl WriterState.ack after) := by
    refine ⟨?_, ?_, ?_⟩
    · rw [ackAll_database]
      exact processMessageWriteCommands_sound sound succeeded
    · rw [ackAll_database]
      exact
        related.leftSteady.grown.trans
          (processed_extends sound succeeded)
    · rw [ackAll_outages]
      exact stillCalm
  have ackedReplies :
      replies (batch.foldl WriterState.ack after) =
        ((replies left).1 ++ batch, (replies left).2) := by
    simp [replies, ackAll_acks, acks, naks, Function.comp_def]
  by_cases empty : batch = []
  · subst empty
    simp only [List.map_nil, processMessageWriteCommands_nil,
      Except.ok.injEq, Prod.mk.injEq] at succeeded
    refine ⟨ackedSteady, related.rightSteady, ?_, ?_⟩
    · rw [ackAll_database, ← succeeded.1]
      exact related.inbox
    · rw [ackedReplies, List.append_nil]
      exact related.replies
  · have nonempty : batch.map QueuedMessageWrite.command ≠ [] := by
      simpa using empty
    rcases processed_inbox true sound faithful nonempty succeeded with
      ⟨accepts, inboxEq⟩
    rw [related.leftSteady.grown.directory, related.inbox] at accepts
    rcases oneByOne_accepted noFanout related.rightSteady accepts with
      ⟨finalSteady, finalInbox, finalReplies⟩
    refine ⟨ackedSteady, finalSteady, ?_, ?_⟩
    · rw [ackAll_database, inboxEq, finalInbox, related.inbox]
    · rw [ackedReplies, finalReplies, related.replies]

/-- A failed attempt changes nothing that the relation compares. -/
theorem related_of_failed
    {commands : List MessageWriteCommand} {failure : Failure}
    {after : WriterState}
    (related : Related start left right)
    (failed :
      attemptMessageWriteCommands engine commands none left =
        (.error failure, after)) :
    Related start after right := by
  rcases attempt_error failed with ⟨unchanged, acks, naks⟩
  have stillCalm := attempt_stillCalm related.leftSteady.calm failed
  refine ⟨⟨?_, ?_, stillCalm⟩, related.rightSteady, ?_, ?_⟩
  · exact unchanged ▸ related.leftSteady.sound
  · exact unchanged ▸ related.leftSteady.grown
  · rw [unchanged]
    exact related.inbox
  · rw [replies, acks, naks]
    exact related.replies

/-- Splitting keeps the relation between the two runs. -/
theorem related_of_batch
    (noFanout : settings.disableFanout = true)
    (faithful :
      MapKeysFaithful (batch.map QueuedMessageWrite.command))
    (related : Related start left right) :
    Related start (handleMessageBatch engine settings batch left)
      (handleOneByOne engine settings batch right) := by
  induction batch using split_induction generalizing left right with
  | halves batch first second =>
      rw [handleMessageBatch, tryMessageBatch]
      cases attempted :
          attemptMessageWriteCommands engine
            (batch.map QueuedMessageWrite.command) none left with
      | mk outcome after =>
          cases outcome with
          | ok messages =>
              simp only [fanout_disabled noFanout]
              exact
                related_of_committed noFanout faithful related attempted
          | error failure =>
              have failed :=
                related_of_failed related attempted
              by_cases several : 1 < batch.length
              · simp only [if_pos several]
                have halves :=
                  List.take_append_drop ((batch.length + 1) / 2) batch
                have firstHalf :=
                  first several
                    (faithful.subset
                      ((List.take_sublist _ batch).map _).subset)
                    failed
                have secondHalf :=
                  second several
                    (faithful.subset
                      ((List.drop_sublist _ batch).map _).subset)
                    firstHalf
                rw [← handleOneByOne_append, halves] at secondHalf
                exact secondHalf
              · simp only [if_neg several]
                cases batch with
                | nil => exact failed
                | cons entry rest =>
                    have alone : rest = [] := by
                      cases rest with
                      | nil => rfl
                      | cons other others => simp at several
                    subst alone
                    exact failed.single noFanout entry

end Runs

/-! ## Splitting refines the handling one by one -/

/-- A batch leaves the tables and the replies of its entries one by one. -/
theorem batch_refines_one_by_one
    (engine : Engine) (settings : WriterSettings)
    (noFanout : settings.disableFanout = true)
    {db : Database} (sound : Sound db)
    {batch : List QueuedMessageWrite}
    (senders :
      ∀ entry ∈ batch, ':' ∉ entry.command.senderId.toList)
    (leftClock rightClock : Stream' Timestamp)
    {leftOutages rightOutages : Stream' Bool}
    (leftCalm : Calm leftOutages) (rightCalm : Calm rightOutages) :
    let left :=
      handleMessageBatch engine settings batch
        (.begin db leftClock leftOutages)
    let right :=
      handleOneByOne engine settings batch
        (.begin db rightClock rightOutages)
    SameTables true db left.database right.database ∧
      left.acks.map Acknowledgement.entry =
        right.acks.map Acknowledgement.entry ∧
      left.naks = right.naks := by
  intro left right
  have faithful :
      MapKeysFaithful (batch.map QueuedMessageWrite.command) := by
    apply mapKeysFaithful_of_senders
    intro command member
    rcases List.mem_map.mp member with ⟨entry, entryMember, rfl⟩
    exact senders entry entryMember
  have begun :
      Related db (.begin db leftClock leftOutages)
        (.begin db rightClock rightOutages) :=
    { leftSteady := ⟨sound, Extends.refl db, leftCalm⟩
      rightSteady := ⟨sound, Extends.refl db, rightCalm⟩
      inbox := rfl
      replies := rfl }
  have related : Related db left right :=
    related_of_batch noFanout faithful begun
  refine ⟨?_, ?_, ?_⟩
  · exact
      sameTables_of_inbox related.leftSteady.sound
        related.rightSteady.sound related.leftSteady.grown
        related.rightSteady.grown related.inbox
  · exact congrArg Prod.fst related.replies
  · exact congrArg Prod.snd related.replies

/-- A message, its repetition, a conflict with it, and a missing room. -/
def exampleBatch : List QueuedMessageWrite :=
  [{ msg := 1, command := exampleCommand, deliveryAttempt := 1 },
    { msg := 2, command := exampleCommand, deliveryAttempt := 1 },
    { msg := 3
      command := { exampleCommand with body := "bye" }
      deliveryAttempt := 1 },
    { msg := 4
      command :=
        { exampleCommand with
          messageId := "msg_71f3edf8d6c8c84c6a2c6e01b30d2266"
          requestId := "r2"
          roomId := "nowhere" }
      deliveryAttempt := 5 }]

theorem batch_refines_one_by_one_example :
    let left :=
      handleMessageBatch exampleEngine { disableFanout := true }
        exampleBatch
        (.begin (migrate exampleEngine exampleTables)
          (Stream'.const 2000) (Stream'.const false))
    let right :=
      handleOneByOne exampleEngine { disableFanout := true }
        exampleBatch
        (.begin (migrate exampleEngine exampleTables)
          (Stream'.const 3000) (Stream'.const false))
    SameTables true (migrate exampleEngine exampleTables)
        left.database right.database ∧
      left.acks.map Acknowledgement.entry =
        right.acks.map Acknowledgement.entry ∧
      left.naks = right.naks :=
  batch_refines_one_by_one exampleEngine { disableFanout := true } rfl
    (migrate_sound exampleEngine exampleTables) (by decide)
    (Stream'.const 2000) (Stream'.const 3000) (fun _ => rfl)
    (fun _ => rfl)

end ChatBackend.Writer.BatchSplitting
