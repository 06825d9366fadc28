import ChatBackend.Writer.InboxTables
import Mathlib.Order.MinMax

/-!
# Redelivery

The queue delivers commands at least once, and the writer cuts them into
batches of its own.  A schedule is a list of calls of
`processMessageWriteCommands`; the commands of a call may repeat, and so may
the calls.

When every call of a schedule succeeds, the tables at the end only depend on
which commands were delivered.  `Delivered` says what they are.
-/

namespace ChatBackend.Writer.Redelivery

open ChatBackend.Foundation.IdempotentInbox
open ChatBackend.Foundation.TableRows
open ChatBackend.Storage.Schema
open ChatBackend.Storage.SequenceMigration
open ChatBackend.Storage.TableInvariants
open ChatBackend.Writer.WriteCommands
open ChatBackend.Writer.BatchTransaction
open ChatBackend.Writer.BatchSpecification
open ChatBackend.Writer.BatchInvariants
open ChatBackend.Writer.MessageInbox
open ChatBackend.Writer.InboxAcceptance
open ChatBackend.Writer.InboxTables

/-! ## Schedules -/

/--
A call of `processMessageWriteCommands` on a non-empty batch.  The batch
handler passes no fallback connection, and the handler of a single command
passes the command's own, so that the fallback changes no command.
-/
structure WriterCall where
  now : Timestamp
  commands : List MessageWriteCommand
  originConnectionId : Option ConnectionId := none
  nonempty : commands ≠ [] := by decide
  ownOrigins :
    ∀ command ∈ commands,
      command.originConnectionId.or originConnectionId =
        command.originConnectionId := by decide

/-- Make the calls of a schedule, all of which have to succeed. -/
def processAll
    (engine : Engine) (db : Database) :
    List WriterCall → Except Failure Database
  | [] => .ok db
  | call :: rest =>
      match processMessageWriteCommands engine call.now db call.commands
          call.originConnectionId with
      | .error failure => .error failure
      | .ok (committed, _) => processAll engine committed rest

/-- The commands of a schedule, in the order of delivery. -/
def commandsOf (schedule : List WriterCall) : List MessageWriteCommand :=
  schedule.flatMap WriterCall.commands

/-- Inversion for the first call of a successful schedule. -/
theorem processAll_cons_ok
    {engine : Engine} {db final : Database} {call : WriterCall}
    {rest : List WriterCall}
    (succeeded : processAll engine db (call :: rest) = .ok final) :
    ∃ committed returned,
      processMessageWriteCommands engine call.now db call.commands
            call.originConnectionId =
          .ok (committed, returned) ∧
        processAll engine committed rest = .ok final := by
  unfold processAll at succeeded
  split at succeeded
  · simp at succeeded
  · rename_i committed returned processed
    exact ⟨committed, returned, processed, succeeded⟩

/-- The commands to deliver, in tables that know nothing about them. -/
structure Deliverable
    (start : Database) (commands : List MessageWriteCommand) : Prop where
  keys : (commands.map MessageWriteCommand.key).Nodup
  ids : (commands.map MessageWriteCommand.messageId).Nodup
  senders : ∀ command ∈ commands, start.hasUser command.senderId
  rooms : ∀ command ∈ commands, start.hasRoom command.roomId
  freshWrites :
    ∀ command ∈ commands, ∀ write ∈ start.messageWrites,
      write.key ≠ command.key ∧ write.id ≠ command.messageId
  freshMessages :
    ∀ command ∈ commands, ∀ message ∈ start.messages,
      message.id ≠ command.messageId ∧
        message.key? ≠ some command.key

/-- The schedule delivers these commands, each at least once. -/
structure Covers
    (commands : List MessageWriteCommand) (schedule : List WriterCall) :
    Prop where
  drawn : ∀ command ∈ commandsOf schedule, command ∈ commands
  delivered : ∀ command ∈ commands, command ∈ commandsOf schedule

/-! ## What a schedule leaves behind -/

/-- The write row of a delivered command. -/
def persistedWrite (command : MessageWriteCommand) : MessageWrite :=
  { id := command.messageId
    requestId := command.requestId
    senderId := command.senderId
    roomId := command.roomId
    content := command.body
    acceptedAt := command.acceptedAt
    status := .persisted
    persistedAt := some command.acceptedAt }

/-- The message of a delivered command, without its number. -/
def deliveredMessage (command : MessageWriteCommand) : Message :=
  { id := command.messageId
    content := command.body
    createdAt := command.acceptedAt
    requestId := some command.requestId
    roomSequence := 0
    senderId := command.senderId
    roomId := command.roomId }

/-- The outbox row of a delivered command, without its times. -/
def deliveredOutbox
    (engine : Engine) (command : MessageWriteCommand) : MessageOutbox :=
  outboxRow engine 0 command.messageId command.originConnectionId

/-- A room after the delivery of some commands. -/
def deliveredRoom
    (commands : List MessageWriteCommand) (room : Room) : Room :=
  { room with
    nextMessageSeq :=
      room.nextMessageSeq +
        commands.countP fun command => command.roomId == room.id
    lastMessageAt :=
      (commands.filter fun command => command.roomId == room.id).foldl
        (fun latest command => max latest command.acceptedAt)
        room.lastMessageAt }

theorem le_foldl_max_iff
    (commands : List MessageWriteCommand) (start time : Timestamp) :
    time ≤
        commands.foldl
          (fun latest command => max latest command.acceptedAt) start ↔
      time ≤ start ∨ ∃ command ∈ commands, time ≤ command.acceptedAt := by
  induction commands generalizing start with
  | nil => simp
  | cons command rest induction =>
      rw [List.foldl_cons, induction, le_max_iff]
      simp [or_assoc]

/-- The tables after every command has been delivered. -/
structure Delivered
    (engine : Engine) (start : Database)
    (commands : List MessageWriteCommand) (db : Database) : Prop where
  users : db.users = start.users
  roomMembers : db.roomMembers = start.roomMembers
  messageWrites :
    db.messageWrites.Perm
      (start.messageWrites ++ commands.map persistedWrite)
  messages :
    ∃ added, db.messages = start.messages ++ added ∧
      (added.map unnumbered).Perm (commands.map deliveredMessage)
  messageOutbox :
    (db.messageOutbox.map timeless).Perm
      (start.messageOutbox.map timeless ++
        commands.map (deliveredOutbox engine))
  rooms : db.rooms = start.rooms.map (deliveredRoom commands)

/-! ## A schedule as one delivery -/

section Schedule

variable {engine : Engine} {start db final : Database}
  {commands : List MessageWriteCommand} {schedule : List WriterCall}

/-- A successful batch has no two commands with one map key. -/
theorem faithful_of_success
    {batch deduped : List MessageWriteCommand}
    (ids : (commands.map MessageWriteCommand.messageId).Nodup)
    (drawn : ∀ command ∈ batch, command ∈ commands)
    (noConflict : dedupeMessageWriteCommands batch = .ok deduped) :
    MapKeysFaithful batch := by
  intro left leftMember right rightMember sameMapKey
  rcases dedupe_represents noConflict left leftMember with
    ⟨kept, keptMember, keptKey, keptAgrees⟩
  rcases dedupe_represents noConflict right rightMember with
    ⟨other, otherMember, otherKey, otherAgrees⟩
  have sameKept : kept = other :=
    eq_of_unique_key (dedupe_mapKeys_nodup noConflict) keptMember
      otherMember ((keptKey.trans sameMapKey).trans otherKey.symm)
  rw [MessageWriteCommand.agrees_iff] at keptAgrees otherAgrees
  have sameId : left.messageId = right.messageId := by
    rw [← keptAgrees.1, ← otherAgrees.1, sameKept]
  rw [eq_of_unique_key ids (drawn left leftMember)
    (drawn right rightMember) sameId]

theorem call_delivered (engine : Engine) (call : WriterCall) :
    delivered engine call.originConnectionId call.commands =
      delivered engine none call.commands := by
  have sameInput :
      messageWriteInput call.commands call.originConnectionId =
        messageWriteInput call.commands none := by
    apply List.map_congr_left
    intro command member
    rw [call.ownOrigins command member, Option.or_none]
  rw [delivered, delivered, sameInput]

/-- One call after the others is part of one delivery of all. -/
theorem processed_after
    {inbox : MessageInbox} {done : List MessageWriteCommand}
    {call : WriterCall} {committed : Database}
    {returned : List MessageDto}
    (ids : (commands.map MessageWriteCommand.messageId).Nodup)
    (drawn : ∀ command ∈ call.commands, command ∈ commands)
    (decisive : Decisive (messageRules engine) inbox.items)
    (sound : Sound db)
    (reached :
      inboxOf false db = absorb inbox (delivered engine none done))
    (succeeded :
      processMessageWriteCommands engine call.now db call.commands
          call.originConnectionId =
        .ok (committed, returned)) :
    inboxOf false committed =
      absorb inbox (delivered engine none (done ++ call.commands)) := by
  rcases batch_result sound call.nonempty succeeded with
    ⟨deduped, noConflict, _⟩
  have faithful := faithful_of_success ids drawn noConflict
  rcases processed_inbox false sound faithful call.nonempty succeeded
    with ⟨accepts, inboxEq⟩
  have distinct := accepts.distinct (inboxOf_keyed sound.valid)
  rw [call_delivered, reached, accepted_append] at distinct
  rw [inboxEq, call_delivered, reached, delivered_append]
  exact absorb_append distinct decisive

theorem processAll_inbox
    {inbox : MessageInbox} {done : List MessageWriteCommand}
    (ids : (commands.map MessageWriteCommand.messageId).Nodup)
    (drawn : ∀ command ∈ commandsOf schedule, command ∈ commands)
    (decisive : Decisive (messageRules engine) inbox.items)
    (sound : Sound db)
    (reached :
      inboxOf false db = absorb inbox (delivered engine none done))
    (succeeded : processAll engine db schedule = .ok final) :
    inboxOf false final =
      absorb inbox
        (delivered engine none (done ++ commandsOf schedule)) := by
  induction schedule generalizing db done with
  | nil =>
      simp only [processAll, Except.ok.injEq] at succeeded
      rw [← succeeded, reached]
      simp [commandsOf]
  | cons call rest induction =>
      rcases processAll_cons_ok succeeded with
        ⟨committed, returned, processed, continued⟩
      have drawnNow : ∀ command ∈ call.commands, command ∈ commands :=
        fun command member =>
          drawn command (List.mem_append_left _ member)
      have drawnLater :
          ∀ command ∈ commandsOf rest, command ∈ commands :=
        fun command member =>
          drawn command (List.mem_append_right _ member)
      have next :=
        processed_after ids drawnNow decisive sound reached processed
      have finished :=
        induction drawnLater
          (processMessageWriteCommands_sound sound processed) next
          continued
      rw [finished, List.append_assoc]
      rfl

theorem processAll_sound
    (sound : Sound db)
    (succeeded : processAll engine db schedule = .ok final) :
    Sound final ∧ Extends db final := by
  induction schedule generalizing db with
  | nil =>
      simp only [processAll, Except.ok.injEq] at succeeded
      exact succeeded ▸ ⟨sound, Extends.refl db⟩
  | cons call rest induction =>
      rcases processAll_cons_ok succeeded with
        ⟨committed, returned, processed, continued⟩
      rcases induction
          (processMessageWriteCommands_sound sound processed) continued
        with ⟨finalSound, grown⟩
      refine ⟨finalSound, Extends.trans ?_ grown⟩
      rcases batch_result sound call.nonempty processed with
        ⟨deduped, _, _, _, rfl, _⟩
      exact batchResult_extends engine call.now db _

/-- A schedule that covers the commands delivers each of them once. -/
theorem delivered_commandsOf
    (engine : Engine)
    (keys : (commands.map MessageWriteCommand.key).Nodup)
    (covers : Covers commands schedule) :
    delivered engine none (commandsOf schedule) =
      delivered engine none commands := by
  have first :
      ∀ key : WriteKey,
        ((commandsOf schedule).find? fun command => command.key == key) =
          commands.find? fun command => command.key == key := by
    intro key
    cases found : commands.find? fun command => command.key == key with
    | none =>
        rw [List.find?_eq_none] at found ⊢
        intro command member
        exact found command (covers.drawn command member)
    | some command =>
        have member := List.mem_of_find?_eq_some found
        have sameKey := List.find?_some found
        cases again :
            (commandsOf schedule).find? fun command =>
              command.key == key with
        | none =>
            rw [List.find?_eq_none] at again
            exact
              absurd sameKey
                (again command (covers.delivered command member))
        | some other =>
            have otherMember :=
              covers.drawn other (List.mem_of_find?_eq_some again)
            have otherKey := List.find?_some again
            rw [eq_of_unique_key keys otherMember member
              ((beq_iff_eq.mp otherKey).trans
                (beq_iff_eq.mp sameKey).symm)]
  apply Delivery.ext
  funext key
  change
    (messageWriteInput (commandsOf schedule) none).find? _ =
      (messageWriteInput commands none).find? _
  simp only [messageWriteInput, List.find?_map]
  exact congrArg _ (first key)

/-- The inbox at the end of a schedule. -/
theorem schedule_inbox
    (sound : Sound start) (deliverable : Deliverable start commands)
    (covers : Covers commands schedule)
    (succeeded : processAll engine start schedule = .ok final) :
    inboxOf false final =
      absorb (inboxOf false start) (delivered engine none commands) := by
  have nothing :
      inboxOf false start =
        absorb (inboxOf false start) (delivered engine none []) :=
    (absorb_nothing fun _ => rfl).symm
  rw [processAll_inbox deliverable.ids covers.drawn
    (inboxOf_decisive sound.valid) sound nothing succeeded,
    List.nil_append,
    delivered_commandsOf engine deliverable.keys covers]

end Schedule

/-! ## The delivery of new commands -/

section Deliverables

variable {engine : Engine} {start db : Database}
  {commands : List MessageWriteCommand}

theorem request_of_deliverable
    (engine : Engine)
    (keys : (commands.map MessageWriteCommand.key).Nodup)
    {command : MessageWriteCommand} (member : command ∈ commands) :
    ∃ row,
      (delivered engine none commands).request command.key = some row ∧
        row.toMessageWrite = entryOf (persistedWrite command) ∧
        row.originConnectionId = command.originConnectionId := by
  have unique := messageWriteInput_unique none keys
  refine
    ⟨_,
      request_of_mem engine unique
        (mem_messageWriteInput.mpr ⟨command, member, rfl⟩),
      rfl, ?_⟩
  exact Option.or_none

/-- Every request of the delivery comes from one of the commands. -/
theorem command_of_request
    {key : WriteKey} {row : InputRow}
    (found : (delivered engine none commands).request key = some row) :
    ∃ command ∈ commands, command.key = key ∧
      row.toMessageWrite = entryOf (persistedWrite command) ∧
      row.originConnectionId = command.originConnectionId := by
  rcases mem_of_request found with ⟨rowMember, sameKey⟩
  rcases mem_messageWriteInput.mp rowMember with
    ⟨command, member, rfl⟩
  exact ⟨command, member, sameKey, rfl, Option.or_none⟩

section Computed

variable (deliverable : Deliverable start commands)

include deliverable

theorem fresh_deliverable :
    fresh (inboxOf false start) (delivered engine none commands) =
      {entry |
        ∃ command ∈ commands,
          entryOf (persistedWrite command) = entry} := by
  ext entry
  rw [delivered, mem_fresh]
  constructor
  · rintro ⟨⟨row, found, rfl⟩, _⟩
    rcases command_of_request found with
      ⟨command, member, _, sameEntry, _⟩
    exact ⟨command, member, sameEntry.symm⟩
  · rintro ⟨command, member, rfl⟩
    rcases request_of_deliverable engine deliverable.keys member with
      ⟨row, found, sameEntry, _⟩
    exact
      ⟨⟨row, found, sameEntry⟩, fun write writeMember =>
        (deliverable.freshWrites command member write writeMember).1⟩

theorem touched_deliverable :
    touched (inboxOf false start) (delivered engine none commands) =
      {entry |
        ∃ command ∈ commands,
          entryOf (persistedWrite command) = entry} := by
  ext entry
  constructor
  · rintro ⟨old | new, row, found⟩
    · rcases old with ⟨write, writeMember, rfl⟩
      rcases command_of_request found with ⟨command, member, sameKey, _⟩
      exact
        absurd sameKey.symm
          (deliverable.freshWrites command member write writeMember).1
    · rwa [fresh_deliverable deliverable] at new
  · rintro ⟨command, member, rfl⟩
    rcases request_of_deliverable engine deliverable.keys member with
      ⟨row, found, _⟩
    refine ⟨Or.inr ?_, row, found⟩
    rw [fresh_deliverable deliverable]
    exact ⟨command, member, rfl⟩

theorem productive_deliverable :
    productive (inboxOf false start) (delivered engine none commands) =
      {entry |
        ∃ command ∈ commands,
          entryOf (persistedWrite command) = entry} := by
  ext entry
  rw [productive, touched_deliverable deliverable]
  constructor
  · exact fun produced => produced.1
  · rintro ⟨command, member, rfl⟩
    refine ⟨⟨command, member, rfl⟩, ?_, ?_⟩
    · have absent :
          ∀ write ∈ start.messageWrites, write.key ≠ command.key :=
        fun write writeMember =>
          (deliverable.freshWrites command member write writeMember).1
      have progress := progress_of_absent false absent
      intro dead
      change
        ((inboxOf false start).progress command.key).status = .dead
        at dead
      rw [progress] at dead
      cases dead
    · rintro item ⟨message, messageMember, rfl⟩
      have isNew :=
        deliverable.freshMessages command member message messageMember
      exact not_or.mpr isNew

/-- A delivered command is settled by its own message. -/
theorem settles_deliverable {key : WriteKey} {item : Message} :
    Settles (inboxOf false start) (delivered engine none commands) key
        item ↔
      ∃ command ∈ commands, command.key = key ∧
        deliveredMessage command = item := by
  rw [Settles, touched_deliverable deliverable, itemsAfter,
    productive_deliverable deliverable]
  constructor
  · rintro ⟨member, ⟨_, ⟨linked, linkedMember, rfl⟩, link⟩, _, settles⟩
    rcases member with
      ⟨message, messageMember, rfl⟩ | ⟨_, ⟨command, inList, rfl⟩, rfl⟩
    · have isNew :=
        deliverable.freshMessages linked linkedMember message
          messageMember
      exact absurd link (not_or.mpr isNew)
    · exact ⟨command, inList, Option.some.inj settles, rfl⟩
  · rintro ⟨command, member, rfl, rfl⟩
    refine
      ⟨Or.inr ⟨_, ⟨command, member, rfl⟩, rfl⟩,
        ⟨_, ⟨command, member, rfl⟩, Or.inl rfl⟩,
        ⟨entryOf (persistedWrite command), Or.inr ?_, rfl⟩, rfl⟩
    rw [fresh_deliverable deliverable]
    exact ⟨command, member, rfl⟩

/-- The write rows that the tables have to hold in the end. -/
theorem progress_deliverable
    (valid : start.Valid) {write : MessageWrite}
    (member :
      write ∈ start.messageWrites ++ commands.map persistedWrite) :
    (absorb (inboxOf false start)
          (delivered engine none commands)).progress write.key =
      progressOf false write := by
  change
    settleWith (messageRules engine)
        (Settles (inboxOf false start) (delivered engine none commands)
          write.key)
        ((inboxOf false start).progress write.key) = _
  rcases List.mem_append.mp member with old | new
  · rw [settleWith_none, progress_of_mem false valid old]
    rintro item settles
    rcases (settles_deliverable deliverable).mp settles with
      ⟨command, commandMember, sameKey, _⟩
    exact
      (deliverable.freshWrites command commandMember write old).1
        sameKey.symm
  · rcases List.mem_map.mp new with ⟨command, commandMember, rfl⟩
    have absent :
        ∀ write ∈ start.messageWrites,
          write.key ≠ (persistedWrite command).key :=
      fun write writeMember =>
        (deliverable.freshWrites command commandMember write
          writeMember).1
    have settles :
        Settles (inboxOf false start) (delivered engine none commands)
          (persistedWrite command).key (deliveredMessage command) :=
      (settles_deliverable deliverable).mpr
        ⟨command, commandMember, rfl, rfl⟩
    have alone :
        ∀ other,
          Settles (inboxOf false start) (delivered engine none commands)
              (persistedWrite command).key other →
            other = deliveredMessage command := by
      intro other otherSettles
      rcases (settles_deliverable deliverable).mp otherSettles with
        ⟨source, sourceMember, sameKey, rfl⟩
      rw [eq_of_unique_key deliverable.keys sourceMember commandMember
        sameKey]
    rw [progress_of_absent false absent, settleWith_eq rfl settles alone]
    rfl

end Computed

/-! ## The tables at the end -/

section Final

variable
  (startSound : Sound start) (sound : Sound db)
  (grown : Extends start db)
  (deliverable : Deliverable start commands)
  (inboxEq :
    inboxOf false db =
      absorb (inboxOf false start) (delivered engine none commands))

include startSound sound deliverable inboxEq

theorem delivered_writes :
    db.messageWrites.Perm
      (start.messageWrites ++ commands.map persistedWrite) := by
  have entries :
      ∀ entry,
        entry ∈ db.messageWrites.map entryOf ↔
          entry ∈
            (start.messageWrites ++ commands.map persistedWrite).map
              entryOf := by
    intro entry
    rw [← mem_entries false, inboxEq, absorb, accepted,
      fresh_deliverable deliverable, List.map_append, List.mem_append,
      ← mem_entries false]
    simp
  have progress :
      ∀ write ∈ start.messageWrites ++ commands.map persistedWrite,
        (inboxOf false db).progress write.key =
          progressOf false write := by
    intro write member
    rw [inboxEq]
    exact progress_deliverable deliverable startSound.valid member
  have same :
      ∀ stored ∈ db.messageWrites,
        ∀ write ∈ start.messageWrites ++ commands.map persistedWrite,
          entryOf stored = entryOf write → stored = write := by
    intro stored storedMember write member sameEntry
    apply eq_of_entryOf sameEntry
    have sameKey := congrArg MessageWrite.key sameEntry
    change stored.key = write.key at sameKey
    rw [← progress write member, ← sameKey,
      progress_of_mem false sound.valid storedMember]
  apply perm_of_members MessageWrite.key sound.valid.writeKeys
  · rw [List.map_append, List.nodup_append, List.map_map]
    refine ⟨startSound.valid.writeKeys, deliverable.keys, ?_⟩
    intro oldKey oldMember newKey newMember sameKey
    rcases List.mem_map.mp oldMember with ⟨old, oldIn, rfl⟩
    rcases List.mem_map.mp newMember with ⟨new, newIn, rfl⟩
    exact (deliverable.freshWrites new newIn old oldIn).1 sameKey
  · intro write
    constructor
    · intro stored
      rcases List.mem_map.mp
          ((entries _).mp (List.mem_map_of_mem stored)) with
        ⟨other, otherMember, sameEntry⟩
      rw [same write stored other otherMember sameEntry.symm]
      exact otherMember
    · intro member
      rcases List.mem_map.mp
          ((entries _).mpr (List.mem_map_of_mem member)) with
        ⟨stored, storedMember, sameEntry⟩
      rw [← same stored storedMember write member sameEntry]
      exact storedMember

theorem delivered_messages :
    (db.messages.map unnumbered).Perm
      (start.messages.map unnumbered ++
        commands.map deliveredMessage) := by
  apply perm_of_members Message.id
  · rw [List.map_map]
    exact message_ids_nodup sound.valid
  · rw [List.map_append, List.map_map, List.map_map,
      List.nodup_append]
    refine
      ⟨message_ids_nodup startSound.valid, deliverable.ids, ?_⟩
    intro oldId oldMember newId newMember sameId
    rcases List.mem_map.mp oldMember with ⟨old, oldIn, rfl⟩
    rcases List.mem_map.mp newMember with ⟨new, newIn, rfl⟩
    exact (deliverable.freshMessages new newIn old oldIn).1 sameId
  · intro item
    rw [← mem_items false, inboxEq, absorb, itemsAfter,
      productive_deliverable deliverable, List.mem_append,
      ← mem_items false, List.mem_map]
    constructor
    · rintro (old | ⟨_, ⟨command, member, rfl⟩, rfl⟩)
      · exact Or.inl old
      · exact Or.inr ⟨command, member, rfl⟩
    · rintro (old | ⟨command, member, rfl⟩)
      · exact Or.inl old
      · exact Or.inr ⟨_, ⟨command, member, rfl⟩, rfl⟩

omit startSound sound in
/-- The effects of the delivery, by the commands that cause them. -/
theorem delivered_effects {effect : Effect} :
    effect ∈ (inboxOf false db).effects ↔
      effect ∈ (inboxOf false start).effects ∨
        ∃ command ∈ commands,
          effect = .enqueued (deliveredOutbox engine command) ∨
            ∃ time ≤ command.acceptedAt,
              effect = .active command.roomId time := by
  rw [inboxEq, absorb, Set.mem_union, newEffects,
    productive_deliverable deliverable]
  constructor
  · rintro (old | ⟨_, ⟨command, member, rfl⟩, row, found, caused⟩)
    · exact Or.inl old
    · rcases request_of_deliverable engine deliverable.keys member with
        ⟨other, otherFound, _, sameOrigin⟩
      have sameRow : row = other :=
        Option.some.inj (found.symm.trans otherFound)
      rw [← sameRow] at sameOrigin
      refine Or.inr ⟨command, member, ?_⟩
      rw [deliveredOutbox, ← sameOrigin]
      exact caused
  · rintro (old | ⟨command, member, caused⟩)
    · exact Or.inl old
    · rcases request_of_deliverable engine deliverable.keys member with
        ⟨row, found, _, sameOrigin⟩
      rw [deliveredOutbox, ← sameOrigin] at caused
      exact
        Or.inr
          ⟨_, ⟨command, member, rfl⟩, row, found, caused⟩

theorem delivered_outbox :
    (db.messageOutbox.map timeless).Perm
      (start.messageOutbox.map timeless ++
        commands.map (deliveredOutbox engine)) := by
  apply perm_of_members MessageOutbox.event
  · rw [List.map_map]
    exact sound.valid.outboxEvents
  · rw [List.map_append, List.map_map, List.map_map,
      List.nodup_append]
    refine ⟨startSound.valid.outboxEvents, ?_, ?_⟩
    · have events :
          ((commands.map MessageWriteCommand.messageId).map fun id =>
            (messageCreated, id)).Nodup :=
        deliverable.ids.map fun left right same =>
          congrArg Prod.snd same
      rw [List.map_map] at events
      exact events
    · intro oldEvent oldMember newEvent newMember sameEvent
      rcases List.mem_map.mp oldMember with ⟨old, oldIn, rfl⟩
      rcases List.mem_map.mp newMember with ⟨new, newIn, rfl⟩
      rcases startSound.valid.outboxMessage old oldIn with
        ⟨message, messageMember, sameId⟩
      have sameMessage := congrArg Prod.snd sameEvent
      exact
        (deliverable.freshMessages new newIn message messageMember).1
          (sameId.trans sameMessage)
  · intro row
    rw [← enqueued_iff false,
      delivered_effects deliverable inboxEq,
      List.mem_append, ← enqueued_iff false, List.mem_map]
    constructor
    · rintro (old | ⟨command, member, same | ⟨_, _, impossible⟩⟩)
      · exact Or.inl old
      · exact Or.inr ⟨command, member, (Effect.enqueued.inj same).symm⟩
      · cases impossible
    · rintro (old | ⟨command, member, rfl⟩)
      · exact Or.inl old
      · exact Or.inr ⟨command, member, Or.inl rfl⟩

/-- A room was active in its delivered commands. -/
theorem delivered_lastMessageAt
    {room old : Room} (member : room ∈ db.rooms)
    (oldMember : old ∈ start.rooms) (sameId : room.id = old.id) :
    room.lastMessageAt = (deliveredRoom commands old).lastMessageAt := by
  apply eq_of_forall_le_iff
  intro time
  rw [← active_iff false sound.valid member,
    delivered_effects deliverable inboxEq, sameId,
    active_iff false startSound.valid oldMember, deliveredRoom,
    le_foldl_max_iff]
  simp only [List.mem_filter, beq_iff_eq]
  constructor
  · rintro (early | ⟨command, inList, impossible | ⟨_, bound, same⟩⟩)
    · exact Or.inl early
    · cases impossible
    · rcases Effect.active.inj same with ⟨inRoom, rfl⟩
      exact Or.inr ⟨command, ⟨inList, inRoom.symm⟩, bound⟩
  · rintro (early | ⟨command, ⟨inList, inRoom⟩, bound⟩)
    · exact Or.inl early
    · exact
        Or.inr ⟨command, inList, Or.inr ⟨time, bound, by rw [inRoom]⟩⟩

theorem delivered_nextMessageSeq
    {room old : Room} (member : room ∈ db.rooms)
    (oldMember : old ∈ start.rooms) (sameId : room.id = old.id) :
    room.nextMessageSeq = (deliveredRoom commands old).nextMessageSeq := by
  have perm :=
    (delivered_messages startSound sound deliverable inboxEq).filter
      fun message => message.roomId == old.id
  have delivered :
      ((commands.map deliveredMessage).filter fun message =>
          message.roomId == old.id).length =
        commands.countP fun command => command.roomId == old.id := by
    rw [List.filter_map, List.length_map, List.countP_eq_length_filter]
    rfl
  change
    room.nextMessageSeq =
      old.nextMessageSeq +
        commands.countP fun command => command.roomId == old.id
  rw [nextMessageSeq_eq sound.numbered member, sameId, perm.length_eq,
    List.filter_append, List.length_append, delivered,
    nextMessageSeq_eq startSound.numbered oldMember]
  omega

include grown in
theorem delivered_rooms :
    db.rooms = start.rooms.map (deliveredRoom commands) := by
  have columns :
      db.rooms.map fixedColumns =
        (start.rooms.map (deliveredRoom commands)).map fixedColumns := by
    rw [grown.rooms, List.map_map]
    rfl
  apply eq_of_map_eq columns
  rintro room member _ other sameColumns
  rcases List.mem_map.mp other with ⟨old, oldMember, rfl⟩
  have sameId := congrArg Room.id sameColumns
  change room.id = old.id at sameId
  have sameNext :=
    delivered_nextMessageSeq startSound sound deliverable inboxEq member
      oldMember sameId
  have sameLast :=
    delivered_lastMessageAt startSound sound deliverable inboxEq member
      oldMember sameId
  generalize deliveredRoom commands old = delivered at *
  cases room
  cases delivered
  simp_all [fixedColumns]

include grown in
theorem delivered_of_inbox : Delivered engine start commands db := by
  refine
    { users := grown.users
      roomMembers := grown.roomMembers
      messageWrites :=
        delivered_writes startSound sound deliverable inboxEq
      messages := ?_
      messageOutbox :=
        delivered_outbox startSound sound deliverable inboxEq
      rooms :=
        delivered_rooms startSound sound grown deliverable inboxEq }
  rcases grown.messages with ⟨added, addedEq⟩
  have perm :=
    delivered_messages startSound sound deliverable inboxEq
  rw [addedEq, List.map_append, List.perm_append_left_iff] at perm
  exact ⟨added, addedEq, perm⟩

end Final

end Deliverables

/-! ## Schedule independence -/

/--
Two schedules which deliver the same commands, every call with success, end
with the same tables: the tables in which every command is stored once.
-/
theorem schedules_deliver_once
    (engine : Engine) {start : Database}
    {commands : List MessageWriteCommand}
    {firstSchedule secondSchedule : List WriterCall}
    {first second : Database}
    (sound : Sound start) (deliverable : Deliverable start commands)
    (firstCovers : Covers commands firstSchedule)
    (secondCovers : Covers commands secondSchedule)
    (firstSucceeded :
      processAll engine start firstSchedule = .ok first)
    (secondSucceeded :
      processAll engine start secondSchedule = .ok second) :
    SameTables false start first second ∧
      Delivered engine start commands first ∧
      Delivered engine start commands second := by
  rcases processAll_sound sound firstSucceeded with
    ⟨firstSound, firstGrown⟩
  rcases processAll_sound sound secondSucceeded with
    ⟨secondSound, secondGrown⟩
  have firstInbox :=
    schedule_inbox sound deliverable firstCovers firstSucceeded
  have secondInbox :=
    schedule_inbox sound deliverable secondCovers secondSucceeded
  refine ⟨?_, ?_, ?_⟩
  · exact
      sameTables_of_inbox firstSound secondSound firstGrown secondGrown
        (firstInbox.trans secondInbox.symm)
  · exact
      delivered_of_inbox sound firstSound firstGrown deliverable
        firstInbox
  · exact
      delivered_of_inbox sound secondSound secondGrown deliverable
        secondInbox

/-- A second message, with an origin connection and an earlier time. -/
def exampleReply : MessageWriteCommand where
  messageId := "msg_aa529221bae48427bcb7f5d5d7b25fc3"
  requestId := "r1"
  senderId := "ben"
  roomId := "room"
  body := "hi"
  acceptedAt := 900
  originConnectionId := some "connection"

/-- The two messages in one batch, with a repetition. -/
def exampleBatched : List WriterCall :=
  [{ now := 2000
     commands := [exampleCommand, exampleReply, exampleCommand] }]

/-- The two messages one by one, and one of them again. -/
def exampleSeparate : List WriterCall :=
  [{ now := 1500
     commands := [exampleReply]
     originConnectionId := some "connection" },
    { now := 1600, commands := [exampleCommand] },
    { now := 1700, commands := [exampleReply, exampleCommand] }]

theorem schedules_deliver_once_example :
    ∃ first second,
      SameTables false (migrate exampleEngine exampleTables) first
          second ∧
        Delivered exampleEngine (migrate exampleEngine exampleTables)
          [exampleCommand, exampleReply] first ∧
        Delivered exampleEngine (migrate exampleEngine exampleTables)
          [exampleCommand, exampleReply] second := by
  have deliverable :
      Deliverable (migrate exampleEngine exampleTables)
        [exampleCommand, exampleReply] :=
    { keys := by decide
      ids := by decide
      senders := by decide
      rooms := by decide
      freshWrites := by decide
      freshMessages := by decide }
  have batchedSucceeds :
      (processAll exampleEngine (migrate exampleEngine exampleTables)
        exampleBatched).isOk = true := by
    decide
  have separateSucceeds :
      (processAll exampleEngine (migrate exampleEngine exampleTables)
        exampleSeparate).isOk = true := by
    decide
  cases batched :
      processAll exampleEngine (migrate exampleEngine exampleTables)
        exampleBatched with
  | error failure =>
      rw [batched] at batchedSucceeds
      simp [Except.isOk, Except.toBool] at batchedSucceeds
  | ok first =>
      cases separate :
          processAll exampleEngine (migrate exampleEngine exampleTables)
            exampleSeparate with
      | error failure =>
          rw [separate] at separateSucceeds
          simp [Except.isOk, Except.toBool] at separateSucceeds
      | ok second =>
          exact
            ⟨first, second,
              schedules_deliver_once exampleEngine
                (migrate_sound exampleEngine exampleTables) deliverable
                ⟨by decide, by decide⟩ ⟨by decide, by decide⟩ batched
                separate⟩

end ChatBackend.Writer.Redelivery
