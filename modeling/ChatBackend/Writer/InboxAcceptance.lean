import ChatBackend.Writer.MessageInbox

/-!
# What the inbox accepts

Whether a batch succeeds is decided by the inbox alone.  `Accepts` states the
condition on the commands of a batch, duplicates included, and
`Accepts.append` cuts it: when a batch is accepted, so is its first part, and
then the rest after the delivery of the first part.

A single command which is not accepted fails with `rejection`, which again
only depends on the inbox.
-/

noncomputable section

namespace ChatBackend.Writer.InboxAcceptance

open ChatBackend.Foundation.IdempotentInbox
open ChatBackend.Foundation.TableRows
open ChatBackend.Foundation.Transactions
open ChatBackend.Storage.Schema
open ChatBackend.Storage.TableInvariants
open ChatBackend.Writer.WriteCommands
open ChatBackend.Writer.BatchTransaction
open ChatBackend.Writer.BatchSpecification
open ChatBackend.Writer.BatchInvariants
open ChatBackend.Writer.MessageInbox

abbrev MessageInbox :=
  Inbox WriteKey MessageWrite Message Progress Effect

/-- The users and rooms that exist. -/
structure Directory where
  user : UserId → Prop
  room : RoomId → Prop

def directoryOf (db : Database) : Directory where
  user := fun id => db.hasUser id = true
  room := fun id => db.hasRoom id = true

/-- The delivery of a batch of commands. -/
def delivered
    (engine : Engine) (origin : Option ConnectionId)
    (commands : List MessageWriteCommand) :
    Delivery (messageRules engine) :=
  deliveryOf engine (messageWriteInput commands origin)

def outboxId (engine : Engine) (messageId : MessageId) : String :=
  (outboxRow engine 0 messageId none).id

@[simp]
theorem outboxRow_id
    (engine : Engine) (now : Timestamp) (messageId : MessageId)
    (origin : Option ConnectionId) :
    (outboxRow engine now messageId origin).id =
      outboxId engine messageId :=
  rfl

/-- The condition under which a batch of commands succeeds. -/
structure Accepts
    (engine : Engine) (directory : Directory) (inbox : MessageInbox)
    (origin : Option ConnectionId)
    (commands : List MessageWriteCommand) : Prop where
  ids :
    ∀ left ∈ accepted inbox (delivered engine origin commands),
      ∀ right ∈ accepted inbox (delivered engine origin commands),
        left.id = right.id → left = right
  senders :
    ∀ entry ∈ fresh inbox (delivered engine origin commands),
      directory.user entry.senderId
  rooms :
    ∀ entry ∈ fresh inbox (delivered engine origin commands),
      directory.room entry.roomId
  matched :
    ∀ command ∈ commands,
      ∃ entry ∈ accepted inbox (delivered engine origin commands),
        MatchesWrite entry command
  freshOutboxIds :
    ∀ entry ∈ productive inbox (delivered engine origin commands),
      ∀ row, Effect.enqueued row ∈ inbox.effects →
        row.id ≠ outboxId engine entry.id
  distinctOutboxIds :
    ∀ left ∈ productive inbox (delivered engine origin commands),
      ∀ right ∈ productive inbox (delivered engine origin commands),
        outboxId engine left.id = outboxId engine right.id →
          left = right

/-! ## Cutting a batch -/

section Cut

variable {engine : Engine} {directory : Directory}
  {inbox : MessageInbox} {origin : Option ConnectionId}
  {first second commands : List MessageWriteCommand}

theorem delivered_append
    (engine : Engine) (origin : Option ConnectionId)
    (first second : List MessageWriteCommand) :
    delivered engine origin (first ++ second) =
      (delivered engine origin first).append
        (delivered engine origin second) := by
  rw [delivered, delivered, delivered, ← deliveryOf_append]
  simp [messageWriteInput]

theorem request_of_command
    (engine : Engine) (origin : Option ConnectionId)
    {command : MessageWriteCommand} (member : command ∈ commands) :
    ∃ row, (delivered engine origin commands).request command.key =
      some row := by
  rw [← Option.isSome_iff_exists]
  change
    ((messageWriteInput commands origin).find? fun row =>
        row.key == command.key).isSome = true
  rw [List.find?_isSome]
  have inKeys :
      command.key ∈ (messageWriteInput commands origin).map InputRow.key := by
    rw [messageWriteInput_keys]
    exact List.mem_map_of_mem member
  rcases List.mem_map.mp inKeys with ⟨row, rowMember, sameKey⟩
  exact ⟨row, rowMember, by simp [sameKey]⟩

/-- Accepted entries are told apart by their ids and keys. -/
theorem Accepts.distinct
    (accepts : Accepts engine directory inbox origin commands)
    (keyed : Keyed (messageRules engine) inbox.entries) :
    Distinct (messageRules engine)
      (accepted inbox (delivered engine origin commands)) := by
  rintro left leftMember right rightMember (sameId | sameKey)
  · exact accepts.ids left leftMember right rightMember sameId
  · exact
      accepted_keyed keyed left leftMember right rightMember
        (Option.some.inj sameKey)

theorem Accepts.of_append_left
    (accepts :
      Accepts engine directory inbox origin (first ++ second))
    (keyed : Keyed (messageRules engine) inbox.entries) :
    Accepts engine directory inbox origin first := by
  have distinct := accepts.distinct keyed
  rcases accepts with
    ⟨ids, senders, rooms, matched, freshOutbox, distinctOutbox⟩
  rw [delivered_append] at *
  have acceptedMono :
      accepted inbox (delivered engine origin first) ⊆
        accepted inbox
          ((delivered engine origin first).append
            (delivered engine origin second)) := by
    rw [← accepted_append]
    exact Set.subset_union_left
  have freshMono :
      fresh inbox (delivered engine origin first) ⊆
        fresh inbox
          ((delivered engine origin first).append
            (delivered engine origin second)) := by
    rintro entry ⟨⟨request, found, same⟩, isNew⟩
    exact
      ⟨⟨request, by simp [Delivery.append, found], same⟩, isNew⟩
  have productiveMono :
      productive inbox (delivered engine origin first) ⊆
        productive inbox
          ((delivered engine origin first).append
            (delivered engine origin second)) := by
    rw [productive_append distinct]
    exact Set.subset_union_left
  refine
    { ids := fun left leftMember right rightMember =>
        ids left (acceptedMono leftMember) right
          (acceptedMono rightMember)
      senders := fun entry member => senders entry (freshMono member)
      rooms := fun entry member => rooms entry (freshMono member)
      matched := ?_
      freshOutboxIds := fun entry member =>
        freshOutbox entry (productiveMono member)
      distinctOutboxIds := fun left leftMember right rightMember =>
        distinctOutbox left (productiveMono leftMember) right
          (productiveMono rightMember) }
  intro command member
  rcases matched command (List.mem_append_left _ member) with
    ⟨entry, entryMember, sameKey, rest⟩
  rcases request_of_command engine origin member with ⟨row, found⟩
  refine ⟨entry, ?_, sameKey, rest⟩
  exact accepted_of_first entryMember (sameKey ▸ found)

theorem Accepts.of_append_right
    (accepts :
      Accepts engine directory inbox origin (first ++ second))
    (keyed : Keyed (messageRules engine) inbox.entries) :
    Accepts engine directory
      (absorb inbox (delivered engine origin first)) origin second := by
  have distinct := accepts.distinct keyed
  rcases accepts with
    ⟨ids, senders, rooms, matched, freshOutbox, distinctOutbox⟩
  rw [delivered_append] at *
  have freshMono :
      fresh (absorb inbox (delivered engine origin first))
          (delivered engine origin second) ⊆
        fresh inbox
          ((delivered engine origin first).append
            (delivered engine origin second)) := by
    rintro entry ⟨⟨request, found, same⟩, isNew⟩
    have member :
        entry ∈
          accepted (absorb inbox (delivered engine origin first))
            (delivered engine origin second) :=
      Or.inr ⟨⟨request, found, same⟩, isNew⟩
    rw [accepted_append] at member
    refine member.resolve_left fun old => ?_
    exact isNew entry (Or.inl old) rfl
  have productiveMono :
      productive (absorb inbox (delivered engine origin first))
          (delivered engine origin second) ⊆
        productive inbox
          ((delivered engine origin first).append
            (delivered engine origin second)) := by
    rw [productive_append distinct]
    exact Set.subset_union_right
  refine
    { ids := by rwa [accepted_append]
      senders := fun entry member => senders entry (freshMono member)
      rooms := fun entry member => rooms entry (freshMono member)
      matched := ?_
      freshOutboxIds := ?_
      distinctOutboxIds := fun left leftMember right rightMember =>
        distinctOutbox left (productiveMono leftMember) right
          (productiveMono rightMember) }
  · intro command member
    rw [accepted_append]
    exact matched command (List.mem_append_right _ member)
  · rintro entry member row
      (old | ⟨source, sourceMember, request, found, caused⟩)
    · exact freshOutbox entry (productiveMono member) row old
    · rcases caused with enqueued | ⟨time, _, active⟩
      · intro same
        have sourceBoth :
            source ∈
              productive inbox
                ((delivered engine origin first).append
                  (delivered engine origin second)) := by
          rw [productive_append distinct]
          exact Or.inl sourceMember
        rw [Effect.enqueued.inj enqueued, outboxRow_id] at same
        have sameEntry :=
          distinctOutbox source sourceBoth entry (productiveMono member)
            same
        exact
          not_productive_again sourceMember.1 (sameEntry ▸ member)
      · cases active

end Cut

/-! ## The acceptance of the transaction -/

section Transaction

variable {engine : Engine} {now : Timestamp} {db : Database}
  {origin : Option ConnectionId} {ignoreFailedAt : Bool}
  {commands deduped : List MessageWriteCommand}

theorem inboxOf_keyed (valid : db.Valid) :
    Keyed (messageRules engine) (inboxOf ignoreFailedAt db).entries := by
  rintro _ ⟨left, leftMember, rfl⟩ _ ⟨right, rightMember, rfl⟩ same
  rw [eq_of_unique_key valid.writeKeys leftMember rightMember same]

theorem inboxOf_decisive (valid : db.Valid) :
    Decisive (messageRules engine) (inboxOf ignoreFailedAt db).items := by
  rintro _ ⟨left, leftMember, rfl⟩ _ ⟨right, rightMember, rfl⟩ key
    leftKey rightKey
  rw [message_separate valid leftMember rightMember
    (Or.inr ⟨key, leftKey, rightKey⟩)]

theorem messageWriteInput_unique
    (origin : Option ConnectionId)
    (unique : (deduped.map MessageWriteCommand.key).Nodup) :
    ((messageWriteInput deduped origin).map InputRow.key).Nodup := by
  rw [messageWriteInput_keys]
  exact unique

/-- An accepted batch of the writer is accepted by the inbox. -/
theorem accepts_of_batchAccepted
    (ignoreFailedAt : Bool) (valid : db.Valid)
    (unique : (deduped.map MessageWriteCommand.key).Nodup)
    (batchAccepted :
      BatchAccepted engine now db deduped
        (messageWriteInput deduped origin)) :
    Accepts engine (directoryOf db) (inboxOf ignoreFailedAt db) origin
      deduped := by
  have inputUnique := messageWriteInput_unique origin unique
  have stagedIds :=
    staged_writeIds valid batchAccepted.toWritesAccepted
  refine
    { ids := ?_
      senders := ?_
      rooms := ?_
      matched := ?_
      freshOutboxIds := ?_
      distinctOutboxIds := ?_ }
  · rw [delivered, accepted_eq inputUnique]
    rintro _ ⟨left, leftMember, rfl⟩ _ ⟨right, rightMember, rfl⟩ same
    rw [eq_of_unique_key stagedIds leftMember rightMember same]
  · rw [delivered, fresh_eq inputUnique]
    rintro _ ⟨write, member, rfl⟩
    exact batchAccepted.senders write member
  · rw [delivered, fresh_eq inputUnique]
    rintro _ ⟨write, member, rfl⟩
    exact batchAccepted.rooms write member
  · intro command member
    rcases batchAccepted.matched command member with
      ⟨write, writeMember, matched⟩
    refine ⟨entryOf write, ?_, matched⟩
    rw [delivered, accepted_eq inputUnique]
    exact ⟨write, writeMember, rfl⟩
  · rw [delivered, productive_eq valid inputUnique]
    rintro _ ⟨candidate, member, rfl⟩ row
      (⟨stored, storedMember, same⟩ | ⟨_, _, _, _, impossible⟩)
    · rw [Effect.enqueued.inj same]
      exact
        batchAccepted.freshOutboxIds _
          (mem_newOutbox.mpr ⟨candidate, member, rfl⟩) stored
          storedMember
    · cases impossible
  · rw [delivered, productive_eq valid inputUnique]
    rintro _ ⟨left, leftMember, rfl⟩ _ ⟨right, rightMember, rfl⟩ same
    have apart :
        (candidates engine
            (staged db (messageWriteInput deduped origin))
            (messageWriteInput deduped origin)).Pairwise fun old row =>
          outboxId engine old.1.write.id ≠
            outboxId engine row.1.write.id := by
      have outbox := batchAccepted.distinctOutboxIds
      simp only [newOutbox, newRows, List.map_map,
        List.pairwise_map] at outbox
      exact outbox
    have symmetric :
        Std.Symm fun old row : WriteRow × Nat =>
          outboxId engine old.1.write.id ≠
            outboxId engine row.1.write.id :=
      ⟨fun _ _ different => different.symm⟩
    have sameCandidate : left = right := by
      by_contra different
      exact
        List.Pairwise.forall apart leftMember rightMember different same
    rw [sameCandidate]

/-- A batch without duplicates which the inbox accepts succeeds. -/
theorem batchAccepted_of_accepts
    (now : Timestamp) (valid : db.Valid)
    (unique : (deduped.map MessageWriteCommand.key).Nodup)
    (accepts :
      Accepts engine (directoryOf db) (inboxOf ignoreFailedAt db) origin
        deduped) :
    BatchAccepted engine now db deduped
      (messageWriteInput deduped origin) := by
  have inputUnique := messageWriteInput_unique origin unique
  rcases accepts with
    ⟨ids, senders, rooms, matched, freshOutbox, distinctOutbox⟩
  rw [delivered, accepted_eq inputUnique] at ids
  rw [delivered, fresh_eq inputUnique] at senders rooms
  rw [delivered, productive_eq valid inputUnique]
    at freshOutbox distinctOutbox
  have newInStaged :
      ∀ write ∈ newWrites db (messageWriteInput deduped origin),
        write ∈
          (staged db
            (messageWriteInput deduped origin)).messageWrites :=
    fun write member => List.mem_append_right _ member
  have writesAccepted :
      WritesAccepted db (messageWriteInput deduped origin) := by
    refine ⟨?_, ?_, ?_, ?_⟩
    · intro row member old oldMember same
      have sameEntry :=
        ids _ ⟨old, List.mem_append_left _ oldMember, rfl⟩ _
          ⟨row, newInStaged row member, rfl⟩ same
      have sameKey := congrArg MessageWrite.key sameEntry
      exact (mem_newWrites.mp member).2 old oldMember sameKey
    · have keys :
          ((newWrites db (messageWriteInput deduped origin)).map
            MessageWrite.key).Nodup :=
        newWrites_keys_sublist.nodup inputUnique
      rw [List.Nodup, List.pairwise_map] at keys
      refine keys.imp_of_mem fun leftMember rightMember different same => ?_
      have sameEntry :=
        ids _ ⟨_, newInStaged _ leftMember, rfl⟩ _
          ⟨_, newInStaged _ rightMember, rfl⟩ same
      have sameKey := congrArg MessageWrite.key sameEntry
      exact different sameKey
    · intro row member
      exact senders (entryOf row) ⟨row, member, rfl⟩
    · intro row member
      exact rooms (entryOf row) ⟨row, member, rfl⟩
  refine
    { toWritesAccepted := writesAccepted
      matched := ?_
      freshOutboxIds := ?_
      distinctOutboxIds := ?_ }
  · intro command member
    rcases matched command member with ⟨entry, entryMember, agreed⟩
    rw [delivered, accepted_eq inputUnique] at entryMember
    rcases entryMember with ⟨write, writeMember, rfl⟩
    exact ⟨write, writeMember, agreed⟩
  · intro row member old oldMember
    rcases mem_newOutbox.mp member with ⟨candidate, inList, rfl⟩
    exact
      freshOutbox _ ⟨candidate, inList, rfl⟩ (timeless old)
        (Or.inl ⟨old, oldMember, rfl⟩)
  · have writeIds :=
      candidates_column_nodup engine
        (staged db (messageWriteInput deduped origin)) inputUnique
        (staged_writeIds valid writesAccepted)
    rw [List.Nodup, List.pairwise_map] at writeIds
    simp only [newOutbox, newRows, List.map_map, List.pairwise_map]
    refine
      writeIds.imp_of_mem fun leftMember rightMember different same => ?_
    have sameEntry :=
      distinctOutbox _ ⟨_, leftMember, rfl⟩ _ ⟨_, rightMember, rfl⟩ same
    have sameId := congrArg MessageWrite.id sameEntry
    exact different sameId

/-- The delivery does not see the duplicates of a batch. -/
theorem delivered_dedupe
    (engine : Engine) (origin : Option ConnectionId)
    (faithful : MapKeysFaithful commands)
    (noConflict : dedupeMessageWriteCommands commands = .ok deduped) :
    delivered engine origin deduped =
      delivered engine origin commands := by
  have first := dedupe_find faithful noConflict
  apply Delivery.ext
  funext key
  change
    (messageWriteInput deduped origin).find? _ =
      (messageWriteInput commands origin).find? _
  simp only [messageWriteInput, List.find?_map]
  exact congrArg _ (first key)

theorem accepts_dedupe
    {directory : Directory} {inbox : MessageInbox}
    (faithful : MapKeysFaithful commands)
    (noConflict : dedupeMessageWriteCommands commands = .ok deduped)
    (accepts : Accepts engine directory inbox origin deduped) :
    Accepts engine directory inbox origin commands := by
  rcases accepts with
    ⟨ids, senders, rooms, matched, freshOutbox, distinctOutbox⟩
  rw [delivered_dedupe engine origin faithful noConflict] at *
  refine ⟨ids, senders, rooms, ?_, freshOutbox, distinctOutbox⟩
  intro command member
  rcases dedupe_represents noConflict command member with
    ⟨kept, keptMember, sameMapKey, agreed⟩
  have sameKey : kept.key = command.key :=
    faithful kept ((dedupe_sublist noConflict).subset keptMember) command
      member sameMapKey
  rw [MessageWriteCommand.agrees_iff] at agreed
  rcases matched kept keptMember with
    ⟨entry, entryMember, key, id, room, body⟩
  exact
    ⟨entry, entryMember, key.trans sameKey, id.trans agreed.1,
      room.trans agreed.2.1, body.trans agreed.2.2⟩

/-- A successful call is an accepted delivery of its commands. -/
theorem processed_inbox
    (ignoreFailedAt : Bool)
    {committed : Database} {returned : List MessageDto}
    (sound : Sound db) (faithful : MapKeysFaithful commands)
    (nonempty : commands ≠ [])
    (succeeded :
      processMessageWriteCommands engine now db commands origin =
        .ok (committed, returned)) :
    Accepts engine (directoryOf db) (inboxOf ignoreFailedAt db) origin
        commands ∧
      inboxOf ignoreFailedAt committed =
        absorb (inboxOf ignoreFailedAt db)
          (delivered engine origin commands) := by
  rcases batch_result sound nonempty succeeded with
    ⟨deduped, noConflict, unique, batchAccepted, rfl, _⟩
  have keys := dedupe_keys_nodup noConflict
  constructor
  · exact
      accepts_dedupe faithful noConflict
        (accepts_of_batchAccepted ignoreFailedAt sound.valid keys
          batchAccepted)
  · rw [inboxOf_batchResult ignoreFailedAt sound unique batchAccepted,
      ← delivered_dedupe engine origin faithful noConflict]
    rfl

/-- An accepted command succeeds. -/
theorem accepted_command_succeeds
    (now : Timestamp) {command : MessageWriteCommand}
    (sound : Sound db)
    (accepts :
      Accepts engine (directoryOf db) (inboxOf ignoreFailedAt db) origin
        [command]) :
    ∃ committed returned,
      processMessageWriteCommands engine now db [command] origin =
        .ok (committed, returned) := by
  have unique : ([command].map MessageWriteCommand.key).Nodup :=
    List.nodup_singleton command.key
  have batchAccepted :=
    batchAccepted_of_accepts now sound.valid unique accepts
  exact
    ⟨_, _,
      (processMessageWriteCommands_ok_iff sound.valid
        (sequencesBelow_of_sound sound) (List.cons_ne_nil _ _)).mpr
        ⟨[command], dedupe_singleton command, batchAccepted, rfl⟩⟩

end Transaction

/-! ## Rejection -/

open Classical in
/-- Why a command which is not accepted fails. -/
def rejection
    (directory : Directory) (inbox : MessageInbox)
    (command : MessageWriteCommand) : Failure :=
  if ∃ entry ∈ inbox.entries, entry.key = command.key then
    if ∃ entry ∈ inbox.entries, MatchesWrite entry command then
      .uniqueViolation .messageOutboxPkey
    else .commandMismatch
  else if ∃ entry ∈ inbox.entries, entry.id = command.messageId then
    .uniqueViolation .messageWritePkey
  else if ¬ directory.user command.senderId then
    .foreignKeyViolation .messageWriteSenderIdFkey
  else if ¬ directory.room command.roomId then
    .foreignKeyViolation .messageWriteRoomIdFkey
  else .uniqueViolation .messageOutboxPkey

section Rejection

variable {engine : Engine} {now : Timestamp} {db : Database}
  {origin : Option ConnectionId} {command : MessageWriteCommand}

theorem entries_key_iff (ignoreFailedAt : Bool) :
    (∃ entry ∈ (inboxOf ignoreFailedAt db).entries,
        entry.key = command.key) ↔
      ∃ write ∈ db.messageWrites, write.key = command.key := by
  constructor
  · rintro ⟨_, ⟨write, member, rfl⟩, same⟩
    exact ⟨write, member, same⟩
  · rintro ⟨write, member, same⟩
    exact ⟨entryOf write, ⟨write, member, rfl⟩, same⟩

theorem entries_id_iff (ignoreFailedAt : Bool) :
    (∃ entry ∈ (inboxOf ignoreFailedAt db).entries,
        entry.id = command.messageId) ↔
      ∃ write ∈ db.messageWrites, write.id = command.messageId := by
  constructor
  · rintro ⟨_, ⟨write, member, rfl⟩, same⟩
    exact ⟨write, member, same⟩
  · rintro ⟨write, member, same⟩
    exact ⟨entryOf write, ⟨write, member, rfl⟩, same⟩

theorem entries_matches_iff (ignoreFailedAt : Bool) :
    (∃ entry ∈ (inboxOf ignoreFailedAt db).entries,
        MatchesWrite entry command) ↔
      ∃ write ∈ db.messageWrites, MatchesWrite write command := by
  constructor
  · rintro ⟨_, ⟨write, member, rfl⟩, same⟩
    exact ⟨write, member, same⟩
  · rintro ⟨write, member, same⟩
    exact ⟨entryOf write, ⟨write, member, rfl⟩, same⟩

/-- The input row of a single command. -/
theorem messageWriteInput_writes
    (origin : Option ConnectionId) (command : MessageWriteCommand) :
    ∃ write : MessageWrite,
      (messageWriteInput [command] origin).map InputRow.toMessageWrite =
          [write] ∧
        MatchesWrite write command ∧
        write.senderId = command.senderId := by
  exact ⟨_, rfl, ⟨rfl, rfl, rfl, rfl⟩, rfl⟩

/-- A single write row is inserted, skipped or rejected. -/
theorem insertMessageWrites_single_error
    {locals : TransactionLocals} {failure : Failure}
    (failed :
      (insertMessageWrites (messageWriteInput [command] origin)).run db
          locals =
        .error failure) :
    (∀ write ∈ db.messageWrites, write.key ≠ command.key) ∧
      (((∃ write ∈ db.messageWrites, write.id = command.messageId) ∧
          failure = .uniqueViolation .messageWritePkey) ∨
        ((∀ write ∈ db.messageWrites, write.id ≠ command.messageId) ∧
          ((db.hasUser command.senderId = false ∧
              failure =
                .foreignKeyViolation .messageWriteSenderIdFkey) ∨
            (db.hasUser command.senderId = true ∧
              db.hasRoom command.roomId = false ∧
              failure =
                .foreignKeyViolation .messageWriteRoomIdFkey)))) := by
  rcases messageWriteInput_writes origin command with
    ⟨write, onlyWrite, ⟨sameKey, sameId, sameRoom, _⟩, sameSender⟩
  simp only [insertMessageWrites, onlyWrite, insertRows] at failed
  by_cases known :
      db.messageWrites.any (sameWriteKey · write) = true
  · simp [known] at failed
  · have isNew :
        ∀ old ∈ db.messageWrites, old.key ≠ command.key := by
      intro old member same
      apply known
      rw [List.any_eq_true]
      exact ⟨old, member, by simp [sameWriteKey, same, sameKey]⟩
    refine ⟨isNew, ?_⟩
    rw [if_neg known] at failed
    cases taken : db.messageWrites.findSome? (writePkeyViolation · write) with
    | some broken =>
        left
        simp only [taken, Except.error.injEq] at failed
        rcases List.exists_of_findSome?_eq_some taken with
          ⟨old, member, violated⟩
        unfold writePkeyViolation at violated
        split at violated
        · rename_i sameIds
          refine ⟨⟨old, member, ?_⟩, ?_⟩
          · rw [← sameId]
            exact beq_iff_eq.mp sameIds
          · rw [← failed, ← Option.some.inj violated]
        · simp at violated
    | none =>
        right
        rw [List.findSome?_eq_none_iff] at taken
        refine ⟨?_, ?_⟩
        · intro old member same
          have separate :=
            writePkeyViolation_eq_none_iff.mp (taken old member)
          exact separate (same.trans sameId.symm)
        · have noneTaken :
              db.messageWrites.findSome? (writePkeyViolation · write) =
                none :=
            List.findSome?_eq_none_iff.mpr taken
          simp only [noneTaken, List.findSome?_cons,
            List.findSome?_nil, writeForeignKeyViolation, sameSender,
            sameRoom] at failed
          cases user : db.hasUser command.senderId <;>
            cases room : db.hasRoom command.roomId <;>
            simp_all

/-- The persisting statement only fails in the outbox. -/
theorem persistMessages_error
    {input : List InputRow} {locals : TransactionLocals}
    {failure : Failure}
    (sound : Sound db) (accepted : WritesAccepted db input)
    (unique : (input.map InputRow.key).Nodup)
    (failed :
      (persistMessages engine now input).run (staged db input) locals =
        .error failure) :
    failure = .uniqueViolation .messageOutboxPkey := by
  have valid := sound.valid
  have references :
      (newMessages engine db input).findSome?
          (messageForeignKeyViolation (staged db input)) =
        none := by
    rw [List.findSome?_eq_none_iff]
    intro row member
    exact
      messageForeignKeyViolation_eq_none_iff.mpr
        ⟨newMessages_sender valid accepted row member,
          newMessages_room valid accepted row member⟩
  have stagedRooms : (staged db input).rooms = db.rooms := rfl
  have stagedMessages : (staged db input).messages = db.messages := rfl
  have stagedOutbox :
      (staged db input).messageOutbox = db.messageOutbox := rfl
  simp only [persistMessages, stagedRooms, stagedMessages,
    stagedOutbox, offered_staged valid accepted,
    inserted_staged valid (sequencesBelow_of_sound sound) accepted unique,
    references] at failed
  split at failed
  · rename_i broken enqueued
    rw [← Except.error.inj failed]
    rcases insertRows_error enqueued with ⟨old, row, violated⟩
    unfold outboxPkeyViolation at violated
    split at violated
    · exact (Option.some.inj violated).symm
    · simp at violated
  · simp at failed

/-- The write row of a new command is inserted. -/
theorem mem_newWrites_single
    (origin : Option ConnectionId)
    (isNew : ∀ write ∈ db.messageWrites, write.key ≠ command.key) :
    ∃ write ∈ newWrites db (messageWriteInput [command] origin),
      MatchesWrite write command ∧ write.senderId = command.senderId := by
  rcases messageWriteInput_writes origin command with
    ⟨write, onlyWrite, matched, sameSender⟩
  refine ⟨write, ?_, matched, sameSender⟩
  simp only [newWrites, onlyWrite, List.mem_filter,
    List.mem_singleton, Bool.not_eq_true', List.any_eq_false]
  refine ⟨trivial, ?_⟩
  intro old member same
  have sameKey : old.key = write.key := by
    simpa [sameWriteKey] using same
  exact isNew old member (sameKey.trans matched.1)

theorem rejection_of_insert
    (ignoreFailedAt : Bool) {locals : TransactionLocals}
    {failure : Failure}
    (failed :
      (insertMessageWrites (messageWriteInput [command] origin)).run db
          locals =
        .error failure) :
    failure =
      rejection (directoryOf db) (inboxOf ignoreFailedAt db) command := by
  rcases insertMessageWrites_single_error failed with ⟨isNew, reason⟩
  have unknown :
      ¬ ∃ write ∈ db.messageWrites, write.key = command.key := by
    rintro ⟨write, member, same⟩
    exact isNew write member same
  rw [rejection, entries_key_iff, if_neg unknown, entries_id_iff]
  rcases reason with ⟨taken, rfl⟩ | ⟨free, reason⟩
  · rw [if_pos taken]
  · have notTaken :
        ¬ ∃ write ∈ db.messageWrites, write.id = command.messageId := by
      rintro ⟨write, member, same⟩
      exact free write member same
    rw [if_neg notTaken]
    rcases reason with ⟨noUser, rfl⟩ | ⟨user, noRoom, rfl⟩
    · simp [directoryOf, noUser]
    · simp [directoryOf, user, noRoom]

theorem rejection_of_mismatch
    (ignoreFailedAt : Bool)
    (mismatch :
      ¬ ∃ write ∈
          (staged db (messageWriteInput [command] origin)).messageWrites,
        MatchesWrite write command) :
    Failure.commandMismatch =
      rejection (directoryOf db) (inboxOf ignoreFailedAt db) command := by
  have known : ∃ write ∈ db.messageWrites, write.key = command.key := by
    by_contra unknown
    rcases mem_newWrites_single origin
        (fun write member same => unknown ⟨write, member, same⟩) with
      ⟨write, member, matched, _⟩
    exact mismatch ⟨write, List.mem_append_right _ member, matched⟩
  have unmatched :
      ¬ ∃ write ∈ db.messageWrites, MatchesWrite write command := by
    rintro ⟨write, member, matched⟩
    exact mismatch ⟨write, List.mem_append_left _ member, matched⟩
  rw [rejection, entries_key_iff, if_pos known, entries_matches_iff,
    if_neg unmatched]

theorem rejection_of_outbox
    (ignoreFailedAt : Bool) (valid : db.Valid)
    (accepted : WritesAccepted db (messageWriteInput [command] origin))
    (matched :
      ∃ write ∈
          (staged db (messageWriteInput [command] origin)).messageWrites,
        MatchesWrite write command) :
    Failure.uniqueViolation .messageOutboxPkey =
      rejection (directoryOf db) (inboxOf ignoreFailedAt db) command := by
  have unique :
      ((messageWriteInput [command] origin).map InputRow.key).Nodup :=
    messageWriteInput_unique origin (List.nodup_singleton command.key)
  rw [rejection, entries_key_iff, entries_matches_iff, entries_id_iff]
  by_cases known : ∃ write ∈ db.messageWrites, write.key = command.key
  · have inTable :
        ∃ write ∈ db.messageWrites, MatchesWrite write command := by
      rcases known with ⟨old, oldMember, sameKey⟩
      rcases matched with ⟨write, member, matches_⟩
      have same : old = write :=
        eq_of_unique_key (staged_writeKeys valid unique)
          (List.mem_append_left _ oldMember) member
          (sameKey.trans matches_.1.symm)
      exact ⟨old, oldMember, same ▸ matches_⟩
    rw [if_pos known, if_pos inTable]
  · rcases mem_newWrites_single origin
        (fun write member same => known ⟨write, member, same⟩) with
      ⟨write, member, ⟨_, sameId, sameRoom, _⟩, sameSender⟩
    have notTaken :
        ¬ ∃ write ∈ db.messageWrites, write.id = command.messageId := by
      rintro ⟨old, oldMember, same⟩
      exact
        accepted.freshIds write member old oldMember
          (same.trans sameId.symm)
    have user := accepted.senders write member
    have room := accepted.rooms write member
    rw [sameSender] at user
    rw [sameRoom] at room
    rw [if_neg known, if_neg notTaken]
    simp [directoryOf, user, room]

/-- A command which fails, fails with its rejection. -/
theorem rejected
    (ignoreFailedAt : Bool) {failure : Failure} (sound : Sound db)
    (failed :
      processMessageWriteCommands engine now db [command] origin =
        .error failure) :
    failure =
      rejection (directoryOf db) (inboxOf ignoreFailedAt db) command := by
  have valid := sound.valid
  have unique :
      ((messageWriteInput [command] origin).map InputRow.key).Nodup :=
    messageWriteInput_unique origin (List.nodup_singleton command.key)
  simp only [processMessageWriteCommands, List.cons_ne_nil, if_false,
    dedupe_singleton] at failed
  cases ran :
      runStatements Database.apply
        (batchStatements engine now [command] origin) db {} with
  | ok outcome => simp [ran] at failed
  | error other =>
      simp only [ran, Except.error.injEq] at failed
      subst failed
      rcases runStatements_cons_error ran with
        impossible | ⟨_, _, locked, afterLock⟩
      · simp [selectRoomsForUpdate] at impossible
      simp only [selectRoomsForUpdate, Except.ok.injEq,
        Prod.mk.injEq] at locked
      rcases locked with ⟨rfl, rfl⟩
      rw [Database.apply_empty] at afterLock
      rcases runStatements_cons_error afterLock with
        insertFailed | ⟨_, _, inserted, afterInsert⟩
      · exact rejection_of_insert ignoreFailedAt insertFailed
      rcases (insertMessageWrites_ok_iff unique _).mp inserted with
        ⟨accepted, insertedEq⟩
      rcases Prod.mk.inj insertedEq with ⟨rfl, rfl⟩
      rw [apply_newWrites] at afterInsert
      have mapKeys :
          ([command].map MessageWriteCommand.mapKey).Nodup :=
        List.nodup_singleton command.mapKey
      have checked :=
        commandMatches_iff (staged_writeKeys valid unique) mapKeys unique
          (List.mem_singleton_self command)
      rcases runStatements_cons_error afterInsert with
        selectFailed | ⟨_, _, selected, afterSelect⟩
      · simp only [selectMessageWrites, List.all_cons, List.all_nil,
          Bool.and_true] at selectFailed
        split at selectFailed
        · simp at selectFailed
        · rename_i mismatch
          rw [← Except.error.inj selectFailed]
          exact
            rejection_of_mismatch ignoreFailedAt fun matched =>
              mismatch (checked.mpr matched)
      simp only [selectMessageWrites, List.all_cons, List.all_nil,
        Bool.and_true] at selected
      split at selected
      · rename_i matched
        simp only [Except.ok.injEq, Prod.mk.injEq] at selected
        rcases selected with ⟨rfl, rfl⟩
        rw [Database.apply_empty] at afterSelect
        rcases runStatements_cons_error afterSelect with
          persistFailed | ⟨_, _, _, afterPersist⟩
        · rw [persistMessages_error sound accepted unique persistFailed]
          exact
            rejection_of_outbox ignoreFailedAt valid accepted
              (checked.mp matched)
        · rcases runStatements_cons_error afterPersist with
            impossible | ⟨_, _, _, finished⟩
          · simp [updateRoomsLastMessageAt] at impossible
          · simp at finished
      · simp at selected

end Rejection

end ChatBackend.Writer.InboxAcceptance

end
