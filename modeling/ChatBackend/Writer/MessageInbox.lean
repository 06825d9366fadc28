import ChatBackend.Foundation.IdempotentInbox
import ChatBackend.Writer.BatchInvariants
import Mathlib.Data.List.Induction

/-!
# The writer as an idempotent inbox

The tables of the writer are an idempotent inbox: write rows are entries with
their progress, messages are items, and outbox rows and the activity of rooms
are effects.  `inboxOf` forgets what depends on the schedule, namely the
numbers of messages and the wall-clock columns.  With `ignoreFailedAt` it
forgets the time of failure of a write row as well.

`inboxOf_batchResult` is the refinement: a committed batch is one delivery
of its commands.
-/

noncomputable section

namespace ChatBackend.Writer.MessageInbox

open ChatBackend.Foundation.IdempotentInbox
open ChatBackend.Foundation.TableRows
open ChatBackend.Storage.Schema
open ChatBackend.Storage.TableInvariants
open ChatBackend.Writer.WriteCommands
open ChatBackend.Writer.BatchTransaction
open ChatBackend.Writer.BatchSpecification
open ChatBackend.Writer.BatchInvariants

/-! ## The rules -/

/-- The columns of a write row that its progress changes. -/
structure Progress where
  status : MessageWriteStatus := .pending
  persistedAt : Option Timestamp := none
  failedAt : Option Timestamp := none
  failureReason : Option String := none
deriving DecidableEq, Repr

/-- The effects of a message: its outbox row and activity in its room. -/
inductive Effect where
  | enqueued (row : MessageOutbox)
  | active (roomId : RoomId) (time : Timestamp)
deriving DecidableEq, Repr

/-- A write row without its progress. -/
def entryOf (write : MessageWrite) : MessageWrite :=
  { write with
    status := .pending
    persistedAt := none
    failedAt := none
    failureReason := none }

def progressOf (ignoreFailedAt : Bool) (write : MessageWrite) : Progress :=
  { status := write.status
    persistedAt := write.persistedAt
    failedAt := if ignoreFailedAt then none else write.failedAt
    failureReason := write.failureReason }

/-- A message without its number. -/
def unnumbered (message : Message) : Message :=
  { message with roomSequence := 0 }

/-- An outbox row without its times. -/
def timeless (row : MessageOutbox) : MessageOutbox :=
  { row with createdAt := 0, updatedAt := 0 }

/-- The message of an entry, without its number. -/
def entryMessage (entry : MessageWrite) : Message :=
  { id := entry.id
    content := entry.content
    createdAt := entry.acceptedAt
    requestId := some entry.requestId
    roomSequence := 0
    senderId := entry.senderId
    roomId := entry.roomId }

/-- The rules of the writer. -/
def messageRules (engine : Engine) :
    Rules WriteKey InputRow MessageWrite Message Progress Effect where
  entry := InputRow.toMessageWrite
  key := MessageWrite.key
  item := entryMessage
  linked := fun message entry =>
    message.id = entry.id ∨ message.key? = some entry.key
  settles := fun message key => message.key? = some key
  effect := fun entry request =>
    {effect |
      effect =
          .enqueued
            (outboxRow engine 0 entry.id request.originConnectionId) ∨
        ∃ time ≤ entry.acceptedAt, effect = .active entry.roomId time}
  isDead := fun progress => progress.status = .dead
  isOpen := fun progress =>
    MessageWriteStatus.isOpen progress.status = true
  settled := fun _ message =>
    { status := .persisted, persistedAt := some message.createdAt }
  item_linked := fun _ => Or.inl rfl
  settles_linked := fun _ _ settles => Or.inr settles
  settles_own := fun _ _ settles => Option.some.inj settles
  open_alive := by
    intro progress isOpen dead
    simp [MessageWriteStatus.isOpen, dead] at isOpen
  settled_open := fun _ _ _ => rfl
  settled_settled := fun _ _ _ => rfl

/-- The tables as an inbox. -/
def inboxOf (ignoreFailedAt : Bool) (db : Database) :
    Inbox WriteKey MessageWrite Message Progress Effect where
  entries := {entry | ∃ write ∈ db.messageWrites, entryOf write = entry}
  progress := fun key =>
    ((db.messageWrites.find? fun write => write.key == key).map
      (progressOf ignoreFailedAt)).getD {}
  items := {item | ∃ message ∈ db.messages, unnumbered message = item}
  effects :=
    {effect |
      (∃ row ∈ db.messageOutbox, effect = .enqueued (timeless row)) ∨
        ∃ room ∈ db.rooms, ∃ time ≤ room.lastMessageAt,
          effect = .active room.id time}

/-- A list of input rows, by the first row of every key. -/
def deliveryOf (engine : Engine) (input : List InputRow) :
    Delivery (messageRules engine) where
  request := fun key => input.find? fun row => row.key == key
  keyed := by
    intro key row found
    have same : row.key = key := by simpa using List.find?_some found
    exact same

theorem deliveryOf_append
    (engine : Engine) (first second : List InputRow) :
    deliveryOf engine (first ++ second) =
      (deliveryOf engine first).append (deliveryOf engine second) := by
  ext1
  funext key
  simp [deliveryOf, Delivery.append, List.find?_append]

/-! ## The columns of entries -/

section Entries

variable (write : MessageWrite)

@[simp]
theorem entryOf_id : (entryOf write).id = write.id :=
  rfl

@[simp]
theorem entryOf_key : (entryOf write).key = write.key :=
  rfl

@[simp]
theorem entryOf_senderId : (entryOf write).senderId = write.senderId :=
  rfl

@[simp]
theorem entryOf_roomId : (entryOf write).roomId = write.roomId :=
  rfl

@[simp]
theorem entryOf_content : (entryOf write).content = write.content :=
  rfl

@[simp]
theorem entryOf_toMessageWrite (row : InputRow) :
    entryOf row.toMessageWrite = row.toMessageWrite :=
  rfl

@[simp]
theorem entryOf_settle (messages : List Message) :
    entryOf (settle messages write) = entryOf write := by
  rcases settle_cases messages write with same | ⟨_, _, _, _, same⟩ <;>
    rw [same]
  rfl

/-- An entry and its whole progress make the write row. -/
theorem eq_of_entryOf
    {left right : MessageWrite}
    (sameEntry : entryOf left = entryOf right)
    (sameProgress : progressOf false left = progressOf false right) :
    left = right := by
  cases left
  cases right
  simp_all [entryOf, progressOf]

end Entries

@[simp]
theorem unnumbered_id (message : Message) :
    (unnumbered message).id = message.id :=
  rfl

@[simp]
theorem unnumbered_key? (message : Message) :
    (unnumbered message).key? = message.key? :=
  rfl

@[simp]
theorem unnumbered_createdAt (message : Message) :
    (unnumbered message).createdAt = message.createdAt :=
  rfl

@[simp]
theorem unnumbered_candidateMessage
    (candidate : WriteRow × Nat) (start : Nat) :
    unnumbered (candidateMessage candidate start) =
      entryMessage (entryOf candidate.1.write) :=
  rfl

/-! ## The rows of an inbox -/

section Rows

variable (ignoreFailedAt : Bool) {db : Database}

theorem mem_entries {entry : MessageWrite} :
    entry ∈ (inboxOf ignoreFailedAt db).entries ↔
      entry ∈ db.messageWrites.map entryOf := by
  rw [List.mem_map]
  rfl

theorem mem_items {item : Message} :
    item ∈ (inboxOf ignoreFailedAt db).items ↔
      item ∈ db.messages.map unnumbered := by
  rw [List.mem_map]
  rfl

theorem enqueued_iff {row : MessageOutbox} :
    Effect.enqueued row ∈ (inboxOf ignoreFailedAt db).effects ↔
      row ∈ db.messageOutbox.map timeless := by
  rw [List.mem_map]
  constructor
  · rintro (⟨stored, member, same⟩ | ⟨_, _, _, _, impossible⟩)
    · exact ⟨stored, member, (Effect.enqueued.inj same).symm⟩
    · cases impossible
  · rintro ⟨stored, member, rfl⟩
    exact Or.inl ⟨stored, member, rfl⟩

/-- A room was active until its `lastMessageAt`. -/
theorem active_iff
    (valid : db.Valid) {room : Room} (member : room ∈ db.rooms)
    {time : Timestamp} :
    Effect.active room.id time ∈ (inboxOf ignoreFailedAt db).effects ↔
      time ≤ room.lastMessageAt := by
  constructor
  · rintro (⟨_, _, impossible⟩ | ⟨found, foundMember, time, bound, same⟩)
    · cases impossible
    · rcases Effect.active.inj same with ⟨foundId, rfl⟩
      have only : found = room :=
        eq_of_unique_key valid.rooms foundMember member foundId.symm
      exact only ▸ bound
  · intro bound
    exact Or.inr ⟨room, member, time, bound, rfl⟩

/-- The progress of a key is that of its write row. -/
theorem progress_eq_find (db : Database) (key : WriteKey) :
    (inboxOf ignoreFailedAt db).progress key =
      ((db.messageWrites.find? fun write => write.key == key).map
        (progressOf ignoreFailedAt)).getD {} :=
  rfl

theorem progress_of_mem
    (valid : db.Valid) {write : MessageWrite} (member : write ∈ db.messageWrites) :
    (inboxOf ignoreFailedAt db).progress write.key =
      progressOf ignoreFailedAt write := by
  simp only [inboxOf, ← List.head?_filter,
    filter_unique_key valid.writeKeys member]
  rfl

theorem progress_of_absent
    {key : WriteKey}
    (absent : ∀ write ∈ db.messageWrites, write.key ≠ key) :
    (inboxOf ignoreFailedAt db).progress key = {} := by
  have notFound :
      (db.messageWrites.find? fun write => write.key == key) = none := by
    rw [List.find?_eq_none]
    intro write member
    simpa using absent write member
  simp [inboxOf, notFound]

end Rows

/-! ## The entries of a batch -/

section Refinement

variable {engine : Engine} {now : Timestamp} {db : Database}
  {input : List InputRow} {ignoreFailedAt : Bool}

/-- With one row for each key the delivery finds every row. -/
theorem request_of_mem
    (engine : Engine) {input : List InputRow}
    (unique : (input.map InputRow.key).Nodup)
    {row : InputRow} (member : row ∈ input) :
    (deliveryOf engine input).request row.key = some row := by
  change (input.find? fun other => other.key == row.key) = some row
  rw [← List.head?_filter, filter_unique_key unique member]
  rfl

theorem mem_of_request
    {key : WriteKey} {row : InputRow}
    (found : (deliveryOf engine input).request key = some row) :
    row ∈ input ∧ row.key = key :=
  ⟨List.mem_of_find?_eq_some found, by simpa using List.find?_some found⟩

theorem mem_fresh {entry : MessageWrite} :
    entry ∈ fresh (inboxOf ignoreFailedAt db) (deliveryOf engine input) ↔
      (∃ row, (deliveryOf engine input).request entry.key = some row ∧
          row.toMessageWrite = entry) ∧
        ∀ write ∈ db.messageWrites, write.key ≠ entry.key := by
  simp [fresh, inboxOf, messageRules]

theorem fresh_eq
    (unique : (input.map InputRow.key).Nodup) :
    fresh (inboxOf ignoreFailedAt db) (deliveryOf engine input) =
      {entry | ∃ write ∈ newWrites db input, entryOf write = entry} := by
  ext entry
  rw [mem_fresh]
  constructor
  · rintro ⟨⟨row, found, rfl⟩, isNew⟩
    exact
      ⟨row.toMessageWrite,
        mem_newWrites.mpr ⟨⟨row, (mem_of_request found).1, rfl⟩, isNew⟩,
        rfl⟩
  · rintro ⟨write, member, rfl⟩
    rcases mem_newWrites.mp member with ⟨⟨row, rowMember, rfl⟩, isNew⟩
    exact ⟨⟨row, request_of_mem engine unique rowMember, rfl⟩, isNew⟩

/-- The entries after a delivery are the staged write rows. -/
theorem accepted_eq
    (unique : (input.map InputRow.key).Nodup) :
    accepted (inboxOf ignoreFailedAt db) (deliveryOf engine input) =
      {entry |
        ∃ write ∈ (staged db input).messageWrites,
          entryOf write = entry} := by
  ext entry
  rw [accepted, fresh_eq unique]
  simp only [inboxOf, staged, List.mem_append, Set.mem_union,
    Set.mem_ofPred_eq, or_and_right, exists_or]

/-- A staged row has the progress that the inbox has for its key. -/
theorem progress_staged
    (ignoreFailedAt : Bool) (valid : db.Valid) {write : MessageWrite}
    (member : write ∈ (staged db input).messageWrites) :
    (inboxOf ignoreFailedAt db).progress write.key =
      progressOf ignoreFailedAt write := by
  rcases List.mem_append.mp member with old | new
  · exact progress_of_mem ignoreFailedAt valid old
  · rcases mem_newWrites.mp new with ⟨⟨row, _, rfl⟩, isNew⟩
    rw [progress_of_absent ignoreFailedAt isNew]
    cases ignoreFailedAt <;> rfl

/-- The entries that a delivery concerns are those joined with the input. -/
theorem touched_eq
    (unique : (input.map InputRow.key).Nodup) :
    touched (inboxOf ignoreFailedAt db) (deliveryOf engine input) =
      {entry |
        ∃ row ∈ writeRows (staged db input) input,
          entryOf row.write = entry} := by
  ext entry
  simp only [touched, accepted_eq unique, Set.mem_ofPred_eq]
  constructor
  · rintro ⟨⟨write, member, rfl⟩, row, found⟩
    rcases mem_of_request found with ⟨rowMember, sameKey⟩
    exact
      ⟨{ write := write
         originConnectionId := row.originConnectionId },
        mem_writeRows.mpr ⟨member, row, rowMember, sameKey, rfl⟩, rfl⟩
  · rintro ⟨joined, member, rfl⟩
    rcases mem_writeRows.mp member with
      ⟨writeMember, row, rowMember, sameKey, _⟩
    refine ⟨⟨joined.write, writeMember, rfl⟩, row, ?_⟩
    have found := request_of_mem engine unique rowMember
    rw [sameKey] at found
    exact found

/-- The productive entries are the candidates. -/
theorem productive_eq
    (valid : db.Valid) (unique : (input.map InputRow.key).Nodup) :
    productive (inboxOf ignoreFailedAt db) (deliveryOf engine input) =
      {entry |
        ∃ candidate ∈ candidates engine (staged db input) input,
          entryOf candidate.1.write = entry} := by
  ext entry
  simp only [productive, touched_eq unique, Set.mem_ofPred_eq]
  constructor
  · rintro ⟨⟨row, member, rfl⟩, alive, unlinked⟩
    have progress :=
      progress_staged ignoreFailedAt valid
        (mem_writeRows.mp member).1
    have isNew : isCandidate (staged db input) row = true := by
      rw [isCandidate_iff]
      constructor
      · intro dead
        apply alive
        change
          ((inboxOf ignoreFailedAt db).progress row.write.key).status =
            .dead
        rw [progress]
        exact dead
      · intro message messageMember
        have separate :=
          unlinked (unnumbered message) ⟨message, messageMember, rfl⟩
        exact not_or.mp separate
    rcases exists_candidate engine member isNew with ⟨number, candidate⟩
    exact ⟨(row, number), candidate, rfl⟩
  · rintro ⟨candidate, member, rfl⟩
    rcases mem_candidates member with ⟨joined, isNew⟩
    rw [isCandidate_iff] at isNew
    have progress :=
      progress_staged ignoreFailedAt valid
        (mem_writeRows.mp joined).1
    refine ⟨⟨candidate.1, joined, rfl⟩, ?_, ?_⟩
    · intro dead
      change
        ((inboxOf ignoreFailedAt db).progress
          candidate.1.write.key).status = .dead at dead
      rw [progress] at dead
      exact isNew.1 dead
    · rintro item ⟨message, messageMember, rfl⟩
      exact not_or.mpr (isNew.2 message messageMember)

/-! ## Items and effects -/

theorem itemsAfter_eq
    (valid : db.Valid) (unique : (input.map InputRow.key).Nodup) :
    itemsAfter (inboxOf ignoreFailedAt db) (deliveryOf engine input) =
      (inboxOf ignoreFailedAt (batchResult engine now db input)).items := by
  ext item
  rw [itemsAfter, productive_eq valid unique]
  constructor
  · rintro (⟨message, member, rfl⟩ | ⟨_, ⟨candidate, member, rfl⟩, rfl⟩)
    · exact ⟨message, List.mem_append_left _ member, rfl⟩
    · exact
        ⟨_,
          List.mem_append_right _
            (mem_newMessages.mpr ⟨candidate, member, rfl⟩),
          unnumbered_candidateMessage candidate _⟩
  · rintro ⟨message, member, rfl⟩
    rcases List.mem_append.mp member with old | new
    · exact Or.inl ⟨message, old, rfl⟩
    · rcases mem_newMessages.mp new with ⟨candidate, inList, rfl⟩
      exact
        Or.inr
          ⟨entryOf candidate.1.write, ⟨candidate, inList, rfl⟩,
            (unnumbered_candidateMessage candidate _).symm⟩

/-- One turn of the loop over `maxByRoom`. -/
def laterByRoom
    (roomId : RoomId) (current : Option Timestamp)
    (row : BatchPersistedMessageRow) : Option Timestamp :=
  if row.message.roomId == roomId then
    match current with
    | none => some row.message.createdAt
    | some latest =>
        if row.message.createdAt > latest then
          some row.message.createdAt
        else some latest
  else current

/-- The loop over the new messages finds the latest one of a room. -/
theorem le_maxByRoom_iff
    (messages : List BatchPersistedMessageRow) (roomId : RoomId)
    (time : Timestamp) :
    (∃ latest, maxByRoom messages roomId = some latest ∧
        time ≤ latest) ↔
      ∃ row ∈ messages, row.message.roomId = roomId ∧
        time ≤ row.message.createdAt := by
  induction messages using List.reverseRecOn with
  | nil => simp [maxByRoom]
  | append_singleton messages row induction =>
      have lastStep :
          maxByRoom (messages ++ [row]) roomId =
            laterByRoom roomId (maxByRoom messages roomId) row :=
        List.foldl_append
      rw [lastStep]
      unfold laterByRoom
      simp only [List.mem_append, List.mem_singleton, or_and_right,
        exists_or, exists_eq_left, ← induction]
      by_cases inRoom : row.message.roomId = roomId
      · rw [if_pos (beq_iff_eq.mpr inRoom)]
        cases maxByRoom messages roomId with
        | none => simp [inRoom]
        | some latest =>
            by_cases later : row.message.createdAt > latest
            · simp only [if_pos later, inRoom, Option.some.injEq,
                exists_eq_left', true_and]
              constructor
              · exact Or.inr
              · rintro (bound | bound)
                · exact bound.trans (le_of_lt later)
                · exact bound
            · simp only [if_neg later, inRoom, Option.some.injEq,
                exists_eq_left', true_and]
              constructor
              · exact Or.inl
              · rintro (bound | bound)
                · exact bound
                · exact bound.trans (not_lt.mp later)
      · rw [if_neg (by simpa using inRoom)]
        simp [inRoom]

theorem mem_newRows_sorted {row : BatchPersistedMessageRow} :
    row ∈ (newRows engine db input).insertionSort (createdBefore engine) ↔
      ∃ candidate ∈ candidates engine (staged db input) input,
        row =
          { message :=
              candidateMessage candidate
                (nextSequence db.rooms candidate.1.write.roomId)
            originConnectionId := candidate.1.originConnectionId } := by
  rw [List.mem_insertionSort, newRows, List.mem_map]
  constructor
  · rintro ⟨candidate, member, rfl⟩
    exact ⟨candidate, member, rfl⟩
  · rintro ⟨candidate, member, rfl⟩
    exact ⟨candidate, member, rfl⟩

/-- A room was active until its own time and in its new messages. -/
theorem le_advanceRoom_iff (room : Room) (time : Timestamp) :
    time ≤ (advanceRoom engine db input room).lastMessageAt ↔
      time ≤ room.lastMessageAt ∨
        ∃ candidate ∈ candidates engine (staged db input) input,
          candidate.1.write.roomId = room.id ∧
            time ≤ candidate.1.write.acceptedAt := by
  have latest :=
    le_maxByRoom_iff
      ((newRows engine db input).insertionSort (createdBefore engine))
      room.id time
  have rows :
      (∃ row ∈
            (newRows engine db input).insertionSort
              (createdBefore engine),
          row.message.roomId = room.id ∧
            time ≤ row.message.createdAt) ↔
        ∃ candidate ∈ candidates engine (staged db input) input,
          candidate.1.write.roomId = room.id ∧
            time ≤ candidate.1.write.acceptedAt := by
    simp only [mem_newRows_sorted]
    constructor
    · rintro ⟨_, ⟨candidate, member, rfl⟩, inRoom, bound⟩
      exact ⟨candidate, member, inRoom, bound⟩
    · rintro ⟨candidate, member, inRoom, bound⟩
      exact ⟨_, ⟨candidate, member, rfl⟩, inRoom, bound⟩
  rw [← rows, ← latest]
  simp only [advanceRoom]
  cases maxByRoom
      ((newRows engine db input).insertionSort (createdBefore engine))
      room.id with
  | none => simp
  | some value => simp

/-- The request of a candidate is the row it was joined with. -/
theorem request_of_candidate
    (unique : (input.map InputRow.key).Nodup)
    {candidate : WriteRow × Nat}
    (member : candidate ∈ candidates engine (staged db input) input) :
    ∃ row,
      (deliveryOf engine input).request candidate.1.write.key =
          some row ∧
        row.originConnectionId = candidate.1.originConnectionId := by
  rcases mem_writeRows.mp (mem_candidates member).1 with
    ⟨_, row, rowMember, sameKey, sameOrigin⟩
  refine ⟨row, ?_, sameOrigin⟩
  rw [← sameKey]
  exact request_of_mem engine unique rowMember

theorem newEffects_eq
    (valid : db.Valid) (unique : (input.map InputRow.key).Nodup) :
    newEffects (inboxOf ignoreFailedAt db) (deliveryOf engine input) =
      {effect |
        ∃ candidate ∈ candidates engine (staged db input) input,
          effect =
              .enqueued
                (outboxRow engine 0 candidate.1.write.id
                  candidate.1.originConnectionId) ∨
            ∃ time ≤ candidate.1.write.acceptedAt,
              effect = .active candidate.1.write.roomId time} := by
  ext effect
  rw [newEffects, productive_eq valid unique]
  constructor
  · rintro ⟨_, ⟨candidate, member, rfl⟩, row, found, caused⟩
    rcases request_of_candidate unique member with
      ⟨other, otherFound, sameOrigin⟩
    have sameRow : row = other :=
      Option.some.inj (found.symm.trans otherFound)
    refine ⟨candidate, member, ?_⟩
    rw [← sameOrigin, ← sameRow]
    exact caused
  · rintro ⟨candidate, member, caused⟩
    rcases request_of_candidate unique member with
      ⟨row, found, sameOrigin⟩
    refine
      ⟨entryOf candidate.1.write, ⟨candidate, member, rfl⟩, row, found,
        ?_⟩
    rw [← sameOrigin] at caused
    exact caused

theorem effects_eq
    (valid : db.Valid) (accepted : WritesAccepted db input)
    (unique : (input.map InputRow.key).Nodup) :
    (inboxOf ignoreFailedAt (batchResult engine now db input)).effects =
      (inboxOf ignoreFailedAt db).effects ∪
        newEffects (inboxOf ignoreFailedAt db)
          (deliveryOf engine input) := by
  ext effect
  rw [newEffects_eq valid unique]
  constructor
  · rintro (⟨row, member, rfl⟩ | ⟨room, member, time, bound, rfl⟩)
    · rcases List.mem_append.mp member with old | new
      · exact Or.inl (Or.inl ⟨row, old, rfl⟩)
      · rcases mem_newOutbox.mp new with ⟨candidate, inList, rfl⟩
        exact Or.inr ⟨candidate, inList, Or.inl rfl⟩
    · rcases List.mem_map.mp member with ⟨old, oldMember, rfl⟩
      rcases (le_advanceRoom_iff old time).mp bound with
        before | ⟨candidate, inList, inRoom, accepted⟩
      · exact Or.inl (Or.inr ⟨old, oldMember, time, before, rfl⟩)
      · refine Or.inr ⟨candidate, inList, Or.inr ⟨time, accepted, ?_⟩⟩
        rw [inRoom, advanceRoom_id]
  · rintro ((⟨row, member, rfl⟩ | ⟨room, member, time, bound, rfl⟩) |
      ⟨candidate, inList, rfl | ⟨time, bound, rfl⟩⟩)
    · exact Or.inl ⟨row, List.mem_append_left _ member, rfl⟩
    · refine
        Or.inr
          ⟨advanceRoom engine db input room,
            List.mem_map_of_mem member, time, ?_, rfl⟩
      exact (le_advanceRoom_iff room time).mpr (Or.inl bound)
    · exact
        Or.inl
          ⟨_,
            List.mem_append_right _
              (mem_newOutbox.mpr ⟨candidate, inList, rfl⟩),
            rfl⟩
    · rcases candidate_room valid accepted inList with
        ⟨room, member, inRoom⟩
      refine
        Or.inr
          ⟨advanceRoom engine db input room,
            List.mem_map_of_mem member, time, ?_, ?_⟩
      · exact
          (le_advanceRoom_iff room time).mpr
            (Or.inr ⟨candidate, inList, inRoom.symm, bound⟩)
      · rw [advanceRoom_id, inRoom]

/-! ## Progress -/

theorem mem_settlingMessages
    (valid : db.Valid) (below : SequencesBelow db)
    (accepted : WritesAccepted db input) {message : Message} :
    message ∈ settlingMessages engine db input ↔
      message ∈ newMessages engine db input ∨
        message ∈ db.messages ∧
          ∃ row ∈ writeRows (staged db input) input,
            message.id = row.write.id ∨
              message.key? = some row.write.key := by
  have fresh :
      message ∈ db.messages →
        ∀ new ∈ newMessages engine db input, new.id ≠ message.id := by
    intro member new newMember same
    have apart :=
      newMessages_compatible valid below accepted new newMember message
        member
    rw [Message.conflicts_eq_false_iff] at apart
    exact apart.1 same.symm
  have stagedMessages : (staged db input).messages = db.messages := rfl
  simp only [settlingMessages, allMessages, stagedMessages,
    List.mem_append, List.mem_filter, Bool.and_eq_true, List.any_eq_true,
    Bool.or_eq_true, beq_iff_eq, Bool.not_eq_true', List.any_eq_false]
  constructor
  · rintro (new | ⟨member, joined, _⟩)
    · exact Or.inl new
    · exact Or.inr ⟨member, joined⟩
  · rintro (new | ⟨member, joined⟩)
    · exact Or.inl new
    · exact Or.inr ⟨member, joined, fresh member⟩

/-- What settles a key in a delivery are the settling messages. -/
theorem settles_iff
    (valid : db.Valid) (below : SequencesBelow db)
    (writesAccepted : WritesAccepted db input)
    (unique : (input.map InputRow.key).Nodup)
    {key : WriteKey} {item : Message} :
    Settles (inboxOf ignoreFailedAt db) (deliveryOf engine input) key
        item ↔
      (∃ write ∈ (staged db input).messageWrites, write.key = key) ∧
        ∃ message ∈ settlingMessages engine db input,
          unnumbered message = item ∧ message.key? = some key := by
  have owners :
      (∃ entry ∈
            accepted (inboxOf ignoreFailedAt db) (deliveryOf engine input),
          (messageRules engine).key entry = key) ↔
        ∃ write ∈ (staged db input).messageWrites, write.key = key := by
    rw [accepted_eq unique]
    constructor
    · rintro ⟨_, ⟨write, member, rfl⟩, sameKey⟩
      exact ⟨write, member, sameKey⟩
    · rintro ⟨write, member, sameKey⟩
      exact ⟨_, ⟨write, member, rfl⟩, sameKey⟩
  rw [Settles, owners, touched_eq unique, itemsAfter,
    productive_eq valid unique]
  constructor
  · rintro ⟨member, ⟨_, ⟨row, rowMember, rfl⟩, link⟩, owner, settles⟩
    refine ⟨owner, ?_⟩
    rcases member with
      ⟨message, messageMember, rfl⟩ | ⟨_, ⟨candidate, inList, rfl⟩, rfl⟩
    · exact
        ⟨message,
          (mem_settlingMessages valid below writesAccepted).mpr
            (Or.inr ⟨messageMember, row, rowMember, link⟩),
          rfl, settles⟩
    · exact
        ⟨_,
          (mem_settlingMessages valid below writesAccepted).mpr
            (Or.inl (mem_newMessages.mpr ⟨candidate, inList, rfl⟩)),
          unnumbered_candidateMessage candidate _, settles⟩
  · rintro ⟨owner, message, settling, rfl, settles⟩
    rcases (mem_settlingMessages valid below writesAccepted).mp settling
      with new | ⟨member, row, rowMember, link⟩
    · rcases mem_newMessages.mp new with ⟨candidate, inList, rfl⟩
      refine
        ⟨Or.inr ⟨_, ⟨candidate, inList, rfl⟩, rfl⟩,
          ⟨_, ⟨candidate.1, (mem_candidates inList).1, rfl⟩, Or.inl rfl⟩,
          owner, settles⟩
    · exact
        ⟨Or.inl ⟨message, member, rfl⟩,
          ⟨_, ⟨row, rowMember, rfl⟩, link⟩, owner, settles⟩

/-- The write row of a key after the batch. -/
theorem find_batchResult (key : WriteKey) :
    ((batchResult engine now db input).messageWrites.find? fun write =>
        write.key == key) =
      ((staged db input).messageWrites.find? fun write =>
          write.key == key).map
        (settle (settlingMessages engine db input)) := by
  simp only [batchResult, List.find?_map]
  congr 2
  funext write
  simp

/-- Only one message settles the write row of a key. -/
theorem settles_unique
    (ignoreFailedAt : Bool) {deduped : List MessageWriteCommand}
    (sound : Sound db)
    (unique : (input.map InputRow.key).Nodup)
    (batchAccepted : BatchAccepted engine now db deduped input)
    {key : WriteKey} {message : Message}
    (settling : message ∈ settlingMessages engine db input)
    (messageKey : message.key? = some key)
    {other : Message}
    (settles :
      Settles (inboxOf ignoreFailedAt db) (deliveryOf engine input) key
        other) :
    other = unnumbered message := by
  have later := (batchResult_sound sound unique batchAccepted).valid
  rcases (settles_iff sound.valid (sequencesBelow_of_sound sound)
      batchAccepted.toWritesAccepted unique).mp settles with
    ⟨_, source, sourceSettles, rfl, same⟩
  rw [message_separate later (settlingMessages_stored sourceSettles)
    (settlingMessages_stored settling)
    (Or.inr ⟨key, same, messageKey⟩)]

/-- The batch settles a stored write row as the delivery does. -/
theorem progressOf_settle
    (ignoreFailedAt : Bool) {deduped : List MessageWriteCommand}
    (sound : Sound db)
    (unique : (input.map InputRow.key).Nodup)
    (batchAccepted : BatchAccepted engine now db deduped input)
    {write : MessageWrite}
    (member : write ∈ (staged db input).messageWrites) :
    progressOf ignoreFailedAt
        (settle (settlingMessages engine db input) write) =
      settleWith (messageRules engine)
        (Settles (inboxOf ignoreFailedAt db) (deliveryOf engine input)
          write.key)
        (progressOf ignoreFailedAt write) := by
  have settlesIff (item : Message) :
      Settles (inboxOf ignoreFailedAt db) (deliveryOf engine input)
          write.key item ↔
        (∃ stored ∈ (staged db input).messageWrites,
            stored.key = write.key) ∧
          ∃ message ∈ settlingMessages engine db input,
            unnumbered message = item ∧
              message.key? = some write.key :=
    settles_iff sound.valid (sequencesBelow_of_sound sound)
      batchAccepted.toWritesAccepted unique
  by_cases isOpen : MessageWriteStatus.isOpen write.status = true
  · cases settledBy :
        (settlingMessages engine db input).find? fun message =>
          message.key? == some write.key with
    | none =>
        rw [List.find?_eq_none] at settledBy
        rw [settleWith_none]
        · simp [settle, settledWrite, isOpen,
            List.find?_eq_none.mpr settledBy]
        · rintro item settles
          rcases (settlesIff item).mp settles with
            ⟨_, message, settling, _, sameMessage⟩
          exact
            settledBy message settling (beq_iff_eq.mpr sameMessage)
    | some message =>
        have settling := List.mem_of_find?_eq_some settledBy
        have messageKey : message.key? = some write.key := by
          simpa using List.find?_some settledBy
        have settles :
            Settles (inboxOf ignoreFailedAt db)
              (deliveryOf engine input) write.key
              (unnumbered message) :=
          (settlesIff _).mpr
            ⟨⟨write, member, rfl⟩, message, settling, rfl, messageKey⟩
        rw [settleWith_eq isOpen settles fun other otherSettles =>
          settles_unique ignoreFailedAt sound unique batchAccepted
            settling messageKey otherSettles]
        simp [settle, settledWrite, isOpen, settledBy, progressOf,
          messageRules]
  · rw [settleWith_closed isOpen]
    simp [settle, settledWrite, isOpen]

theorem progress_eq
    {deduped : List MessageWriteCommand}
    (sound : Sound db)
    (unique : (input.map InputRow.key).Nodup)
    (batchAccepted : BatchAccepted engine now db deduped input)
    (key : WriteKey) :
    (inboxOf ignoreFailedAt
          (batchResult engine now db input)).progress key =
      settleWith (messageRules engine)
        (Settles (inboxOf ignoreFailedAt db) (deliveryOf engine input)
          key)
        ((inboxOf ignoreFailedAt db).progress key) := by
  have valid := sound.valid
  have below := sequencesBelow_of_sound sound
  have writesAccepted := batchAccepted.toWritesAccepted
  change
    ((((batchResult engine now db input).messageWrites.find? fun write =>
          write.key == key).map
        (progressOf ignoreFailedAt)).getD {}) = _
  rw [find_batchResult]
  cases found :
      (staged db input).messageWrites.find? fun write =>
        write.key == key with
  | none =>
      rw [List.find?_eq_none] at found
      have absent : ∀ write ∈ db.messageWrites, write.key ≠ key := by
        intro write member same
        exact
          found write (List.mem_append_left _ member)
            (beq_iff_eq.mpr same)
      rw [settleWith_none, progress_of_absent ignoreFailedAt absent]
      · rfl
      · rintro item settles
        rcases (settles_iff valid below writesAccepted unique).mp settles
          with ⟨⟨write, member, sameKey⟩, _⟩
        exact found write member (beq_iff_eq.mpr sameKey)
  | some write =>
      have member := List.mem_of_find?_eq_some found
      have sameKey : write.key = key := by
        simpa using List.find?_some found
      have progress :
          (inboxOf ignoreFailedAt db).progress key =
            progressOf ignoreFailedAt write := by
        rw [← sameKey]
        exact progress_staged ignoreFailedAt valid member
      rw [progress, ← sameKey]
      exact
        progressOf_settle ignoreFailedAt sound unique batchAccepted member

/-- A committed batch is one delivery of its input. -/
theorem inboxOf_batchResult
    (ignoreFailedAt : Bool)
    {deduped : List MessageWriteCommand}
    (sound : Sound db)
    (unique : (input.map InputRow.key).Nodup)
    (batchAccepted : BatchAccepted engine now db deduped input) :
    inboxOf ignoreFailedAt (batchResult engine now db input) =
      absorb (inboxOf ignoreFailedAt db) (deliveryOf engine input) := by
  have valid := sound.valid
  apply Inbox.ext
  · rw [absorb, accepted_eq unique]
    ext entry
    constructor
    · rintro ⟨_, member, rfl⟩
      rcases List.mem_map.mp member with ⟨write, writeMember, rfl⟩
      exact ⟨write, writeMember, (entryOf_settle write _).symm⟩
    · rintro ⟨write, member, rfl⟩
      exact ⟨_, List.mem_map_of_mem member, entryOf_settle write _⟩
  · funext key
    exact progress_eq sound unique batchAccepted key
  · exact (itemsAfter_eq valid unique).symm
  · exact effects_eq valid batchAccepted.toWritesAccepted unique

end Refinement

end ChatBackend.Writer.MessageInbox

end
