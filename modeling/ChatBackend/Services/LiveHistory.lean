import ChatBackend.Chats.History
import ChatBackend.Foundation.GrowingPages
import ChatBackend.Services.Numbering

/-!
# Reading the history of a busy room

A client walks through the history of a room while the services go on: new
messages are posted, batches are written, pending writes are persisted or
become dead letters.  Nothing takes a message away, and the time under which
an id is found as a cursor never changes: this is `Remembers`, for any number
of events.

So a message that was stored when the walk began is shown exactly once,
unless another entry of the room has the same time.
-/

namespace ChatBackend.Services.LiveHistory

open ChatBackend.Foundation
open ChatBackend.Foundation.EventRuns
open ChatBackend.Foundation.TableRows
open ChatBackend.Storage.Schema
open ChatBackend.Storage.SequenceMigration
open ChatBackend.Storage.TableInvariants
open ChatBackend.Chats.MessageRows
open ChatBackend.Chats.ChatQueries
open ChatBackend.Chats.ChatReads
open ChatBackend.Chats.History
open ChatBackend.Writer.WriteCommands
open ChatBackend.Writer.BatchTransaction
open ChatBackend.Writer.BatchSpecification
open ChatBackend.Writer.BatchInvariants
open ChatBackend.Writer.DeadLetters
open ChatBackend.Writer.OutboxDrain
open ChatBackend.Services.Transitions
open ChatBackend.Services.Numbering

/-! ## What the database remembers -/

/-- Messages stay, and an id that was a cursor keeps its time. -/
structure Remembers (before after : Database) : Prop where
  messages : ∀ message ∈ before.messages, message ∈ after.messages
  roomMembers : after.roomMembers = before.roomMembers
  writes :
    ∀ write ∈ before.messageWrites, ∃ later ∈ after.messageWrites,
      later.id = write.id ∧ later.acceptedAt = write.acceptedAt
  written :
    ∀ message ∈ after.messages, message ∉ before.messages →
      ∀ write ∈ before.messageWrites, write.id = message.id →
        write.acceptedAt = message.createdAt

theorem Remembers.refl (db : Database) : Remembers db db where
  messages := fun _ member => member
  roomMembers := rfl
  writes := fun write member => ⟨write, member, rfl, rfl⟩
  written := fun _ member isNew => absurd member isNew

theorem Remembers.trans
    {first second third : Database} (early : Remembers first second)
    (late : Remembers second third) : Remembers first third where
  messages := fun message member =>
    late.messages message (early.messages message member)
  roomMembers := late.roomMembers.trans early.roomMembers
  writes := by
    intro write member
    rcases early.writes write member with
      ⟨middle, inSecond, sameId, sameTime⟩
    rcases late.writes middle inSecond with
      ⟨later, inThird, alsoId, alsoTime⟩
    exact
      ⟨later, inThird, alsoId.trans sameId, alsoTime.trans sameTime⟩
  written := by
    intro message member isNew write inFirst sameId
    by_cases inSecond : message ∈ second.messages
    · exact early.written message inSecond isNew write inFirst sameId
    · rcases early.writes write inFirst with
        ⟨middle, inMiddle, middleId, middleTime⟩
      rw [← middleTime]
      exact
        late.written message member inSecond middle inMiddle
          (middleId.trans sameId)

/-- No message is added, and each write row keeps its id and its time. -/
theorem Remembers.of_mapped
    {before after : Database} {version : MessageWrite → MessageWrite}
    (messages : after.messages = before.messages)
    (roomMembers : after.roomMembers = before.roomMembers)
    (mapped :
      ∀ write ∈ before.messageWrites,
        version write ∈ after.messageWrites)
    (sameId : ∀ write, (version write).id = write.id)
    (sameTime : ∀ write, (version write).acceptedAt = write.acceptedAt) :
    Remembers before after where
  messages := fun _ member => messages ▸ member
  roomMembers := roomMembers
  writes := fun write member =>
    ⟨version write, mapped write member, sameId write, sameTime write⟩
  written := fun _ member isNew => absurd (messages ▸ member) isNew

theorem deadWrite_acceptedAt
    (engine : Engine) (now : Timestamp) (id : MessageId) (err : Failure)
    (write : MessageWrite) :
    (deadWrite engine now id err write).acceptedAt =
      write.acceptedAt := by
  unfold deadWrite
  split <;> rfl

theorem fanoutedVersion_acceptedAt
    (id : MessageId) (write : MessageWrite) :
    (fanoutedVersion id write).acceptedAt = write.acceptedAt := by
  unfold fanoutedVersion
  split <;> rfl

/-- A message that is posted does not get the id of a write row. -/
def GeneratedApart (state : ServiceState) : Event → Prop
  | .createMessageRow uuid input =>
      ∀ write ∈ state.database.messageWrites,
        write.id ≠ input.messageId uuid
  | _ => True

theorem drainStep_remembers
    (engine : Engine) (now : Timestamp) (succeeds : Bool) (db : Database)
    (drain : Drain) :
    Remembers db (drainStep engine now succeeds db drain).database := by
  rcases drainStep_database engine now db succeeds drain with
    same | ⟨_, row, _, _, _, completed⟩ | ⟨_, row, err, _, _, _, failed⟩
  · rw [same]
    exact Remembers.refl db
  · rw [completed]
    exact
      Remembers.of_mapped rfl rfl
        (fun _ member => List.mem_map_of_mem member)
        (fanoutedVersion_id row.messageId)
        (fanoutedVersion_acceptedAt row.messageId)
  · rw [failed]
    exact
      Remembers.of_mapped rfl rfl (fun _ member => member)
        (fun _ => rfl) (fun _ => rfl)

/-- A batch gives a message the id and the time of its write row. -/
theorem batchResult_remembers
    {engine : Engine} {now : Timestamp} {db : Database}
    {input : List InputRow}
    (sound : Sound (batchResult engine now db input)) :
    Remembers db (batchResult engine now db input) where
  messages := fun _ member => List.mem_append_left _ member
  roomMembers := rfl
  writes := by
    intro write member
    exact
      ⟨settle (settlingMessages engine db input) write,
        List.mem_map_of_mem (List.mem_append_left _ member), by simp,
        by simp⟩
  written := by
    intro message member isNew write inTable sameId
    have inserted := (List.mem_append.mp member).resolve_left isNew
    have made :
        ∃ later ∈ (batchResult engine now db input).messageWrites,
          later.id = message.id ∧ later.acceptedAt = message.createdAt :=
      newMessages_write inserted
    rcases made with ⟨later, isLater, laterId, laterTime⟩
    have isWrite :
        settle (settlingMessages engine db input) write ∈
          (batchResult engine now db input).messageWrites :=
      List.mem_map_of_mem (List.mem_append_left _ inTable)
    have same :
        settle (settlingMessages engine db input) write = later :=
      eq_of_unique_key sound.valid.writeIds isWrite isLater
        (by simp [sameId, laterId])
    rw [← laterTime, ← same, settle_acceptedAt]

theorem change_remembers
    {engine : Engine} {before after : ServiceState} {event : Event}
    (change : Change engine before event after)
    (sound : Sound before.database)
    (apart : GeneratedApart before event) :
    Remembers before.database after.database := by
  have afterSound := change_sound change sound
  have unchanged := Remembers.refl before.database
  cases change with
  | idle => exact unchanged
  | batch => exact batchResult_remembers afterSound
  | messageRow uuid input room member sameRoom accepted =>
      exact
        { messages := fun _ member => List.mem_append_left _ member
          roomMembers := rfl
          writes := unchanged.writes
          written := by
            intro message inAfter isNew write inTable sameId
            have inserted :=
              (List.mem_append.mp inAfter).resolve_left isNew
            rw [List.mem_singleton.mp inserted] at sameId
            exact absurd sameId (apart write inTable) }
  | lastMessageAt => exact { unchanged with }
  | findDeadLetter => exact unchanged
  | markDead call id err =>
      exact
        Remembers.of_mapped rfl rfl
          (fun _ member => List.mem_map_of_mem member)
          (deadWrite_id engine before.clock id err)
          (deadWrite_acceptedAt engine before.clock id err)
  | createDead call pending created found succeeded =>
      rcases createDeadLetter_ok succeeded with ⟨_, _, _, rfl⟩
      exact
        Remembers.of_mapped rfl rfl
          (fun _ member => List.mem_append_left _ member)
          (fun _ => rfl) (fun _ => rfl)
  | dropDead => exact unchanged
  | claim deps => exact { unchanged with }
  | start => exact unchanged
  | drain call succeeds drain found =>
      exact drainStep_remembers engine _ succeeds _ drain
  | crash => exact unchanged
  | clock => exact unchanged

/-- What the database remembers over any number of events. -/
theorem run_remembers
    {engine : Engine} {state : ServiceState} {events : List Event}
    (sound : Sound state.database)
    (apart : EveryStep (step engine) GeneratedApart state events) :
    Sound (run (step engine) state events).database ∧
      Remembers state.database
        (run (step engine) state events).database := by
  induction events generalizing state with
  | nil => exact ⟨sound, Remembers.refl _⟩
  | cons event rest induction =>
      have change := step_change engine state event sound
      rcases induction (change_sound change sound) apart.2 with
        ⟨lastSound, remembers⟩
      exact
        ⟨lastSound,
          (change_remembers change sound apart.1).trans remembers⟩

/-! ## Walks -/

/-- The time of an entry that was shown is found under its id later on. -/
theorem cursor_remembered
    {before after : Database} {chatId : RoomId}
    (remembers : Remembers before after) (valid : after.Valid)
    (apart : PendingApart before chatId) {entry : ChatMessage}
    (member : entry ∈ roomEntries before chatId)
    (isId : isCursor entry = true) :
    cursorCreatedAt after (some entry.id) = some entry.createdAt := by
  have found :
      (findMessageCursor after entry.id).or
          (findWriteCursor after entry.id) =
        some entry.createdAt := by
    rcases List.mem_append.mp member with isMessage | isWrite
    · rcases List.mem_map.mp isMessage with ⟨message, listed, rfl⟩
      have cursor :=
        findMessageCursor_of_mem valid
          (remembers.messages message (mem_roomMessages.mp listed).1)
      exact congrArg (Option.or · _) cursor
    · rcases List.mem_map.mp isWrite with ⟨write, listed, rfl⟩
      have inTable := (mem_roomPendingWrites.mp listed).1
      rcases remembers.writes write inTable with
        ⟨later, isLater, sameId, sameTime⟩
      have cursor := findWriteCursor_of_mem valid isLater
      rw [sameId, sameTime] at cursor
      change
        (findMessageCursor after write.id).or
            (findWriteCursor after write.id) =
          some write.acceptedAt
      by_cases persisted :
          ∃ message ∈ after.messages, message.id = write.id
      · rcases persisted with ⟨message, inMessages, isWrite⟩
        have isNew : message ∉ before.messages := fun old =>
          apart message old write listed isWrite
        have time :=
          remembers.written message inMessages isNew write inTable
            isWrite.symm
        have messageCursor := findMessageCursor_of_mem valid inMessages
        rw [isWrite, ← time] at messageCursor
        rw [messageCursor]
        rfl
      · have noMessage : findMessageCursor after write.id = none := by
          rw [findMessageCursor, Option.map_eq_none_iff,
            List.find?_eq_none]
          intro message inMessages
          simpa using fun isWrite =>
            persisted ⟨message, inMessages, isWrite⟩
        rw [noMessage, cursor]
        rfl
  have isText : entry.id ≠ "" := by simpa [isCursor] using isId
  unfold cursorCreatedAt truthy
  simp [isText, found, Option.filter]

/-- The states in which the pages are read, with any events between. -/
structure Reads
    (engine : Engine) (userId : UserId) (chatId : RoomId)
    (states : Nat → ServiceState) : Prop where
  sound : Sound (states 0).database
  member : (findRoomMembership (states 0).database userId chatId).isSome
  continues :
    ∀ index, ∃ events,
      EveryStep (step engine) GeneratedApart (states index) events ∧
        states (index + 1) = run (step engine) (states index) events
  apart : ∀ index, PendingApart (states index).database chatId
  ids :
    ∀ index, ∀ entry ∈ roomEntries (states index).database chatId,
      entry.id ≠ ""

section Reading

variable {engine : Engine} {userId : UserId} {chatId : RoomId}
  {states : Nat → ServiceState}
  (reads : Reads engine userId chatId states)

include reads

theorem Reads.remembers (index : Nat) :
    Sound (states index).database ∧
      Remembers (states 0).database (states index).database := by
  induction index with
  | zero => exact ⟨reads.sound, Remembers.refl _⟩
  | succ index induction =>
      rcases reads.continues index with ⟨events, apart, next⟩
      rcases run_remembers induction.1 apart with ⟨sound, remembers⟩
      rw [next]
      exact ⟨sound, induction.2.trans remembers⟩

/-- Between two pages nothing is forgotten either. -/
theorem Reads.next (index : Nat) :
    Remembers (states index).database (states (index + 1)).database := by
  rcases reads.continues index with ⟨events, apart, next⟩
  rw [next]
  exact (run_remembers (reads.remembers index).1 apart).2

theorem Reads.shows (index : Nat) :
    Shows (roomHistory (states index).database chatId) userId chatId
      (states index).database where
  valid := (reads.remembers index).1.valid
  apart := reads.apart index
  member := by
    have same := (reads.remembers index).2.roomMembers
    rw [findRoomMembership, same]
    exact reads.member
  contents := (latestFirst_perm ChatMessage.createdAt _).symm

/-- What the client reads is a walk over the histories of the states. -/
theorem Reads.walk
    {limit : Nat} (positive : 1 ≤ limit) (capped : limit ≤ 100)
    {index : Nat} {cursor : Option String}
    {pages : List (List ChatMessage)}
    (walk :
      HistoryWalk (fun index => (states index).database) userId chatId
        limit index cursor pages) :
    KeysetPages.Walk ChatMessage.createdAt isCursor limit
      (fun index => roomHistory (states index).database chatId) index
      (cursorCreatedAt (states index).database cursor) pages := by
  induction walk with
  | finished noneLeft =>
      rw [(reads.shows _).getMessages_eq positive capped] at noneLeft
      exact .finished (Except.ok.inj noneLeft)
  | @turned index cursor page last rest answered ends walk induction =>
      rw [(reads.shows _).getMessages_eq positive capped] at answered
      rcases Except.ok.inj answered with rfl
      have listed :
          last ∈ roomEntries (states index).database chatId :=
        (latestFirst_perm ChatMessage.createdAt _).mem_iff.mp
          (List.mem_of_mem_filter
            (List.mem_of_mem_take (List.mem_of_getLast? ends)))
      have isId : isCursor last = true := by
        simpa [isCursor] using reads.ids index last listed
      rw [cursor_remembered (reads.next index)
        (reads.shows (index + 1)).valid (reads.apart index) listed isId]
        at induction
      refine .turned ends ?_
      rw [KeysetPages.cursorAfter, if_pos isId]
      exact induction

end Reading

/--
While the services go on with any events, a client walks through the history
of a room, as one of its members and with a page size the endpoint allows.
A message that was stored before, and shares its time with no other entry of
the room in these states, is on exactly one of the pages, and once there.
-/
theorem live_walk_shows_once
    {engine : Engine} {userId : UserId} {chatId : RoomId}
    {states : Nat → ServiceState}
    (reads : Reads engine userId chatId states) {message : Message}
    (stored : message ∈ (states 0).database.messages)
    (inRoom : message.roomId = chatId)
    (alone :
      ∀ index, ∀ entry ∈ roomEntries (states index).database chatId,
        entry.createdAt = message.createdAt →
          entry = toChatMessage message)
    {limit : Nat} (positive : 1 ≤ limit) (capped : limit ≤ 100)
    {pages : List (List ChatMessage)}
    (walk :
      HistoryWalk (fun index => (states index).database) userId chatId
        limit 0 none pages) :
    pages.flatten.count (toChatMessage message) = 1 := by
  have lasts :
      GrowingPages.Lasts ChatMessage.createdAt
        (fun index => roomHistory (states index).database chatId)
        (toChatMessage message) := by
    constructor
    · intro index
      have kept :=
        (reads.remembers index).2.messages message stored
      exact
        (latestFirst_perm ChatMessage.createdAt _).mem_iff.mpr
          (List.mem_append_left _
            (List.mem_map_of_mem
              (mem_roomMessages.mpr ⟨kept, inRoom⟩)))
    · intro index other listed
      exact
        alone index other
          ((latestFirst_perm ChatMessage.createdAt _).mem_iff.mp listed)
  have counted :=
    GrowingPages.count_of_walk
      (fun index => roomHistory_newestFirst (states index).database chatId)
      (fun index => (reads.shows index).nodup)
      (fun index other listed => by
        simpa [isCursor] using
          reads.ids index other
            ((latestFirst_perm ChatMessage.createdAt _).mem_iff.mp
              listed))
      positive lasts (reads.walk positive capped walk)
  simpa [cursorCreatedAt, truthy] using counted

/-! ## Example -/

def examplePost : CreateMessageRowInput where
  senderId := "ana"
  roomId := "room"
  content := "first"

def exampleFirst : ServiceState :=
  reached exampleEngine exampleTables 500
    [.createMessageRow "m1" examplePost]

def exampleSecond : ServiceState :=
  run (step exampleEngine) exampleFirst
    [.writerBatch [exampleCommand] none]

/-- A message is posted; after the first page a batch adds a newer one. -/
def exampleStates : Nat → ServiceState
  | 0 => exampleFirst
  | _ + 1 => exampleSecond

def exampleStored : Message :=
  examplePost.toMessage "m1" 500 1

theorem exampleStates_all
    (property : ServiceState → Prop) (first : property exampleFirst)
    (second : property exampleSecond) (index : Nat) :
    property (exampleStates index) := by
  cases index with
  | zero => exact first
  | succ index => exact second

theorem exampleReads :
    Reads exampleEngine "ben" "room" exampleStates where
  sound := reached_sound _ _ _ _
  member := by decide
  continues := by
    intro index
    cases index with
    | zero =>
        exact
          ⟨[.writerBatch [exampleCommand] none], ⟨trivial, trivial⟩, rfl⟩
    | succ index => exact ⟨[], trivial, rfl⟩
  apart :=
    exampleStates_all
      (fun state =>
        ∀ message ∈ state.database.messages,
          ∀ write ∈ roomPendingWrites state.database "room",
            message.id ≠ write.id)
      (by decide) (by decide)
  ids :=
    exampleStates_all
      (fun state =>
        ∀ entry ∈ roomEntries state.database "room", entry.id ≠ "")
      (by decide) (by decide)

theorem live_walk_shows_once_posted :
    HistoryWalk (fun index => (exampleStates index).database) "ben"
        "room" 1 0 none [[toChatMessage exampleStored]] ∧
      [[toChatMessage exampleStored]].flatten.count
          (toChatMessage exampleStored) =
        1 := by
  have walk :
      HistoryWalk (fun index => (exampleStates index).database) "ben"
        "room" 1 0 none [[toChatMessage exampleStored]] :=
    .turned (by decide) rfl (.finished (by decide))
  have alone :
      ∀ index,
        ∀ entry ∈ roomEntries (exampleStates index).database "room",
          entry.createdAt = exampleStored.createdAt →
            entry = toChatMessage exampleStored :=
    exampleStates_all
      (fun state =>
        ∀ entry ∈ roomEntries state.database "room",
          entry.createdAt = exampleStored.createdAt →
            entry = toChatMessage exampleStored)
      (by decide) (by decide)
  have stored :
      exampleStored ∈ (exampleStates 0).database.messages := by
    decide
  exact
    ⟨walk,
      live_walk_shows_once exampleReads stored rfl alone (by decide)
        (by decide) walk⟩

end ChatBackend.Services.LiveHistory
