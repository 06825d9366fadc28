import ChatBackend.Chats.ChatReads
import ChatBackend.Foundation.KeysetPages
import ChatBackend.Storage.TableInvariants

/-!
# The history of a room

A page of `getMessages` is the top of the messages and pending writes of the
room together, although each table is limited on its own: this is
`historyPage_eq`.  A client walks through the history by sending the id of
the last entry of a page as the cursor of the next one.

The cursor keeps only the time of that entry, and the next page starts
strictly before it.  Entries with the same time that do not fit on the page
are never shown: `history_walk_complete_iff`.
-/

namespace ChatBackend.Chats.History

open ChatBackend.Foundation
open ChatBackend.Foundation.StableOrder
open ChatBackend.Foundation.TableRows
open ChatBackend.Storage.Schema
open ChatBackend.Storage.TableInvariants
open ChatBackend.Writer.BatchTransaction
open ChatBackend.Chats.ChatQueries
open ChatBackend.Chats.ChatReads

/-! ## Pages -/

/-- Every message and every pending write of the room. -/
def roomEntries (db : Database) (chatId : RoomId) : List ChatMessage :=
  (roomMessages db chatId).map toChatMessage ++
    (roomPendingWrites db chatId).map toPendingMessageDto

/-- The same with the latest first. -/
def roomHistory (db : Database) (chatId : RoomId) : List ChatMessage :=
  latestFirst ChatMessage.createdAt (roomEntries db chatId)

theorem roomHistory_newestFirst (db : Database) (chatId : RoomId) :
    KeysetPages.NewestFirst ChatMessage.createdAt
      (roomHistory db chatId) :=
  latestFirst_sorted ChatMessage.createdAt _

/-- Pending writes of the room have ids of their own. -/
def PendingApart (db : Database) (chatId : RoomId) : Prop :=
  ∀ message ∈ db.messages, ∀ write ∈ roomPendingWrites db chatId,
    message.id ≠ write.id

theorem mem_roomMessages
    {db : Database} {chatId : RoomId} {message : Message} :
    message ∈ roomMessages db chatId ↔
      message ∈ db.messages ∧ message.roomId = chatId := by
  simp [roomMessages]

theorem mem_roomPendingWrites
    {db : Database} {chatId : RoomId} {write : MessageWrite} :
    write ∈ roomPendingWrites db chatId ↔
      write ∈ db.messageWrites ∧ write.roomId = chatId ∧
        write.status = .pending := by
  simp [roomPendingWrites, isPending]

theorem roomMessages_ids_nodup
    {db : Database} (valid : db.Valid) (chatId : RoomId) :
    ((roomMessages db chatId).map Message.id).Nodup :=
  ((latestFirst_perm Message.createdAt _).map Message.id).nodup_iff.mpr
    ((message_ids_nodup valid).sublist (List.filter_sublist.map _))

theorem roomPendingWrites_ids_nodup
    {db : Database} (valid : db.Valid) (chatId : RoomId) :
    ((roomPendingWrites db chatId).map MessageWrite.id).Nodup :=
  ((latestFirst_perm MessageWrite.acceptedAt _).map
      MessageWrite.id).nodup_iff.mpr
    (valid.writeIds.sublist (List.filter_sublist.map _))

/-- The ids of messages and pending writes together are different. -/
theorem roomEntries_ids_nodup
    {db : Database} {chatId : RoomId} (valid : db.Valid)
    (apart : PendingApart db chatId) :
    ((roomEntries db chatId).map ChatMessage.id).Nodup := by
  rw [roomEntries, List.map_append, List.map_map, List.map_map,
    List.nodup_append]
  refine
    ⟨roomMessages_ids_nodup valid chatId,
      roomPendingWrites_ids_nodup valid chatId, ?_⟩
  intro id isMessage other isWrite
  rcases List.mem_map.mp isMessage with ⟨message, listed, rfl⟩
  rcases List.mem_map.mp isWrite with ⟨write, member, rfl⟩
  exact apart message (mem_roomMessages.mp listed).1 write member

theorem mergeEntries_of_apart
    {messages : List Message} {pendingWrites : List MessageWrite}
    (apart :
      ∀ message ∈ messages, ∀ write ∈ pendingWrites,
        message.id ≠ write.id) :
    mergeEntries messages pendingWrites =
      messages.map toChatMessage ++
        pendingWrites.map toPendingMessageDto := by
  unfold mergeEntries
  rw [List.filter_eq_self.mpr]
  intro write member
  simpa using fun message listed => apart message listed write member

theorem takeRows_natCast {Row : Type} (limit : Nat) (rows : List Row) :
    takeRows (limit : Int) rows = rows.take limit := by
  simp [takeRows]

theorem sliceTo_natCast {Row : Type} (stop : Nat) (rows : List Row) :
    sliceTo (stop : Int) rows = rows.take stop := by
  simp [sliceTo]

/-- The limited query of one table, as entries of the history. -/
theorem map_takeRows
    {Row : Type} (time : Row → Timestamp) (entry : Row → ChatMessage)
    (sameTime : ∀ row, (entry row).createdAt = time row)
    (before : Option Timestamp) (limit : Nat) (rows : List Row) :
    (takeRows (limit : Int)
          (rows.filter fun row => isBefore before (time row))).map
        entry =
      ((rows.map entry).filter fun row =>
          isBefore before row.createdAt).take
        limit := by
  rw [takeRows_natCast, List.map_take, List.filter_map]
  simp [Function.comp_def, sameTime]

theorem remaining_eq_filter
    (before : Option Timestamp) (entries : List ChatMessage) :
    KeysetPages.remaining ChatMessage.createdAt before entries =
      entries.filter fun entry => isBefore before entry.createdAt := by
  cases before <;> rfl

/-- A page is the top of the history before the cursor. -/
theorem historyPage_eq
    {db : Database} {chatId : RoomId} (apart : PendingApart db chatId)
    (before : Option Timestamp) (limit : Nat) :
    historyPage db chatId before limit =
      KeysetPages.page ChatMessage.createdAt limit before
        (roomHistory db chatId) := by
  have separate :
      ∀ message ∈ findMessages db chatId before limit,
        ∀ write ∈ findPendingMessageWrites db chatId before limit,
          message.id ≠ write.id := by
    intro message listed write member
    rw [findMessages, takeRows_natCast] at listed
    rw [findPendingMessageWrites, takeRows_natCast] at member
    have inRoom :=
      List.mem_of_mem_filter (List.mem_of_mem_take listed)
    exact
      apart message (mem_roomMessages.mp inRoom).1 write
        (List.mem_of_mem_filter (List.mem_of_mem_take member))
  have messagesSorted :
      ((roomMessages db chatId).map toChatMessage).Pairwise
        fun first second => second.createdAt ≤ first.createdAt :=
    List.pairwise_map.mpr (latestFirst_sorted Message.createdAt _)
  have writesSorted :
      ((roomPendingWrites db chatId).map toPendingMessageDto).Pairwise
        fun first second => second.createdAt ≤ first.createdAt :=
    List.pairwise_map.mpr (latestFirst_sorted MessageWrite.acceptedAt _)
  rw [historyPage, sliceTo_natCast, mergeEntries_of_apart separate,
    findMessages, findPendingMessageWrites,
    map_takeRows Message.createdAt toChatMessage (fun _ => rfl),
    map_takeRows MessageWrite.acceptedAt toPendingMessageDto
      (fun _ => rfl),
    latestFirst,
    take_insertionSort_append _ limit
      (messagesSorted.sublist List.filter_sublist)
      (writesSorted.sublist List.filter_sublist),
    ← List.filter_append, ← filter_insertionSort, KeysetPages.page,
    remaining_eq_filter]
  rfl

/-! ## Cursors -/

/-- An id that can be sent as a cursor. -/
def isCursor (entry : ChatMessage) : Bool :=
  entry.id != ""

theorem findMessageCursor_of_mem
    {db : Database} (valid : db.Valid) {message : Message}
    (inTable : message ∈ db.messages) :
    findMessageCursor db message.id = some message.createdAt := by
  have lookup :
      (db.messages.find? fun other => other.id == message.id) =
        some message := by
    refine find?_of_unique inTable (beq_self_eq_true message.id) ?_
    intro other otherMember same
    exact
      message_separate valid otherMember inTable
        (.inl (beq_iff_eq.mp same))
  rw [findMessageCursor, lookup]
  rfl

theorem findWriteCursor_of_mem
    {db : Database} (valid : db.Valid) {write : MessageWrite}
    (inTable : write ∈ db.messageWrites) :
    findWriteCursor db write.id = some write.acceptedAt := by
  have lookup :
      (db.messageWrites.find? fun other => other.id == write.id) =
        some write := by
    refine find?_of_unique inTable (beq_self_eq_true write.id) ?_
    intro other otherMember same
    exact
      eq_of_unique_key valid.writeIds otherMember inTable
        (beq_iff_eq.mp same)
  rw [findWriteCursor, lookup]
  rfl

/-- The id of an entry is a cursor with the time of the entry. -/
theorem cursorCreatedAt_of_entry
    {db : Database} {chatId : RoomId} (valid : db.Valid)
    (apart : PendingApart db chatId) {entry : ChatMessage}
    (member : entry ∈ roomEntries db chatId) :
    cursorCreatedAt db (some entry.id) =
      KeysetPages.cursorAfter ChatMessage.createdAt isCursor entry := by
  have found :
      (findMessageCursor db entry.id).or (findWriteCursor db entry.id) =
        some entry.createdAt := by
    rcases List.mem_append.mp member with isMessage | isWrite
    · rcases List.mem_map.mp isMessage with ⟨message, listed, rfl⟩
      have cursor :=
        findMessageCursor_of_mem valid (mem_roomMessages.mp listed).1
      exact congrArg (Option.or · _) cursor
    · rcases List.mem_map.mp isWrite with ⟨write, listed, rfl⟩
      have noMessage : findMessageCursor db write.id = none := by
        rw [findMessageCursor, Option.map_eq_none_iff,
          List.find?_eq_none]
        intro message inMessages
        simpa using apart message inMessages write listed
      have cursor :=
        findWriteCursor_of_mem valid (mem_roomPendingWrites.mp listed).1
      change
        (findMessageCursor db write.id).or
            (findWriteCursor db write.id) =
          some write.acceptedAt
      rw [noMessage, cursor]
      rfl
  unfold cursorCreatedAt KeysetPages.cursorAfter isCursor truthy
  by_cases empty : entry.id = ""
  · simp [empty]
  · simp [empty, found, Option.filter]

/-! ## Walks -/

/-- A positive integer is cut at 100 and taken as it is. -/
theorem GetMessagesInput.pageSize_of_positive
    {input : GetMessagesInput} {limit : Nat}
    (isLimit : input.limit = some (.integer limit))
    (positive : 1 ≤ limit) :
    input.pageSize = some ((min limit 100 : Nat) : Int) := by
  have nonzero : (limit : Int) ≠ 0 := by omega
  have capped : min (limit : Int) 100 = ((min limit 100 : Nat) : Int) := by
    omega
  rw [GetMessagesInput.pageSize, GetMessagesInput.requestedSize, isLimit,
    Option.getD_some, JsNumber.orFifty, if_neg nonzero,
    JsNumber.atMost100, capped, takeOf, JsNumber.truncate,
    Option.filter_some, if_pos]
  rw [Bool.and_eq_true, decide_eq_true_eq, decide_eq_true_eq]
  omega

def historyRequest
    (userId : UserId) (chatId : RoomId) (limit : Nat)
    (beforeMessageId : Option String) : GetMessagesInput where
  userId := userId
  chatId := chatId
  beforeMessageId := beforeMessageId
  limit := some (.integer limit)

/--
A client asks for page after page until a page is empty.  What one page is
read from is a database of its own: between two requests the database may
change and return equal rows in another order.
-/
inductive HistoryWalk
    (tables : Nat → Database) (userId : UserId) (chatId : RoomId)
    (limit : Nat) :
    Nat → Option String → List (List ChatMessage) → Prop where
  | finished {index : Nat} {cursor : Option String} :
      getMessages (tables index)
            (historyRequest userId chatId limit cursor) =
          .ok [] →
        HistoryWalk tables userId chatId limit index cursor []
  | turned {index : Nat} {cursor : Option String}
      {page : List ChatMessage} {last : ChatMessage}
      {rest : List (List ChatMessage)} :
      getMessages (tables index)
            (historyRequest userId chatId limit cursor) =
          .ok page →
        page.getLast? = some last →
          HistoryWalk tables userId chatId limit (index + 1)
              (some last.id) rest →
            HistoryWalk tables userId chatId limit index cursor
              (page :: rest)

/-- The database shows these entries to a member of the room. -/
structure Shows
    (history : List ChatMessage) (userId : UserId) (chatId : RoomId)
    (db : Database) : Prop where
  valid : db.Valid
  apart : PendingApart db chatId
  member : (findRoomMembership db userId chatId).isSome
  contents : (roomEntries db chatId).Perm history

variable {history : List ChatMessage} {userId : UserId}
  {chatId : RoomId}

namespace Shows

variable {db : Database} (shows : Shows history userId chatId db)

include shows

theorem roomHistory_perm : (roomHistory db chatId).Perm history :=
  (latestFirst_perm _ _).trans shows.contents

/-- The ids of the entries are different. -/
theorem nodup : (roomHistory db chatId).Nodup :=
  (latestFirst_perm ChatMessage.createdAt _).nodup_iff.mpr
    (List.Nodup.of_map _ (roomEntries_ids_nodup shows.valid shows.apart))

theorem getMessages_eq
    {limit : Nat} (positive : 1 ≤ limit) (capped : limit ≤ 100)
    (cursor : Option String) :
    getMessages db (historyRequest userId chatId limit cursor) =
      .ok
        (KeysetPages.page ChatMessage.createdAt limit
          (cursorCreatedAt db cursor) (roomHistory db chatId)) := by
  rcases Option.isSome_iff_exists.mp shows.member with ⟨row, found⟩
  have pageSize :
      (historyRequest userId chatId limit cursor).pageSize =
        some (limit : Int) := by
    rw [GetMessagesInput.pageSize_of_positive rfl positive,
      Nat.min_eq_left capped]
  rw [← historyPage_eq shows.apart]
  unfold getMessages
  rw [pageSize]
  simp only [historyRequest, found]

end Shows

section Walks

variable {tables : Nat → Database}
  (shows : ∀ index, Shows history userId chatId (tables index))
  {limit : Nat}

include shows

/-- The last entry of a page is found when it is sent as the cursor. -/
theorem cursor_of_last
    {index : Nat} {before : Option Timestamp} {last : ChatMessage}
    (ends :
      (KeysetPages.page ChatMessage.createdAt limit before
            (roomHistory (tables index) chatId)).getLast? =
        some last)
    (next : Nat) :
    cursorCreatedAt (tables next) (some last.id) =
      KeysetPages.cursorAfter ChatMessage.createdAt isCursor last := by
  apply
    cursorCreatedAt_of_entry (shows next).valid (shows next).apart
  have listed :=
    List.mem_of_mem_filter
      (List.mem_of_mem_take (List.mem_of_getLast? ends))
  rw [(shows next).contents.mem_iff]
  exact (shows index).roomHistory_perm.mem_iff.mp listed

variable (positive : 1 ≤ limit) (capped : limit ≤ 100)

include positive capped

theorem historyWalk_of_walk
    {index : Nat} {before : Option Timestamp}
    {pages : List (List ChatMessage)}
    (walk :
      KeysetPages.Walk ChatMessage.createdAt isCursor limit
        (fun index => roomHistory (tables index) chatId) index before
        pages)
    {cursor : Option String}
    (reads : cursorCreatedAt (tables index) cursor = before) :
    HistoryWalk tables userId chatId limit index cursor pages := by
  induction walk generalizing cursor with
  | finished noneLeft =>
      apply HistoryWalk.finished
      rw [(shows _).getMessages_eq positive capped, reads, noneLeft]
  | turned ends walk induction =>
      refine .turned ?_ ends
        (induction (cursor_of_last shows ends _))
      rw [(shows _).getMessages_eq positive capped, reads]

theorem walk_of_historyWalk
    {index : Nat} {cursor : Option String}
    {pages : List (List ChatMessage)}
    (walk : HistoryWalk tables userId chatId limit index cursor pages) :
    KeysetPages.Walk ChatMessage.createdAt isCursor limit
      (fun index => roomHistory (tables index) chatId) index
      (cursorCreatedAt (tables index) cursor) pages := by
  induction walk with
  | finished noneLeft =>
      rw [(shows _).getMessages_eq positive capped] at noneLeft
      exact .finished (Except.ok.inj noneLeft)
  | turned answered ends walk induction =>
      rw [(shows _).getMessages_eq positive capped] at answered
      rcases Except.ok.inj answered with rfl
      rw [cursor_of_last shows ends] at induction
      exact .turned ends induction

end Walks

/-- The walk ends and shows every entry once, the newest first. -/
def WalkComplete
    (tables : Nat → Database) (history : List ChatMessage)
    (userId : UserId) (chatId : RoomId) (limit : Nat) : Prop :=
  ∃ pages,
    HistoryWalk tables userId chatId limit 0 none pages ∧
      pages.flatten.Perm history ∧
        pages.flatten.Pairwise fun newer older =>
          older.createdAt ≤ newer.createdAt

/--
However a database that shows these entries changes between the pages, the
walk shows every entry once, in exactly those cases in which every page ends
with an entry that is strictly newer than those after it and has an id that
can be sent.
-/
theorem history_walk_complete_iff
    (history : List ChatMessage) (userId : UserId) (chatId : RoomId)
    (limit : Nat) (positive : 1 ≤ limit) (capped : limit ≤ 100) :
    (∀ tables : Nat → Database,
        (∀ index, Shows history userId chatId (tables index)) →
          WalkComplete tables history userId chatId limit) ↔
      ∀ db, Shows history userId chatId db →
        KeysetPages.Clean ChatMessage.createdAt isCursor limit
          (roomHistory db chatId) := by
  constructor
  · intro complete db shows
    rcases complete (fun _ => db) fun _ => shows with
      ⟨pages, walk, perm, _⟩
    have keysetWalk :=
      walk_of_historyWalk (fun _ => shows) positive capped walk
    exact
      KeysetPages.clean_of_walk positive
        (roomHistory_newestFirst db chatId) shows.nodup keysetWalk
        (perm.trans shows.roomHistory_perm.symm)
  · intro clean tables shows
    obtain ⟨pages, walk, perm, newestFirst⟩ :=
      KeysetPages.walk_of_clean
        (fun index => roomHistory_newestFirst (tables index) chatId)
        (fun first second =>
          (shows first).roomHistory_perm.trans
            (shows second).roomHistory_perm.symm)
        (fun index => clean (tables index) (shows index)) positive
    exact
      ⟨pages, historyWalk_of_walk shows positive capped walk rfl,
        perm.trans (shows 0).roomHistory_perm, newestFirst⟩

def exampleMessage (id : MessageId) (roomSequence : Nat) : Message where
  id := id
  content := "hello"
  createdAt := 0
  requestId := none
  roomSequence := roomSequence
  senderId := "alice"
  roomId := "room"

/-- A room of Alice with these messages. -/
def exampleRoom (messages : List Message) : Database where
  users :=
    [{ id := "alice"
       username := "alice"
       displayName := "Alice"
       email := "alice@example.com"
       password := ""
       createdAt := 0 }]
  rooms := [{ id := "room", createdAt := 0, lastMessageAt := 0 }]
  roomMembers := [{ userId := "alice", roomId := "room", joinedAt := 0 }]
  messages := messages

def laterMessage : Message :=
  { exampleMessage "second" 2 with createdAt := 1 }

/-- Two messages with different times are shown on two pages. -/
theorem history_walk_complete_iff_two :
    let entries :=
      [toChatMessage laterMessage, toChatMessage (exampleMessage "first" 1)]
    Shows entries "alice" "room"
        (exampleRoom [exampleMessage "first" 1, laterMessage]) ∧
      ∀ tables : Nat → Database,
        (∀ index, Shows entries "alice" "room" (tables index)) →
          WalkComplete tables entries "alice" "room" 1 := by
  intro entries
  have distinctTimes : ∀ entry ∈ entries, ∀ other ∈ entries,
      entry.createdAt = other.createdAt → entry = other := by
    decide
  refine
    ⟨⟨by constructor <;> decide, by unfold PendingApart; decide,
        by decide, by decide⟩, ?_⟩
  rw [history_walk_complete_iff _ _ _ 1 (by decide) (by decide)]
  intro db shows
  have order : roomHistory db "room" = entries := by
    refine
      shows.roomHistory_perm.eq_of_pairwise ?_
        (roomHistory_newestFirst db "room") (by decide)
    intro entry other member otherMember older newer
    exact
      distinctTimes entry (shows.roomHistory_perm.mem_iff.mp member) other
        otherMember (le_antisymm newer older)
  rw [order]
  intro index last inRange ends
  have position : index = 0 ∨ index = 1 := by
    have bound : index * 1 < 2 := inRange
    omega
  rcases position with rfl | rfl
  · cases ends
    exact ⟨by decide, by decide⟩
  · cases ends
    exact ⟨by decide, by decide⟩

/-- Of two messages with one time, pages of one message lose the second. -/
theorem equal_times_are_lost :
    let db :=
      exampleRoom [exampleMessage "first" 1, exampleMessage "second" 2]
    Shows (roomEntries db "room") "alice" "room" db ∧
      ¬ WalkComplete (fun _ => db) (roomEntries db "room") "alice" "room"
          1 := by
  intro db
  have shows : Shows (roomEntries db "room") "alice" "room" db :=
    ⟨by constructor <;> decide, by unfold PendingApart; decide,
      by decide, by decide⟩
  refine ⟨shows, ?_⟩
  rintro ⟨pages, walk, perm, _⟩
  have clean :=
    KeysetPages.clean_of_walk (by decide)
      (roomHistory_newestFirst db "room") shows.nodup
      (walk_of_historyWalk (fun _ => shows) (by decide) (by decide) walk)
      (perm.trans shows.roomHistory_perm.symm)
  have strict :=
    (clean 0 (toChatMessage (exampleMessage "first" 1)) (by decide)
      (by decide)).2
      (toChatMessage (exampleMessage "second" 2)) (by decide)
  exact absurd strict (by decide)

end ChatBackend.Chats.History
