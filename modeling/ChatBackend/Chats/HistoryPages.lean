import ChatBackend.Chats.History

/-!
# One page of the history

`getMessages` cuts the messages and the pending writes of the room to the
page size before it merges, sorts and cuts them again.  What remains is the
top of both tables together: `page_is_top`.

The time of a cursor is described by `CursorTime`, without the lookups of the
source; `cursorCreatedAt_of_cursorTime` connects the two.
-/

namespace ChatBackend.Chats.HistoryPages

open ChatBackend.Foundation
open ChatBackend.Storage.Schema
open ChatBackend.Chats.ChatQueries
open ChatBackend.Chats.ChatReads
open ChatBackend.Chats.History

variable {db : Database}

/-! ## Cursors -/

/-- The time before which the page of a cursor starts. -/
inductive CursorTime (db : Database) :
    Option String → Option Timestamp → Prop where
  | absent : CursorTime db none none
  | empty : CursorTime db (some "") none
  | unknown (id : MessageId) :
      (∀ message ∈ db.messages, message.id ≠ id) →
        (∀ write ∈ db.messageWrites, write.id ≠ id) →
          CursorTime db (some id) none
  | message (message : Message) :
      message ∈ db.messages → message.id ≠ "" →
        CursorTime db (some message.id) (some message.createdAt)
  | write (write : MessageWrite) :
      write ∈ db.messageWrites → write.id ≠ "" →
        (∀ message ∈ db.messages, message.id ≠ write.id) →
          CursorTime db (some write.id) (some write.acceptedAt)

theorem findMessageCursor_eq_none
    {id : MessageId}
    (unused : ∀ message ∈ db.messages, message.id ≠ id) :
    findMessageCursor db id = none := by
  rw [findMessageCursor, Option.map_eq_none_iff, List.find?_eq_none]
  intro message member
  simpa using unused message member

theorem findWriteCursor_eq_none
    {id : MessageId}
    (unused : ∀ write ∈ db.messageWrites, write.id ≠ id) :
    findWriteCursor db id = none := by
  rw [findWriteCursor, Option.map_eq_none_iff, List.find?_eq_none]
  intro write member
  simpa using unused write member

theorem cursorCreatedAt_of_ne_empty
    {id : MessageId} (named : id ≠ "") :
    cursorCreatedAt db (some id) =
      (findMessageCursor db id).or (findWriteCursor db id) := by
  simp [cursorCreatedAt, truthy, Option.filter, named]

/-- The lookups of `getMessages` find the time of a cursor. -/
theorem cursorCreatedAt_of_cursorTime
    (valid : db.Valid) {cursor : Option String}
    {before : Option Timestamp} (reads : CursorTime db cursor before) :
    cursorCreatedAt db cursor = before := by
  cases reads with
  | absent => rfl
  | empty => rfl
  | unknown id noMessage noWrite =>
      by_cases named : id = ""
      · subst named
        rfl
      · rw [cursorCreatedAt_of_ne_empty named,
          findMessageCursor_eq_none noMessage,
          findWriteCursor_eq_none noWrite]
        rfl
  | message message member named =>
      rw [cursorCreatedAt_of_ne_empty named,
        findMessageCursor_of_mem valid member]
      rfl
  | write write member named noMessage =>
      rw [cursorCreatedAt_of_ne_empty named,
        findMessageCursor_eq_none noMessage,
        findWriteCursor_of_mem valid member]
      rfl

/-! ## Pages -/

/-- The messages and pending writes of the room that a page can show. -/
def entriesBefore
    (db : Database) (chatId : RoomId) (before : Option Timestamp) :
    List ChatMessage :=
  (roomEntries db chatId).filter fun entry =>
    isBefore before entry.createdAt

theorem historyPage_topOf
    {chatId : RoomId} (apart : PendingApart db chatId)
    (before : Option Timestamp) (limit : Nat) :
    KeysetPages.TopOf ChatMessage.createdAt limit
      (entriesBefore db chatId before)
      (historyPage db chatId before limit) := by
  rw [historyPage_eq apart, entriesBefore, ← remaining_eq_filter]
  exact
    KeysetPages.page_topOf (roomHistory_newestFirst db chatId)
      (latestFirst_perm ChatMessage.createdAt _) before

/-- The ids of a page are different. -/
theorem historyPage_ids_nodup
    {chatId : RoomId} (valid : db.Valid) (apart : PendingApart db chatId)
    (before : Option Timestamp) (limit : Nat) :
    ((historyPage db chatId before limit).map ChatMessage.id).Nodup := by
  have shown :
      (historyPage db chatId before limit).Sublist
        (roomHistory db chatId) := by
    rw [historyPage_eq apart]
    exact (List.take_sublist _ _).trans List.filter_sublist
  exact
    ((latestFirst_perm ChatMessage.createdAt _).map
        ChatMessage.id).nodup_iff.mpr
      (roomEntries_ids_nodup valid apart) |>.sublist
      (shown.map ChatMessage.id)

/--
For a member and a positive integer limit, a page holds as many different
entries as there are and as fit, newest first; each of them is a message or
a pending write of the room before the cursor, and none of those left out is
newer than one that is shown.
-/
theorem page_is_top
    (valid : db.Valid) {userId : UserId} {chatId : RoomId}
    (member : (findRoomMembership db userId chatId).isSome)
    (apart : PendingApart db chatId) {cursor : Option String}
    {before : Option Timestamp} (reads : CursorTime db cursor before)
    {limit : Nat} (positive : 1 ≤ limit) :
    ∃ page,
      getMessages db
            { userId := userId
              chatId := chatId
              beforeMessageId := cursor
              limit := some (.integer limit) } =
          .ok page ∧
        (page.map ChatMessage.id).Nodup ∧
          KeysetPages.TopOf ChatMessage.createdAt (min limit 100)
            (entriesBefore db chatId before) page := by
  rcases Option.isSome_iff_exists.mp member with ⟨row, found⟩
  refine
    ⟨historyPage db chatId before (min limit 100 : Nat), ?_,
      historyPage_ids_nodup valid apart before _,
      historyPage_topOf apart before _⟩
  unfold getMessages
  rw [GetMessagesInput.pageSize_of_positive rfl positive]
  simp only [found, cursorCreatedAt_of_cursorTime valid reads]

def exampleTwoMessages : Database :=
  exampleRoom [exampleMessage "first" 1, exampleMessage "second" 2]

/-- Of two messages, a page of one shows one. -/
theorem page_is_top_one_of_two :
    ∃ page,
      getMessages exampleTwoMessages
            { userId := "alice"
              chatId := "room"
              limit := some (.integer 1) } =
          .ok page ∧
        (page.map ChatMessage.id).Nodup ∧
          KeysetPages.TopOf ChatMessage.createdAt 1
            (entriesBefore exampleTwoMessages "room" none) page :=
  page_is_top (by constructor <;> decide) (by decide)
    (by unfold PendingApart; decide) .absent (by decide)

end ChatBackend.Chats.HistoryPages
