import ChatBackend.Chats.History
import Mathlib.Data.Fintype.EquivFin
import Mathlib.Data.List.Perm.Subperm

/-!
# What reads reveal

`Agree` relates two databases that a user cannot tell apart by right: they
have the same users, and the same rooms of this user with their members,
messages and pending writes.

Lists, chats and members are the same in both.  A page of messages is the
same too for the same time of the cursor, but the row that the cursor names
is looked up in all rooms: `reads_isolated_iff` says when that matters.
-/

namespace ChatBackend.Chats.ReadIsolation

open ChatBackend.Foundation.TableRows
open ChatBackend.Storage.Schema
open ChatBackend.Storage.TableInvariants
open ChatBackend.Chats.ChatQueries
open ChatBackend.Chats.ChatReads
open ChatBackend.Chats.History

/-! ## Agreement -/

def inRoom (db : Database) (userId : UserId) (roomId : RoomId) : Bool :=
  (findRoomMembership db userId roomId).isSome

/-- The second database is the first one for this user. -/
structure Agree (userId : UserId) (first second : Database) : Prop where
  users : second.users = first.users
  memberships :
    (second.roomMembers.filter fun member => member.userId == userId) =
      first.roomMembers.filter fun member => member.userId == userId
  rooms :
    (second.rooms.filter fun room => inRoom first userId room.id) =
      first.rooms.filter fun room => inRoom first userId room.id
  roomMembers :
    (second.roomMembers.filter fun member =>
        inRoom first userId member.roomId) =
      first.roomMembers.filter fun member =>
        inRoom first userId member.roomId
  messages :
    (second.messages.filter fun message =>
        inRoom first userId message.roomId) =
      first.messages.filter fun message =>
        inRoom first userId message.roomId
  pendingWrites :
    (second.messageWrites.filter fun write =>
        inRoom first userId write.roomId && isPending write) =
      first.messageWrites.filter fun write =>
        inRoom first userId write.roomId && isPending write

namespace Agree

variable {userId : UserId} {first second : Database}
  (agree : Agree userId first second)

include agree

theorem findRoomMembership_eq (roomId : RoomId) :
    findRoomMembership second userId roomId =
      findRoomMembership first userId roomId := by
  apply find?_of_filter_eq agree.memberships <;>
    simp +contextual

section Room

variable {roomId : RoomId} (member : inRoom first userId roomId = true)

include member

theorem membersOf_eq : membersOf second roomId = membersOf first roomId := by
  apply filter_of_filter_eq agree.roomMembers <;>
  · intro row _ inTheRoom
    rw [beq_iff_eq.mp inTheRoom]
    exact member

theorem memberViews_eq :
    memberViews second roomId = memberViews first roomId := by
  rw [memberViews, memberViews, agree.membersOf_eq member, agree.users]

theorem roomMessages_eq :
    roomMessages second roomId = roomMessages first roomId := by
  unfold roomMessages
  congr 1
  apply filter_of_filter_eq agree.messages <;>
  · intro row _ inTheRoom
    rw [beq_iff_eq.mp inTheRoom]
    exact member

theorem roomPendingWrites_eq :
    roomPendingWrites second roomId = roomPendingWrites first roomId := by
  unfold roomPendingWrites
  congr 1
  apply filter_of_filter_eq agree.pendingWrites <;>
  · intro row _ inTheRoom
    rw [Bool.and_eq_true, beq_iff_eq] at inTheRoom
    rw [inTheRoom.1, member, inTheRoom.2]
    rfl

theorem findRoom_eq :
    (second.rooms.find? fun room => room.id == roomId) =
      first.rooms.find? fun room => room.id == roomId := by
  apply find?_of_filter_eq agree.rooms <;>
  · intro room _ same
    rw [beq_iff_eq.mp same]
    exact member

theorem roomView_eq {room : Room} (isRoom : room.id = roomId) :
    roomView second room = roomView first room := by
  subst isRoom
  rw [roomView, roomView, agree.memberViews_eq member,
    agree.roomMessages_eq member]

theorem historyPage_eq
    (before : Option Timestamp) (pageSize : Int) :
    historyPage second roomId before pageSize =
      historyPage first roomId before pageSize := by
  unfold historyPage findMessages findPendingMessageWrites
  rw [agree.roomMessages_eq member, agree.roomPendingWrites_eq member]

end Room

/-! ## Chats -/

theorem findMembershipsForUser_eq :
    findMembershipsForUser second userId =
      findMembershipsForUser first userId := by
  unfold findMembershipsForUser
  rw [agree.memberships]
  congr 1
  apply List.filterMap_congr
  intro row listed
  rcases List.mem_filter.mp listed with ⟨inTable, own⟩
  have member : inRoom first userId row.roomId = true := by
    rw [inRoom, findRoomMembership_isSome_iff]
    exact
      List.mem_map.mpr
        ⟨row, mem_membersOf.mpr ⟨inTable, rfl⟩, beq_iff_eq.mp own⟩
  rw [agree.findRoom_eq member]
  cases found :
      first.rooms.find? fun room => room.id == row.roomId with
  | none => rfl
  | some room =>
      have isRoom := List.find?_some found
      exact
        congrArg some
          (agree.roomView_eq member (beq_iff_eq.mp isRoom))

theorem findRoomForUser_eq (roomId : RoomId) :
    findRoomForUser second userId roomId =
      findRoomForUser first userId roomId := by
  unfold findRoomForUser
  simp only [agree.findRoomMembership_eq]
  have sameRoom :
      (second.rooms.find? fun room =>
          room.id == roomId &&
            (findRoomMembership first userId room.id).isSome) =
        first.rooms.find? fun room =>
          room.id == roomId &&
            (findRoomMembership first userId room.id).isSome := by
    apply find?_of_filter_eq agree.rooms <;>
    · intro room _ found
      exact (Bool.and_eq_true_iff.mp found).2
  rw [sameRoom]
  cases found :
      first.rooms.find? fun room =>
        room.id == roomId &&
          (findRoomMembership first userId room.id).isSome with
  | none => rfl
  | some room =>
      have passed := List.find?_some found
      have member := (Bool.and_eq_true_iff.mp passed).2
      exact congrArg some (agree.roomView_eq member rfl)

theorem findPendingMessageWritesForRooms_eq
    {roomIds : List RoomId}
    (members :
      ∀ roomId ∈ roomIds, inRoom first userId roomId = true) :
    findPendingMessageWritesForRooms second roomIds =
      findPendingMessageWritesForRooms first roomIds := by
  unfold findPendingMessageWritesForRooms
  split
  case isTrue => rfl
  case isFalse =>
      congr 1
      apply filter_of_filter_eq agree.pendingWrites <;>
      · intro row _ listed
        rw [Bool.and_eq_true, List.contains_iff_mem] at listed
        rw [members row.roomId listed.1, listed.2]
        rfl

theorem attachPendingLatestMessages_eq
    {chats : List Chat}
    (members :
      ∀ chat ∈ chats, inRoom first userId chat.id = true) :
    attachPendingLatestMessages second chats =
      attachPendingLatestMessages first chats := by
  unfold attachPendingLatestMessages
  rw [agree.findPendingMessageWritesForRooms_eq]
  intro roomId listed
  rcases List.mem_map.mp listed with ⟨chat, member, rfl⟩
  exact members chat member

theorem listChats_eq : listChats second userId = listChats first userId := by
  unfold listChats
  rw [agree.findMembershipsForUser_eq]
  apply agree.attachPendingLatestMessages_eq
  intro chat listed
  rcases List.mem_map.mp listed with ⟨view, member, rfl⟩
  rw [findMembershipsForUser, mem_latestFirst,
    List.mem_filterMap] at member
  rcases member with ⟨row, own, found⟩
  rcases List.mem_filter.mp own with ⟨inTable, isOwn⟩
  rw [Option.map_eq_some_iff] at found
  rcases found with ⟨room, isRoom, rfl⟩
  have same := List.find?_some isRoom
  change inRoom first userId room.id = true
  rw [inRoom, findRoomMembership_isSome_iff, beq_iff_eq.mp same]
  exact
    List.mem_map.mpr
      ⟨row, mem_membersOf.mpr ⟨inTable, rfl⟩, beq_iff_eq.mp isOwn⟩

theorem getChat_eq (chatId : RoomId) :
    getChat second userId chatId = getChat first userId chatId := by
  unfold getChat
  rw [agree.findRoomForUser_eq]
  split
  case h_1 => rfl
  case h_2 view found =>
      rw [agree.attachPendingLatestMessages_eq]
      intro chat listed
      rw [List.mem_singleton] at listed
      subst listed
      rw [findRoomForUser, Option.map_eq_some_iff] at found
      rcases found with ⟨room, isRoom, rfl⟩
      have passed := List.find?_some isRoom
      exact (Bool.and_eq_true_iff.mp passed).2

theorem getChatMembers_eq (chatId : RoomId) :
    getChatMembers second userId chatId =
      getChatMembers first userId chatId := by
  unfold getChatMembers
  rw [agree.findRoomForUser_eq]

/-- The same cursor time gives the same page. -/
theorem getMessages_eq
    {input : GetMessagesInput} (isUser : input.userId = userId)
    (pages :
      ∀ pageSize, input.pageSize = some pageSize →
        inRoom first userId input.chatId = true →
          historyPage first input.chatId
              (cursorCreatedAt second input.beforeMessageId) pageSize =
            historyPage first input.chatId
              (cursorCreatedAt first input.beforeMessageId) pageSize) :
    getMessages second input = getMessages first input := by
  subst isUser
  unfold getMessages
  rw [agree.findRoomMembership_eq]
  cases found : findRoomMembership first input.userId input.chatId with
  | none => rfl
  | some row =>
      have member :
          inRoom first input.userId input.chatId = true := by
        rw [inRoom, found]
        rfl
      cases size : input.pageSize with
      | none => rfl
      | some pageSize =>
          simp only [agree.historyPage_eq member]
          rw [pages pageSize size member]

end Agree

/-! ## Pages without entries -/

theorem mem_mergeEntries_ids
    {messages : List Message} {pendingWrites : List MessageWrite}
    {id : MessageId} :
    id ∈ (mergeEntries messages pendingWrites).map ChatMessage.id ↔
      id ∈ messages.map Message.id ∨
        id ∈ pendingWrites.map MessageWrite.id := by
  simp only [mergeEntries, List.map_append, List.map_map,
    List.mem_append, List.mem_map, List.mem_filter, Function.comp_apply]
  constructor
  · rintro (⟨message, listed, rfl⟩ | ⟨write, ⟨listed, _⟩, rfl⟩)
    · exact Or.inl ⟨message, listed, rfl⟩
    · exact Or.inr ⟨write, listed, rfl⟩
  · rintro (⟨message, listed, rfl⟩ | ⟨write, listed, rfl⟩)
    · exact Or.inl ⟨message, listed, rfl⟩
    · by_cases shared :
          messages.any (fun message => message.id == write.id) = true
      · rcases List.any_eq_true.mp shared with ⟨message, member, same⟩
        exact Or.inl ⟨message, member, beq_iff_eq.mp same⟩
      · exact Or.inr ⟨write, ⟨listed, by simpa using shared⟩, rfl⟩

theorem mergeEntries_ids_nodup
    {messages : List Message} {pendingWrites : List MessageWrite}
    (messageIds : (messages.map Message.id).Nodup)
    (writeIds : (pendingWrites.map MessageWrite.id).Nodup) :
    ((mergeEntries messages pendingWrites).map
        ChatMessage.id).Nodup := by
  rw [mergeEntries, List.map_append, List.map_map, List.map_map,
    List.nodup_append]
  refine
    ⟨messageIds, writeIds.sublist (List.filter_sublist.map _), ?_⟩
  intro id isMessage other isWrite same
  rcases List.mem_map.mp isMessage with ⟨message, listed, rfl⟩
  rcases List.mem_map.mp isWrite with ⟨write, kept, rfl⟩
  have apart := (List.mem_filter.mp kept).2
  rw [Bool.not_eq_true', List.any_eq_false] at apart
  exact apart message listed (beq_iff_eq.mpr same)

/-- Rows from the end of a list are also at the end of a longer one. -/
theorem takeRows_suffix_sublist
    {Row : Type} {limit : Int} (negative : limit < 0)
    {shorter rows : List Row} (suffix : shorter <:+ rows) :
    (takeRows limit shorter).Sublist (takeRows limit rows) := by
  rcases suffix with ⟨front, rfl⟩
  simp only [takeRows, if_neg (Int.not_le.mpr negative),
    List.drop_append, List.length_append]
  have same :
      front.length + shorter.length - limit.natAbs - front.length =
        shorter.length - limit.natAbs := by
    omega
  rw [same]
  exact List.sublist_append_right _ _

theorem filter_isBefore_suffix
    {Row : Type} (time : Row → Timestamp)
    {rows : List Row}
    (sorted : rows.Pairwise fun newer older => time older ≤ time newer)
    (before : Option Timestamp) :
    (rows.filter fun row => isBefore before (time row)) <:+ rows := by
  cases before with
  | none => simp [isBefore]
  | some limit =>
      exact
        Foundation.KeysetPages.remaining_suffix sorted limit

section Pages

variable {db : Database} (chatId : RoomId) (pageSize : Int)

theorem sliceTo_eq_nil_iff
    {Row : Type} {stop : Int} (nonzero : stop ≠ 0) (rows : List Row) :
    sliceTo stop rows = [] ↔ rows.length ≤ (-stop).toNat := by
  unfold sliceTo
  split
  · rw [List.take_eq_nil_iff, ← List.length_eq_zero_iff]
    omega
  · rw [List.take_eq_nil_iff, ← List.length_eq_zero_iff]
    omega

/-- A page of no rows has nothing to show, as a fraction below 1 asks for. -/
theorem mergeEntries_zero (before : Option Timestamp) :
    mergeEntries (findMessages db chatId before 0)
        (findPendingMessageWrites db chatId before 0) =
      [] := by
  simp [findMessages, findPendingMessageWrites, takeRows, mergeEntries]

theorem historyPage_eq_nil_iff (before : Option Timestamp) :
    historyPage db chatId before pageSize = [] ↔
      (mergeEntries (findMessages db chatId before pageSize)
            (findPendingMessageWrites db chatId before
              pageSize)).length ≤
        (-pageSize).toNat := by
  by_cases zero : pageSize = 0
  · subst zero
    rw [historyPage, mergeEntries_zero]
    exact ⟨fun _ => Nat.zero_le _, fun _ => rfl⟩
  · rw [historyPage, sliceTo_eq_nil_iff zero,
      (latestFirst_perm _ _).length_eq]

theorem findMessages_none :
    findMessages db chatId none pageSize =
      takeRows pageSize (roomMessages db chatId) := by
  simp [findMessages, isBefore]

theorem findPendingMessageWrites_none :
    findPendingMessageWrites db chatId none pageSize =
      takeRows pageSize (roomPendingWrites db chatId) := by
  simp [findPendingMessageWrites, isBefore]

theorem takeRows_sublist {Row : Type} (rows : List Row) :
    (takeRows pageSize rows).Sublist rows := by
  unfold takeRows
  split
  · exact List.take_sublist _ _
  · exact List.drop_sublist _ _

theorem takeRows_eq_nil_of_positive
    {Row : Type} (positive : 0 < pageSize) {rows : List Row}
    (none : takeRows pageSize rows = []) : rows = [] := by
  rw [takeRows, if_pos (Int.le_of_lt positive),
    List.take_eq_nil_iff] at none
  exact none.resolve_left (by omega)

/-- The first page of a positive size is empty only if the room is. -/
theorem room_eq_nil_of_positive
    (positive : 0 < pageSize)
    (noEntries :
      mergeEntries (findMessages db chatId none pageSize)
          (findPendingMessageWrites db chatId none pageSize) =
        []) :
    roomMessages db chatId = [] ∧ roomPendingWrites db chatId = [] := by
  have noIds :
      ∀ id,
        ¬ (id ∈ (findMessages db chatId none pageSize).map Message.id ∨
            id ∈ (findPendingMessageWrites db chatId none
                  pageSize).map
              MessageWrite.id) := by
    intro id listed
    rw [← mem_mergeEntries_ids, noEntries] at listed
    cases listed
  rw [findMessages_none, findPendingMessageWrites_none] at noIds
  constructor
  · apply takeRows_eq_nil_of_positive pageSize positive
    rw [List.eq_nil_iff_forall_not_mem]
    intro message listed
    exact noIds message.id (.inl (List.mem_map_of_mem listed))
  · apply takeRows_eq_nil_of_positive pageSize positive
    rw [List.eq_nil_iff_forall_not_mem]
    intro write listed
    exact noIds write.id (.inr (List.mem_map_of_mem listed))

/-- From the end, a cursor never leaves more entries than there were. -/
theorem mergeEntries_length_le_of_negative
    (valid : db.Valid) (negative : pageSize < 0)
    (before : Option Timestamp) :
    (mergeEntries (findMessages db chatId before pageSize)
          (findPendingMessageWrites db chatId before pageSize)).length ≤
      (mergeEntries (findMessages db chatId none pageSize)
          (findPendingMessageWrites db chatId none pageSize)).length := by
  have messagesLess :
      (findMessages db chatId before pageSize).Sublist
        (findMessages db chatId none pageSize) := by
    rw [findMessages_none, findMessages]
    exact
      takeRows_suffix_sublist negative
        (filter_isBefore_suffix Message.createdAt
          (latestFirst_sorted Message.createdAt _) before)
  have writesLess :
      (findPendingMessageWrites db chatId before pageSize).Sublist
        (findPendingMessageWrites db chatId none pageSize) := by
    rw [findPendingMessageWrites_none, findPendingMessageWrites]
    exact
      takeRows_suffix_sublist negative
        (filter_isBefore_suffix MessageWrite.acceptedAt
          (latestFirst_sorted MessageWrite.acceptedAt _) before)
  have nodup :
      ((mergeEntries (findMessages db chatId before pageSize)
            (findPendingMessageWrites db chatId before pageSize)).map
          ChatMessage.id).Nodup := by
    apply mergeEntries_ids_nodup
    · exact
        (roomMessages_ids_nodup valid chatId).sublist
          (((takeRows_sublist pageSize _).trans
            List.filter_sublist).map _)
    · exact
        (roomPendingWrites_ids_nodup valid chatId).sublist
          (((takeRows_sublist pageSize _).trans
            List.filter_sublist).map _)
  have subset :
      (mergeEntries (findMessages db chatId before pageSize)
            (findPendingMessageWrites db chatId before pageSize)).map
          ChatMessage.id ⊆
        (mergeEntries (findMessages db chatId none pageSize)
            (findPendingMessageWrites db chatId none pageSize)).map
          ChatMessage.id := by
    intro id listed
    rw [mem_mergeEntries_ids] at listed ⊢
    exact
      listed.imp (fun member => (messagesLess.map _).subset member)
        fun member => (writesLess.map _).subset member
  simpa using (List.subperm_of_subset nodup subset).length_le

/-- With nothing to show at all there is nothing before a cursor. -/
theorem historyPage_eq_nil_of_first
    (valid : db.Valid)
    (first : historyPage db chatId none pageSize = [])
    (before : Option Timestamp) :
    historyPage db chatId before pageSize = [] := by
  rw [historyPage_eq_nil_iff chatId pageSize] at first ⊢
  rcases Int.lt_trichotomy pageSize 0 with negative | rfl | positive
  · exact
      (mergeEntries_length_le_of_negative chatId pageSize valid negative
        before).trans first
  · rw [mergeEntries_zero]
    exact Nat.zero_le _
  · have noEntries :
        mergeEntries (findMessages db chatId none pageSize)
            (findPendingMessageWrites db chatId none pageSize) =
          [] := by
      rw [← List.length_eq_zero_iff]
      omega
    rcases room_eq_nil_of_positive chatId pageSize positive noEntries with
      ⟨noMessages, noWrites⟩
    simp [findMessages, findPendingMessageWrites, noMessages, noWrites,
      takeRows, mergeEntries]

theorem exists_bounds (times : List Int) :
    ∃ low high : Int, ∀ time ∈ times, low ≤ time ∧ time < high := by
  induction times with
  | nil => exact ⟨0, 0, by simp⟩
  | cons time times induction =>
      rcases induction with ⟨low, high, bounds⟩
      refine ⟨min time low, max (time + 1) high, ?_⟩
      intro other member
      rcases List.mem_cons.mp member with rfl | later
      · omega
      · have between := bounds other later
        omega

/-- Some cursors leave everything, and some leave nothing. -/
theorem exists_extreme_cursors
    (db : Database) (chatId : RoomId) (pageSize : Int) :
    ∃ low high,
      historyPage db chatId (some low) pageSize = [] ∧
        historyPage db chatId (some high) pageSize =
          historyPage db chatId none pageSize := by
  obtain ⟨low, high, bounds⟩ :=
    exists_bounds
      ((roomMessages db chatId).map Message.createdAt ++
        (roomPendingWrites db chatId).map MessageWrite.acceptedAt)
  have messageBounds :
      ∀ message ∈ roomMessages db chatId,
        low ≤ message.createdAt ∧ message.createdAt < high :=
    fun message listed =>
      bounds _
        (List.mem_append_left _
          (List.mem_map_of_mem (f := Message.createdAt) listed))
  have writeBounds :
      ∀ write ∈ roomPendingWrites db chatId,
        low ≤ write.acceptedAt ∧ write.acceptedAt < high :=
    fun write listed =>
      bounds _
        (List.mem_append_right _
          (List.mem_map_of_mem (f := MessageWrite.acceptedAt) listed))
  refine ⟨low, high, ?_, ?_⟩
  · have noMessages :
        ((roomMessages db chatId).filter fun message =>
            isBefore (some low) message.createdAt) =
          [] := by
      apply List.filter_eq_nil_iff.mpr
      intro message listed
      simpa [isBefore] using (messageBounds message listed).1
    have noWrites :
        ((roomPendingWrites db chatId).filter fun write =>
            isBefore (some low) write.acceptedAt) =
          [] := by
      apply List.filter_eq_nil_iff.mpr
      intro write listed
      simpa [isBefore] using (writeBounds write listed).1
    simp [historyPage, findMessages, findPendingMessageWrites,
      noMessages, noWrites, takeRows, mergeEntries, latestFirst, sliceTo]
  · have allMessages :
        ((roomMessages db chatId).filter fun message =>
            isBefore (some high) message.createdAt) =
          roomMessages db chatId := by
      apply List.filter_eq_self.mpr
      intro message listed
      simpa [isBefore] using (messageBounds message listed).2
    have allWrites :
        ((roomPendingWrites db chatId).filter fun write =>
            isBefore (some high) write.acceptedAt) =
          roomPendingWrites db chatId := by
      apply List.filter_eq_self.mpr
      intro write listed
      simpa [isBefore] using (writeBounds write listed).2
    rw [historyPage, historyPage, findMessages_none,
      findPendingMessageWrites_none, findMessages,
      findPendingMessageWrites, allMessages, allWrites]

end Pages

/-! ## Rooms of others -/

section Foreign

variable {db : Database} {userId : UserId}

/-- What the user may see, and a message in a room without members. -/
def withForeignMessage
    (db : Database) (userId : UserId) (roomId : RoomId)
    (messageId : MessageId) (time : Timestamp) : Database where
  users := db.users
  rooms :=
    (db.rooms.filter fun room => inRoom db userId room.id) ++
      [{ id := roomId
         createdAt := time
         lastMessageAt := time
         nextMessageSeq := 2 }]
  roomMembers :=
    db.roomMembers.filter fun member => inRoom db userId member.roomId
  messages :=
    (db.messages.filter fun message =>
        inRoom db userId message.roomId) ++
      [{ id := messageId
         content := "hello"
         createdAt := time
         requestId := none
         roomSequence := 1
         senderId := userId
         roomId := roomId }]
  messageWrites :=
    db.messageWrites.filter fun write =>
      inRoom db userId write.roomId && isPending write

theorem inRoom_iff {roomId : RoomId} :
    inRoom db userId roomId = true ↔
      ∃ member ∈ db.roomMembers,
        member.userId = userId ∧ member.roomId = roomId := by
  simp [inRoom, findRoomMembership]

theorem inRoom_fresh
    (userId : UserId) (valid : db.Valid) {roomId : RoomId}
    (fresh : db.hasRoom roomId = false) :
    inRoom db userId roomId = false := by
  rw [← Bool.not_eq_true, inRoom_iff]
  rintro ⟨member, inTable, _, rfl⟩
  have present := valid.memberRoom member inTable
  rw [fresh] at present
  cases present

variable {roomId : RoomId} {messageId : MessageId} {time : Timestamp}

theorem withForeignMessage_agree
    (userId : UserId) (messageId : MessageId) (time : Timestamp)
    (valid : db.Valid) (fresh : db.hasRoom roomId = false) :
    Agree userId db
      (withForeignMessage db userId roomId messageId time) where
  users := rfl
  memberships := by
    have keptRows :
        ((withForeignMessage db userId roomId messageId
            time).roomMembers.filter fun member =>
          inRoom db userId member.roomId) =
          db.roomMembers.filter fun member =>
            inRoom db userId member.roomId := by
      simp [withForeignMessage, List.filter_filter]
    apply filter_of_filter_eq keptRows
    · intro member inTable own
      exact inRoom_iff.mpr ⟨member, inTable, beq_iff_eq.mp own, rfl⟩
    · intro member listed own
      exact (List.mem_filter.mp listed).2
  rooms := by
    have outside := inRoom_fresh userId valid fresh
    simp [withForeignMessage, List.filter_append, List.filter_filter,
      outside]
  roomMembers := by simp [withForeignMessage, List.filter_filter]
  messages := by
    have outside := inRoom_fresh userId valid fresh
    simp [withForeignMessage, List.filter_append, List.filter_filter,
      outside]
  pendingWrites := by simp [withForeignMessage, List.filter_filter]

/-- The rooms of the user stay. -/
theorem withForeignMessage_hasRoom
    {id : RoomId} (present : db.hasRoom id = true)
    (member : inRoom db userId id = true) :
    (withForeignMessage db userId roomId messageId time).hasRoom id =
      true := by
  rcases (db.hasRoom_iff id).mp present with ⟨room, inTable, rfl⟩
  rw [Database.hasRoom_iff]
  exact
    ⟨room,
      List.mem_append_left _ (List.mem_filter.mpr ⟨inTable, member⟩),
      rfl⟩

/-- The foreign message breaks no constraint with a message it joins. -/
theorem withForeignMessage_messages
    (valid : db.Valid) (fresh : db.hasRoom roomId = false)
    (unused :
      ∀ message ∈ db.messages, message.id = messageId →
        inRoom db userId message.roomId = false) :
    (withForeignMessage db userId roomId messageId
        time).messages.Pairwise
      fun old row => old.conflicts row = false := by
  simp only [withForeignMessage, List.pairwise_append,
    List.pairwise_singleton, true_and, List.mem_singleton]
  refine ⟨valid.messages.sublist List.filter_sublist, ?_⟩
  rintro message kept _ rfl
  rcases List.mem_filter.mp kept with ⟨inTable, member⟩
  rw [Message.conflicts_eq_false_iff]
  refine ⟨?_, ?_, ?_⟩
  · intro sameId
    have unseen := unused message inTable sameId
    rw [unseen] at member
    cases member
  · intro key ownKey
    cases ownKey
  · rintro rfl
    rw [inRoom_fresh userId valid fresh] at member
    cases member

theorem withForeignMessage_valid
    (valid : db.Valid) (fresh : db.hasRoom roomId = false)
    (sender : db.hasUser userId = true)
    (unused :
      ∀ message ∈ db.messages, message.id = messageId →
        inRoom db userId message.roomId = false) :
    (withForeignMessage db userId roomId messageId time).Valid := by
  exact
    { users := valid.users
      usernames := valid.usernames
      emails := valid.emails
      rooms := by
        simp only [withForeignMessage, List.map_append,
          List.nodup_append]
        refine
          ⟨valid.rooms.sublist (List.filter_sublist.map _), by simp, ?_⟩
        intro id listed other single same
        rcases List.mem_map.mp listed with ⟨room, kept, rfl⟩
        simp only [List.map_cons, List.map_nil,
          List.mem_singleton] at single
        have present :=
          (db.hasRoom_iff roomId).mpr
            ⟨room, List.mem_of_mem_filter kept, same.trans single⟩
        rw [fresh] at present
        cases present
      roomMembers :=
        valid.roomMembers.sublist (List.filter_sublist.map _)
      messages := withForeignMessage_messages valid fresh unused
      writeIds := valid.writeIds.sublist (List.filter_sublist.map _)
      writeKeys := valid.writeKeys.sublist (List.filter_sublist.map _)
      outboxIds := List.Pairwise.nil
      outboxEvents := List.Pairwise.nil
      memberUser := fun member kept =>
        valid.memberUser member (List.mem_of_mem_filter kept)
      memberRoom := by
        intro member kept
        rcases List.mem_filter.mp kept with ⟨inTable, seen⟩
        exact
          withForeignMessage_hasRoom (valid.memberRoom member inTable)
            seen
      messageSender := by
        intro message listed
        rcases List.mem_append.mp listed with kept | new
        · exact valid.messageSender message (List.mem_of_mem_filter kept)
        · rw [List.mem_singleton] at new
          subst new
          exact sender
      messageRoom := by
        intro message listed
        rcases List.mem_append.mp listed with kept | new
        · rcases List.mem_filter.mp kept with ⟨inTable, seen⟩
          exact
            withForeignMessage_hasRoom
              (valid.messageRoom message inTable) seen
        · rw [List.mem_singleton] at new
          subst new
          rw [Database.hasRoom_iff]
          exact
            ⟨_, List.mem_append_right _ (List.mem_singleton_self _), rfl⟩
      writeSender := fun write kept =>
        valid.writeSender write (List.mem_of_mem_filter kept)
      writeRoom := by
        intro write kept
        rcases List.mem_filter.mp kept with ⟨inTable, seen⟩
        exact
          withForeignMessage_hasRoom (valid.writeRoom write inTable)
            (Bool.and_eq_true_iff.mp seen).1
      outboxMessage := by
        intro row none
        cases none }

/-- The cursor of the foreign message is found. -/
theorem withForeignMessage_cursor
    (unused :
      ∀ message ∈ db.messages, message.id = messageId →
        inRoom db userId message.roomId = false)
    {beforeMessageId : Option String}
    (cursor : truthy beforeMessageId = some messageId) :
    cursorCreatedAt
        (withForeignMessage db userId roomId messageId time)
        beforeMessageId =
      some time := by
  have absent :
      (db.messages.filter fun message =>
              inRoom db userId message.roomId).find?
          (fun message => message.id == messageId) =
        none := by
    rw [List.find?_eq_none]
    intro message kept same
    rcases List.mem_filter.mp kept with ⟨inTable, member⟩
    rw [unused message inTable (beq_iff_eq.mp same)] at member
    cases member
  rw [cursorCreatedAt, cursor, Option.bind_some, findMessageCursor,
    withForeignMessage, List.find?_append, absent]
  simp

end Foreign

/-! ## Isolation -/

/--
A cursor that a member sends with a page size is the id of a message in a
room of this user, or the room has nothing to show without a cursor.
-/
def CursorScoped (db : Database) (input : GetMessagesInput) : Prop :=
  ∀ pageSize messageId,
    inRoom db input.userId input.chatId = true →
      input.pageSize = some pageSize →
        truthy input.beforeMessageId = some messageId →
          (∃ message ∈ db.messages,
              message.id = messageId ∧
                inRoom db input.userId message.roomId = true) ∨
            (mergeEntries (findMessages db input.chatId none pageSize)
                  (findPendingMessageWrites db input.chatId none
                    pageSize)).length ≤
              (-pageSize).toNat

/-- A message of an own room gives the same cursor in both databases. -/
theorem Agree.cursorCreatedAt_eq
    {userId : UserId} {first second : Database}
    (agree : Agree userId first second) (firstValid : first.Valid)
    (secondValid : second.Valid) {beforeMessageId : Option String}
    {message : Message} (inTable : message ∈ first.messages)
    (member : inRoom first userId message.roomId = true)
    (cursor : truthy beforeMessageId = some message.id) :
    cursorCreatedAt second beforeMessageId =
      cursorCreatedAt first beforeMessageId := by
  have inSecond : message ∈ second.messages :=
    (mem_of_filter_eq agree.messages member).mpr inTable
  rw [cursorCreatedAt, cursorCreatedAt, cursor, Option.bind_some,
    Option.bind_some, findMessageCursor_of_mem firstValid inTable,
    findMessageCursor_of_mem secondValid inSecond]
  rfl

/-- A read that foreign messages cannot change has a scoped cursor. -/
theorem cursorScoped_of_isolated
    {db : Database} (valid : db.Valid) {input : GetMessagesInput}
    (isolated :
      ∀ other : Database, other.Valid → Agree input.userId db other →
        getMessages other input = getMessages db input) :
    CursorScoped db input := by
  intro pageSize messageId member isSize cursor
  by_contra leaks
  rw [not_or] at leaks
  have unused :
      ∀ message ∈ db.messages, message.id = messageId →
        inRoom db input.userId message.roomId = false := by
    intro message inTable same
    rw [← Bool.not_eq_true]
    exact fun seen => leaks.1 ⟨message, inTable, same, seen⟩
  rcases Infinite.exists_notMem_finset (db.rooms.map Room.id).toFinset with
    ⟨roomId, fresh⟩
  have isFresh : db.hasRoom roomId = false := by
    rw [← Bool.not_eq_true, Database.hasRoom_iff]
    rintro ⟨room, inTable, rfl⟩
    exact fresh (List.mem_toFinset.mpr (List.mem_map_of_mem inTable))
  have isUser : db.hasUser input.userId = true := by
    rcases inRoom_iff.mp member with ⟨row, inTable, own, _⟩
    exact own ▸ valid.memberUser row inTable
  rcases Option.isSome_iff_exists.mp member with ⟨row, found⟩
  have constant :
      ∀ time,
        historyPage db input.chatId (some time) pageSize =
          historyPage db input.chatId
            (cursorCreatedAt db input.beforeMessageId) pageSize := by
    intro time
    have agree :=
      withForeignMessage_agree input.userId messageId time valid isFresh
    have same :=
      isolated _
        (withForeignMessage_valid valid isFresh isUser unused) agree
    have foundThere := agree.findRoomMembership_eq input.chatId
    rw [found] at foundThere
    simp only [getMessages, foundThere, found, isSize,
      withForeignMessage_cursor unused cursor,
      agree.historyPage_eq member] at same
    exact Except.ok.inj same
  -- one foreign time empties the page, another one changes nothing
  rcases exists_extreme_cursors db input.chatId pageSize with
    ⟨low, high, nothing, everything⟩
  rw [constant] at nothing everything
  rw [nothing] at everything
  exact
    leaks.2
      ((historyPage_eq_nil_iff input.chatId pageSize none).mp
        everything.symm)

theorem CursorScoped.getMessages_eq
    {db other : Database} {input : GetMessagesInput}
    (isScoped : CursorScoped db input) (valid : db.Valid)
    (otherValid : other.Valid) (agree : Agree input.userId db other) :
    getMessages other input = getMessages db input := by
  apply agree.getMessages_eq rfl
  intro pageSize isSize member
  cases cursor : truthy input.beforeMessageId with
  | none =>
      rw [cursorCreatedAt, cursorCreatedAt, cursor]
      rfl
  | some messageId =>
      rcases isScoped pageSize messageId member isSize cursor with
        ⟨message, inTable, rfl, seen⟩ | nothing
      · rw [agree.cursorCreatedAt_eq valid otherValid inTable seen
          cursor]
      · have first :=
          (historyPage_eq_nil_iff input.chatId pageSize none).mpr nothing
        rw [historyPage_eq_nil_of_first input.chatId pageSize valid first,
          historyPage_eq_nil_of_first input.chatId pageSize valid first]

/--
Lists, chats and members are the same for databases that agree for the user.
A page of messages is the same in exactly those cases in which the cursor is
scoped to the rooms of the user, or the room has nothing to show.
-/
theorem reads_isolated_iff
    (db : Database) (valid : db.Valid) (input : GetMessagesInput) :
    (∀ other : Database, other.Valid → Agree input.userId db other →
        listChats other input.userId = listChats db input.userId ∧
          (∀ chatId,
            getChat other input.userId chatId =
              getChat db input.userId chatId) ∧
            (∀ chatId,
              getChatMembers other input.userId chatId =
                getChatMembers db input.userId chatId) ∧
              getMessages other input = getMessages db input) ↔
      CursorScoped db input := by
  constructor
  · intro isolated
    apply cursorScoped_of_isolated valid
    intro other otherValid agree
    exact (isolated other otherValid agree).2.2.2
  · intro isScoped other otherValid agree
    exact
      ⟨agree.listChats_eq, agree.getChat_eq, agree.getChatMembers_eq,
        isScoped.getMessages_eq valid otherValid agree⟩

/-- Alice pages through her room, with a message that others have. -/
def exampleInput (beforeMessageId : String) : GetMessagesInput where
  userId := "alice"
  chatId := "room"
  beforeMessageId := some beforeMessageId

/-- With a message of her own room as the cursor she learns nothing else. -/
theorem reads_isolated_iff_own :
    let db := exampleRoom [exampleMessage "first" 1]
    ∀ other : Database, other.Valid → Agree "alice" db other →
      getMessages other (exampleInput "first") =
        getMessages db (exampleInput "first") := by
  intro db other otherValid agree
  have isScoped : CursorScoped db (exampleInput "first") := by
    intro pageSize messageId _ _ cursor
    cases cursor
    exact .inl ⟨exampleMessage "first" 1, by decide, rfl, by decide⟩
  exact
    ((reads_isolated_iff db (by constructor <;> decide)
        (exampleInput "first")).mpr
      isScoped other otherValid agree).2.2.2

/-- A message of others empties her page, so she learns that it exists. -/
theorem foreign_message_is_revealed :
    let db := exampleRoom [exampleMessage "first" 1]
    let other := withForeignMessage db "alice" "secret" "unseen" (-1)
    db.Valid ∧ other.Valid ∧ Agree "alice" db other ∧
      getMessages db (exampleInput "unseen") =
          .ok [toChatMessage (exampleMessage "first" 1)] ∧
        getMessages other (exampleInput "unseen") = .ok [] := by
  refine ⟨by constructor <;> decide, by constructor <;> decide, ?_, ?_, ?_⟩
  · constructor <;> decide
  · decide
  · decide

end ChatBackend.Chats.ReadIsolation
