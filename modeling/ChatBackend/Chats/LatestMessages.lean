import ChatBackend.Chats.HistoryPages

/-!
# The latest message of a chat

The list of chats, one chat and its history find the latest message each in
its own way.  `latestTime` is the time they have in common: the list and the
detail compare the latest row of `Message` with the first pending write of
the room in one sorted list, the history sorts both together.
-/

namespace ChatBackend.Chats.LatestMessages

open ChatBackend.Foundation
open ChatBackend.Foundation.StableOrder
open ChatBackend.Foundation.TableRows
open ChatBackend.Storage.Schema
open ChatBackend.Chats.ChatQueries
open ChatBackend.Chats.ChatReads
open ChatBackend.Chats.History

variable (db : Database)

/-! ## The latest time -/

/-- The time of the newest message or pending write of the room. -/
def latestTime (roomId : RoomId) : Option Timestamp :=
  ((roomEntries db roomId).map ChatMessage.createdAt).max?

/-- The first of the rows in this order has the greatest time. -/
theorem head?_of_sorted
    {Row : Type} {time : Row → Timestamp} {rows : List Row}
    (sorted :
      rows.Pairwise fun first second => time second ≤ time first) :
    rows.head?.map time = (rows.map time).max? := by
  cases rows with
  | nil => rfl
  | cons first rest =>
      symm
      rw [List.head?_cons, Option.map_some, List.max?_eq_some_iff]
      refine ⟨List.mem_map_of_mem List.mem_cons_self, ?_⟩
      intro other member
      rcases List.mem_map.mp member with ⟨row, inRows, rfl⟩
      rcases List.mem_cons.mp inRows with rfl | later
      · exact Int.le_refl _
      · exact (List.pairwise_cons.mp sorted).1 row later

theorem max?_perm
    {first second : List Timestamp} (perm : first.Perm second) :
    first.max? = second.max? := by
  cases found : second.max? with
  | none =>
      rw [List.max?_eq_none_iff] at found ⊢
      subst found
      exact perm.eq_nil
  | some latest =>
      rw [List.max?_eq_some_iff] at found ⊢
      exact
        ⟨perm.mem_iff.mpr found.1, fun other member =>
          found.2 other (perm.mem_iff.mp member)⟩

theorem max?_append (first second : List Timestamp) :
    (first ++ second).max? = first.max?.merge max second.max? := by
  induction first with
  | nil => simp
  | cons time rest induction =>
      rw [List.cons_append, List.max?_cons, List.max?_cons, induction]
      cases rest.max? <;> cases second.max? <;>
        simp [Int.max_assoc]

/-- The first entry of the history has the latest time. -/
theorem head?_roomHistory (roomId : RoomId) :
    (roomHistory db roomId).head?.map ChatMessage.createdAt =
      latestTime db roomId := by
  rw [roomHistory,
    head?_of_sorted (latestFirst_sorted ChatMessage.createdAt _)]
  exact max?_perm ((latestFirst_perm ChatMessage.createdAt _).map _)

/-- The latest of the messages, or the latest of the pending writes. -/
theorem latestTime_eq (roomId : RoomId) :
    latestTime db roomId =
      ((roomMessages db roomId).head?.map Message.createdAt).merge max
        ((roomPendingWrites db roomId).head?.map
          MessageWrite.acceptedAt) := by
  rw [latestTime, roomEntries, List.map_append, max?_append,
    List.map_map, List.map_map, roomMessages, roomPendingWrites,
    head?_of_sorted (latestFirst_sorted Message.createdAt _),
    head?_of_sorted (latestFirst_sorted MessageWrite.acceptedAt _)]
  rfl

/-! ## Attached pending writes -/

/-- The time of the newer of two optional messages. -/
theorem newestMessage_createdAt
    (left right : Option ChatMessage) :
    (newestMessage left right).map ChatMessage.createdAt =
      (left.map ChatMessage.createdAt).merge max
        (right.map ChatMessage.createdAt) := by
  cases left with
  | none => cases right <;> rfl
  | some left =>
      cases right with
      | none => rfl
      | some right =>
          simp only [newestMessage, Option.map_some, Option.merge_some_some]
          split
          · rename_i older
            rw [Option.map_some, max_eq_left older]
          · rename_i newer
            rw [Option.map_some, max_eq_right (le_of_not_ge newer)]

/-- The first pending write of the room among those of several rooms. -/
theorem pendingOf_eq
    {roomIds : List RoomId} {roomId : RoomId} (listed : roomId ∈ roomIds) :
    pendingOf (findPendingMessageWritesForRooms db roomIds) roomId =
      (roomPendingWrites db roomId).head?.map toPendingMessageDto := by
  have someRoom : roomIds.isEmpty = false := by
    cases roomIds with
    | nil => cases listed
    | cons => rfl
  have sameRows :
      (db.messageWrites.filter fun write =>
            roomIds.contains write.roomId && isPending write).filter
          (fun write => write.roomId == roomId) =
        db.messageWrites.filter fun write =>
          write.roomId == roomId && isPending write := by
    rw [List.filter_filter]
    apply List.filter_congr
    intro write _
    by_cases inRoom : write.roomId = roomId
    · simp [inRoom, listed]
    · simp [beq_eq_false_iff_ne.mpr inRoom]
  rw [pendingOf, findPendingMessageWritesForRooms, someRoom,
    if_neg Bool.false_ne_true, ← List.head?_filter, latestFirst,
    filter_insertionSort, sameRows]
  rfl

/-- A chat as `toChatDto` makes it of a room. -/
def ShowsLatestRow (chat : Chat) : Prop :=
  chat.lastMessage = (roomMessages db chat.id).head?.map toChatMessage

theorem toChatDto_showsLatestRow (room : Room) (userId : UserId) :
    ShowsLatestRow db (toChatDto (roomView db room) userId) := by
  simp only [ShowsLatestRow, toChatDto, roomView, List.head?_take]
  rfl

/-- With its pending write attached, a chat shows the latest time. -/
theorem attached_latestTime
    {chats : List Chat}
    (latestRows : ∀ chat ∈ chats, ShowsLatestRow db chat) {chat : Chat}
    (member : chat ∈ attachPendingLatestMessages db chats) :
    (chat.lastMessage.map ChatMessage.createdAt) =
      latestTime db chat.id := by
  rw [attachPendingLatestMessages, mem_latestFirst] at member
  rcases List.mem_map.mp member with ⟨old, listed, rfl⟩
  have inIds : old.id ∈ chats.map Chat.id :=
    List.mem_map_of_mem listed
  dsimp only
  rw [newestMessage_createdAt, latestRows old listed,
    pendingOf_eq db inIds, latestTime_eq, Option.map_map,
    Option.map_map]
  rfl

theorem attachPendingLatestMessages_ids (chats : List Chat) :
    ((attachPendingLatestMessages db chats).map Chat.id).Perm
      (chats.map Chat.id) := by
  refine
    ((latestFirst_perm activityTime _).map Chat.id).trans
      (.of_eq ?_)
  rw [List.map_map]
  rfl

theorem attachPendingLatestMessages_sorted (chats : List Chat) :
    (attachPendingLatestMessages db chats).Pairwise fun first second =>
      activityTime second ≤ activityTime first :=
  latestFirst_sorted activityTime _

/-! ## Rooms of a user -/

variable {db}

/-- Every membership finds its room. -/
theorem find_room_of_member
    (valid : db.Valid) {member : RoomMember}
    (inTable : member ∈ db.roomMembers) :
    ∃ room ∈ db.rooms,
      room.id = member.roomId ∧
        (db.rooms.find? fun room => room.id == member.roomId) =
          some room := by
  have exists_room := valid.memberRoom member inTable
  rcases (Database.hasRoom_iff db member.roomId).mp exists_room with
    ⟨room, isRoom, same⟩
  refine
    ⟨room, isRoom, same,
      find?_of_unique isRoom (beq_iff_eq.mpr same) ?_⟩
  intro other otherMember sameId
  exact
    eq_of_unique_key valid.rooms otherMember isRoom
      ((beq_iff_eq.mp sameId).trans same.symm)

theorem findMembershipsForUser_ids
    (valid : db.Valid) (userId : UserId) :
    ((findMembershipsForUser db userId).map fun view =>
          view.room.id).Perm
      ((db.roomMembers.filter fun member =>
          member.userId == userId).map RoomMember.roomId) := by
  refine ((latestFirst_perm _ _).map _).trans (.of_eq ?_)
  rw [List.map_filterMap, ← List.filterMap_eq_map]
  apply List.filterMap_congr
  intro member listed
  rcases find_room_of_member valid (List.mem_of_mem_filter listed) with
    ⟨room, _, same, found⟩
  simp [found, roomView, same]

/-- A user has one membership in each room. -/
theorem memberships_nodup (valid : db.Valid) (userId : UserId) :
    ((db.roomMembers.filter fun member =>
        member.userId == userId).map RoomMember.roomId).Nodup := by
  have pairs :=
    valid.roomMembers.sublist
      ((List.filter_sublist (p := fun member : RoomMember =>
        member.userId == userId)).map
        fun member => (member.userId, member.roomId))
  have viaRoom :
      ((db.roomMembers.filter fun member =>
            member.userId == userId).map
          fun member => (member.userId, member.roomId)) =
        ((db.roomMembers.filter fun member =>
            member.userId == userId).map RoomMember.roomId).map
          fun roomId => (userId, roomId) := by
    rw [List.map_map]
    apply List.map_congr_left
    intro member listed
    have same := (List.mem_filter.mp listed).2
    rw [beq_iff_eq] at same
    simp [same]
  rw [viaRoom] at pairs
  exact pairs.of_map _

theorem mem_findMembershipsForUser
    {userId : UserId} {view : RoomView}
    (member : view ∈ findMembershipsForUser db userId) :
    ∃ room, view = roomView db room := by
  rw [findMembershipsForUser, mem_latestFirst] at member
  rcases List.mem_filterMap.mp member with ⟨row, _, found⟩
  rcases Option.map_eq_some_iff.mp found with ⟨room, _, rfl⟩
  exact ⟨room, rfl⟩

/-- The chats of a user before their pending writes are attached. -/
theorem rows_showLatestRow (userId : UserId) :
    ∀ chat ∈
        (findMembershipsForUser db userId).map fun view =>
          toChatDto view userId,
      ShowsLatestRow db chat := by
  intro chat listed
  rcases List.mem_map.mp listed with ⟨view, member, rfl⟩
  rcases mem_findMembershipsForUser member with ⟨room, rfl⟩
  exact toChatDto_showsLatestRow db room userId

theorem listChats_ids (valid : db.Valid) (userId : UserId) :
    ((listChats db userId).map Chat.id).Perm
      ((db.roomMembers.filter fun member =>
          member.userId == userId).map RoomMember.roomId) := by
  refine
    (attachPendingLatestMessages_ids db _).trans
      (.trans (.of_eq ?_) (findMembershipsForUser_ids valid userId))
  rw [List.map_map]
  rfl

theorem isMember_iff {userId : UserId} {roomId : RoomId} :
    (findRoomMembership db userId roomId).isSome = true ↔
      ∃ member ∈ db.roomMembers,
        member.userId = userId ∧ member.roomId = roomId := by
  simp [findRoomMembership]

/-- A room of the user is found, and shows the latest time. -/
theorem getChat_latestTime
    (valid : db.Valid) {userId : UserId} {member : RoomMember}
    (inTable : member ∈ db.roomMembers) (ofUser : member.userId = userId) :
    ∃ chat,
      getChat db userId member.roomId = .ok (some chat) ∧
        chat.id = member.roomId ∧
          chat.lastMessage.map ChatMessage.createdAt =
            latestTime db member.roomId := by
  rcases find_room_of_member valid inTable with
    ⟨room, isRoom, same, _⟩
  have belongs :
      (findRoomMembership db userId room.id).isSome = true :=
    isMember_iff.mpr ⟨member, inTable, ofUser, same.symm⟩
  have found :
      findRoomForUser db userId member.roomId =
        some (roomView db room) := by
    rw [findRoomForUser, find?_of_unique isRoom]
    · rfl
    · rw [belongs, Bool.and_true, beq_iff_eq]
      exact same
    · intro other otherMember fits
      rw [Bool.and_eq_true, beq_iff_eq] at fits
      exact
        eq_of_unique_key valid.rooms otherMember isRoom
          (fits.1.trans same.symm)
  have shows :
      ∀ chat ∈ [toChatDto (roomView db room) userId],
        ShowsLatestRow db chat := by
    intro chat listed
    rw [List.mem_singleton] at listed
    subst listed
    exact toChatDto_showsLatestRow db room userId
  rw [getChat, found]
  refine ⟨_, rfl, same, ?_⟩
  rw [← same]
  exact attached_latestTime db shows List.mem_cons_self

/-- The first page of a member, of any positive size. -/
theorem getMessages_latestTime
    {userId : UserId} {chatId : RoomId}
    (member : (findRoomMembership db userId chatId).isSome)
    (apart : PendingApart db chatId) :
    ∃ page,
      getMessages db { userId := userId, chatId := chatId } = .ok page ∧
        page.head?.map ChatMessage.createdAt = latestTime db chatId := by
  rcases Option.isSome_iff_exists.mp member with ⟨row, found⟩
  refine ⟨historyPage db chatId none (50 : Nat), ?_, ?_⟩
  · simp only [getMessages, found]
    rfl
  · rw [historyPage_eq apart, KeysetPages.page,
      KeysetPages.remaining_none, List.head?_take,
      if_neg (by decide), head?_roomHistory]

/-! ## Three endpoints -/

/-- What the list says about a chat, its detail and its history say, too. -/
structure LatestAgrees
    (db : Database) (userId : UserId) (chat : Chat) : Prop where
  detail :
    ∃ detail,
      getChat db userId chat.id = .ok (some detail) ∧
        detail.id = chat.id ∧
          detail.lastMessage.map ChatMessage.createdAt =
            chat.lastMessage.map ChatMessage.createdAt
  history :
    ∃ page,
      getMessages db { userId := userId, chatId := chat.id } =
          .ok page ∧
        page.head?.map ChatMessage.createdAt =
          chat.lastMessage.map ChatMessage.createdAt

/--
The list holds every room of the user once, the latest activity first.  In
each of them the list, the detail and the first page of the history agree on
the time of the latest message, and on there being none.
-/
theorem latest_messages_agree
    (valid : db.Valid) (apart : ∀ chatId, PendingApart db chatId)
    (userId : UserId) :
    ((listChats db userId).map Chat.id).Nodup ∧
      (∀ roomId,
        roomId ∈ (listChats db userId).map Chat.id ↔
          ∃ member ∈ db.roomMembers,
            member.userId = userId ∧ member.roomId = roomId) ∧
        ((listChats db userId).Pairwise fun first second =>
          activityTime second ≤ activityTime first) ∧
          ∀ chat ∈ listChats db userId, LatestAgrees db userId chat := by
  have ids := listChats_ids valid userId
  have belongs :
      ∀ roomId,
        roomId ∈ (listChats db userId).map Chat.id ↔
          ∃ member ∈ db.roomMembers,
            member.userId = userId ∧ member.roomId = roomId := by
    intro roomId
    rw [ids.mem_iff]
    simp [and_assoc]
  refine
    ⟨ids.nodup_iff.mpr (memberships_nodup valid userId), belongs,
      attachPendingLatestMessages_sorted db _, ?_⟩
  intro chat listed
  have latest :=
    attached_latestTime db (rows_showLatestRow userId) listed
  rcases (belongs chat.id).mp (List.mem_map_of_mem listed) with
    ⟨member, inTable, ofUser, same⟩
  constructor
  · rcases getChat_latestTime valid inTable ofUser with
      ⟨detail, answered, sameId, detailLatest⟩
    rw [same] at answered sameId detailLatest
    exact ⟨detail, answered, sameId, detailLatest.trans latest.symm⟩
  · have isMember :=
      isMember_iff.mpr ⟨member, inTable, ofUser, same⟩
    rcases getMessages_latestTime isMember (apart chat.id) with
      ⟨page, answered, pageLatest⟩
    exact ⟨page, answered, pageLatest.trans latest.symm⟩

/-- A room with one message, and a pending write after it. -/
def exampleWithPending : Database :=
  { exampleRoom [exampleMessage "first" 1] with
    messageWrites :=
      [{ id := "pending"
         requestId := "request"
         senderId := "alice"
         roomId := "room"
         content := "hello"
         acceptedAt := 1 }] }

theorem latest_messages_agree_pending :
    (∀ chat ∈ listChats exampleWithPending "alice",
        LatestAgrees exampleWithPending "alice" chat) ∧
      (listChats exampleWithPending "alice").map
          (fun chat => chat.lastMessage.map ChatMessage.id) =
        [some "pending"] := by
  have valid : exampleWithPending.Valid := by constructor <;> decide
  have apart : ∀ chatId, PendingApart exampleWithPending chatId := by
    intro chatId message isMessage write isWrite
    have separate :
        ∀ message ∈ exampleWithPending.messages,
          ∀ write ∈ exampleWithPending.messageWrites,
            message.id ≠ write.id := by
      decide
    exact
      separate message isMessage write
        (mem_roomPendingWrites.mp isWrite).1
  exact
    ⟨(latest_messages_agree valid apart "alice").2.2.2, by decide⟩

end ChatBackend.Chats.LatestMessages
