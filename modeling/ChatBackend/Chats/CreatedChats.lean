import ChatBackend.Chats.DirectChats
import ChatBackend.Chats.LatestMessages

/-!
# Reading a room

What `getChat`, `getChatMembers` and `listChats` say about a room, from its
row and its members: a member gets the chat of the room, everybody else is
told that there is none.  The lists of members come in the order of the
table, which is not the order in which a client has given them.
-/

namespace ChatBackend.Chats.CreatedChats

open ChatBackend.Foundation.TableRows
open ChatBackend.Storage.Schema
open ChatBackend.Chats.ChatQueries
open ChatBackend.Chats.ChatReads
open ChatBackend.Chats.ChatCreation
open ChatBackend.Chats.DirectChats
open ChatBackend.Chats.LatestMessages

/-! ## Members -/

def memberIdsOf (db : Database) (roomId : RoomId) : List UserId :=
  (membersOf db roomId).map RoomMember.userId

section Rooms

variable {db : Database} (valid : db.Valid)

include valid

theorem find_user
    {user : User} (isUser : user ∈ db.users) :
    (db.users.find? fun other => other.id == user.id) = some user := by
  refine find?_of_unique isUser (beq_self_eq_true _) ?_
  intro other otherMember sameId
  exact
    eq_of_unique_key valid.users otherMember isUser (beq_iff_eq.mp sameId)

/-- Every member has its user. -/
theorem memberViews_members (roomId : RoomId) :
    (memberViews db roomId).map MemberView.member =
      membersOf db roomId := by
  rw [memberViews, List.map_filterMap]
  have each :
      ∀ member ∈ membersOf db roomId,
        ((db.users.find? fun user => user.id == member.userId).map
              fun user =>
                ({ member := member, user := user } : MemberView)).map
            MemberView.member =
          some member := by
    intro member listed
    have hasUser := valid.memberUser member (mem_membersOf.mp listed).1
    rcases (Database.hasUser_iff db member.userId).mp hasUser with
      ⟨user, isUser, sameId⟩
    rw [← sameId, find_user valid isUser]
    rfl
  rw [List.filterMap_congr each, List.filterMap_some]

omit valid in
theorem mem_memberViews
    {roomId : RoomId} {view : MemberView}
    (listed : view ∈ memberViews db roomId) :
    view.user ∈ db.users ∧ view.user.id = view.member.userId ∧
      view.member ∈ membersOf db roomId := by
  rcases List.mem_filterMap.mp listed with ⟨member, isMember, found⟩
  rcases Option.map_eq_some_iff.mp found with ⟨user, isFound, rfl⟩
  exact
    ⟨List.mem_of_find?_eq_some isFound,
      by simpa using List.find?_some isFound, isMember⟩

/-! ## One room -/

variable {room : Room} (isRoom : room ∈ db.rooms)

include isRoom

theorem findRoomForUser_of_member
    {reader : UserId} (isMember : reader ∈ memberIdsOf db room.id) :
    findRoomForUser db reader room.id = some (roomView db room) := by
  rw [findRoomForUser, find?_of_unique isRoom]
  · rfl
  · rw [beq_self_eq_true, Bool.true_and, findRoomMembership_isSome_iff]
    exact isMember
  · intro other otherMember fits
    rw [Bool.and_eq_true, beq_iff_eq] at fits
    exact eq_of_unique_key valid.rooms otherMember isRoom fits.1

theorem findRoomForUser_of_stranger
    {reader : UserId} (isStranger : reader ∉ memberIdsOf db room.id) :
    findRoomForUser db reader room.id = none := by
  rw [findRoomForUser, Option.map_eq_none_iff, List.find?_eq_none]
  intro other otherMember fits
  rw [Bool.and_eq_true, beq_iff_eq] at fits
  have same := eq_of_unique_key valid.rooms otherMember isRoom fits.1
  rw [same, findRoomMembership_isSome_iff] at fits
  exact isStranger fits.2

/-- A member gets the chat of the room, with its latest message. -/
theorem getChat_of_member
    {reader : UserId} (isMember : reader ∈ memberIdsOf db room.id) :
    ∃ lastMessage,
      getChat db reader room.id =
        .ok
          (some
            { toChatDto (roomView db room) reader with
              lastMessage := lastMessage }) := by
  rw [getChat, findRoomForUser_of_member valid isRoom isMember]
  exact ⟨_, rfl⟩

theorem getChat_of_stranger
    {reader : UserId} (isStranger : reader ∉ memberIdsOf db room.id) :
    getChat db reader room.id = .error chatNotFound := by
  rw [getChat, findRoomForUser_of_stranger valid isRoom isStranger]

theorem getChatMembers_of_member
    {reader : UserId} (isMember : reader ∈ memberIdsOf db room.id) :
    ∃ members,
      getChatMembers db reader room.id = .ok members ∧
        members.map UserDto.id = memberIdsOf db room.id ∧
          ∀ dto ∈ members, ∃ user ∈ db.users, dto = toUserDto user := by
  rw [getChatMembers, findRoomForUser_of_member valid isRoom isMember]
  refine ⟨_, rfl, ?_, ?_⟩
  · rw [List.map_map, memberIdsOf, ← memberViews_members valid room.id,
      List.map_map]
    apply List.map_congr_left
    intro view listed
    exact (mem_memberViews listed).2.1
  · intro dto listed
    rcases List.mem_map.mp listed with ⟨view, isView, rfl⟩
    exact ⟨view.user, (mem_memberViews isView).1, rfl⟩

omit isRoom in
/-- The chat is in the lists of its members only. -/
theorem mem_listChats_iff (reader : UserId) (roomId : RoomId) :
    roomId ∈ (listChats db reader).map Chat.id ↔
      reader ∈ memberIdsOf db roomId := by
  rw [(listChats_ids valid reader).mem_iff]
  simp only [memberIdsOf, List.mem_map, List.mem_filter, mem_membersOf,
    beq_iff_eq]
  constructor
  · rintro ⟨member, ⟨inTable, ofReader⟩, inRoom⟩
    exact ⟨member, ⟨inTable, inRoom⟩, ofReader⟩
  · rintro ⟨member, ⟨inTable, inRoom⟩, ofReader⟩
    exact ⟨member, ⟨inTable, ofReader⟩, inRoom⟩

omit isRoom in
/-- The name of a direct chat is that of the other member. -/
theorem direct_name
    {reader : UserId} {other : User} (isUser : other ∈ db.users)
    (different : other.id ≠ reader)
    (members : (memberIdsOf db room.id).Perm [reader, other.id]) :
    ((memberViews db room.id).find? fun view =>
          view.member.userId != reader).map
        (fun view => view.user.displayName) =
      some other.displayName := by
  have isOther :
      ∀ view ∈ memberViews db room.id,
        view.member.userId ≠ reader → view.user = other := by
    intro view listed notReader
    rcases mem_memberViews listed with
      ⟨inUsers, sameId, isMember⟩
    have inPair : view.member.userId ∈ [reader, other.id] :=
      members.mem_iff.mp (List.mem_map_of_mem isMember)
    have isId : view.member.userId = other.id := by
      simpa [notReader] using inPair
    exact
      eq_of_unique_key valid.users inUsers isUser (sameId.trans isId)
  have present :
      ∃ view ∈ memberViews db room.id, view.member.userId = other.id := by
    have inRoom : other.id ∈ memberIdsOf db room.id :=
      members.mem_iff.mpr (by simp)
    rw [memberIdsOf, ← memberViews_members valid room.id, List.map_map]
      at inRoom
    rcases List.mem_map.mp inRoom with ⟨view, listed, isId⟩
    exact ⟨view, listed, isId⟩
  rcases present with ⟨view, listed, isId⟩
  have found :
      ((memberViews db room.id).find? fun view =>
        view.member.userId != reader).isSome := by
    refine List.find?_isSome.mpr ⟨view, listed, ?_⟩
    rw [isId]
    simpa using different
  rcases Option.isSome_iff_exists.mp found with ⟨first, isFirst⟩
  rw [isFirst, Option.map_some,
    isOther first (List.mem_of_find?_eq_some isFirst)
      (by simpa using List.find?_some isFirst)]

end Rooms

end ChatBackend.Chats.CreatedChats
