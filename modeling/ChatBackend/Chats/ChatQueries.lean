import ChatBackend.Foundation.StableOrder
import ChatBackend.Writer.BatchTransaction

/-!
# Queries of the chat service

The functions of the chat repository that read, each as a function of the
database.  Rows come in the order of the table unless the query orders them,
and rows that are equal in the order of a query keep the order of the table;
the order of the rows in a table is arbitrary.
-/

namespace ChatBackend.Chats.ChatQueries

open ChatBackend.Foundation.StableOrder
open ChatBackend.Storage.Schema

/-- Whether a connection fails, before or after a command takes effect. -/
inductive Connection where
  | kept
  | lostBefore
  | lostAfter
deriving DecidableEq, Repr

/-! ## Ordering and limits -/

/-- `orderBy` a time, with the latest first. -/
def latestFirst {Row : Type} (time : Row → Timestamp) (rows : List Row) :
    List Row :=
  rows.insertionSort fun first second => time second ≤ time first

section LatestFirst

variable {Row : Type} (time : Row → Timestamp)

instance latestFirst_total :
    Std.Total fun first second : Row => time second ≤ time first where
  total := fun first second => Int.le_total (time second) (time first)

instance latestFirst_trans :
    IsTrans Row fun first second => time second ≤ time first where
  trans := fun _ _ _ early late => Int.le_trans late early

theorem latestFirst_perm (rows : List Row) :
    (latestFirst time rows).Perm rows :=
  List.perm_insertionSort _ rows

@[simp]
theorem mem_latestFirst {rows : List Row} {row : Row} :
    row ∈ latestFirst time rows ↔ row ∈ rows :=
  (latestFirst_perm time rows).mem_iff

theorem latestFirst_sorted (rows : List Row) :
    (latestFirst time rows).Pairwise
      fun first second => time second ≤ time first :=
  List.pairwise_insertionSort _ rows

end LatestFirst

/-- `take` of Prisma: a negative number takes from the end. -/
def takeRows {Row : Type} (limit : Int) (rows : List Row) : List Row :=
  if 0 ≤ limit then rows.take limit.toNat
  else rows.drop (rows.length - limit.natAbs)

/-- Rows before a time, or all rows without one. -/
def isBefore (before : Option Timestamp) (time : Timestamp) : Bool :=
  match before with
  | none => true
  | some before => decide (time < before)

/-! ## Members of rooms -/

variable (db : Database)

def membersOf (roomId : RoomId) : List RoomMember :=
  db.roomMembers.filter fun member => member.roomId == roomId

/-- `findRoomMembership`. -/
def findRoomMembership
    (userId : UserId) (roomId : RoomId) : Option RoomMember :=
  db.roomMembers.find? fun member =>
    member.userId == userId && member.roomId == roomId

variable {db} in
theorem mem_membersOf
    {roomId : RoomId} {member : RoomMember} :
    member ∈ membersOf db roomId ↔
      member ∈ db.roomMembers ∧ member.roomId = roomId := by
  simp [membersOf]

variable {db} in
theorem findRoomMembership_isSome_iff
    {userId : UserId} {roomId : RoomId} :
    (findRoomMembership db userId roomId).isSome = true ↔
      userId ∈ (membersOf db roomId).map RoomMember.userId := by
  simp only [findRoomMembership, List.find?_isSome, Bool.and_eq_true,
    beq_iff_eq, List.mem_map, mem_membersOf]
  constructor
  · rintro ⟨member, inTable, same, inRoom⟩
    exact ⟨member, ⟨inTable, inRoom⟩, same⟩
  · rintro ⟨member, ⟨inTable, inRoom⟩, same⟩
    exact ⟨member, inTable, same, inRoom⟩

/-- The rows among which `findUserForChatMember` finds its first. -/
def usersForChatMember (identifier : String) : List User :=
  db.users.filter fun user =>
    user.id == identifier || user.username == identifier

/-- A member with the user that its foreign key refers to. -/
structure MemberView where
  member : RoomMember
  user : User
deriving DecidableEq, Repr

def memberViews (roomId : RoomId) : List MemberView :=
  (membersOf db roomId).filterMap fun member =>
    (db.users.find? fun user => user.id == member.userId).map
      fun user => { member := member, user := user }

/-! ## Rooms -/

/-- The messages of a room with the latest first. -/
def roomMessages (roomId : RoomId) : List Message :=
  latestFirst Message.createdAt
    (db.messages.filter fun message => message.roomId == roomId)

/-- A room as the queries include it. -/
structure RoomView where
  room : Room
  members : List MemberView
  messages : List Message
deriving DecidableEq, Repr

def roomView (room : Room) : RoomView where
  room := room
  members := memberViews db room.id
  messages := (roomMessages db room.id).take 1

def findMembershipsForUser (userId : UserId) : List RoomView :=
  latestFirst (fun view => view.room.lastMessageAt)
    ((db.roomMembers.filter fun member => member.userId == userId).filterMap
      fun member =>
        (db.rooms.find? fun room => room.id == member.roomId).map
          (roomView db))

/-- `findRoomForUser` and `findRoomMembersForUser` find the same room. -/
def findRoomForUser
    (userId : UserId) (roomId : RoomId) : Option RoomView :=
  (db.rooms.find? fun room =>
      room.id == roomId && (findRoomMembership db userId room.id).isSome).map
    (roomView db)

/-- A room as `findDirectRoomCandidates` includes it. -/
structure CandidateView where
  room : Room
  members : List RoomMember
  messages : List Message
deriving DecidableEq, Repr

/-- Rooms that are no groups and have both users. -/
def findDirectRoomCandidates
    (userId targetUserId : UserId) : List CandidateView :=
  (db.rooms.filter fun room =>
      !room.isGroup && (findRoomMembership db userId room.id).isSome &&
        (findRoomMembership db targetUserId room.id).isSome).map
    fun room =>
      { room := room
        members := membersOf db room.id
        messages := (roomMessages db room.id).take 1 }

/-! ## Messages -/

def isPending (write : MessageWrite) : Bool :=
  write.status == .pending

def findPendingMessageWritesForRooms
    (roomIds : List RoomId) : List MessageWrite :=
  if roomIds.isEmpty then []
  else
    latestFirst MessageWrite.acceptedAt
      (db.messageWrites.filter fun write =>
        roomIds.contains write.roomId && isPending write)

/-- The time of a message, found by its id alone. -/
def findMessageCursor (messageId : MessageId) : Option Timestamp :=
  (db.messages.find? fun message => message.id == messageId).map
    Message.createdAt

def findWriteCursor (messageId : MessageId) : Option Timestamp :=
  (db.messageWrites.find? fun write => write.id == messageId).map
    MessageWrite.acceptedAt

/-- The pending writes of a room with the latest first. -/
def roomPendingWrites (roomId : RoomId) : List MessageWrite :=
  latestFirst MessageWrite.acceptedAt
    (db.messageWrites.filter fun write =>
      write.roomId == roomId && isPending write)

def findMessages
    (roomId : RoomId) (before : Option Timestamp) (limit : Int) :
    List Message :=
  takeRows limit
    ((roomMessages db roomId).filter fun message =>
      isBefore before message.createdAt)

def findPendingMessageWrites
    (roomId : RoomId) (before : Option Timestamp) (limit : Int) :
    List MessageWrite :=
  takeRows limit
    ((roomPendingWrites db roomId).filter fun write =>
      isBefore before write.acceptedAt)

/-- `findMessageByRequestId`, which throws without a row. -/
def findMessageByRequestId
    (senderId : UserId) (requestId : String) : Option Message :=
  db.messages.find? fun message =>
    message.senderId == senderId && message.requestId == some requestId

end ChatBackend.Chats.ChatQueries
