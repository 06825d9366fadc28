import ChatBackend.Chats.ChatQueries
import Mathlib.Algebra.Ring.Int.Defs

/-!
# Reading chats

`listChats`, `getChat`, `getChatMembers` and `getMessages` of the chat
service, each on the database that its queries read, with the shapes that
clients get and the errors that they are told.
-/

namespace ChatBackend.Chats.ChatReads

open ChatBackend.Storage.Schema
open ChatBackend.Writer.BatchTransaction
open ChatBackend.Chats.ChatQueries

/-! ## What clients get -/

structure AppError where
  statusCode : Nat
  code : String
  message : String
deriving DecidableEq, Repr

/-- A message, or a pending write that is shown as one. -/
structure ChatMessage where
  message : MessageDto
  deliveryStatus : Option String := none
deriving DecidableEq, Repr

structure Chat where
  id : RoomId
  type : String
  name : String
  memberIds : List UserId
  lastMessage : Option ChatMessage := none
  unreadCount : Nat := 0
  createdAt : Timestamp
deriving DecidableEq, Repr

structure UserDto where
  id : UserId
  username : String
  email : String
  displayName : String
  createdAt : Timestamp
deriving DecidableEq, Repr

def toUserDto (user : User) : UserDto where
  id := user.id
  username := user.username
  email := user.email
  displayName := user.displayName
  createdAt := user.createdAt

def toChatMessage (message : Message) : ChatMessage where
  message := toMessageDto message

def toPendingMessageDto (write : MessageWrite) : ChatMessage where
  message :=
    { id := write.id
      chatId := write.roomId
      senderId := write.senderId
      body := write.content
      createdAt := write.acceptedAt }
  deliveryStatus := some "sent"

def ChatMessage.id (entry : ChatMessage) : MessageId :=
  entry.message.id

def ChatMessage.createdAt (entry : ChatMessage) : Timestamp :=
  entry.message.createdAt

def toChatDto (view : RoomView) (currentUserId : UserId) : Chat where
  id := view.room.id
  type := if view.room.isGroup then "group" else "direct"
  name :=
    if view.room.isGroup then view.room.name.getD "Group Chat"
    else
      ((view.members.find? fun member =>
            member.member.userId != currentUserId).map
          fun member => member.user.displayName).getD "Unknown"
  memberIds := view.members.map fun member => member.member.userId
  lastMessage := view.messages.head?.map toChatMessage
  createdAt := view.room.createdAt

/-! ## Chats -/

def newestMessage :
    Option ChatMessage → Option ChatMessage → Option ChatMessage
  | none, right => right
  | some left, none => some left
  | some left, some right =>
      if right.createdAt ≤ left.createdAt then some left else some right

/-- The first pending write of each room, which is its latest. -/
def pendingOf
    (pendingWrites : List MessageWrite) (roomId : RoomId) :
    Option ChatMessage :=
  (pendingWrites.find? fun write => write.roomId == roomId).map
    toPendingMessageDto

def activityTime (chat : Chat) : Timestamp :=
  (chat.lastMessage.map ChatMessage.createdAt).getD chat.createdAt

def attachPendingLatestMessages
    (db : Database) (chats : List Chat) : List Chat :=
  let pendingWrites :=
    findPendingMessageWritesForRooms db (chats.map Chat.id)
  latestFirst activityTime
    (chats.map fun chat =>
      { chat with
        lastMessage :=
          newestMessage chat.lastMessage
            (pendingOf pendingWrites chat.id) })

def listChats (db : Database) (userId : UserId) : List Chat :=
  attachPendingLatestMessages db
    ((findMembershipsForUser db userId).map fun view =>
      toChatDto view userId)

def chatNotFound : AppError where
  statusCode := 404
  code := "NOT_FOUND"
  message := "Chat not found"

def getChat
    (db : Database) (userId : UserId) (chatId : RoomId) :
    Except AppError (Option Chat) :=
  match findRoomForUser db userId chatId with
  | none => .error chatNotFound
  | some view =>
      .ok
        (attachPendingLatestMessages db [toChatDto view userId]).head?

def getChatMembers
    (db : Database) (userId : UserId) (chatId : RoomId) :
    Except AppError (List UserDto) :=
  match findRoomForUser db userId chatId with
  | none => .error chatNotFound
  | some view =>
      .ok (view.members.map fun member => toUserDto member.user)

/-! ## History -/

/-- What `Number` makes of a limit; a fraction by its floor. -/
inductive JsNumber where
  | nan
  | integer (value : Int)
  | fraction (floor : Int)
  | infinity
  | negativeInfinity
deriving DecidableEq, Repr

structure GetMessagesInput where
  userId : UserId
  chatId : RoomId
  beforeMessageId : Option String := none
  limit : Option JsNumber := none
deriving DecidableEq, Repr

/-- `number || 50`. -/
def JsNumber.orFifty : JsNumber → JsNumber
  | .nan => .integer 50
  | .integer value => .integer (if value = 0 then 50 else value)
  | other => other

/-- `Math.min(number, 100)`, of what is a number. -/
def JsNumber.atMost100 : JsNumber → JsNumber
  | .nan => .nan
  | .integer value => .integer (min value 100)
  | .fraction floor => if 100 ≤ floor then .integer 100 else .fraction floor
  | .infinity => .integer 100
  | .negativeInfinity => .negativeInfinity

/-- The `pageSize` that `getMessages` gives to both queries. -/
def GetMessagesInput.requestedSize (input : GetMessagesInput) : JsNumber :=
  (input.limit.getD (.integer 50)).orFifty.atMost100

/-- A finite number without its fraction, towards zero. -/
def JsNumber.truncate : JsNumber → Option Int
  | .integer value => some value
  | .fraction floor => some (if 0 ≤ floor then floor else floor + 1)
  | _ => none

/--
The rows that a query takes for a number: its fraction is dropped, and what
is no 64-bit integer then makes the query reject.
-/
def takeOf (number : JsNumber) : Option Int :=
  number.truncate.filter fun rows =>
    decide (-(2 ^ 63) ≤ rows) && decide (rows < 2 ^ 63)

/-- The rows that both queries take; `slice` drops the fraction likewise. -/
def GetMessagesInput.pageSize (input : GetMessagesInput) : Option Int :=
  takeOf input.requestedSize

/-- What the endpoint rejects with, beside the errors of the service. -/
inductive ReadFailure where
  | app (error : AppError)
  | invalidTake
deriving DecidableEq, Repr

def notAMember : AppError where
  statusCode := 403
  code := "FORBIDDEN"
  message := "Not a member of this chat"

/-- The time of the cursor, of a message or else of a write. -/
def cursorCreatedAt
    (db : Database) (beforeMessageId : Option String) :
    Option Timestamp :=
  (truthy beforeMessageId).bind fun messageId =>
    (findMessageCursor db messageId).or (findWriteCursor db messageId)

/-- The map by id, into which pending writes come last. -/
def mergeEntries
    (messages : List Message) (pendingWrites : List MessageWrite) :
    List ChatMessage :=
  messages.map toChatMessage ++
    (pendingWrites.filter fun write =>
        !(messages.any fun message => message.id == write.id)).map
      toPendingMessageDto

/-- `slice(0, end)`, where a negative end counts from the end. -/
def sliceTo {Row : Type} (stop : Int) (rows : List Row) : List Row :=
  if 0 ≤ stop then rows.take stop.toNat
  else rows.take (rows.length - stop.natAbs)

/-- The entries of one page, of a member. -/
def historyPage
    (db : Database) (chatId : RoomId) (before : Option Timestamp)
    (pageSize : Int) : List ChatMessage :=
  sliceTo pageSize
    (latestFirst ChatMessage.createdAt
      (mergeEntries (findMessages db chatId before pageSize)
        (findPendingMessageWrites db chatId before pageSize)))

def getMessages
    (db : Database) (input : GetMessagesInput) :
    Except ReadFailure (List ChatMessage) :=
  match findRoomMembership db input.userId input.chatId with
  | none => .error (.app notAMember)
  | some _ =>
      match input.pageSize with
      | none => .error .invalidTake
      | some pageSize =>
          .ok
            (historyPage db input.chatId
              (cursorCreatedAt db input.beforeMessageId) pageSize)

end ChatBackend.Chats.ChatReads
