import ChatBackend.Realtime.PresenceStore
import ChatBackend.Realtime.ServerFrames

/-!
# The realtime server

One instance of the realtime service as a transition system.  The state holds
the rows of `RoomMember`, the sockets with their client states, the presence
store, and the handlers that wait for something: the setup of a connection,
`handleSend`, `handleTyping`, and the handler of presence events.

An awaited query takes two events: the database answers it, and the handler
resumes with the answer.  A reaction is the next state with the frames that
were sent and the commands that were published on the way.  An error that
nobody catches ends the process, after which nothing happens any more.
-/

namespace ChatBackend.Realtime.Server

open ChatBackend.Foundation.OrderedSets
open ChatBackend.Storage.Schema
open ChatBackend.Writer.WriteCommands
open ChatBackend.Writer.BatchTransaction
open ChatBackend.Writer.OutboxDrain
open ChatBackend.Realtime.PresenceStore
open ChatBackend.Realtime.ServerFrames

variable {Socket : Type} [DecidableEq Socket]

/-! ## States -/

inductive ReadyState where
  | absent
  | opened
  | closing
  | closed
deriving DecidableEq, Repr

/-- An awaited query: not executed yet, failed, or answered. -/
inductive Answer (Rows : Type) where
  | waiting
  | failed
  | rows (rows : Rows)

/-- A handler that waits, by what it waits for. -/
inductive Handler (Socket : Type) where
  | setupRooms
      (ws : Socket) (wasOnline : Bool) (rooms : Answer (List RoomId))
  | setupMembers
      (ws : Socket) (rooms : List RoomId)
      (members : Answer (List UserId))
  | setupOnline (ws : Socket) (members : List UserId)
  | setupRegister (ws : Socket)
  | limitSend (ws : Socket) (frame : SendFrame)
  | joinSend
      (ws : Socket) (frame : SendFrame) (membership : Answer Bool)
  | publish
      (ws : Socket) (command : MessageWriteCommand)
      (attemptsLeft : Nat)
  | retry
      (ws : Socket) (command : MessageWriteCommand)
      (attemptsLeft : Nat)
  | limitTyping (ws : Socket) (frame : TypingFrame)
  | joinTyping
      (ws : Socket) (frame : TypingFrame) (membership : Answer Bool)
  | presence
      (userId : UserId) (online : Bool) (rooms : Answer (List RoomId))

structure State (Socket : Type) where
  roomMembers : List RoomMember
  readyState : Socket → ReadyState
  backpressured : Socket → Bool
  client : Socket → ClientState
  store : InMemoryPresenceStore Socket
  handlers : List (Handler Socket)
  crashed : Bool

/-- A new instance on a database. -/
def State.start (roomMembers : List RoomMember) : State Socket where
  roomMembers := roomMembers
  readyState := fun _ => .absent
  backpressured := fun _ => false
  client := fun _ => { userId := "", connectionId := "", roomIds := ∅ }
  store := .empty
  handlers := []
  crashed := false

structure Settings where
  preloadRoomsOnConnect : Bool
  redis : Bool
  instanceId : String
  sha256 : String → String

/-- `createConnectionId` with the UUID that it draws. -/
def createConnectionId
    (settings : Settings) (uuid : String) : ConnectionId :=
  settings.instanceId ++ ":" ++ uuid

/--
What the outside decides when a handler resumes; `online` has no value for
a user whose presence cannot be read.
-/
structure Resumption where
  allowed : Bool := true
  online : UserId → Option Bool := fun _ => some true
  published : Bool := true
  now : Timestamp := 0

inductive Event (Socket : Type) where
  | createChat (rows : List RoomMember)
  | connect (ws : Socket) (userId : UserId) (uuid : String)
  | buffer (ws : Socket) (backpressured : Bool)
  | closing (ws : Socket)
  | close (ws : Socket)
  | message (ws : Socket) (frame : Option Json)
  | roomEvent
      (message : MessageDto) (originConnectionId : Option ConnectionId)
  | presenceEvent (userId : UserId) (online : Bool)
  | query (index : Nat) (succeeds : Bool)
  | resume (index : Nat) (input : Resumption)

/-! ## Queries -/

/-- `roomMember.findMany` for the rooms of a user. -/
def State.roomsOf (state : State Socket) (userId : UserId) : List RoomId :=
  (state.roomMembers.filter fun row => row.userId == userId).map
    RoomMember.roomId

/-- `roomMember.findUnique` for a user and a room. -/
def State.isMember
    (state : State Socket) (userId : UserId) (roomId : RoomId) : Bool :=
  state.roomMembers.any fun row =>
    row.userId == userId && row.roomId == roomId

/-- The query of `findOnlineRoomMembers`: other users of the rooms. -/
def State.otherMembers
    (state : State Socket) (rooms : List RoomId) (userId : UserId) :
    List UserId :=
  ((state.roomMembers.filter fun row =>
      rooms.contains row.roomId && row.userId != userId).map
    RoomMember.userId).dedup

/-! ## Reactions -/

structure Reaction (Socket : Type) where
  state : State Socket
  frames : List (Socket × WsServerFrame) := []
  published : List MessageWriteCommand := []

namespace Reaction

variable (reaction : Reaction Socket)

def setReadyState (ws : Socket) (readyState : ReadyState) :
    Reaction Socket :=
  { reaction with
    state :=
      { reaction.state with
        readyState :=
          Function.update reaction.state.readyState ws readyState } }

/-- `ws.close`: the close event comes later. -/
def closeSocket (ws : Socket) : Reaction Socket :=
  if reaction.state.readyState ws = .opened then
    reaction.setReadyState ws .closing
  else reaction

def sendJson (ws : Socket) (frame : WsServerFrame) : Reaction Socket :=
  if reaction.state.readyState ws = .opened then
    if reaction.state.backpressured ws then reaction.closeSocket ws
    else { reaction with frames := reaction.frames ++ [(ws, frame)] }
  else reaction

def sendAll (frames : List (Socket × WsServerFrame)) : Reaction Socket :=
  frames.foldl (fun current frame => current.sendJson frame.1 frame.2)
    reaction

def sendError
    (ws : Socket) (reason : WsErrorReason) (detail : String)
    (requestId : Option String) : Reaction Socket :=
  reaction.sendJson ws
    (.error reason (truthy requestId) (truthy (some detail)))

/-- An uncaught exception or an unhandled rejection ends the process. -/
def crash : Reaction Socket :=
  { reaction with state := { reaction.state with crashed := true } }

def await (handler : Handler Socket) : Reaction Socket :=
  { reaction with
    state :=
      { reaction.state with
        handlers := reaction.state.handlers ++ [handler] } }

/-- The loop over memberships, or one `addSocketToRoom`. -/
def joinRooms (ws : Socket) (rooms : List RoomId) : Reaction Socket :=
  let joined :=
    addSocketToRooms reaction.state.store ws (reaction.state.client ws)
      rooms
  { reaction with
    state :=
      { reaction.state with
        store := joined.1
        client := Function.update reaction.state.client ws joined.2 } }

def publish (command : MessageWriteCommand) : Reaction Socket :=
  { reaction with published := reaction.published ++ [command] }

end Reaction

/-! ## Broadcasts -/

/-- Registered sockets of other users in the rooms, each of them once. -/
def contacts
    (state : State Socket) (userId : UserId) (rooms : List RoomId) :
    List Socket :=
  ((∅ : OrderedSet Socket).addAll
    (rooms.flatMap fun roomId =>
      (state.store.roomSockets.members roomId).items.filter fun socket =>
        socket ∈ state.store.clientStates &&
          (state.client socket).userId != userId)).items

/-- Send a presence frame to contacts. -/
def sendPresence
    (reaction : Reaction Socket) (userId : UserId) (rooms : List RoomId)
    (online : Bool) : Reaction Socket :=
  reaction.sendAll
    ((contacts reaction.state userId rooms).map fun socket =>
      (socket, .presence userId online))

/-- `broadcastPresence` for the rooms of a client state. -/
def broadcastPresence
    (reaction : Reaction Socket) (ws : Socket) (online : Bool) :
    Reaction Socket :=
  let state := reaction.state.client ws
  sendPresence reaction state.userId state.roomIds.items online

/-- `findLocalOnlineRoomMembers`. -/
def findLocalOnlineRoomMembers
    (state : State Socket) (ws : Socket) : List UserId :=
  ((∅ : OrderedSet UserId).addAll
    ((contacts state (state.client ws).userId
        (state.client ws).roomIds.items).map
      fun socket => (state.client socket).userId)).items

/-- The event that `publishRoomMessage` publishes. -/
def publishRoomMessage
    (message : MessageDto) (originConnectionId : Option ConnectionId) :
    RoomEvent :=
  { channel := roomEventChannel message.chatId
    roomId := message.chatId
    message := message
    originConnectionId := truthy originConnectionId }

/-- The sockets that a room event is sent to, in their order. -/
def eventRecipients
    (state : State Socket) (event : RoomEvent) : List Socket :=
  (state.store.roomSockets.members event.roomId).items.filter
    fun socket =>
      socket ∈ state.store.clientStates &&
        (state.client socket).userId != event.message.senderId &&
        some (state.client socket).connectionId !=
          event.originConnectionId

def broadcastRoomEventToLocalClients
    (reaction : Reaction Socket) (event : RoomEvent) : Reaction Socket :=
  if event.type = messageCreated then
    reaction.sendAll
      ((eventRecipients reaction.state event).map fun socket =>
        (socket, .msg event.message))
  else reaction

/-- `broadcastToRoom` of the store, to all sockets of the index. -/
def broadcastToRoom
    (reaction : Reaction Socket) (roomId : RoomId)
    (frame : WsServerFrame) : Reaction Socket :=
  reaction.sendAll
    ((reaction.state.store.roomSockets.members roomId).items.map
      fun socket => (socket, frame))

/-! ## Sending messages -/

/-- `stableMessageId`, from the hash of the sender and the request. -/
def stableMessageId
    (settings : Settings) (senderId : UserId) (requestId : String) :
    MessageId :=
  "msg_" ++
    String.ofList
      ((settings.sha256 (senderId ++ ":" ++ requestId)).toList.take 32)

/-- The command that `createBufferedMessage` publishes. -/
def bufferedCommand
    (settings : Settings) (state : ClientState) (frame : SendFrame)
    (acceptedAt : Timestamp) : MessageWriteCommand :=
  { messageId := stableMessageId settings state.userId frame.requestId
    requestId := frame.requestId
    senderId := state.userId
    roomId := frame.chatId
    body := trim frame.body
    acceptedAt := acceptedAt
    originConnectionId := truthy (some state.connectionId) }

/-- The attempts of `publishMessageWriteWithRetry` by default. -/
def publishAttempts : Nat := 3

/-- `handleSend` once `ensureRoomIndexed` has returned true. -/
def acceptSend
    (settings : Settings) (reaction : Reaction Socket) (ws : Socket)
    (frame : SendFrame) (now : Timestamp) :
    Reaction Socket × Option (Handler Socket) :=
  let command :=
    bufferedCommand settings (reaction.state.client ws) frame now
  (reaction.publish command,
    some (.publish ws command (publishAttempts - 1)))

/-- `handleTyping` once `ensureRoomIndexed` has returned true. -/
def acceptTyping
    (reaction : Reaction Socket) (ws : Socket) (frame : TypingFrame) :
    Reaction Socket :=
  broadcastToRoom reaction frame.chatId
    (.typing frame.chatId (reaction.state.client ws).userId
      frame.isTyping)

/-! ## Handlers -/

/-- The setup after its membership query. -/
def setupWithRooms
    (settings : Settings) (reaction : Reaction Socket) (ws : Socket)
    (wasOnline : Bool) (rooms : List RoomId) :
    Reaction Socket × Option (Handler Socket) :=
  if reaction.state.readyState ws = .opened ∧
      ws ∈ reaction.state.store.clientStates then
    let joined := reaction.joinRooms ws rooms
    if settings.redis then
      let roomIds := (joined.state.client ws).roomIds.items
      if roomIds.isEmpty then (joined, some (.setupRegister ws))
      else (joined, some (.setupMembers ws roomIds .waiting))
    else
      let told :=
        joined.sendAll
          ((findLocalOnlineRoomMembers joined.state ws).map fun userId =>
            (ws, .presence userId true))
      (if wasOnline then told else broadcastPresence told ws true, none)
  else (reaction, none)

/-- Go on with a handler, which may wait again. -/
def resume
    (settings : Settings) (reaction : Reaction Socket)
    (input : Resumption) :
    Handler Socket → Reaction Socket × Option (Handler Socket)
  | .setupRooms ws wasOnline (.rows rooms) =>
      setupWithRooms settings reaction ws wasOnline rooms
  | .setupRooms ws _ .failed => (reaction.closeSocket ws, none)
  | .setupMembers ws _ (.rows members) =>
      (reaction, some (.setupOnline ws members))
  | .setupMembers ws _ .failed => (reaction.closeSocket ws, none)
  | .setupOnline ws members =>
      if members.all fun userId => (input.online userId).isSome then
        (reaction.sendAll
            ((members.filter fun userId =>
                (input.online userId).getD false).map
              fun userId => (ws, .presence userId true)),
          some (.setupRegister ws))
      else (reaction.closeSocket ws, none)
  | .setupRegister _ => (reaction, none)
  | .limitSend ws frame =>
      if input.allowed then
        if frame.chatId ∈ (reaction.state.client ws).roomIds then
          acceptSend settings reaction ws frame input.now
        else (reaction, some (.joinSend ws frame .waiting))
      else
        (reaction.sendError ws .rateLimited "Too many messages" none,
          none)
  | .joinSend ws frame (.rows true) =>
      acceptSend settings (reaction.joinRooms ws [frame.chatId]) ws frame
        input.now
  | .joinSend ws frame (.rows false) =>
      (reaction.sendError ws .forbidden "Not a member of this chat"
          (some frame.requestId),
        none)
  | .joinSend _ _ .failed => (reaction.crash, none)
  | .publish ws command attemptsLeft =>
      if input.published then
        (reaction.sendJson ws
            (.ack command.requestId command.messageId
              command.acceptedAt),
          none)
      else
        match attemptsLeft with
        | 0 =>
            (reaction.sendError ws .bufferUnavailable
                "message buffer is unavailable" (some command.requestId),
              none)
        | left + 1 => (reaction, some (.retry ws command left))
  | .retry ws command attemptsLeft =>
      (reaction.publish command, some (.publish ws command attemptsLeft))
  | .limitTyping ws frame =>
      if input.allowed then
        if frame.chatId ∈ (reaction.state.client ws).roomIds then
          (acceptTyping reaction ws frame, none)
        else (reaction, some (.joinTyping ws frame .waiting))
      else
        (reaction.sendError ws .rateLimited "Too many typing events"
            none,
          none)
  | .joinTyping ws frame (.rows true) =>
      (acceptTyping (reaction.joinRooms ws [frame.chatId]) ws frame, none)
  | .joinTyping ws _ (.rows false) =>
      (reaction.sendError ws .forbidden "Not a member of this chat" none,
        none)
  | .joinTyping _ _ .failed => (reaction.crash, none)
  | .presence userId online (.rows rooms) =>
      (sendPresence reaction userId rooms online, none)
  | .presence _ _ .failed => (reaction.crash, none)
  -- the query has not been executed
  | waiting => (reaction, some waiting)

/-- The database executes the query that a handler waits for. -/
def answer
    (state : State Socket) (succeeds : Bool) :
    Handler Socket → Handler Socket
  | .setupRooms ws wasOnline .waiting =>
      .setupRooms ws wasOnline
        (if succeeds then .rows (state.roomsOf (state.client ws).userId)
          else .failed)
  | .setupMembers ws rooms .waiting =>
      .setupMembers ws rooms
        (if succeeds then
          .rows (state.otherMembers rooms (state.client ws).userId)
        else .failed)
  | .joinSend ws frame .waiting =>
      .joinSend ws frame
        (if succeeds then
          .rows (state.isMember (state.client ws).userId frame.chatId)
        else .failed)
  | .joinTyping ws frame .waiting =>
      .joinTyping ws frame
        (if succeeds then
          .rows (state.isMember (state.client ws).userId frame.chatId)
        else .failed)
  | .presence userId online .waiting =>
      .presence userId online
        (if succeeds then .rows (state.roomsOf userId) else .failed)
  | handler => handler

/-! ## Callbacks of a socket -/

/-- The connection callback for a socket with a valid token. -/
def onConnection
    (settings : Settings) (state : State Socket) (ws : Socket)
    (userId : UserId) (uuid : String) : Reaction Socket :=
  let client : ClientState :=
    { userId := userId
      connectionId := createConnectionId settings uuid
      roomIds := ∅ }
  let wasOnline :=
    hasOpenSocketForUser state.store
      (fun socket => decide (state.readyState socket = .opened)) userId
  let registered : Reaction Socket :=
    { state :=
        { state with
          readyState := Function.update state.readyState ws .opened
          client := Function.update state.client ws client
          store := addClient state.store ws client } }
  if settings.preloadRoomsOnConnect then
    registered.await (.setupRooms ws wasOnline .waiting)
  else if settings.redis then registered.await (.setupRegister ws)
  else if wasOnline then registered
  else broadcastPresence registered ws true

/-- The close callback. -/
def onClose
    (settings : Settings) (state : State Socket) (ws : Socket) :
    Reaction Socket :=
  let closed : State Socket :=
    { state with
      readyState := Function.update state.readyState ws .closed }
  if ws ∈ state.store.clientStates then
    let removed : Reaction Socket :=
      { state :=
          { closed with
            store := removeClient state.store ws (state.client ws) } }
    if settings.redis then removed
    else if hasOpenSocketForUser removed.state.store
        (fun socket => decide (closed.readyState socket = .opened))
        (state.client ws).userId then
      removed
    else broadcastPresence removed ws false
  else { state := closed }

/-- The message callback; `none` is a text that is not JSON. -/
def onMessage
    (state : State Socket) (ws : Socket) : Option Json → Reaction Socket
  | none => { state := state }
  | some frame =>
      let reaction : Reaction Socket := { state := state }
      match dispatch frame with
      | .error _ => reaction.crash
      | .ok .ping => reaction.sendJson ws .pong
      | .ok .send =>
          match checkSend frame with
          | .error _ => reaction.crash
          | .ok (.error detail) =>
              reaction.sendError ws .validationFailed detail none
          | .ok (.ok checked) => reaction.await (.limitSend ws checked)
      | .ok .typing =>
          match checkTyping frame with
          | .error _ => reaction.crash
          | .ok (.error detail) =>
              reaction.sendError ws .validationFailed detail none
          | .ok (.ok checked) => reaction.await (.limitTyping ws checked)
      | .ok .unknown =>
          reaction.sendError ws .unknownOp "Unknown frame type" none

/-- Put the handler's next wait in its place, or drop it at its end. -/
def replaceHandler
    (state : State Socket) (index : Nat)
    (next : Option (Handler Socket)) : State Socket :=
  { state with
    handlers :=
      match next with
      | none => state.handlers.eraseIdx index
      | some handler => state.handlers.set index handler }

/-- What one event does. -/
def react
    (settings : Settings) (state : State Socket) (event : Event Socket) :
    Reaction Socket :=
  if state.crashed then { state := state }
  else
    match event with
    | .createChat rows =>
        { state :=
            { state with roomMembers := state.roomMembers ++ rows } }
    | .connect ws userId uuid =>
        if state.readyState ws = .absent then
          onConnection settings state ws userId uuid
        else { state := state }
    | .buffer ws backpressured =>
        { state :=
            { state with
              backpressured :=
                Function.update state.backpressured ws backpressured } }
    | .closing ws => Reaction.closeSocket { state := state } ws
    | .close ws =>
        if state.readyState ws = .opened ∨
            state.readyState ws = .closing then
          onClose settings state ws
        else { state := state }
    | .message ws frame =>
        if state.readyState ws = .opened ∨
            state.readyState ws = .closing then
          onMessage state ws frame
        else { state := state }
    | .roomEvent message originConnectionId =>
        broadcastRoomEventToLocalClients { state := state }
          (publishRoomMessage message originConnectionId)
    | .presenceEvent userId online =>
        Reaction.await { state := state }
          (.presence userId online .waiting)
    | .query index succeeds =>
        match state.handlers[index]? with
        | none => { state := state }
        | some handler =>
            { state :=
                replaceHandler state index
                  (some (answer state succeeds handler)) }
    | .resume index input =>
        match state.handlers[index]? with
        | none => { state := state }
        | some handler =>
            let resumed :=
              resume settings { state := state } input handler
            { resumed.1 with
              state := replaceHandler resumed.1.state index resumed.2 }

def step
    (settings : Settings) (state : State Socket) (event : Event Socket) :
    State Socket :=
  (react settings state event).state

/-- The drain of the outbox publishes the same kind of event. -/
theorem roomEvent_eq_publishRoomMessage
    (row : ClaimedOutboxRow) (message : Message) :
    roomEvent row message =
      publishRoomMessage (toMessageDto message) row.originConnectionId :=
  rfl

end ChatBackend.Realtime.Server
