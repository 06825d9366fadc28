import ChatBackend.Realtime.Reactions

/-!
# Kinds of frames

Most frames of a realtime instance are about presence and typing, or say that
something went wrong.  Two kinds are special: messages are sent only when a
room event has reached the instance, and acks only when a command has been
published.  A reaction is plain if it sends no frame of a special kind.
-/

namespace ChatBackend.Realtime.MessageFrames

open ChatBackend.Storage.Schema
open ChatBackend.Writer.BatchTransaction
open ChatBackend.Realtime.ServerFrames
open ChatBackend.Realtime.Server
open ChatBackend.Realtime.Reactions

variable {Socket : Type}

/-- The message that a frame shows. -/
def shownMessage : WsServerFrame → Option MessageDto
  | .msg message => some message
  | _ => none

def isMsg (frame : WsServerFrame) : Bool :=
  (shownMessage frame).isSome

def isAck : WsServerFrame → Bool
  | .ack _ _ _ => true
  | _ => false

/-- Only messages and acks can be of the kind. -/
structure Special (kind : WsServerFrame → Bool) : Prop where
  presence : ∀ userId online, kind (.presence userId online) = false
  typing :
    ∀ chatId userId isTyping,
      kind (.typing chatId userId isTyping) = false
  error :
    ∀ reason requestId detail,
      kind (.error reason requestId detail) = false
  pong : kind .pong = false

theorem isMsg_special : Special isMsg where
  presence := fun _ _ => rfl
  typing := fun _ _ _ => rfl
  error := fun _ _ _ => rfl
  pong := rfl

theorem isAck_special : Special isAck where
  presence := fun _ _ => rfl
  typing := fun _ _ _ => rfl
  error := fun _ _ _ => rfl
  pong := rfl

variable {kind : WsServerFrame → Bool}

variable (kind) in
/-- No frame of the reaction is of the kind. -/
def Plain (reaction : Reaction Socket) : Prop :=
  ∀ sent ∈ reaction.frames, kind sent.2 = false

theorem plain_start (state : State Socket) :
    Plain kind ({ state := state } : Reaction Socket) := by
  intro sent impossible
  cases impossible

variable [DecidableEq Socket] {reaction : Reaction Socket}

/-! ## Operations -/

theorem Plain.sendAll
    (plain : Plain kind reaction) {frames : List (Socket × WsServerFrame)}
    (offered : ∀ sent ∈ frames, kind sent.2 = false) :
    Plain kind (reaction.sendAll frames) := by
  intro sent listed
  rw [(sendAll_cases reaction frames).2.2] at listed
  rcases List.mem_append.mp listed with old | new
  · exact plain sent old
  · exact offered sent (List.mem_filter.mp new).1

theorem Plain.sendJson
    (plain : Plain kind reaction) (ws : Socket) {frame : WsServerFrame}
    (offered : kind frame = false) :
    Plain kind (reaction.sendJson ws frame) := by
  rw [sendJson_eq]
  exact plain.sendAll (by simpa using offered)

theorem Plain.closeSocket
    (plain : Plain kind reaction) (ws : Socket) :
    Plain kind (reaction.closeSocket ws) := by
  intro sent listed
  rw [(closeSocket_frames reaction ws).1] at listed
  exact plain sent listed

theorem Plain.joinRooms
    (plain : Plain kind reaction) (ws : Socket) (rooms : List RoomId) :
    Plain kind (reaction.joinRooms ws rooms) :=
  plain

section Special

variable (special : Special kind)

include special

theorem Plain.sendError
    (plain : Plain kind reaction) (ws : Socket) (reason : WsErrorReason)
    (detail : String) (requestId : Option String) :
    Plain kind (reaction.sendError ws reason detail requestId) :=
  plain.sendJson ws (special.error _ _ _)

theorem Plain.sendPresence
    (plain : Plain kind reaction) (userId : UserId) (rooms : List RoomId)
    (online : Bool) :
    Plain kind (sendPresence reaction userId rooms online) := by
  refine plain.sendAll fun sent offered => ?_
  rcases List.mem_map.mp offered with ⟨socket, _, rfl⟩
  exact special.presence _ _

/-- Presence frames to one socket, about several users. -/
theorem Plain.tell
    (plain : Plain kind reaction) (ws : Socket) (userIds : List UserId) :
    Plain kind
      (reaction.sendAll
        (userIds.map fun userId => (ws, .presence userId true))) := by
  refine plain.sendAll fun sent offered => ?_
  rcases List.mem_map.mp offered with ⟨userId, _, rfl⟩
  exact special.presence _ _

theorem Plain.acceptTyping
    (plain : Plain kind reaction) (ws : Socket) (frame : TypingFrame) :
    Plain kind (acceptTyping reaction ws frame) := by
  refine plain.sendAll fun sent offered => ?_
  rcases List.mem_map.mp offered with ⟨socket, _, rfl⟩
  exact special.typing _ _ _

/-! ## Handlers and callbacks -/

theorem Plain.setupWithRooms
    (plain : Plain kind reaction) (settings : Settings) (ws : Socket)
    (wasOnline : Bool) (rooms : List RoomId) :
    Plain kind
      (setupWithRooms settings reaction ws wasOnline rooms).1 := by
  unfold Server.setupWithRooms
  split
  · dsimp only
    split
    · split
      · exact plain.joinRooms ws rooms
      · exact plain.joinRooms ws rooms
    · have told :=
        (plain.joinRooms ws rooms).tell special ws
          (findLocalOnlineRoomMembers (reaction.joinRooms ws rooms).state ws)
      split
      · exact told
      · exact told.sendPresence special _ _ true
  · exact plain

/-- Only a handler that waits for its publish attempt can send an ack. -/
theorem Plain.resume
    (plain : Plain kind reaction) (settings : Settings)
    (input : Resumption) (handler : Handler Socket)
    (noAck :
      ∀ ws command left, handler = .publish ws command left →
        kind
            (.ack command.requestId command.messageId
              command.acceptedAt) =
          false) :
    Plain kind (resume settings reaction input handler).1 := by
  unfold Server.resume
  split
  · exact plain.setupWithRooms special settings _ _ _
  · exact plain.closeSocket _
  · exact plain
  · exact plain.closeSocket _
  · split
    · exact plain.tell special _ _
    · exact plain.closeSocket _
  · exact plain
  · split
    · split
      · exact plain
      · exact plain
    · exact plain.sendError special _ _ _ _
  · exact plain
  · exact plain.sendError special _ _ _ _
  · exact plain
  · split
    · exact plain.sendJson _ (noAck _ _ _ rfl)
    · split
      · exact plain.sendError special _ _ _ _
      · exact plain
  · exact plain
  · split
    · split
      · exact plain.acceptTyping special _ _
      · exact plain
    · exact plain.sendError special _ _ _ _
  · rename_i ws frame
    exact
      (plain.joinRooms ws [frame.chatId]).acceptTyping special ws frame
  · exact plain.sendError special _ _ _ _
  · exact plain
  · exact plain.sendPresence special _ _ _
  · exact plain
  · exact plain

theorem onMessage_plain
    (state : State Socket) (ws : Socket) (frame : Option Json) :
    Plain kind (onMessage state ws frame) := by
  have start : Plain kind ({ state := state } : Reaction Socket) :=
    plain_start state
  cases frame with
  | none => exact start
  | some json =>
      simp only [onMessage]
      split
      · exact start
      · exact start.sendJson _ special.pong
      · split
        · exact start
        · exact start.sendError special _ _ _ _
        · exact start
      · split
        · exact start
        · exact start.sendError special _ _ _ _
        · exact start
      · exact start.sendError special _ _ _ _

theorem onConnection_plain
    (settings : Settings) (state : State Socket) (ws : Socket)
    (userId : UserId) (uuid : String) :
    Plain kind (onConnection settings state ws userId uuid) := by
  have start :
      Plain kind
        ({ state := connected settings state ws userId uuid } :
          Reaction Socket) :=
    plain_start _
  unfold onConnection
  dsimp only
  split
  · exact start
  · split
    · exact start
    · split
      · exact start
      · exact start.sendPresence special _ _ true

theorem onClose_plain
    (settings : Settings) (state : State Socket) (ws : Socket) :
    Plain kind (onClose settings state ws) := by
  unfold onClose
  dsimp only
  split
  · split
    · exact plain_start _
    · split
      · exact plain_start _
      · exact (plain_start _).sendPresence special _ _ false
  · exact plain_start _

end Special

/-! ## Messages -/

/-- Other events than room events show no message. -/
theorem react_plain
    (settings : Settings) (state : State Socket) {event : Event Socket}
    (other : ∀ message origin, event ≠ .roomEvent message origin) :
    Plain isMsg (react settings state event) := by
  unfold react
  split
  · exact plain_start state
  · split
    · exact plain_start _
    · split
      · exact onConnection_plain isMsg_special settings _ _ _ _
      · exact plain_start state
    · exact plain_start _
    · exact (plain_start state).closeSocket _
    · split
      · exact onClose_plain isMsg_special settings _ _
      · exact plain_start state
    · split
      · exact onMessage_plain isMsg_special _ _ _
      · exact plain_start state
    · exact absurd rfl (other _ _)
    · exact plain_start state
    · split
      · exact plain_start state
      · exact plain_start _
    · split
      · exact plain_start state
      · exact
          (plain_start state).resume isMsg_special settings _ _
            fun _ _ _ _ => rfl

/-- A room event shows its own message only. -/
theorem broadcastRoomEvent_shown
    {state : State Socket} {event : Writer.OutboxDrain.RoomEvent}
    {sent : Socket × WsServerFrame} {message : MessageDto}
    (listed :
      sent ∈
        (broadcastRoomEventToLocalClients { state := state }
          event).frames)
    (shown : shownMessage sent.2 = some message) :
    message = event.message := by
  unfold broadcastRoomEventToLocalClients at listed
  split at listed
  · rw [(sendAll_cases { state := state } _).2.2, List.nil_append]
      at listed
    rcases List.mem_map.mp (List.mem_filter.mp listed).1 with
      ⟨socket, _, rfl⟩
    cases shown
    rfl
  · cases listed

/-- A shown message is the one of the room event. -/
theorem react_shown
    (settings : Settings) (state : State Socket) (event : Event Socket)
    {sent : Socket × WsServerFrame} {message : MessageDto}
    (listed : sent ∈ (react settings state event).frames)
    (shown : shownMessage sent.2 = some message) :
    ∃ origin, event = .roomEvent message origin := by
  by_cases isRoomEvent : ∃ other origin, event = .roomEvent other origin
  · rcases isRoomEvent with ⟨other, origin, rfl⟩
    unfold react at listed
    split at listed
    · cases listed
    · have same := broadcastRoomEvent_shown listed shown
      exact ⟨origin, by rw [same]; rfl⟩
  · have plain : Plain isMsg (react settings state event) :=
      react_plain settings state fun other origin same =>
        isRoomEvent ⟨other, origin, same⟩
    have := plain sent listed
    rw [isMsg, shown] at this
    cases this

end ChatBackend.Realtime.MessageFrames
