import ChatBackend.Chats.PageLimits
import ChatBackend.Realtime.Server
import ChatBackend.Wire.IsoTimes

/-!
# Events and frames as texts

The outbox drain and the REST endpoint publish room events, and the presence
functions publish presence events, as JSON texts on Redis channels.  A
realtime instance parses what it receives, and sends frames to its sockets as
JSON texts again.

The server model passes events on as they are.  Here `parseRoomEvent` and
`parsePresenceEvent` read any text, and the texts that the services publish
give back the events.
-/

namespace ChatBackend.Wire.EventTexts

open ChatBackend.Storage.Schema
open ChatBackend.Writer.BatchTransaction
open ChatBackend.Writer.OutboxDrain
open ChatBackend.Chats.PageLimits
open ChatBackend.Realtime.ServerFrames
open ChatBackend.Realtime.JsonTexts
open ChatBackend.Realtime.Server
open ChatBackend.Wire.JsonPrinting
open ChatBackend.Wire.IsoTimes

/-! ## What is published -/

/-- The object of a message. -/
def messageJson (message : MessageDto) : Json :=
  .object
    [("id", .string message.id), ("chat_id", .string message.chatId),
      ("sender_id", .string message.senderId),
      ("type", .string message.type), ("body", .string message.body),
      ("created_at", .string (toISOString message.createdAt))]

/-- A field that is left out unless its text is truthy. -/
def optionalField
    (name : String) (value : Option String) : List (String × Json) :=
  ((truthy value).map fun text => (name, Json.string text)).toList

/-- The object of a room event; an origin is left out if there is none. -/
def roomEventJson (event : RoomEvent) : Json :=
  .object
    ([("type", .string event.type), ("room_id", .string event.roomId),
        ("message", messageJson event.message)] ++
      optionalField "origin_connection_id" event.originConnectionId)

/-- The object of a presence event. -/
def presenceEventJson (userId : UserId) (online : Bool) : Json :=
  .object
    [("type", .string "presence"), ("user_id", .string userId),
      ("online", .bool online)]

/-- The reasons, as they stand in frames. -/
def reasonText : WsErrorReason → String
  | .unknownOp => "unknown_op"
  | .rateLimited => "rate_limited"
  | .bufferUnavailable => "buffer_unavailable"
  | .forbidden => "forbidden"
  | .validationFailed => "validation_failed"
  | .authExpired => "auth_expired"

/-- The object of a frame. -/
def frameJson : WsServerFrame → Json
  | .ack requestId messageId acceptedAt =>
      .object
        [("type", .string "ack"), ("request_id", .string requestId),
          ("message_id", .string messageId),
          ("accepted_at", .string (toISOString acceptedAt))]
  | .msg message =>
      .object [("type", .string "msg"), ("message", messageJson message)]
  | .typing chatId userId isTyping =>
      .object
        [("type", .string "typing"), ("chat_id", .string chatId),
          ("user_id", .string userId), ("is_typing", .bool isTyping)]
  | .presence userId online =>
      .object
        [("type", .string "presence"), ("user_id", .string userId),
          ("online", .bool online)]
  | .error reason requestId detail =>
      .object
        ([("type", .string "error"), ("reason", .string (reasonText reason))] ++
          optionalField "request_id" requestId ++
            optionalField "detail" detail)
  | .pong => .object [("type", .string "pong")]

/-! ## What is received -/

/-- A value that `!value` is false of. -/
def isTruthy : Option Json → Bool
  | none => false
  | some .null => false
  | some (.bool value) => value
  | some (.number text) => stringToNumber text != .integer 0
  | some (.string text) => text != ""
  | some (.array _) => true
  | some (.object _) => true

/-- An error while the fields are read is caught. -/
def parseRoomEvent (raw : String) : Option Json := do
  let parsed ← parse raw
  let type ← (parsed.field "type").toOption
  if text type ≠ some messageCreated then none
  else
    let message ← (parsed.field "message").toOption
    let roomId ← (parsed.field "room_id").toOption
    if !isTruthy message || (text roomId).isNone then none
    else return parsed

/-- A text that is no presence event gives `null`. -/
def parsePresenceEvent (raw : String) : Option (UserId × Bool) := do
  let parsed ← parse raw
  let type ← (parsed.field "type").toOption
  if text type ≠ some "presence" then none
  else
    let userId ← (parsed.field "user_id").toOption
    let online ← (parsed.field "online").toOption
    match text userId, online with
    | some userId, some (.bool online) => return (userId, online)
    | _, _ => none

/-- A string among the fields of a value. -/
def textField (name : String) (value : Json) : Option String :=
  (value.field name).toOption.bind text

/-- A field of a value, if it has one. -/
def field (name : String) (value : Json) : Option Json :=
  (value.field name).toOption.bind id

variable {Socket : Type} [DecidableEq Socket]

/--
What `broadcastRoomEventToLocalClients` offers for a text, to each socket in
its turn; the message goes on as it was parsed.
-/
def framesForText
    (state : State Socket) (raw : String) : List (Socket × Json) :=
  match parseRoomEvent raw with
  | none => []
  | some event =>
      let message := (field "message" event).getD .null
      let roomId := (textField "room_id" event).getD ""
      ((state.store.roomSockets.members roomId).items.filter fun socket =>
          socket ∈ state.store.clientStates &&
            some (state.client socket).userId !=
              textField "sender_id" message &&
            some (state.client socket).connectionId !=
              textField "origin_connection_id" event).map
        fun socket =>
          (socket,
            .object [("type", .string "msg"), ("message", message)])

/-! ## The texts can be read -/

/-- Messages are printed so that they can be read back. -/
theorem messageJson_printable (message : MessageDto) :
    Printable (messageJson message) := by
  refine .object _ (by simp) ?_
  intro field member
  simp only [List.mem_cons, List.not_mem_nil, or_false] at member
  rcases member with rfl | rfl | rfl | rfl | rfl | rfl <;> exact .string _

/-- A field that is not left out has a text. -/
theorem mem_optionalField
    {name : String} {value : Option String} {field : String × Json}
    (member : field ∈ optionalField name value) :
    ∃ text, truthy value = some text ∧ field = (name, .string text) := by
  rw [optionalField, Option.mem_toList, Option.map_eq_some_iff] at member
  rcases member with ⟨text, found, rfl⟩
  exact ⟨text, found, rfl⟩

/-- So are room events. -/
theorem roomEventJson_printable (event : RoomEvent) :
    Printable (roomEventJson event) := by
  refine .object _ ?_ ?_
  · cases origin : truthy event.originConnectionId <;>
      simp [optionalField, origin]
  · intro field member
    rw [List.mem_append] at member
    rcases member with known | optional
    · simp only [List.mem_cons, List.not_mem_nil, or_false] at known
      rcases known with rfl | rfl | rfl
      · exact .string _
      · exact .string _
      · exact messageJson_printable event.message
    · rcases mem_optionalField optional with ⟨origin, _, rfl⟩
      exact .string _

/-- A published room event is parsed as its own JSON value. -/
theorem parseRoomEvent_stringify
    {event : RoomEvent} (created : event.type = messageCreated) :
    parseRoomEvent (stringify (roomEventJson event)) =
      some (roomEventJson event) := by
  rw [parseRoomEvent, parse_stringify (roomEventJson_printable event)]
  simp [roomEventJson, Json.field, Except.toOption, text, created,
    isTruthy, messageJson]

theorem textField_sender (message : MessageDto) :
    textField "sender_id" (messageJson message) = some message.senderId := by
  simp [textField, messageJson, Json.field, Except.toOption, text]

/-- What a handler reads of a room event. -/
theorem fields_of_roomEvent (event : RoomEvent) :
    field "message" (roomEventJson event) =
        some (messageJson event.message) ∧
      textField "room_id" (roomEventJson event) = some event.roomId ∧
      textField "origin_connection_id" (roomEventJson event) =
        truthy event.originConnectionId := by
  refine ⟨?_, ?_, ?_⟩
  · simp [field, roomEventJson, Json.field, Except.toOption]
  · simp [textField, roomEventJson, Json.field, Except.toOption, text]
  · cases origin : truthy event.originConnectionId <;>
      simp [textField, roomEventJson, Json.field, Except.toOption, text,
        optionalField, origin]

/-- A text offers the frames of its event to the recipients. -/
theorem framesForText_stringify
    (state : State Socket) {event : RoomEvent}
    (created : event.type = messageCreated)
    (origin : truthy event.originConnectionId = event.originConnectionId) :
    framesForText state (stringify (roomEventJson event)) =
      (eventRecipients state event).map fun socket =>
        (socket, frameJson (.msg event.message)) := by
  rcases fields_of_roomEvent event with ⟨message, roomId, connection⟩
  rw [framesForText, parseRoomEvent_stringify created]
  simp only [message, roomId, connection, origin, Option.getD_some,
    textField_sender]
  rfl

/-! ## Presence events -/

/-- So are presence events. -/
theorem presenceEventJson_printable (userId : UserId) (online : Bool) :
    Printable (presenceEventJson userId online) := by
  refine .object _ (by simp) ?_
  intro field member
  simp only [List.mem_cons, List.not_mem_nil, or_false] at member
  rcases member with rfl | rfl | rfl
  · exact .string _
  · exact .string _
  · exact .bool _

/-- A presence event is read back. -/
theorem parsePresenceEvent_stringify (userId : UserId) (online : Bool) :
    parsePresenceEvent (stringify (presenceEventJson userId online)) =
      some (userId, online) := by
  rw [parsePresenceEvent,
    parse_stringify (presenceEventJson_printable userId online)]
  simp [presenceEventJson, Json.field, Except.toOption, text]

/-- A presence event is no room event. -/
theorem parseRoomEvent_presence (userId : UserId) (online : Bool) :
    parseRoomEvent (stringify (presenceEventJson userId online)) =
      none := by
  rw [parseRoomEvent,
    parse_stringify (presenceEventJson_printable userId online)]
  simp [presenceEventJson, Json.field, Except.toOption, text,
    messageCreated]

/-! ## Frames -/

/-- The times of a frame have texts, and no optional text is empty. -/
structure WellFormed (frame : WsServerFrame) : Prop where
  acceptedAt :
    ∀ requestId messageId acceptedAt,
      frame = .ack requestId messageId acceptedAt → IsTime acceptedAt
  createdAt : ∀ message, frame = .msg message → IsTime message.createdAt
  optional :
    ∀ reason requestId detail, frame = .error reason requestId detail →
      truthy requestId = requestId ∧ truthy detail = detail

/-- So are frames. -/
theorem frameJson_printable (frame : WsServerFrame) :
    Printable (frameJson frame) := by
  cases frame with
  | ack requestId messageId acceptedAt =>
      refine .object _ (by simp) ?_
      intro field member
      simp only [List.mem_cons, List.not_mem_nil, or_false] at member
      rcases member with rfl | rfl | rfl | rfl <;> exact .string _
  | msg message =>
      refine .object _ (by simp) ?_
      intro field member
      simp only [List.mem_cons, List.not_mem_nil, or_false] at member
      rcases member with rfl | rfl
      · exact .string _
      · exact messageJson_printable message
  | typing chatId userId isTyping =>
      refine .object _ (by simp) ?_
      intro field member
      simp only [List.mem_cons, List.not_mem_nil, or_false] at member
      rcases member with rfl | rfl | rfl | rfl
      · exact .string _
      · exact .string _
      · exact .string _
      · exact .bool _
  | presence userId online => exact presenceEventJson_printable _ _
  | error reason requestId detail =>
      refine .object _ ?_ ?_
      · cases request : truthy requestId <;>
          cases why : truthy detail <;>
          simp [optionalField, request, why]
      · intro field member
        simp only [List.mem_append] at member
        rcases member with (known | request) | why
        · simp only [List.mem_cons, List.not_mem_nil, or_false] at known
          rcases known with rfl | rfl <;> exact .string _
        · rcases mem_optionalField request with ⟨text, _, rfl⟩
          exact .string _
        · rcases mem_optionalField why with ⟨text, _, rfl⟩
          exact .string _
  | pong =>
      refine .object _ (by simp) ?_
      intro field member
      simp only [List.mem_cons, List.not_mem_nil, or_false] at member
      subst member
      exact .string _

/-- Different values have different texts. -/
theorem stringify_injective
    {first second : Json} (printable : Printable first)
    (other : Printable second) (same : stringify first = stringify second) :
    first = second := by
  have parsed := parse_stringify printable
  rw [same, parse_stringify other] at parsed
  exact (Option.some.inj parsed).symm

theorem toISOString_injective
    {first second : Int} (isTime : IsTime first) (other : IsTime second)
    (same : toISOString first = toISOString second) : first = second := by
  have read := readTime_toISOString isTime
  rw [same, readTime_toISOString other] at read
  exact (Option.some.inj read).symm

/-- Different messages have different objects. -/
theorem messageJson_injective
    {first second : MessageDto} (isTime : IsTime first.createdAt)
    (other : IsTime second.createdAt)
    (same : messageJson first = messageJson second) : first = second := by
  simp only [messageJson, Json.object.injEq, List.cons.injEq,
    Prod.mk.injEq, Json.string.injEq, true_and, and_true] at same
  rcases same with ⟨id, chatId, senderId, type, body, createdAt⟩
  have time := toISOString_injective isTime other createdAt
  cases first
  cases second
  simp only at id chatId senderId type body time
  subst id chatId senderId type body time
  rfl

theorem reasonText_injective {first second : WsErrorReason}
    (same : reasonText first = reasonText second) : first = second := by
  cases first <;> cases second <;> first | rfl | (simp [reasonText] at same)

/-- Two optional fields of an object determine their values. -/
theorem optionalFields_injective
    {first second first' second' : Option String}
    (same :
      optionalField "request_id" first ++ optionalField "detail" second =
        optionalField "request_id" first' ++
          optionalField "detail" second') :
    truthy first = truthy first' ∧ truthy second = truthy second' := by
  cases one : truthy first <;> cases two : truthy second <;>
    cases three : truthy first' <;> cases four : truthy second' <;>
    simp [optionalField, one, two, three, four] at same ⊢
  all_goals exact same

/-- The text of a frame says which frame it is. -/
theorem frame_injective
    {first second : WsServerFrame} (wellFormed : WellFormed first)
    (other : WellFormed second)
    (same :
      stringify (frameJson first) = stringify (frameJson second)) :
    first = second := by
  have json :=
    stringify_injective (frameJson_printable first)
      (frameJson_printable second) same
  cases first with
  | ack requestId messageId acceptedAt =>
      cases second with
      | ack requestId' messageId' acceptedAt' =>
          simp only [frameJson, Json.object.injEq, List.cons.injEq,
            Prod.mk.injEq, Json.string.injEq, true_and, and_true] at json
          rcases json with ⟨rfl, rfl, time⟩
          rw [toISOString_injective (wellFormed.acceptedAt _ _ _ rfl)
            (other.acceptedAt _ _ _ rfl) time]
      | _ => simp [frameJson] at json
  | msg message =>
      cases second with
      | msg message' =>
          simp only [frameJson, Json.object.injEq, List.cons.injEq,
            Prod.mk.injEq, true_and, and_true] at json
          rw [messageJson_injective (wellFormed.createdAt _ rfl)
            (other.createdAt _ rfl) json]
      | _ => simp [frameJson] at json
  | typing chatId userId isTyping =>
      cases second with
      | typing chatId' userId' isTyping' =>
          simp [frameJson] at json
          rcases json with ⟨rfl, rfl, rfl⟩
          rfl
      | _ => simp [frameJson] at json
  | presence userId online =>
      cases second with
      | presence userId' online' =>
          simp [frameJson] at json
          rcases json with ⟨rfl, rfl⟩
          rfl
      | _ => simp [frameJson] at json
  | error reason requestId detail =>
      cases second with
      | error reason' requestId' detail' =>
          simp only [frameJson, Json.object.injEq, List.cons_append,
            List.nil_append, List.cons.injEq, Prod.mk.injEq,
            Json.string.injEq, true_and] at json
          rcases json with ⟨reasons, fields⟩
          have reasonsSame := reasonText_injective reasons
          have texts := optionalFields_injective fields
          have mine := wellFormed.optional _ _ _ rfl
          have yours := other.optional _ _ _ rfl
          rw [mine.1, mine.2, yours.1, yours.2] at texts
          rw [reasonsSame, texts.1, texts.2]
      | _ => simp [frameJson] at json
  | pong =>
      cases second with
      | pong => rfl
      | _ => simp [frameJson] at json

theorem ack_wellFormed
    (requestId messageId : String) {acceptedAt : Timestamp}
    (isTime : IsTime acceptedAt) :
    WellFormed (.ack requestId messageId acceptedAt) where
  acceptedAt := by
    intro _ _ _ same
    cases same
    exact isTime
  createdAt := by intro message same; cases same
  optional := by intro reason request detail same; cases same

theorem frame_injective_ack :
    (.ack "q" "m" 0 : WsServerFrame) = .ack "q" "m" 0 :=
  frame_injective (ack_wellFormed "q" "m" ⟨by decide, by decide⟩)
    (ack_wellFormed "q" "m" ⟨by decide, by decide⟩) rfl

end ChatBackend.Wire.EventTexts
