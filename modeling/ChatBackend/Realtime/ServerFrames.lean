import ChatBackend.Writer.OutboxDrain

/-!
# Frames of the realtime server

The frames that clients send are JSON texts.  `JSON.parse` gives any JSON
value, and the server reads fields of it without checking that it is an
object, so reading a field may throw.  The checks of `handleSend` and
`handleTyping` turn a value into a `SendFrame` or a `TypingFrame`, or into
the text of the error that is sent back.
-/

namespace ChatBackend.Realtime.ServerFrames

open ChatBackend.Storage.Schema
open ChatBackend.Writer.BatchTransaction
open ChatBackend.Writer.OutboxDrain

/-! ## JSON values -/

/-- What `JSON.parse` returns; a number is kept as its text. -/
inductive Json where
  | null
  | bool (value : Bool)
  | number (text : String)
  | string (text : String)
  | array (items : List Json)
  | object (fields : List (String × Json))

/-- What JavaScript throws when a field of `null` is read. -/
inductive TypeError where
  | cannotReadProperties
deriving DecidableEq, Repr

/-- Read a field; `none` is `undefined`. -/
def Json.field (name : String) : Json → Except TypeError (Option Json)
  | .null => .error .cannotReadProperties
  | .object fields =>
      .ok ((fields.find? fun field => field.1 == name).map Prod.snd)
  | _ => .ok none

/-- The text of a value, when `typeof` says that it is a string. -/
def text : Option Json → Option String
  | some (.string value) => some value
  | _ => none

/-- The white space and line terminators that `trim` removes. -/
def isTrimmed (character : Char) : Bool :=
  let code := character.toNat
  (9 ≤ code && code ≤ 13) || code == 0x20 || code == 0xA0 ||
    code == 0x1680 || (0x2000 ≤ code && code ≤ 0x200A) ||
    code == 0x2028 || code == 0x2029 || code == 0x202F ||
    code == 0x205F || code == 0x3000 || code == 0xFEFF

def trim (value : String) : String :=
  String.ofList
    (((value.toList.dropWhile isTrimmed).reverse.dropWhile
      isTrimmed).reverse)

/-! ## Frames -/

inductive WsErrorReason where
  | unknownOp
  | rateLimited
  | bufferUnavailable
  | forbidden
  | validationFailed
  | authExpired
deriving DecidableEq, Repr

inductive WsServerFrame where
  | ack
      (requestId : String) (messageId : MessageId)
      (acceptedAt : Timestamp)
  | msg (message : MessageDto)
  | typing (chatId : RoomId) (userId : UserId) (isTyping : Bool)
  | presence (userId : UserId) (online : Bool)
  | error
      (reason : WsErrorReason) (requestId : Option String)
      (detail : Option String)
  | pong
deriving DecidableEq, Repr

/-- A frame whose fields `handleSend` has checked. -/
structure SendFrame where
  requestId : String
  chatId : RoomId
  body : String
deriving DecidableEq, Repr

structure TypingFrame where
  chatId : RoomId
  isTyping : Bool
deriving DecidableEq, Repr

/-- A field that must be a string which is not empty. -/
def requiredText
    (frame : Json) (name : String) :
    Except TypeError (Except String String) := do
  match text (← frame.field name) with
  | none => return .error (name ++ " is required")
  | some value =>
      if value = "" then return .error (name ++ " is required")
      else return .ok value

/-- The body must contain more than white space. -/
def requiredBody
    (frame : Json) : Except TypeError (Except String String) := do
  match text (← frame.field "body") with
  | none => return .error "body is required"
  | some value =>
      if trim value = "" then return .error "body is required"
      else return .ok value

/-- The checks at the start of `handleSend`, in their order. -/
def checkSend
    (frame : Json) : Except TypeError (Except String SendFrame) := do
  match ← requiredText frame "request_id" with
  | .error detail => return .error detail
  | .ok requestId =>
      match ← requiredText frame "chat_id" with
      | .error detail => return .error detail
      | .ok chatId =>
          match ← requiredBody frame with
          | .error detail => return .error detail
          | .ok body =>
              return .ok
                { requestId := requestId
                  chatId := chatId
                  body := body }

/-- The checks at the start of `handleTyping`. -/
def checkTyping
    (frame : Json) : Except TypeError (Except String TypingFrame) := do
  match ← requiredText frame "chat_id" with
  | .error detail => return .error detail
  | .ok chatId =>
      match ← frame.field "is_typing" with
      | some (.bool isTyping) =>
          return .ok { chatId := chatId, isTyping := isTyping }
      | _ => return .error "is_typing is required"

/-- What the message handler does with a frame, by its type. -/
inductive Dispatch where
  | ping
  | send
  | typing
  | unknown
deriving DecidableEq, Repr

def dispatch (frame : Json) : Except TypeError Dispatch := do
  match text (← frame.field "type") with
  | some "ping" => return .ping
  | some "send" => return .send
  | some "typing" => return .typing
  | _ => return .unknown

/-! ## Reading fields -/

theorem eq_some_of_text
    {value : Option Json} {read : String} (isText : text value = some read) :
    value = some (.string read) := by
  unfold text at isText
  split at isText
  · cases isText
    rfl
  · cases isText

theorem field_ok_iff (frame : Json) (name : String) :
    (∃ value, frame.field name = .ok value) ↔ frame ≠ .null := by
  cases frame <;> simp [Json.field]

/-- Only `null` makes the handler throw. -/
theorem dispatch_ok_iff (frame : Json) :
    (∃ kind, dispatch frame = .ok kind) ↔ frame ≠ .null := by
  rw [← field_ok_iff frame "type"]
  constructor
  · rintro ⟨kind, dispatched⟩
    cases read : frame.field "type" with
    | error failure => simp [dispatch, read, bind, Except.bind] at dispatched
    | ok value => exact ⟨value, rfl⟩
  · rintro ⟨value, read⟩
    simp only [dispatch, read, bind, Except.bind]
    split <;> exact ⟨_, rfl⟩

section Checks

variable {frame : Json}

theorem requiredText_ok (isValue : frame ≠ .null) (name : String) :
    ∃ checked, requiredText frame name = .ok checked := by
  rcases (field_ok_iff frame name).mpr isValue with ⟨value, read⟩
  simp only [requiredText, read, bind, Except.bind]
  split
  · exact ⟨_, rfl⟩
  · split <;> exact ⟨_, rfl⟩

theorem requiredBody_ok (isValue : frame ≠ .null) :
    ∃ checked, requiredBody frame = .ok checked := by
  rcases (field_ok_iff frame "body").mpr isValue with ⟨value, read⟩
  simp only [requiredBody, read, bind, Except.bind]
  split
  · exact ⟨_, rfl⟩
  · split <;> exact ⟨_, rfl⟩

/-- The checks of `handleSend` throw on no value but `null`. -/
theorem checkSend_ok (isValue : frame ≠ .null) :
    ∃ checked, checkSend frame = .ok checked := by
  rcases requiredText_ok isValue "request_id" with ⟨requestId, request⟩
  rcases requiredText_ok isValue "chat_id" with ⟨chatId, chat⟩
  rcases requiredBody_ok isValue with ⟨body, bodyChecked⟩
  simp only [checkSend, request, chat, bodyChecked, bind, Except.bind]
  split
  · exact ⟨_, rfl⟩
  · split
    · exact ⟨_, rfl⟩
    · split <;> exact ⟨_, rfl⟩

theorem checkTyping_ok (isValue : frame ≠ .null) :
    ∃ checked, checkTyping frame = .ok checked := by
  rcases requiredText_ok isValue "chat_id" with ⟨chatId, chat⟩
  rcases (field_ok_iff frame "is_typing").mpr isValue with ⟨value, read⟩
  simp only [checkTyping, chat, read, bind, Except.bind]
  split
  · exact ⟨_, rfl⟩
  · split <;> exact ⟨_, rfl⟩

/-- A required text is the string of the field. -/
theorem requiredText_eq
    {name value : String}
    (required : requiredText frame name = .ok (.ok value)) :
    frame.field name = .ok (some (.string value)) := by
  cases read : frame.field name with
  | error failure =>
      simp [requiredText, read, bind, Except.bind] at required
  | ok found =>
      simp only [requiredText, read, bind, Except.bind] at required
      split at required
      · cases required
      · rename_i isText
        split at required
        · cases required
        · cases required
          rw [eq_some_of_text isText]

theorem requiredBody_eq
    {value : String} (required : requiredBody frame = .ok (.ok value)) :
    frame.field "body" = .ok (some (.string value)) := by
  cases read : frame.field "body" with
  | error failure =>
      simp [requiredBody, read, bind, Except.bind] at required
  | ok found =>
      simp only [requiredBody, read, bind, Except.bind] at required
      split at required
      · cases required
      · rename_i isText
        split at required
        · cases required
        · cases required
          rw [eq_some_of_text isText]

/-- What `handleSend` has checked are the fields of the frame. -/
theorem checkSend_fields
    {checked : SendFrame} (isChecked : checkSend frame = .ok (.ok checked)) :
    frame.field "request_id" = .ok (some (.string checked.requestId)) ∧
      frame.field "chat_id" = .ok (some (.string checked.chatId)) ∧
        frame.field "body" = .ok (some (.string checked.body)) := by
  have isValue : frame ≠ .null := by
    rintro rfl
    cases isChecked
  rcases requiredText_ok isValue "request_id" with ⟨_ | requestId, request⟩
  · simp [checkSend, request, bind, Except.bind, pure, Except.pure]
      at isChecked
  · rcases requiredText_ok isValue "chat_id" with ⟨_ | chatId, chat⟩
    · simp [checkSend, request, chat, bind, Except.bind, pure,
        Except.pure] at isChecked
    · rcases requiredBody_ok isValue with ⟨_ | body, bodyChecked⟩
      · simp [checkSend, request, chat, bodyChecked, bind, Except.bind,
          pure, Except.pure] at isChecked
      · simp only [checkSend, request, chat, bodyChecked, bind,
          Except.bind] at isChecked
        cases isChecked
        exact
          ⟨requiredText_eq request, requiredText_eq chat,
            requiredBody_eq bodyChecked⟩

end Checks

end ChatBackend.Realtime.ServerFrames
