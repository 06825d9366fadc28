import ChatBackend.Wire.EventTexts

/-!
# Commands as texts

The realtime service puts a command on the stream as a JSON text.  The writer
parses it without looking at its fields, and hands a batch to its statements
as another JSON text, in which every field has a new name.
`messageWriteInputSql` reads the rows of this text.

`timestamptz` is how the database reads a time; what is assumed of it is that
it reads ISO texts of the years 1 to 9999.  `jsonbText` is how it writes a
value that is no string as a text.
-/

namespace ChatBackend.Wire.CommandTexts

open ChatBackend.Storage.Schema
open ChatBackend.Writer.WriteCommands
open ChatBackend.Writer.BatchTransaction
open ChatBackend.Realtime.ServerFrames
open ChatBackend.Realtime.JsonTexts
open ChatBackend.Wire.JsonPrinting
open ChatBackend.Wire.IsoTimes
open ChatBackend.Wire.EventTexts

/-! ## On the stream -/

/-- The object of a command, with the names of the source. -/
def commandJson (command : MessageWriteCommand) : Json :=
  .object
    ([("message_id", .string command.messageId),
        ("request_id", .string command.requestId),
        ("sender_id", .string command.senderId),
        ("room_id", .string command.roomId),
        ("body", .string command.body),
        ("accepted_at", .string (toISOString command.acceptedAt))] ++
      optionalField "origin_connection_id" command.originConnectionId)

/-- The data that `publishMessageWrite` puts on the stream. -/
def encode (command : MessageWriteCommand) : String :=
  stringify (commandJson command)

/-- The writer checks nothing but that the text is JSON. -/
def decodeMessageWriteCommand (data : String) : Option Json :=
  parse data

/-! ## In a batch -/

/-- A property with its value; `JSON.stringify` drops `undefined`. -/
def property (name : String) (value : Option Json) :
    List (String × Json) :=
  (value.map fun value => (name, value)).toList

/-- The value of `a ?? b`. -/
def nullish (value fallback : Option Json) : Option Json :=
  match value with
  | none | some .null => fallback
  | some other => some other

/-- The object of a command; reading a field of `null` throws. -/
def inputJson (fallbackOriginConnectionId : Option ConnectionId)
    (command : Json) : Except TypeError Json := do
  let messageId ← command.field "message_id"
  let requestId ← command.field "request_id"
  let senderId ← command.field "sender_id"
  let roomId ← command.field "room_id"
  let body ← command.field "body"
  let acceptedAt ← command.field "accepted_at"
  let origin ← command.field "origin_connection_id"
  return .object
    (property "messageId" messageId ++ property "requestId" requestId ++
      property "senderId" senderId ++ property "roomId" roomId ++
      property "body" body ++ property "acceptedAt" acceptedAt ++
      property "originConnectionId"
        (nullish (nullish origin (fallbackOriginConnectionId.map .string))
          (some .null)))

/-- The parameter of the statements of a batch. -/
def messageWriteBatchJson
    (commands : List Json) (fallbackOriginConnectionId : Option ConnectionId) :
    Except TypeError String := do
  let rows ← commands.mapM (inputJson fallbackOriginConnectionId)
  return stringify (.array rows)

/-! ## In the database -/

/-- A text that `jsonb` can hold. -/
def isStorable (text : String) : Bool :=
  text.toList.all fun character => character != '\x00'

mutual

/-- No string of the value has a character that `jsonb` rejects. -/
def isJsonb : Json → Bool
  | .null | .bool _ | .number _ => true
  | .string text => isStorable text
  | .array items => areJsonb items
  | .object fields => areJsonbFields fields

/-- The same for all items. -/
def areJsonb : List Json → Bool
  | [] => true
  | item :: rest => isJsonb item && areJsonb rest

/-- The same for all fields, and their names. -/
def areJsonbFields : List (String × Json) → Bool
  | [] => true
  | (name, item) :: rest =>
      isStorable name && isJsonb item && areJsonbFields rest

end

section Database

variable (jsonbText : Json → String) (timestamptz : String → Option Int)

/-- A text column of `jsonb_to_recordset`; `null` and no value are `NULL`. -/
def textColumn (row : Json) (name : String) : Option String :=
  match field name row with
  | none | some .null => none
  | some (.string value) => some value
  | some other => some (jsonbText other)

/-- The columns of a row; all but the last are `NOT NULL`. -/
def inputRow (row : Json) : Option InputRow := do
  let messageId ← textColumn jsonbText row "messageId"
  let requestId ← textColumn jsonbText row "requestId"
  let senderId ← textColumn jsonbText row "senderId"
  let roomId ← textColumn jsonbText row "roomId"
  let body ← textColumn jsonbText row "body"
  let acceptedAt ← timestamptz (← textColumn jsonbText row "acceptedAt")
  some
    { messageId := messageId
      requestId := requestId
      senderId := senderId
      roomId := roomId
      body := body
      acceptedAt := acceptedAt
      originConnectionId :=
        textColumn jsonbText row "originConnectionId" }

/-- The input of the statements; `none` when the database rejects it. -/
def messageWriteInputSql (batchJson : String) : Option (List InputRow) :=
  match parse batchJson with
  | some (.array rows) =>
      if areJsonb rows then rows.mapM (inputRow jsonbText timestamptz)
      else none
  | _ => none

end Database

/-! ## From one end to the other -/

/-- The times of the years 1 to 9999. -/
def IsTimestamp (time : Int) : Prop :=
  -62135596800000 ≤ time ∧ time ≤ 253402300799999

theorem IsTimestamp.isTime {time : Int} (isTimestamp : IsTimestamp time) :
    IsTime time := by
  unfold IsTimestamp at isTimestamp
  unfold IsTime
  omega

/-- What the realtime service and the database allow in a command. -/
structure Storable (command : MessageWriteCommand) : Prop where
  messageId : isStorable command.messageId = true
  requestId : isStorable command.requestId = true
  senderId : isStorable command.senderId = true
  roomId : isStorable command.roomId = true
  body : isStorable command.body = true
  acceptedAt : IsTimestamp command.acceptedAt
  origin : truthy command.originConnectionId = command.originConnectionId
  originText :
    ∀ origin ∈ command.originConnectionId, isStorable origin = true

/-- The object of a command has no number and no name twice. -/
theorem commandJson_printable (command : MessageWriteCommand) :
    Printable (commandJson command) := by
  refine .object _ ?_ ?_
  · cases origin : truthy command.originConnectionId <;>
      simp [optionalField, origin]
  · intro field member
    rw [List.mem_append] at member
    rcases member with known | optional
    · simp only [List.mem_cons, List.not_mem_nil, or_false] at known
      rcases known with rfl | rfl | rfl | rfl | rfl | rfl <;>
        exact .string _
    · rcases mem_optionalField optional with ⟨origin, _, rfl⟩
      exact .string _

/-- The writer gets the value that the realtime service has encoded. -/
theorem decode_encode (command : MessageWriteCommand) :
    decodeMessageWriteCommand (encode command) =
      some (commandJson command) :=
  parse_stringify (commandJson_printable command)

/-- The object of a row of the input. -/
def rowJson (row : InputRow) : Json :=
  .object
    [("messageId", .string row.messageId),
      ("requestId", .string row.requestId),
      ("senderId", .string row.senderId),
      ("roomId", .string row.roomId), ("body", .string row.body),
      ("acceptedAt", .string (toISOString row.acceptedAt)),
      ("originConnectionId",
        (row.originConnectionId.map Json.string).getD .null)]

/-- Neither has the object of a row. -/
theorem rowJson_printable (row : InputRow) : Printable (rowJson row) := by
  refine .object _ (by simp) ?_
  intro field member
  simp only [List.mem_cons, List.not_mem_nil, or_false] at member
  rcases member with rfl | rfl | rfl | rfl | rfl | rfl | rfl
  all_goals try exact .string _
  cases row.originConnectionId with
  | none => exact .null
  | some origin => exact .string origin

/-- The row of a command in the input, by the model of the statements. -/
def inputOf
    (fallbackOriginConnectionId : Option ConnectionId)
    (command : MessageWriteCommand) : InputRow where
  messageId := command.messageId
  requestId := command.requestId
  senderId := command.senderId
  roomId := command.roomId
  body := command.body
  acceptedAt := command.acceptedAt
  originConnectionId :=
    command.originConnectionId.or fallbackOriginConnectionId

/-- The input of the model, command by command. -/
theorem messageWriteInput_eq_map
    (commands : List MessageWriteCommand)
    (fallbackOriginConnectionId : Option ConnectionId) :
    messageWriteInput commands fallbackOriginConnectionId =
      commands.map (inputOf fallbackOriginConnectionId) :=
  rfl

/-- The object of a command becomes that of its row. -/
theorem inputJson_commandJson
    {command : MessageWriteCommand}
    (origin : truthy command.originConnectionId = command.originConnectionId)
    (fallback : Option ConnectionId) :
    inputJson fallback (commandJson command) =
      .ok (rowJson (inputOf fallback command)) := by
  cases given : command.originConnectionId with
  | none =>
      rw [given] at origin
      cases fallback <;>
        simp [inputJson, commandJson, Json.field, optionalField, given,
          origin, property, nullish, rowJson, inputOf] <;> rfl
  | some text =>
      rw [given] at origin
      simp [inputJson, commandJson, Json.field, optionalField, given,
        origin, property, nullish, rowJson, inputOf]
      rfl

theorem isStorable_toISOString (time : Int) :
    isStorable (toISOString time) = true := by
  have digits : ∀ width number,
      (padded width number).all (fun character => character != '\x00') =
        true := by
    intro width number
    rw [List.all_eq_true]
    intro character member
    have digit := isDigit_of_padded member
    rw [bne_iff_ne]
    rintro rfl
    exact absurd digit (by decide)
  have year : ∀ year,
      (yearText year).all (fun character => character != '\x00') =
        true := by
    intro year
    unfold yearText
    split
    · exact digits _ _
    · rw [List.all_cons, digits]
      split <;> rfl
  simp [isStorable, toISOString, dateText, clockText, List.all_append,
    digits, year, -List.all_eq_true]

/-- The object of a storable command can be held as `jsonb`. -/
theorem isJsonb_rowJson
    {command : MessageWriteCommand} (storable : Storable command)
    {fallback : Option ConnectionId}
    (fallbackText : ∀ origin ∈ fallback, isStorable origin = true) :
    isJsonb (rowJson (inputOf fallback command)) = true := by
  have origin :
      isJsonb
          (((command.originConnectionId.or fallback).map
            Json.string).getD .null) =
        true := by
    cases given : command.originConnectionId with
    | some text =>
        simpa [isJsonb] using storable.originText text (by simp [given])
    | none =>
        cases fallback with
        | none => rfl
        | some text => simpa [isJsonb] using fallbackText text (by simp)
  have names :
      ∀ name ∈
          ["messageId", "requestId", "senderId", "roomId", "body",
            "acceptedAt", "originConnectionId"],
        isStorable name = true := by
    decide
  simp only [List.forall_mem_cons] at names
  simp only [rowJson, isJsonb, areJsonbFields, origin, names, inputOf,
    storable.messageId, storable.requestId, storable.senderId,
    storable.roomId, storable.body, isStorable_toISOString,
    Bool.and_self]

theorem areJsonb_of_forall
    {items : List Json} (each : ∀ item ∈ items, isJsonb item = true) :
    areJsonb items = true := by
  induction items with
  | nil => rfl
  | cons item rest induction =>
      rw [areJsonb, each item (by simp), Bool.true_and]
      exact induction fun other member => each other (by simp [member])

/-- What the statements read of a row is the row. -/
theorem inputRow_rowJson
    (jsonbText : Json → String) {timestamptz : String → Option Int}
    (documented :
      ∀ time, IsTimestamp time → timestamptz (toISOString time) = some time)
    {row : InputRow} (isTimestamp : IsTimestamp row.acceptedAt) :
    inputRow jsonbText timestamptz (rowJson row) = some row := by
  rcases row with
    ⟨messageId, requestId, senderId, roomId, body, acceptedAt, origin⟩
  have time : timestamptz (toISOString acceptedAt) = some acceptedAt :=
    documented acceptedAt isTimestamp
  cases origin <;>
    simp [inputRow, rowJson, textColumn, field, Json.field,
      Except.toOption, time]

/-- Conversions that all succeed give all results. -/
theorem mapM_of_forall
    {Effect : Type → Type} [Monad Effect] [LawfulMonad Effect]
    {Input Output : Type} {convert : Input → Effect Output}
    {result : Input → Output} {inputs : List Input}
    (each : ∀ input ∈ inputs, convert input = pure (result input)) :
    inputs.mapM convert = pure (inputs.map result) := by
  induction inputs with
  | nil => rfl
  | cons input rest induction =>
      rw [List.mapM_cons, each input (by simp),
        induction fun other member => each other (by simp [member])]
      simp

/--
The rows that the statements of a batch see are the rows of the model,
whatever texts the commands hold: encoding them, decoding them, writing them
as the input of the batch and reading that input loses nothing.
-/
theorem batch_input_exact
    (jsonbText : Json → String) {timestamptz : String → Option Int}
    (documented :
      ∀ time, IsTimestamp time → timestamptz (toISOString time) = some time)
    {commands : List MessageWriteCommand}
    (storable : ∀ command ∈ commands, Storable command)
    {fallback : Option ConnectionId}
    (fallbackText : ∀ origin ∈ fallback, isStorable origin = true) :
    ∃ decoded batchJson,
      (commands.map encode).mapM decodeMessageWriteCommand =
          some decoded ∧
        messageWriteBatchJson decoded fallback = .ok batchJson ∧
        messageWriteInputSql jsonbText timestamptz batchJson =
          some (messageWriteInput commands fallback) := by
  let rows := commands.map fun command => rowJson (inputOf fallback command)
  refine
    ⟨commands.map commandJson, stringify (.array rows), ?_, ?_, ?_⟩
  · have each :
        ∀ command ∈ commands,
          (decodeMessageWriteCommand ∘ encode) command =
            pure (commandJson command) := by
      intro command _
      rw [Function.comp_apply, decode_encode]
      rfl
    rw [List.mapM_map]
    exact mapM_of_forall each
  · have each :
        ∀ command ∈ commands,
          (inputJson fallback ∘ commandJson) command =
            pure (rowJson (inputOf fallback command)) := by
      intro command member
      rw [Function.comp_apply,
        inputJson_commandJson (storable command member).origin fallback]
      rfl
    rw [messageWriteBatchJson, List.mapM_map, mapM_of_forall each]
    rfl
  · have printable : Printable (.array rows) := by
      refine .array _ fun row member => ?_
      rcases List.mem_map.mp member with ⟨command, _, rfl⟩
      exact rowJson_printable _
    have held : areJsonb rows = true := by
      refine areJsonb_of_forall fun row member => ?_
      rcases List.mem_map.mp member with ⟨command, inBatch, rfl⟩
      exact isJsonb_rowJson (storable command inBatch) fallbackText
    rw [messageWriteInputSql, parse_stringify printable]
    simp only [held, if_true]
    have each :
        ∀ command ∈ commands,
          (inputRow jsonbText timestamptz ∘
              fun command => rowJson (inputOf fallback command)) command =
            pure (inputOf fallback command) := by
      intro command member
      rw [Function.comp_apply,
        inputRow_rowJson jsonbText documented
          (storable command member).acceptedAt]
      rfl
    rw [messageWriteInput_eq_map, List.mapM_map]
    exact mapM_of_forall each

def quotedCommand : MessageWriteCommand where
  messageId := "msg_1"
  requestId := "q:\n1"
  senderId := "u1"
  roomId := "r1"
  body := "say \"hello\""
  acceptedAt := 1780000000123
  originConnectionId := some "host:1:c"

theorem quotedCommand_storable : Storable quotedCommand where
  messageId := by decide
  requestId := by decide
  senderId := by decide
  roomId := by decide
  body := by decide
  acceptedAt := by unfold IsTimestamp quotedCommand; decide
  origin := by decide
  originText := by decide

theorem batch_input_exact_quoted :
    ∃ decoded batchJson,
      ([quotedCommand].map encode).mapM decodeMessageWriteCommand =
          some decoded ∧
        messageWriteBatchJson decoded none = .ok batchJson ∧
        messageWriteInputSql stringify readTime batchJson =
          some (messageWriteInput [quotedCommand] none) :=
  batch_input_exact stringify
    (fun _ isTimestamp => readTime_toISOString isTimestamp.isTime)
    (fun _ member =>
      List.mem_singleton.mp member ▸ quotedCommand_storable)
    (fun _ none => nomatch none)

end ChatBackend.Wire.CommandTexts
