import ChatBackend.Realtime.JsonTexts
import ChatBackend.Realtime.Reactions
import Mathlib.Logic.Relation

/-!
# Inbound texts

What the message callback does with a text that a client sends.  The value
of `JSON.parse` is used as an object without a check, so that the text
`null` throws out of the callback, and an uncaught exception ends the
process.  It is the only such text: every other value has fields or lacks
them, and `handleSend` and `handleTyping` check the fields that they use.
-/

namespace ChatBackend.Realtime.InboundFrames

open ChatBackend.Foundation.EventRuns
open ChatBackend.Realtime.ServerFrames
open ChatBackend.Realtime.JsonTexts
open ChatBackend.Realtime.Server
open ChatBackend.Realtime.Reactions

variable {Socket : Type} [DecidableEq Socket]

/-! ## Dispatch -/

def HasType (frame : Json) (kind : String) : Prop :=
  frame.field "type" = .ok (some (.string kind))

/-- How a parsed text is taken: ignored, or dispatched by its type. -/
inductive Dispatched
    (state : State Socket) (ws : Socket) :
    Option Json → Reaction Socket → Prop where
  | ignored : Dispatched state ws none { state := state }
  | ping (frame : Json) :
      HasType frame "ping" →
        Dispatched state ws (some frame)
          (Reaction.sendJson { state := state } ws .pong)
  | invalidSend (frame : Json) (detail : String) :
      HasType frame "send" → checkSend frame = .ok (.error detail) →
        Dispatched state ws (some frame)
          (Reaction.sendError { state := state } ws .validationFailed
            detail none)
  | send (frame : Json) (checked : SendFrame) :
      HasType frame "send" → checkSend frame = .ok (.ok checked) →
        Dispatched state ws (some frame)
          (Reaction.await { state := state } (.limitSend ws checked))
  | invalidTyping (frame : Json) (detail : String) :
      HasType frame "typing" → checkTyping frame = .ok (.error detail) →
        Dispatched state ws (some frame)
          (Reaction.sendError { state := state } ws .validationFailed
            detail none)
  | typing (frame : Json) (checked : TypingFrame) :
      HasType frame "typing" → checkTyping frame = .ok (.ok checked) →
        Dispatched state ws (some frame)
          (Reaction.await { state := state } (.limitTyping ws checked))
  | unknown (frame : Json) :
      frame ≠ .null → ¬HasType frame "ping" → ¬HasType frame "send" →
        ¬HasType frame "typing" →
          Dispatched state ws (some frame)
            (Reaction.sendError { state := state } ws .unknownOp
              "Unknown frame type" none)

/-- A handler goes on: its query succeeds, or it resumes. -/
inductive GoesOn (settings : Settings) :
    Handler Socket → Handler Socket → Prop where
  | answered (state : State Socket) (handler : Handler Socket) :
      GoesOn settings handler (answer state true handler)
  | resumed
      (reaction : Reaction Socket) (input : Resumption)
      (handler next : Handler Socket) :
      (resume settings reaction input handler).2 = some next →
        GoesOn settings handler next

/-- No resumption of the handler rejects, whatever happens between. -/
def Settles (settings : Settings) (handler : Handler Socket) : Prop :=
  ∀ later, Relation.ReflTransGen (GoesOn settings) handler later →
    ∀ (reaction : Reaction Socket) (input : Resumption),
      (resume settings reaction input later).1.state.crashed =
        reaction.state.crashed

/-- The callback returns, and so does the handler that it starts. -/
structure Handled
    (settings : Settings) (state : State Socket) (ws : Socket)
    (text : String) : Prop where
  alive : (onMessage state ws (parse text)).state.crashed = false
  dispatched :
    Dispatched state ws (parse text) (onMessage state ws (parse text))
  settles :
    ∀ handler,
      (onMessage state ws (parse text)).state.handlers =
          state.handlers ++ [handler] →
        Settles settings handler

/-! ## Handlers that settle -/

section Crashes

variable (reaction : Reaction Socket)

theorem closeSocket_crashed (ws : Socket) :
    (reaction.closeSocket ws).state.crashed = reaction.state.crashed := by
  unfold Reaction.closeSocket
  split <;> rfl

theorem sendJson_crashed (ws : Socket) (frame : WsServerFrame) :
    (reaction.sendJson ws frame).state.crashed =
      reaction.state.crashed := by
  unfold Reaction.sendJson
  split
  · split
    · exact closeSocket_crashed reaction ws
    · rfl
  · rfl

theorem sendAll_crashed (frames : List (Socket × WsServerFrame)) :
    (reaction.sendAll frames).state.crashed = reaction.state.crashed := by
  unfold Reaction.sendAll
  induction frames generalizing reaction with
  | nil => rfl
  | cons frame rest induction =>
      rw [List.foldl_cons, induction, sendJson_crashed]

theorem broadcastPresence_crashed (ws : Socket) (online : Bool) :
    (broadcastPresence reaction ws online).state.crashed =
      reaction.state.crashed :=
  sendAll_crashed reaction _

end Crashes

/-- The handler waits for no query that has failed. -/
def Unfailed : Handler Socket → Prop
  | .joinSend _ _ .failed => False
  | .joinTyping _ _ .failed => False
  | .presence _ _ .failed => False
  | _ => True

omit [DecidableEq Socket] in
theorem Unfailed.answer
    {handler : Handler Socket} (unfailed : Unfailed handler)
    (state : State Socket) : Unfailed (Server.answer state true handler) := by
  unfold Server.answer
  split
  · trivial
  · trivial
  · trivial
  · trivial
  · trivial
  · exact unfailed

theorem setupWithRooms_crashed
    (settings : Settings) (reaction : Reaction Socket) (ws : Socket)
    (wasOnline : Bool) (rooms : List Storage.Schema.RoomId) :
    (setupWithRooms settings reaction ws wasOnline
        rooms).1.state.crashed =
      reaction.state.crashed := by
  unfold setupWithRooms
  split
  · dsimp only
    split
    · split <;> rfl
    · split
      · exact sendAll_crashed _ _
      · rw [broadcastPresence_crashed]
        exact sendAll_crashed _ _
  · rfl

/-- Only a failed query makes a resumption reject. -/
theorem Unfailed.resume_crashed
    (settings : Settings) (reaction : Reaction Socket)
    (input : Resumption) {handler : Handler Socket}
    (unfailed : Unfailed handler) :
    (resume settings reaction input handler).1.state.crashed =
      reaction.state.crashed := by
  unfold resume
  split
  · exact setupWithRooms_crashed settings reaction _ _ _
  · exact closeSocket_crashed _ _
  · rfl
  · exact closeSocket_crashed _ _
  · split
    · exact sendAll_crashed _ _
    · exact closeSocket_crashed _ _
  · rfl
  · split
    · split <;> rfl
    · exact sendJson_crashed _ _ _
  · rfl
  · exact sendJson_crashed _ _ _
  · exact unfailed.elim
  · split
    · exact sendJson_crashed _ _ _
    · split
      · exact sendJson_crashed _ _ _
      · rfl
  · rfl
  · split
    · split
      · exact sendAll_crashed _ _
      · rfl
    · exact sendJson_crashed _ _ _
  · exact sendAll_crashed _ _
  · exact sendJson_crashed _ _ _
  · exact unfailed.elim
  · exact sendAll_crashed _ _
  · exact unfailed.elim
  · rfl

theorem Unfailed.resume_next
    (settings : Settings) (reaction : Reaction Socket)
    (input : Resumption) {handler next : Handler Socket}
    (unfailed : Unfailed handler)
    (goesOn : (resume settings reaction input handler).2 = some next) :
    Unfailed next := by
  unfold resume at goesOn
  split at goesOn
  · unfold setupWithRooms at goesOn
    split at goesOn
    · dsimp only at goesOn
      split at goesOn
      · split at goesOn
        · cases goesOn
          trivial
        · cases goesOn
          trivial
      · cases goesOn
    · cases goesOn
  · cases goesOn
  · cases goesOn
    trivial
  · cases goesOn
  · split at goesOn
    · cases goesOn
      trivial
    · cases goesOn
  · cases goesOn
  · split at goesOn
    · split at goesOn
      · cases goesOn
        trivial
      · cases goesOn
        trivial
    · cases goesOn
  · cases goesOn
    trivial
  · cases goesOn
  · cases goesOn
  · split at goesOn
    · cases goesOn
    · split at goesOn
      · cases goesOn
      · cases goesOn
        trivial
  · cases goesOn
    trivial
  · split at goesOn
    · split at goesOn
      · cases goesOn
      · cases goesOn
        trivial
    · cases goesOn
  · cases goesOn
  · cases goesOn
  · cases goesOn
  · cases goesOn
  · cases goesOn
  · cases goesOn
    exact unfailed

/-- With succeeding queries, what has not failed settles. -/
theorem Unfailed.settles
    (settings : Settings) {handler : Handler Socket}
    (unfailed : Unfailed handler) : Settles settings handler := by
  intro later goesOn reaction input
  refine Unfailed.resume_crashed settings reaction input ?_
  induction goesOn with
  | refl => exact unfailed
  | tail _ last induction =>
      cases last with
      | answered state => exact induction.answer state
      | resumed current resumption _ _ next =>
          exact induction.resume_next settings current resumption next

/-! ## The texts that are handled -/

section Dispatching

variable {frame : Json}

theorem dispatch_ping (isPing : HasType frame "ping") :
    dispatch frame = .ok .ping := by
  simp only [dispatch, show frame.field "type" = _ from isPing]
  rfl

theorem dispatch_send (isSend : HasType frame "send") :
    dispatch frame = .ok .send := by
  simp only [dispatch, show frame.field "type" = _ from isSend]
  rfl

theorem dispatch_typing (isTyping : HasType frame "typing") :
    dispatch frame = .ok .typing := by
  simp only [dispatch, show frame.field "type" = _ from isTyping]
  rfl

theorem dispatch_unknown
    (isValue : frame ≠ .null) (notPing : ¬HasType frame "ping")
    (notSend : ¬HasType frame "send")
    (notTyping : ¬HasType frame "typing") :
    dispatch frame = .ok .unknown := by
  rcases (field_ok_iff frame "type").mpr isValue with ⟨value, read⟩
  have isText :
      ∀ kind, ServerFrames.text value = some kind →
        HasType frame kind := by
    intro kind same
    rw [HasType, read, eq_some_of_text same]
  simp only [dispatch, read, bind, Except.bind]
  split
  · rename_i same
    exact absurd (isText "ping" same) notPing
  · rename_i same
    exact absurd (isText "send" same) notSend
  · rename_i same
    exact absurd (isText "typing" same) notTyping
  · rfl

end Dispatching

omit [DecidableEq Socket] in
/-- A callback that sends at most starts no handler. -/
theorem not_started
    {state after : State Socket} (quiet : Quiet state after)
    {handler : Handler Socket} :
    after.handlers ≠ state.handlers ++ [handler] := by
  rw [quiet.handlers]
  intro same
  exact absurd (List.self_eq_append_right.mp same) (by simp)

/-- The started handler is the one that is awaited. -/
theorem started
    (settings : Settings) {state : State Socket}
    {awaited : Handler Socket} (unfailed : Unfailed awaited)
    (handler : Handler Socket)
    (same :
      (Reaction.await { state := state } awaited).state.handlers =
        state.handlers ++ [handler]) :
    Settles settings handler := by
  have isAwaited : awaited = handler := by
    simpa [Reaction.await] using same
  subst isAwaited
  exact unfailed.settles settings

section Handling

variable (settings : Settings) {state : State Socket}
  (running : state.crashed = false) (ws : Socket)

include running

theorem onMessage_handled
    {frame : Json} (isValue : frame ≠ .null) :
    (onMessage state ws (some frame)).state.crashed = false ∧
      Dispatched state ws (some frame)
          (onMessage state ws (some frame)) ∧
        ∀ handler,
          (onMessage state ws (some frame)).state.handlers =
              state.handlers ++ [handler] →
            Settles settings handler := by
  by_cases isPing : HasType frame "ping"
  · simp only [onMessage, dispatch_ping isPing]
    exact
      ⟨(sendJson_crashed _ ws _).trans running, .ping frame isPing,
        fun handler same =>
          absurd same (not_started (sendJson_quiet _ ws _))⟩
  · by_cases isSend : HasType frame "send"
    · simp only [onMessage, dispatch_send isSend]
      rcases checkSend_ok isValue with ⟨detail | checked, isChecked⟩
      · simp only [isChecked]
        exact
          ⟨(sendJson_crashed _ ws _).trans running,
            .invalidSend frame detail isSend isChecked,
            fun handler same =>
              absurd same (not_started (sendJson_quiet _ ws _))⟩
      · simp only [isChecked]
        exact
          ⟨running, .send frame checked isSend isChecked,
            started settings trivial⟩
    · by_cases isTyping : HasType frame "typing"
      · simp only [onMessage, dispatch_typing isTyping]
        rcases checkTyping_ok isValue with ⟨detail | checked, isChecked⟩
        · simp only [isChecked]
          exact
            ⟨(sendJson_crashed _ ws _).trans running,
              .invalidTyping frame detail isTyping isChecked,
              fun handler same =>
                absurd same (not_started (sendJson_quiet _ ws _))⟩
        · simp only [isChecked]
          exact
            ⟨running, .typing frame checked isTyping isChecked,
              started settings trivial⟩
      · simp only [onMessage,
          dispatch_unknown isValue isPing isSend isTyping]
        exact
          ⟨(sendJson_crashed _ ws _).trans running,
            .unknown frame isValue isPing isSend isTyping,
            fun handler same =>
              absurd same (not_started (sendJson_quiet _ ws _))⟩

/--
Whatever the state is, the text is handled if and only if it is not read as
`null`: it is ignored or dispatched by its type, and neither the callback
nor the handler that it starts ends the process.
-/
theorem inbound_text_handled_iff (text : String) :
    Handled settings state ws text ↔ parse text ≠ some .null := by
  constructor
  · intro handled isNull
    have alive := handled.alive
    rw [isNull] at alive
    cases alive
  · intro isValue
    cases parsed : parse text with
    | none =>
        constructor
        · rw [parsed]
          exact running
        · rw [parsed]
          exact .ignored
        · rw [parsed]
          intro handler same
          exact absurd same (not_started (Quiet.refl state))
    | some frame =>
        have notNull : frame ≠ .null := by
          rintro rfl
          exact isValue parsed
        rcases onMessage_handled settings running ws notNull with
          ⟨alive, dispatched, settles⟩
        rw [← parsed] at alive dispatched settles
        exact ⟨alive, dispatched, settles⟩

end Handling

/-- A connected client. -/
def exampleClient : State Unit :=
  run (Server.step exampleSettings) (State.start [])
    [.connect () "ann" "uuid"]

theorem inbound_text_handled_iff_example :
    Handled exampleSettings exampleClient () "[null]" := by
  have isArray : parse "[null]" = some (.array [.null]) := rfl
  apply
    (inbound_text_handled_iff exampleSettings (by decide) ()
      "[null]").mpr
  rw [isArray]
  simp

theorem null_ends_the_process :
    ¬Handled exampleSettings exampleClient () "null" := by
  intro handled
  exact absurd handled.alive (by decide)

end ChatBackend.Realtime.InboundFrames
