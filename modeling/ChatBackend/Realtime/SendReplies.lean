import ChatBackend.Realtime.InboundFrames

/-!
# Replies to send frames

One call of `handleSend` is watched through a run of the server.  Between
its turns anything may happen on the instance, and the outside decides about
every turn: whether the frame is within the rate limit, whether the
membership query fails, and which attempts to publish resolve.

The call gets exactly one reply, unless its membership query fails.  That
query is awaited outside of the `try` block: the call rejects, nobody
catches it, and the client is left without a reply.
-/

namespace ChatBackend.Realtime.SendReplies

open ChatBackend.Foundation.EventRuns
open ChatBackend.Storage.Schema
open ChatBackend.Writer.WriteCommands
open ChatBackend.Realtime.ServerFrames
open ChatBackend.Realtime.Server
open ChatBackend.Realtime.Reactions
open ChatBackend.Realtime.InboundFrames

variable {Socket : Type}

/-! ## Watching a call -/

/-- What one call has done, and what the outside has decided for it. -/
structure Exchange (Socket : Type) where
  turns : Nat := 0
  frames : List (Socket × WsServerFrame) := []
  attempts : List MessageWriteCommand := []
  resolved : Bool := false
  queryFailed : Bool := false
  rejected : Bool := false

/-- The event is what the handler waits for. -/
def comes : Handler Socket → Event Socket → Bool
  | .joinSend _ _ .waiting, .query _ _ => true
  | .joinSend _ _ .waiting, _ => false
  | _, .resume _ _ => true
  | _, _ => false

/-- An attempt to publish resolves. -/
def resolves : Handler Socket → Event Socket → Bool
  | .publish _ _ _, .resume _ input => input.published
  | _, _ => false

/-- The membership query fails. -/
def failsQuery : Handler Socket → Event Socket → Bool
  | .joinSend _ _ .waiting, .query _ succeeds => !succeeds
  | _, _ => false

/-- A turn of the call, with the reaction to it. -/
def Exchange.turn
    (exchange : Exchange Socket) (handler : Handler Socket)
    (event : Event Socket) (reaction : Reaction Socket) :
    Exchange Socket where
  turns := exchange.turns + if comes handler event then 1 else 0
  frames := exchange.frames ++ reaction.frames
  attempts := exchange.attempts ++ reaction.published
  resolved := exchange.resolved || resolves handler event
  queryFailed := exchange.queryFailed || failsQuery handler event
  rejected := exchange.rejected || reaction.state.crashed

/-- The server, and the place of the handler of the call. -/
structure Watch (Socket : Type) where
  state : State Socket
  position : Option Nat
  exchange : Exchange Socket

variable [DecidableEq Socket]

/-- The place of a handler after an event, if it still waits. -/
def moved
    (settings : Settings) (state : State Socket) (index : Nat) :
    Event Socket → Option Nat
  | .resume other input =>
      match state.handlers[other]? with
      | none => some index
      | some handler =>
          if (resume settings { state := state } input
              handler).2.isSome then
            some index
          else if other = index then none
          else if other < index then some (index - 1)
          else some index
  | _ => some index

/-- The frame arrives; the call is settled, or waits at the end. -/
def Watch.start
    (settings : Settings) (state : State Socket) (ws : Socket)
    (frame : Json) : Watch Socket :=
  let reaction := react settings state (.message ws (some frame))
  { state := reaction.state
    position :=
      if state.handlers.length < reaction.state.handlers.length then
        some state.handlers.length
      else none
    exchange :=
      { frames := reaction.frames
        attempts := reaction.published
        rejected := reaction.state.crashed } }

def Watch.step
    (settings : Settings) (watch : Watch Socket) (event : Event Socket) :
    Watch Socket :=
  let reaction := react settings watch.state event
  match watch.position with
  | none => { watch with state := reaction.state }
  | some index =>
      { state := reaction.state
        position := moved settings watch.state index event
        exchange :=
          match watch.state.handlers[index]? with
          | none => watch.exchange
          | some handler =>
              if handlerIndex event = some index then
                watch.exchange.turn handler event reaction
              else watch.exchange }

/-- The call for the frame, after the events. -/
def watched
    (settings : Settings) (state : State Socket) (ws : Socket)
    (frame : Json) (events : List (Event Socket)) : Watch Socket :=
  run (Watch.step settings) (Watch.start settings state ws frame) events

/-- The process runs, and the socket is open with room for frames. -/
def Open (state : State Socket) (ws : Socket) : Prop :=
  state.crashed = false ∧ Writable state ws

instance (state : State Socket) (ws : Socket) :
    Decidable (Open state ws) :=
  inferInstanceAs
    (Decidable (state.crashed = false ∧ Writable state ws))

/-! ## Truthful replies -/

def IsReply : WsServerFrame → Prop
  | .ack _ _ _ => True
  | .error _ _ _ => True
  | _ => False

/-- The command carries the fields of the frame and the sender. -/
structure SentBy
    (frame : Json) (sender : UserId) (command : MessageWriteCommand) :
    Prop where
  requestId :
    frame.field "request_id" = .ok (some (.string command.requestId))
  roomId : frame.field "chat_id" = .ok (some (.string command.roomId))
  body :
    ∃ body,
      frame.field "body" = .ok (some (.string body)) ∧
        command.body = trim body
  senderId : command.senderId = sender

/-- A few attempts with one command, which is that of the frame. -/
structure Attempts
    (frame : Json) (sender : UserId)
    (attempts : List MessageWriteCommand) : Prop where
  bounded : attempts.length ≤ publishAttempts
  identical : ∀ first ∈ attempts, ∀ second ∈ attempts, first = second
  sent : ∀ command ∈ attempts, SentBy frame sender command

/-- The call has not rejected, and has sent one truthful reply. -/
structure Replied
    (ws : Socket) (frame : Json) (sender : UserId)
    (exchange : Exchange Socket) : Prop where
  alive : exchange.rejected = false
  reply : ∃ reply, exchange.frames = [(ws, reply)] ∧ IsReply reply
  acked :
    (∃ requestId messageId acceptedAt,
      exchange.frames = [(ws, .ack requestId messageId acceptedAt)]) ↔
        exchange.resolved = true
  attempts : Attempts frame sender exchange.attempts
  truthful :
    ∀ requestId messageId acceptedAt,
      (ws, .ack requestId messageId acceptedAt) ∈ exchange.frames →
        ∃ command ∈ exchange.attempts,
          command.requestId = requestId ∧
            command.messageId = messageId ∧
              command.acceptedAt = acceptedAt

/-! ## Settled calls -/

section Settling

variable {ws : Socket} {frame : Json} {sender : UserId}
  {exchange : Exchange Socket}

theorem Attempts.nil : Attempts frame sender [] where
  bounded := Nat.zero_le _
  identical := fun _ member => by cases member
  sent := fun _ member => by cases member

theorem Attempts.replicate
    {command : MessageWriteCommand} (sent : SentBy frame sender command)
    {count : Nat} (few : count ≤ publishAttempts) :
    Attempts frame sender (List.replicate count command) where
  bounded := by
    rw [List.length_replicate]
    exact few
  identical := by
    intro first firstMember second secondMember
    rw [List.eq_of_mem_replicate firstMember,
      List.eq_of_mem_replicate secondMember]
  sent := by
    intro other member
    rw [List.eq_of_mem_replicate member]
    exact sent

omit [DecidableEq Socket] in
theorem Replied.error
    {reason : WsErrorReason} {requestId detail : Option String}
    (alive : exchange.rejected = false)
    (frames : exchange.frames = [(ws, .error reason requestId detail)])
    (unresolved : exchange.resolved = false)
    (attempts : Attempts frame sender exchange.attempts) :
    Replied ws frame sender exchange where
  alive := alive
  reply := ⟨_, frames, trivial⟩
  acked := by simp [frames, unresolved]
  attempts := attempts
  truthful := by simp [frames]

omit [DecidableEq Socket] in
theorem Replied.ack
    {command : MessageWriteCommand}
    (alive : exchange.rejected = false)
    (frames :
      exchange.frames =
        [(ws,
          .ack command.requestId command.messageId command.acceptedAt)])
    (resolved : exchange.resolved = true)
    (attempts : Attempts frame sender exchange.attempts)
    (member : command ∈ exchange.attempts) :
    Replied ws frame sender exchange where
  alive := alive
  reply := ⟨_, frames, trivial⟩
  acked := by simp [frames, resolved]
  attempts := attempts
  truthful := by
    intro requestId messageId acceptedAt sent
    rw [frames, List.mem_singleton] at sent
    cases sent
    exact ⟨command, member, rfl, rfl, rfl⟩

/-- How a call ends. -/
def Settled
    (ws : Socket) (frame : Json) (sender : UserId)
    (exchange : Exchange Socket) : Prop :=
  exchange.queryFailed = false ∧ Replied ws frame sender exchange ∨
    exchange.queryFailed = true ∧ exchange.rejected = true

omit [DecidableEq Socket] in
theorem Settled.replied_iff
    (settled : Settled ws frame sender exchange) :
    Replied ws frame sender exchange ↔ exchange.queryFailed = false := by
  rcases settled with ⟨answered, replied⟩ | ⟨failed, rejected⟩
  · exact ⟨fun _ => answered, fun _ => replied⟩
  · constructor
    · intro replied
      have alive := replied.alive
      rw [rejected] at alive
      cases alive
    · intro answered
      rw [failed] at answered
      cases answered

end Settling

/-! ## Turns -/

/-- The turns of a call, if it is accepted after the last attempt. -/
def sendTurns : Nat := 8

/-- The turns that a handler may still need. -/
def rank : Handler Socket → Nat
  | .limitSend _ _ => 8
  | .joinSend _ _ .waiting => 7
  | .joinSend _ _ _ => 6
  | .publish _ _ left => 2 * left + 1
  | .retry _ _ left => 2 * left + 2
  | _ => 0

def hasFailed : Answer Bool → Bool
  | .failed => true
  | _ => false

/-- The call for the frame waits with a handler. -/
inductive Waits (ws : Socket) (frame : Json) (sender : UserId) :
    Exchange Socket → Handler Socket → Prop where
  | limit (turns : Nat) (checked : SendFrame) :
      checkSend frame = .ok (.ok checked) →
        Waits ws frame sender { turns := turns } (.limitSend ws checked)
  | join (turns : Nat) (checked : SendFrame) (answer : Answer Bool) :
      checkSend frame = .ok (.ok checked) →
        Waits ws frame sender
          { turns := turns, queryFailed := hasFailed answer }
          (.joinSend ws checked answer)
  | publish (turns : Nat) (command : MessageWriteCommand) (left : Nat) :
      SentBy frame sender command → left < publishAttempts →
        Waits ws frame sender
          { turns := turns
            attempts :=
              List.replicate (publishAttempts - left) command }
          (.publish ws command left)
  | retry (turns : Nat) (command : MessageWriteCommand) (left : Nat) :
      SentBy frame sender command → left + 1 < publishAttempts →
        Waits ws frame sender
          { turns := turns
            attempts :=
              List.replicate (publishAttempts - (left + 1)) command }
          (.retry ws command left)

/-- The call waits within its turns, or it is settled. -/
structure Continues
    (ws : Socket) (frame : Json) (sender : UserId)
    (exchange : Exchange Socket) (next : Option (Handler Socket)) :
    Prop where
  waits :
    ∀ handler, next = some handler →
      Waits ws frame sender exchange handler ∧
        exchange.turns + rank handler ≤ sendTurns
  settled : next = none → Settled ws frame sender exchange

section Turns

variable {ws : Socket} {frame : Json} {sender : UserId}
  {exchange : Exchange Socket} {handler : Handler Socket}

omit [DecidableEq Socket] in
theorem Continues.waiting
    (waits : Waits ws frame sender exchange handler)
    (bound : exchange.turns + rank handler ≤ sendTurns) :
    Continues ws frame sender exchange (some handler) where
  waits := by
    rintro _ ⟨⟩
    exact ⟨waits, bound⟩
  settled := fun ended => by cases ended

omit [DecidableEq Socket] in
theorem Continues.ended
    (settled : Settled ws frame sender exchange) :
    Continues ws frame sender exchange none where
  waits := fun _ waits => by cases waits
  settled := fun _ => settled

omit [DecidableEq Socket] in
theorem Continues.reply
    (answered : exchange.queryFailed = false)
    (replied : Replied ws frame sender exchange) :
    Continues ws frame sender exchange none :=
  .ended (.inl ⟨answered, replied⟩)

omit [DecidableEq Socket] in
/-- Queries that the call does not wait for. -/
theorem Exchange.turn_other
    {event : Event Socket} {after : State Socket}
    (notAwaited : comes handler event = false)
    (unresolved : resolves handler event = false)
    (answered : failsQuery handler event = false)
    (running : after.crashed = false) :
    exchange.turn handler event { state := after } = exchange := by
  cases exchange
  simp [Exchange.turn, notAwaited, unresolved, answered, running]

omit [DecidableEq Socket] in
/-- What the call waits for has come, and it goes on. -/
theorem Exchange.turn_silent
    {event : Event Socket} {after : State Socket}
    (awaited : comes handler event = true)
    (unresolved : resolves handler event = false)
    (answered : failsQuery handler event = false)
    (running : after.crashed = false) {turns : Nat}
    {attempts : List MessageWriteCommand} :
    Exchange.turn { turns := turns, attempts := attempts } handler event
        { state := after } =
      { turns := turns + 1, attempts := attempts } := by
  simp [Exchange.turn, awaited, unresolved, answered, running]

omit [DecidableEq Socket] in
/-- The database executes the membership query, or there is none. -/
theorem Waits.query
    (waits : Waits ws frame sender exchange handler)
    (bound : exchange.turns + rank handler ≤ sendTurns)
    (state : State Socket) (index : Nat) (succeeds : Bool)
    {after : State Socket} (running : after.crashed = false) :
    Continues ws frame sender
      (exchange.turn handler (.query index succeeds) { state := after })
      (some (answer state succeeds handler)) := by
  have other :
      comes handler (.query index succeeds) = false →
        failsQuery handler (.query index succeeds) = false →
          resolves handler (.query index succeeds) = false →
            answer state succeeds handler = handler →
              Continues ws frame sender
                (exchange.turn handler (.query index succeeds)
                  { state := after })
                (some (answer state succeeds handler)) := by
    intro notAwaited answered unresolved same
    rw [Exchange.turn_other notAwaited unresolved answered running, same]
    exact .waiting waits bound
  cases waits with
  | limit turns checked isChecked => exact other rfl rfl rfl rfl
  | join turns checked membership isChecked =>
      cases membership with
      | waiting =>
          have room : turns + 7 ≤ sendTurns := bound
          have same :
              Exchange.turn
                  { turns := turns, queryFailed := hasFailed .waiting }
                  (.joinSend ws checked .waiting)
                  (.query index succeeds) { state := after } =
                { turns := turns + 1, queryFailed := !succeeds } := by
            simp [Exchange.turn, comes, resolves, failsQuery, running,
              hasFailed]
          rw [same]
          cases succeeds with
          | true =>
              exact
                .waiting (.join (turns + 1) checked (.rows _) isChecked)
                  (show turns + 1 + 6 ≤ sendTurns by omega)
          | false =>
              exact
                .waiting (.join (turns + 1) checked .failed isChecked)
                  (show turns + 1 + 6 ≤ sendTurns by omega)
      | failed => exact other rfl rfl rfl rfl
      | rows found => exact other rfl rfl rfl rfl
  | publish turns command left sent few => exact other rfl rfl rfl rfl
  | retry turns command left sent few => exact other rfl rfl rfl rfl

section Resuming

variable (settings : Settings) {state : State Socket}
  (opened : Open state ws) (isSender : (state.client ws).userId = sender)

include opened

/-- The frame reaches the client, and the process goes on. -/
theorem sendJson_open (reply : WsServerFrame) :
    (Reaction.sendJson { state := state } ws reply).frames =
        [(ws, reply)] ∧
      (Reaction.sendJson { state := state } ws reply).published = [] ∧
        (Reaction.sendJson { state := state } ws reply).state.crashed =
          false := by
  rcases sendJson_cases { state := state } ws reply with
    ⟨_, published, frames⟩
  refine ⟨?_, published, ?_⟩
  · rw [frames, if_pos opened.2]
    rfl
  · rw [sendJson_crashed]
    exact opened.1

/-- An error ends the call, and tells what happened. -/
theorem error_ends
    (reason : WsErrorReason) (requestId detail : Option String)
    {event : Event Socket} {after : State Socket}
    (running : after.crashed = false)
    (unresolved : resolves handler event = false)
    (answered : failsQuery handler event = false)
    {turns : Nat} {attempts : List MessageWriteCommand}
    (tried : Attempts frame sender attempts) :
    Continues ws frame sender
      (Exchange.turn { turns := turns, attempts := attempts } handler
        event
        { Reaction.sendJson { state := state } ws
            (.error reason requestId detail) with
          state := after })
      none := by
  rcases sendJson_open opened (.error reason requestId detail) with
    ⟨frames, published, _⟩
  apply Continues.reply
  · simp [Exchange.turn, answered]
  · apply Replied.error
    · simp [Exchange.turn, running]
    · exact frames
    · simp [Exchange.turn, unresolved]
    · simp only [Exchange.turn, published, List.append_nil]
      exact tried

/-- An attempt has resolved, and the ack is that of its command. -/
theorem ack_ends
    {command : MessageWriteCommand} {left index : Nat}
    {input : Resumption} {after : State Socket}
    (running : after.crashed = false) {turns : Nat}
    (isPublish : handler = .publish ws command left)
    (published : input.published = true)
    (sent : SentBy frame sender command) (few : left < publishAttempts) :
    Continues ws frame sender
      (Exchange.turn
        { turns := turns
          attempts :=
            List.replicate (publishAttempts - left) command }
        handler (.resume index input)
        { Reaction.sendJson { state := state } ws
            (.ack command.requestId command.messageId
              command.acceptedAt) with
          state := after })
      none := by
  subst isPublish
  rcases sendJson_open opened
      (.ack command.requestId command.messageId command.acceptedAt) with
    ⟨frames, unpublished, _⟩
  apply Continues.reply rfl
  refine Replied.ack ?_ frames ?_ ?_ ?_
  · simp [Exchange.turn, running]
  · simp [Exchange.turn, resolves, published]
  · simp only [Exchange.turn, unpublished, List.append_nil]
    exact .replicate sent (Nat.sub_le _ _)
  · simp only [Exchange.turn, unpublished, List.append_nil]
    exact List.mem_replicate.mpr ⟨by omega, rfl⟩

omit opened [DecidableEq Socket] in
theorem sentBy_bufferedCommand
    {checked : SendFrame} (isChecked : checkSend frame = .ok (.ok checked))
    {client : PresenceStore.ClientState}
    (isSender : client.userId = sender) (now : Timestamp) :
    SentBy frame sender
      (bufferedCommand settings client checked now) := by
  rcases checkSend_fields isChecked with ⟨requestId, roomId, body⟩
  exact ⟨requestId, roomId, ⟨checked.body, body, rfl⟩, isSender⟩

omit opened [DecidableEq Socket] in
/-- An accepted frame makes the first attempt. -/
theorem accept_waits
    {checked : SendFrame} (isChecked : checkSend frame = .ok (.ok checked))
    {reaction : Reaction Socket} (silent : reaction.frames = [])
    (unpublished : reaction.published = [])
    (isSender : (reaction.state.client ws).userId = sender)
    (now : Timestamp) {event : Event Socket} {after : State Socket}
    (running : after.crashed = false)
    (unresolved : resolves handler event = false)
    (answered : failsQuery handler event = false)
    {turns : Nat} (room : turns + 6 ≤ sendTurns) :
    Continues ws frame sender
      (Exchange.turn { turns := turns } handler event
        { (acceptSend settings reaction ws checked now).1 with
          state := after })
      (acceptSend settings reaction ws checked now).2 := by
  have sent :=
    sentBy_bufferedCommand settings isChecked isSender now
  have later :
      Waits ws frame sender _ (.publish ws _ (publishAttempts - 1)) :=
    .publish (turns + if comes handler event then 1 else 0) _
      (publishAttempts - 1) sent (by decide)
  have same :
      Exchange.turn { turns := turns } handler event
          { (acceptSend settings reaction ws checked now).1 with
            state := after } =
        { turns := turns + if comes handler event then 1 else 0
          attempts :=
            List.replicate (publishAttempts - (publishAttempts - 1))
              (bufferedCommand settings (reaction.state.client ws)
                checked now) } := by
    simp [Exchange.turn, acceptSend, Reaction.publish, silent,
      unpublished, unresolved, answered, running, publishAttempts]
  rw [same]
  refine .waiting later ?_
  simp only [rank, publishAttempts]
  split <;> omega

/-- The call goes on or settles when the handler resumes. -/
def Resumes
    (settings : Settings) (state : State Socket) (ws : Socket)
    (frame : Json) (sender : UserId) (exchange : Exchange Socket)
    (handler : Handler Socket) : Prop :=
  ∀ (index : Nat) (input : Resumption) (after : State Socket),
    after.crashed =
        (resume settings { state := state } input
          handler).1.state.crashed →
      Continues ws frame sender
        (exchange.turn handler (.resume index input)
          { (resume settings { state := state } input handler).1 with
            state := after })
        (resume settings { state := state } input handler).2

include isSender in
theorem limitSend_resumes
    {turns : Nat} {checked : SendFrame}
    (isChecked : checkSend frame = .ok (.ok checked))
    (room : turns + 8 ≤ sendTurns) :
    Resumes settings state ws frame sender { turns := turns }
      (.limitSend ws checked) := by
  intro index input after crashed
  simp only [resume] at crashed ⊢
  split at crashed
  · rename_i allowed
    simp only [allowed, if_true]
    split at crashed
    · rename_i indexed
      simp only [indexed, if_true]
      exact
        accept_waits settings isChecked rfl rfl isSender input.now
          (crashed.trans opened.1) rfl rfl (by omega)
    · rename_i missing
      simp only [missing, if_false]
      rw [Exchange.turn_silent rfl rfl rfl (crashed.trans opened.1)]
      exact
        .waiting (.join (turns + 1) checked .waiting isChecked)
          (show turns + 1 + 7 ≤ sendTurns by omega)
  · rename_i refused
    simp only [refused]
    exact
      error_ends opened _ _ _
        (crashed.trans (sendJson_open opened _).2.2) rfl rfl .nil

include isSender in
theorem joinSend_resumes
    {turns : Nat} {checked : SendFrame} (membership : Answer Bool)
    (isChecked : checkSend frame = .ok (.ok checked))
    (bound :
      turns + rank (.joinSend ws checked membership) ≤ sendTurns) :
    Resumes settings state ws frame sender
      { turns := turns, queryFailed := hasFailed membership }
      (.joinSend ws checked membership) := by
  intro index input after crashed
  cases membership with
  | waiting =>
      simp only [resume] at crashed ⊢
      rw [Exchange.turn_other rfl rfl rfl (crashed.trans opened.1)]
      exact .waiting (.join turns checked .waiting isChecked) bound
  | failed =>
      -- nobody catches the failure of the query
      refine .ended (.inr ⟨rfl, ?_⟩)
      simp only [Exchange.turn, Bool.or_eq_true]
      exact .inr crashed
  | rows isMember =>
      have room : turns + 6 ≤ sendTurns := bound
      cases isMember with
      | true =>
          exact
            accept_waits settings isChecked rfl rfl
              ((joinRooms_userId { state := state } ws ws _).trans
                isSender)
              input.now (crashed.trans opened.1) rfl rfl room
      | false =>
          exact
            error_ends opened _ _ _
              (crashed.trans (sendJson_open opened _).2.2) rfl rfl .nil

theorem publish_resumes
    {turns left : Nat} {command : MessageWriteCommand}
    (sent : SentBy frame sender command) (few : left < publishAttempts)
    (room : turns + (2 * left + 1) ≤ sendTurns) :
    Resumes settings state ws frame sender
      { turns := turns
        attempts := List.replicate (publishAttempts - left) command }
      (.publish ws command left) := by
  intro index input after crashed
  simp only [resume] at crashed ⊢
  split at crashed
  · rename_i published
    simp only [published, if_true]
    exact
      ack_ends opened (crashed.trans (sendJson_open opened _).2.2) rfl
        published sent few
  · rename_i lost
    have unresolved :
        resolves (.publish ws command left) (.resume index input) =
          false := by
      simpa [resolves] using lost
    simp only [lost]
    cases left with
    | zero =>
        exact
          error_ends opened _ _ _
            (crashed.trans (sendJson_open opened _).2.2) unresolved rfl
            (.replicate sent (Nat.sub_le _ _))
    | succ left =>
        rw [if_neg Bool.false_ne_true,
          Exchange.turn_silent rfl unresolved rfl
            (crashed.trans opened.1)]
        exact
          .waiting (.retry (turns + 1) command left sent few)
            (show turns + 1 + (2 * left + 2) ≤ sendTurns by omega)

/-- Every attempt publishes the command of the first one. -/
theorem retry_resumes
    {turns left : Nat} {command : MessageWriteCommand}
    (sent : SentBy frame sender command)
    (few : left + 1 < publishAttempts)
    (room : turns + (2 * left + 2) ≤ sendTurns) :
    Resumes settings state ws frame sender
      { turns := turns
        attempts :=
          List.replicate (publishAttempts - (left + 1)) command }
      (.retry ws command left) := by
  intro index input after crashed
  have running : after.crashed = false := crashed.trans opened.1
  have counted :
      publishAttempts - left = publishAttempts - (left + 1) + 1 := by
    omega
  have same :
      Exchange.turn
          { turns := turns
            attempts :=
              List.replicate (publishAttempts - (left + 1)) command }
          (.retry ws command left) (.resume index input)
          { Reaction.publish { state := state } command with
            state := after } =
        { turns := turns + 1
          attempts := List.replicate (publishAttempts - left) command } := by
    rw [counted, List.replicate_succ']
    simp [Exchange.turn, comes, resolves, failsQuery, Reaction.publish,
      running]
  simp only [resume]
  rw [same]
  exact
    .waiting (.publish (turns + 1) command left sent (by omega))
      (show turns + 1 + (2 * left + 1) ≤ sendTurns by omega)

include isSender in
theorem Waits.resumes
    (waits : Waits ws frame sender exchange handler)
    (bound : exchange.turns + rank handler ≤ sendTurns) :
    Resumes settings state ws frame sender exchange handler := by
  cases waits with
  | limit turns checked isChecked =>
      exact limitSend_resumes settings opened isSender isChecked bound
  | join turns checked membership isChecked =>
      exact
        joinSend_resumes settings opened isSender membership isChecked
          bound
  | publish turns command left sent few =>
      exact publish_resumes settings opened sent few bound
  | retry turns command left sent few =>
      exact retry_resumes settings opened sent few bound

end Resuming

end Turns

/-! ## Runs -/

section Steps

variable (settings : Settings) {state : State Socket}
  {event : Event Socket}

/-- The user of an open socket does not change. -/
theorem client_userId_step
    {ws : Socket} (opened : state.readyState ws = .opened) :
    ((Server.step settings state event).client ws).userId =
      (state.client ws).userId := by
  rcases step_change settings state event with ⟨base, change, quiet⟩
  have sameClient : (Server.step settings state event).client = base.client :=
    quiet.client
  rw [sameClient]
  cases change with
  | same => rfl
  | createChat rows => rfl
  | connect other userId uuid absent =>
      have different : ws ≠ other := by
        rintro rfl
        rw [opened] at absent
        cases absent
      simp [connected, different]
  | buffer other backpressured => rfl
  | close other live => rfl
  | join index input handler other rooms running found cause =>
      exact joinRooms_userId { state := state } other ws rooms

variable {index : Nat} {handler : Handler Socket}
  (running : state.crashed = false)
  (found : state.handlers[index]? = some handler)

include running found

theorem react_query (succeeds : Bool) :
    react settings state (.query index succeeds) =
      { state :=
          replaceHandler state index
            (some (answer state succeeds handler)) } := by
  simp [react, running, found]

theorem react_resume (input : Resumption) :
    react settings state (.resume index input) =
      { (resume settings { state := state } input handler).1 with
        state :=
          replaceHandler
            (resume settings { state := state } input handler).1.state
            index
            (resume settings { state := state } input handler).2 } := by
  simp [react, running, found]

omit running in
theorem moved_own (input : Resumption) :
    moved settings state index (.resume index input) =
      (resume settings { state := state } input handler).2.map
        fun _ => index := by
  cases next : (resume settings { state := state } input handler).2 with
  | none => simp [moved, found, next]
  | some later => simp [moved, found, next]

omit found in
/-- The handlers before and after a handler that goes on or ends. -/
theorem moved_resume
    {position : Nat} {other : Handler Socket}
    (isOther : state.handlers[position]? = some other)
    (found : state.handlers[index]? = some handler)
    (different : position ≠ index) (input : Resumption) :
    ∃ later,
      moved settings state index (.resume position input) = some later ∧
        (react settings state (.resume position input)).state.handlers[
            later]? = some handler := by
  rw [react_resume settings running isOther]
  have handlers :
      (resume settings { state := state } input
          other).1.state.handlers = state.handlers :=
    resume_handlers { state := state } settings input other
  simp only [moved, isOther, replaceHandler, handlers]
  cases ended : (resume settings { state := state } input other).2 with
  | some next =>
      refine ⟨index, rfl, ?_⟩
      simp only [List.getElem?_set_ne different]
      exact found
  | none =>
      simp only [Option.isSome_none, Bool.false_eq_true, if_false,
        if_neg different]
      by_cases before : position < index
      · refine ⟨index - 1, if_pos before, ?_⟩
        rw [List.getElem?_eraseIdx_of_ge (by omega),
          Nat.sub_add_cancel (by omega)]
        exact found
      · refine ⟨index, if_neg before, ?_⟩
        rw [List.getElem?_eraseIdx_of_lt (by omega)]
        exact found

/-- A handler stays when the event is for another one, or for none. -/
theorem moved_found
    (other : handlerIndex event ≠ some index) :
    ∃ later, moved settings state index event = some later ∧
      (react settings state event).state.handlers[later]? =
        some handler := by
  cases forHandler : handlerIndex event with
  | none =>
      have grows := handlers_grow settings state forHandler
      refine ⟨index, ?_, ?_⟩
      · cases event with
        | query position succeeds => cases forHandler
        | resume position input => cases forHandler
        | _ => rfl
      · rcases grows with ⟨started, isGrown⟩
        have grown :
            (react settings state event).state.handlers =
              state.handlers ++ started := isGrown.symm
        rw [grown, List.getElem?_append_left
          (List.getElem?_eq_some_iff.mp found).1]
        exact found
  | some position =>
      have different : position ≠ index := by
        rintro rfl
        exact other forHandler
      cases isOther : state.handlers[position]? with
      | none =>
          refine ⟨index, ?_, ?_⟩
          · cases event with
            | resume _ input =>
                cases forHandler
                simp [moved, isOther]
            | _ => rfl
          · cases event with
            | query _ succeeds =>
                cases forHandler
                simpa [react, running, isOther] using found
            | resume _ input =>
                cases forHandler
                simpa [react, running, isOther] using found
            | _ => cases forHandler
      | some waiting =>
          cases event with
          | query _ succeeds =>
              cases forHandler
              refine ⟨index, rfl, ?_⟩
              rw [react_query settings running isOther]
              simp only [replaceHandler, List.getElem?_set_ne different]
              exact found
          | resume _ input =>
              cases forHandler
              exact
                moved_resume settings running isOther found different
                  input
          | _ => cases forHandler

end Steps

/-- The watched call waits within its turns, or it is settled. -/
structure Followed
    (ws : Socket) (frame : Json) (sender : UserId)
    (watch : Watch Socket) : Prop where
  isSender : (watch.state.client ws).userId = sender
  waits :
    ∀ index, watch.position = some index →
      ∃ handler, watch.state.handlers[index]? = some handler ∧
        Waits ws frame sender watch.exchange handler ∧
          watch.exchange.turns + rank handler ≤ sendTurns
  settled :
    watch.position = none → Settled ws frame sender watch.exchange

section Following

variable {settings : Settings} {ws : Socket} {frame : Json}
  {sender : UserId} {watch : Watch Socket} {event : Event Socket}

theorem step_waiting
    {index : Nat} {handler : Handler Socket}
    (waiting : watch.position = some index)
    (found : watch.state.handlers[index]? = some handler) :
    Watch.step settings watch event =
      { state := Server.step settings watch.state event
        position := moved settings watch.state index event
        exchange :=
          if handlerIndex event = some index then
            watch.exchange.turn handler event
              (react settings watch.state event)
          else watch.exchange } := by
  simp only [Watch.step, waiting, found]
  rfl

omit [DecidableEq Socket] in
theorem Continues.followed
    (isSender : (watch.state.client ws).userId = sender)
    {next : Option (Handler Socket)}
    (continues : Continues ws frame sender watch.exchange next)
    {index : Nat} (position : watch.position = next.map fun _ => index)
    (place :
      ∀ handler, next = some handler →
        watch.state.handlers[index]? = some handler) :
    Followed ws frame sender watch where
  isSender := isSender
  waits := by
    intro later waiting
    rw [position] at waiting
    rcases Option.map_eq_some_iff.mp waiting with ⟨handler, isNext, rfl⟩
    exact ⟨handler, place handler isNext, continues.waits handler isNext⟩
  settled := by
    intro ended
    rw [position, Option.map_eq_none_iff] at ended
    exact continues.settled ended

/-- The turns of the call itself. -/
theorem Followed.turn
    (opened : Open watch.state ws)
    (isSender :
      ((Server.step settings watch.state event).client ws).userId =
        sender)
    (senderBefore : (watch.state.client ws).userId = sender)
    {index : Nat} {handler : Handler Socket}
    (found : watch.state.handlers[index]? = some handler)
    (waits : Waits ws frame sender watch.exchange handler)
    (bound : watch.exchange.turns + rank handler ≤ sendTurns)
    (own : handlerIndex event = some index) :
    Followed ws frame sender
      { state := Server.step settings watch.state event
        position := moved settings watch.state index event
        exchange :=
          watch.exchange.turn handler event
            (react settings watch.state event) } := by
  have inside : index < watch.state.handlers.length :=
    (List.getElem?_eq_some_iff.mp found).1
  cases event with
  | query _ succeeds =>
      cases own
      have reacted := react_query settings opened.1 found succeeds
      have continues :=
        waits.query bound watch.state index succeeds opened.1
      rw [Server.step, reacted] at isSender ⊢
      refine continues.followed isSender rfl ?_
      rintro _ ⟨⟩
      exact List.getElem?_set_self inside
  | resume _ input =>
      cases own
      have reacted := react_resume settings opened.1 found input
      have continues :=
        waits.resumes settings opened senderBefore bound index input _ rfl
      rw [Server.step, reacted] at isSender ⊢
      refine
        continues.followed isSender
          (moved_own settings found input) ?_
      intro later next
      simp only [replaceHandler, next]
      rw [resume_handlers { state := watch.state } settings input handler]
      exact List.getElem?_set_self inside
  | _ => cases own

theorem Followed.step
    (opened : Open watch.state ws)
    (followed : Followed ws frame sender watch) (event : Event Socket) :
    Followed ws frame sender (Watch.step settings watch event) := by
  have isSender :
      ((Server.step settings watch.state event).client ws).userId =
        sender :=
    (client_userId_step settings opened.2.1).trans followed.isSender
  cases position : watch.position with
  | none =>
      have stays :
          Watch.step settings watch event =
            { watch with
              state := Server.step settings watch.state event } := by
        simp only [Watch.step, position]
        rfl
      rw [stays]
      exact
        { isSender := isSender
          waits := fun index waiting => by
            rw [position] at waiting
            cases waiting
          settled := followed.settled }
  | some index =>
      rcases followed.waits index position with
        ⟨handler, found, waits, bound⟩
      rw [step_waiting position found]
      by_cases own : handlerIndex event = some index
      · rw [if_pos own]
        exact
          Followed.turn opened isSender followed.isSender found waits bound
            own
      · rw [if_neg own]
        rcases moved_found settings opened.1 found own with
          ⟨later, isLater, foundLater⟩
        exact
          { isSender := isSender
            waits := fun place waiting => by
              rw [isLater] at waiting
              cases waiting
              exact ⟨handler, foundLater, waits, bound⟩
            settled := fun ended => by
              rw [isLater] at ended
              cases ended }

/-- The frame is answered at once, or the call waits for the limiter. -/
theorem Followed.start
    (settings : Settings) {state : State Socket}
    (opened : Open state ws) (isSend : HasType frame "send") :
    Followed ws frame (state.client ws).userId
      (Watch.start settings state ws frame) := by
  have isValue : frame ≠ .null := by
    rintro rfl
    cases isSend
  have reacted :
      react settings state (.message ws (some frame)) =
        onMessage state ws (some frame) := by
    simp [react, opened.1, opened.2.1]
  simp only [Watch.start, reacted, onMessage, dispatch_send isSend]
  rcases checkSend_ok isValue with ⟨detail | checked, isChecked⟩
  · simp only [isChecked]
    rcases sendJson_open opened
        (.error .validationFailed (truthy none) (truthy (some detail)))
      with ⟨frames, published, alive⟩
    have quiet :=
      sendError_quiet { state := state } ws .validationFailed detail none
    simp only [quiet.handlers, lt_irrefl, if_false]
    refine
      { isSender := by rw [quiet.client]
        waits := fun _ waiting => by cases waiting
        settled := fun _ => .inl ⟨rfl, ?_⟩ }
    refine .error alive frames rfl ?_
    exact published.symm ▸ Attempts.nil
  · simp only [isChecked]
    have awaited :
        state.handlers.length <
          (Reaction.await { state := state }
            (.limitSend ws checked)).state.handlers.length := by
      simp [Reaction.await]
    rw [if_pos awaited]
    refine
      { isSender := rfl
        waits := ?_
        settled := fun ended => by cases ended }
    rintro _ ⟨⟩
    refine ⟨.limitSend ws checked, ?_, ?_, le_refl sendTurns⟩
    · simp [Reaction.await]
    · have waits :
          Waits ws frame (state.client ws).userId { turns := 0 }
            (.limitSend ws checked) := .limit 0 checked isChecked
      simpa [Reaction.await, opened.1] using waits

omit [DecidableEq Socket] in
/-- What the call waits for can come. -/
theorem Waits.can_come
    {exchange : Exchange Socket} {handler : Handler Socket}
    (waits : Waits ws frame sender exchange handler) (index : Nat) :
    ∃ event : Event Socket,
      handlerIndex event = some index ∧ comes handler event = true := by
  cases waits with
  | join turns checked membership isChecked =>
      cases membership with
      | waiting => exact ⟨.query index true, rfl, rfl⟩
      | failed => exact ⟨.resume index {}, rfl, rfl⟩
      | rows found => exact ⟨.resume index {}, rfl, rfl⟩
  | _ => exact ⟨.resume index {}, rfl, rfl⟩

omit [DecidableEq Socket] in
theorem Waits.rank_pos
    {exchange : Exchange Socket} {handler : Handler Socket}
    (waits : Waits ws frame sender exchange handler) :
    0 < rank handler := by
  cases waits with
  | join turns checked membership isChecked =>
      cases membership <;> simp [rank]
  | _ => simp [rank]

/-- A waiting call has turns left, and can get the next one. -/
theorem Followed.goes_on
    (settings : Settings) (followed : Followed ws frame sender watch)
    (waiting : watch.position ≠ none) :
    watch.exchange.turns < sendTurns ∧
      ∃ event,
        (Watch.step settings watch event).exchange.turns =
          watch.exchange.turns + 1 := by
  rcases Option.ne_none_iff_exists'.mp waiting with ⟨index, position⟩
  rcases followed.waits index position with
    ⟨handler, found, waits, bound⟩
  constructor
  · have needed := waits.rank_pos
    omega
  · rcases waits.can_come index with ⟨event, own, awaited⟩
    refine ⟨event, ?_⟩
    rw [step_waiting position found, if_pos own]
    simp [Exchange.turn, awaited]

end Following

/--
While the socket stays open, every call settles within its turns.  It gets
exactly one truthful reply if and only if its membership query did not fail.
-/
theorem send_replied_iff
    (settings : Settings) {state : State Socket} {ws : Socket}
    {frame : Json} (isSend : HasType frame "send")
    (opened : Open state ws) {events : List (Event Socket)}
    (staysOpen :
      EveryStep (Watch.step settings) (fun watch _ => Open watch.state ws)
        (Watch.start settings state ws frame) events) :
    ((watched settings state ws frame events).position ≠ none →
      (watched settings state ws frame events).exchange.turns <
          sendTurns ∧
        ∃ event,
          (watched settings state ws frame
              (events ++ [event])).exchange.turns =
            (watched settings state ws frame events).exchange.turns +
              1) ∧
      ((watched settings state ws frame events).position = none →
        (Replied ws frame (state.client ws).userId
            (watched settings state ws frame events).exchange ↔
          (watched settings state ws frame events).exchange.queryFailed =
            false)) := by
  have followed :
      Followed ws frame (state.client ws).userId
        (watched settings state ws frame events) :=
    run_guarded (fun _ event followed isOpen => followed.step isOpen event)
      (Followed.start settings opened isSend) staysOpen
  constructor
  · intro waiting
    rcases followed.goes_on settings waiting with
      ⟨left, event, comes⟩
    refine ⟨left, event, ?_⟩
    simp only [watched, run_append] at comes ⊢
    exact comes
  · intro ended
    exact (followed.settled ended).replied_iff

/-- Ann is a member of the room, and has connected. -/
def exampleMember : State Unit :=
  run (Server.step exampleSettings)
    (State.start [{ userId := "ann", roomId := "room", joinedAt := 0 }])
    [.connect () "ann" "uuid"]

/-- One attempt is lost, and the next one resolves. -/
def retriedSend : List (Event Unit) :=
  [.resume 1 {}, .query 1 true, .resume 1 { now := 7 },
    .resume 1 { published := false }, .resume 1 {}, .resume 1 {}]

theorem send_replied_iff_example :
    (watched exampleSettings exampleMember () exampleSend
        retriedSend).position = none ∧
      Replied () exampleSend "ann"
        (watched exampleSettings exampleMember () exampleSend
          retriedSend).exchange := by
  have ended :
      (watched exampleSettings exampleMember () exampleSend
        retriedSend).position = none := by decide
  have isSend : HasType exampleSend "send" := rfl
  have opened : Open exampleMember () := by decide
  have staysOpen :
      EveryStep (Watch.step exampleSettings)
        (fun watch _ => Open watch.state ())
        (Watch.start exampleSettings exampleMember () exampleSend)
        retriedSend := by
    simp only [EveryStep, retriedSend, and_true]
    decide
  have settled :=
    (send_replied_iff exampleSettings isSend opened staysOpen).2
  exact ⟨ended, (settled ended).mpr (by decide)⟩

/-- The membership query fails. -/
def failedQuery : List (Event Unit) :=
  [.resume 1 {}, .query 1 false, .resume 1 {}]

/-- The socket is open throughout, but the frame is not answered. -/
theorem failed_query_gets_no_reply :
    HasType exampleSend "send" ∧
      EveryStep (Watch.step exampleSettings)
        (fun watch _ => Open watch.state ())
        (Watch.start exampleSettings exampleMember () exampleSend)
        failedQuery ∧
      (watched exampleSettings exampleMember () exampleSend
        failedQuery).position = none ∧
      (watched exampleSettings exampleMember () exampleSend
        failedQuery).exchange.frames = [] ∧
      ¬Replied () exampleSend "ann"
        (watched exampleSettings exampleMember () exampleSend
          failedQuery).exchange := by
  refine ⟨rfl, ?_, by decide, by decide, ?_⟩
  · simp only [EveryStep, failedQuery, and_true]
    decide
  · intro replied
    exact absurd replied.alive (by decide)

end ChatBackend.Realtime.SendReplies
