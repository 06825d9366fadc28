import ChatBackend.Realtime.RoomIsolation
import ChatBackend.Realtime.SendReplies

/-!
# The commands of clients

A realtime instance publishes a command only because a client asked for it:
the client has sent a send frame over its socket, and the command carries the
fields of the frame and the user of the socket.  The frame may have come long
before, so the handlers that wait on the way carry this along, and `Backed`
is what is known of them.
-/

namespace ChatBackend.Realtime.ClientCommands

open ChatBackend.Storage.Schema
open ChatBackend.Writer.WriteCommands
open ChatBackend.Realtime.PresenceStore
open ChatBackend.Realtime.ServerFrames
open ChatBackend.Realtime.Server
open ChatBackend.Realtime.Reactions
open ChatBackend.Realtime.RoomIsolation
open ChatBackend.Realtime.SendReplies

variable {Socket : Type}

/-! ## Requests -/

/-- A frame, and the user whose socket has brought it. -/
structure ClientFrame where
  userId : UserId
  frame : Json

/-- The frames that an event brings. -/
def received (state : State Socket) : Event Socket → List ClientFrame
  | .message ws (some frame) =>
      if state.crashed = false ∧
          (state.readyState ws = .opened ∨
            state.readyState ws = .closing) then
        [{ userId := (state.client ws).userId, frame := frame }]
      else []
  | _ => []

/-- The user has sent a send frame with these fields. -/
def Requested
    (requests : List ClientFrame) (userId : UserId)
    (checked : SendFrame) : Prop :=
  ∃ frame, { userId := userId, frame := frame } ∈ requests ∧
    dispatch frame = .ok .send ∧ checkSend frame = .ok (.ok checked)

/-- The command is what its sender has asked for in a send frame. -/
def Asked
    (requests : List ClientFrame) (command : MessageWriteCommand) : Prop :=
  ∃ frame, { userId := command.senderId, frame := frame } ∈ requests ∧
    dispatch frame = .ok .send ∧ SentBy frame command.senderId command

/-- What a handler is going to publish has been asked for. -/
def Backed
    (requests : List ClientFrame) (state : State Socket) :
    Handler Socket → Prop
  | .limitSend ws checked =>
      Present state ws ∧
        Requested requests (state.client ws).userId checked
  | .joinSend ws checked _ =>
      Present state ws ∧
        Requested requests (state.client ws).userId checked
  | .publish _ command _ => Asked requests command
  | .retry _ command _ => Asked requests command
  | _ => True

section Growing

variable {requests later : List ClientFrame}
  (grows : ∀ request ∈ requests, request ∈ later)

include grows

theorem Requested.grow
    {userId : UserId} {checked : SendFrame}
    (requested : Requested requests userId checked) :
    Requested later userId checked := by
  rcases requested with ⟨frame, listed, sends, isChecked⟩
  exact ⟨frame, grows _ listed, sends, isChecked⟩

theorem Asked.grow
    {command : MessageWriteCommand} (asked : Asked requests command) :
    Asked later command := by
  rcases asked with ⟨frame, listed, sends, sent⟩
  exact ⟨frame, grows _ listed, sends, sent⟩

/-- Requests stay, and sockets stay those of their users. -/
theorem Backed.mono
    {before after : State Socket} (extension : Extends before after)
    {handler : Handler Socket}
    (backed : Backed requests before handler) :
    Backed later after handler := by
  cases handler with
  | limitSend ws checked =>
      rcases extension.present ws backed.1 with ⟨present, same⟩
      exact ⟨present, same ▸ backed.2.grow grows⟩
  | joinSend ws checked answered =>
      rcases extension.present ws backed.1 with ⟨present, same⟩
      exact ⟨present, same ▸ backed.2.grow grows⟩
  | publish ws command attemptsLeft => exact Asked.grow grows backed
  | retry ws command attemptsLeft => exact Asked.grow grows backed
  | _ => trivial

end Growing

/-- The command for a requested frame. -/
theorem Requested.asked
    {requests : List ClientFrame} {client : ClientState}
    {checked : SendFrame}
    (requested : Requested requests client.userId checked)
    (settings : Settings) (acceptedAt : Timestamp) :
    Asked requests (bufferedCommand settings client checked acceptedAt) := by
  rcases requested with ⟨frame, listed, sends, isChecked⟩
  exact
    ⟨frame, listed, sends,
      sentBy_bufferedCommand settings isChecked rfl acceptedAt⟩

/-! ## Going on -/

section Resuming

variable {requests : List ClientFrame} {reaction : Reaction Socket}

/-- Only requested commands are published, now and by the next handler. -/
structure Continues
    (requests : List ClientFrame) (reaction : Reaction Socket)
    (resumed : Reaction Socket × Option (Handler Socket)) : Prop where
  published :
    ∀ command ∈ resumed.1.published,
      command ∈ reaction.published ∨ Asked requests command
  next :
    ∀ handler, resumed.2 = some handler →
      Backed requests reaction.state handler

theorem Continues.ends
    {after : Reaction Socket}
    (same : after.published = reaction.published) :
    Continues requests reaction (after, none) where
  published := fun _ listed => .inl (same ▸ listed)
  next := fun _ impossible => by cases impossible

theorem Continues.waits
    {after : Reaction Socket} {next : Handler Socket}
    (same : after.published = reaction.published)
    (backed : Backed requests reaction.state next) :
    Continues requests reaction (after, some next) where
  published := fun _ listed => .inl (same ▸ listed)
  next := fun _ isNext => Option.some.inj isNext ▸ backed

/-- The command of a requested frame is published, in some state. -/
theorem Continues.acceptSend
    (settings : Settings) {after : Reaction Socket} {ws : Socket}
    {checked : SendFrame} (same : after.published = reaction.published)
    (requested :
      Requested requests (after.state.client ws).userId checked)
    (now : Timestamp) :
    Continues requests reaction
      (Server.acceptSend settings after ws checked now) := by
  have asked := requested.asked settings now
  constructor
  · intro command listed
    rcases List.mem_append.mp listed with old | new
    · exact .inl (same ▸ old)
    · exact .inr (List.mem_singleton.mp new ▸ asked)
  · rintro _ ⟨⟩
    exact asked

variable [DecidableEq Socket]

theorem setupWithRooms_continues
    (settings : Settings) (ws : Socket) (wasOnline : Bool)
    (rooms : List RoomId) :
    Continues requests reaction
      (setupWithRooms settings reaction ws wasOnline rooms) := by
  unfold setupWithRooms
  split
  · dsimp only
    split
    · split
      · exact .waits rfl trivial
      · exact .waits rfl trivial
    · have told :=
        (sendAll_cases (reaction.joinRooms ws rooms)
            ((findLocalOnlineRoomMembers
                (reaction.joinRooms ws rooms).state ws).map
              fun userId => (ws, WsServerFrame.presence userId true))).2.1
      split
      · exact .ends told
      · exact .ends ((sendAll_cases _ _).2.1.trans told)
  · exact .ends rfl

/-- A handler goes on. -/
theorem resume_continues
    (settings : Settings) (input : Resumption)
    {handler : Handler Socket}
    (backed : Backed requests reaction.state handler) :
    Continues requests reaction
      (resume settings reaction input handler) := by
  unfold resume
  split
  · exact setupWithRooms_continues settings _ _ _
  · exact .ends (closeSocket_frames reaction _).2
  · exact .waits rfl trivial
  · exact .ends (closeSocket_frames reaction _).2
  · split
    · exact .waits (sendAll_cases reaction _).2.1 trivial
    · exact .ends (closeSocket_frames reaction _).2
  · exact .ends rfl
  · split
    · split
      · exact .acceptSend settings rfl backed.2 input.now
      · exact .waits rfl backed
    · exact .ends (sendJson_cases reaction _ _).2.1
  · rename_i ws checked
    have unpublished :
        (reaction.joinRooms ws [checked.chatId]).published =
          reaction.published := rfl
    refine .acceptSend settings unpublished ?_ input.now
    rw [joinRooms_userId]
    exact backed.2
  · exact .ends (sendJson_cases reaction _ _).2.1
  · exact .ends rfl
  · split
    · exact .ends (sendJson_cases reaction _ _).2.1
    · split
      · exact .ends (sendJson_cases reaction _ _).2.1
      · exact .waits rfl backed
  · constructor
    · intro command listed
      rcases List.mem_append.mp listed with old | new
      · exact .inl old
      · exact .inr (List.mem_singleton.mp new ▸ backed)
    · rintro _ ⟨⟩
      exact backed
  · split
    · split
      · exact .ends (sendAll_cases reaction _).2.1
      · exact .waits rfl trivial
    · exact .ends (sendJson_cases reaction _ _).2.1
  · rename_i ws frame
    exact .ends (sendAll_cases (reaction.joinRooms ws [frame.chatId]) _).2.1
  · exact .ends (sendJson_cases reaction _ _).2.1
  · exact .ends rfl
  · exact .ends (sendAll_cases reaction _).2.1
  · exact .ends rfl
  · exact .waits rfl backed

end Resuming

/-! ## Callbacks -/

variable [DecidableEq Socket]

/-- A step keeps memberships, and connected sockets their users. -/
theorem step_extends
    (settings : Settings) (state : State Socket) (event : Event Socket) :
    Extends state (Server.step settings state event) := by
  rcases step_change settings state event with ⟨base, change, quiet⟩
  have early : Extends state base := by
    cases change with
    | same => exact Quiet.extends (Quiet.refl state)
    | createChat rows =>
        constructor
        · intro userId roomId member
          simp only [State.isMember, List.any_append, Bool.or_eq_true]
          exact .inl member
        · exact fun _ present => ⟨present, rfl⟩
    | connect ws userId uuid absent =>
        constructor
        · exact fun _ _ member => member
        · intro other present
          have different : other ≠ ws := by
            rintro rfl
            exact present absent
          simpa [Present, connected, different] using present
    | buffer ws backpressured =>
        exact
          ⟨fun _ _ member => member, fun _ present => ⟨present, rfl⟩⟩
    | close ws live =>
        constructor
        · exact fun _ _ member => member
        · intro other present
          refine ⟨?_, rfl⟩
          by_cases same : other = ws
          · subst same
            simp [Present, disconnected]
          · simpa [Present, disconnected, same] using present
    | join index input handler ws rooms running found cause =>
        have joined :
            Extends ({ state := state } : Reaction Socket).state _ :=
          joinRooms_extends ws rooms
        exact joined
  have late := Quiet.extends quiet
  constructor
  · intro userId roomId member
    exact late.member userId roomId (early.member userId roomId member)
  · intro ws present
    rcases early.present ws present with ⟨presentBase, sameBase⟩
    rcases late.present ws presentBase with ⟨presentAfter, sameAfter⟩
    exact ⟨presentAfter, sameAfter.trans sameBase⟩

/-- The handlers that a message starts wait for checks of its fields. -/
theorem onMessage_new
    {state : State Socket} {ws : Socket} {frame : Option Json}
    {handler : Handler Socket}
    (waits : handler ∈ (onMessage state ws frame).state.handlers) :
    handler ∈ state.handlers ∨
      (∃ json checked, frame = some json ∧ dispatch json = .ok .send ∧
          checkSend json = .ok (.ok checked) ∧
            handler = .limitSend ws checked) ∨
        ∃ checked, handler = .limitTyping ws checked := by
  cases frame with
  | none => exact .inl waits
  | some json =>
      simp only [onMessage] at waits
      split at waits
      · exact .inl waits
      · exact .inl ((sendJson_quiet { state := state } _ _).handlers ▸ waits)
      · rename_i sends
        split at waits
        · exact .inl waits
        · exact
            .inl
              ((sendError_quiet { state := state } _ _ _ _).handlers ▸
                waits)
        · rename_i checked isChecked
          rcases List.mem_append.mp waits with old | new
          · exact .inl old
          · exact
              .inr
                (.inl
                  ⟨json, checked, rfl, sends, isChecked,
                    List.mem_singleton.mp new⟩)
      · split at waits
        · exact .inl waits
        · exact
            .inl
              ((sendError_quiet { state := state } _ _ _ _).handlers ▸
                waits)
        · rename_i checked _
          rcases List.mem_append.mp waits with old | new
          · exact .inl old
          · exact .inr (.inr ⟨checked, List.mem_singleton.mp new⟩)
      · exact
          .inl
            ((sendError_quiet { state := state } _ _ _ _).handlers ▸
              waits)

theorem onMessage_published
    (state : State Socket) (ws : Socket) (frame : Option Json) :
    (onMessage state ws frame).published = [] := by
  cases frame with
  | none => rfl
  | some json =>
      simp only [onMessage]
      split
      · rfl
      · exact (sendJson_cases { state := state } _ _).2.1
      · split
        · rfl
        · exact (sendJson_cases { state := state } _ _).2.1
        · rfl
      · split
        · rfl
        · exact (sendJson_cases { state := state } _ _).2.1
        · rfl
      · exact (sendJson_cases { state := state } _ _).2.1

/-- A new connection waits for its setup at most. -/
theorem onConnection_new
    {requests : List ClientFrame} {settings : Settings}
    {state later : State Socket} {ws : Socket} {userId : UserId}
    {uuid : String} {handler : Handler Socket}
    (waits :
      handler ∈
        (onConnection settings state ws userId uuid).state.handlers) :
    handler ∈ state.handlers ∨ Backed requests later handler := by
  unfold onConnection at waits
  dsimp only at waits
  split at waits
  · rcases List.mem_append.mp waits with old | new
    · exact .inl old
    · exact .inr (List.mem_singleton.mp new ▸ trivial)
  · split at waits
    · rcases List.mem_append.mp waits with old | new
      · exact .inl old
      · exact .inr (List.mem_singleton.mp new ▸ trivial)
    · split at waits
      · exact .inl waits
      · exact
          .inl
            ((broadcastPresence_quiet
                { state := connected settings state ws userId uuid } ws
                true).handlers ▸ waits)

theorem onConnection_published
    (settings : Settings) (state : State Socket) (ws : Socket)
    (userId : UserId) (uuid : String) :
    (onConnection settings state ws userId uuid).published = [] := by
  unfold onConnection
  dsimp only
  split
  · rfl
  · split
    · rfl
    · split
      · rfl
      · exact
          (sendAll_cases
            { state := connected settings state ws userId uuid } _).2.1

theorem onClose_published
    (settings : Settings) (state : State Socket) (ws : Socket) :
    (onClose settings state ws).published = [] := by
  unfold onClose
  dsimp only
  split
  · split
    · rfl
    · split
      · rfl
      · exact (sendAll_cases _ _).2.1
  · rfl

/-! ## Reactions -/

omit [DecidableEq Socket] in
/-- An answered query does not change what the handler is about. -/
theorem answer_backed
    {requests : List ClientFrame} {state : State Socket}
    {handler : Handler Socket} (backed : Backed requests state handler)
    (succeeds : Bool) :
    Backed requests state (answer state succeeds handler) := by
  unfold answer
  split
  · trivial
  · trivial
  · exact backed
  · trivial
  · trivial
  · exact backed

/-- What an event leaves waiting, seen from the state before it. -/
structure Reacts
    (requests : List ClientFrame) (state : State Socket)
    (reaction : Reaction Socket) : Prop where
  handlers :
    ∀ handler ∈ reaction.state.handlers,
      handler ∈ state.handlers ∨ Backed requests state handler
  published :
    ∀ command ∈ reaction.published, Asked requests command

omit [DecidableEq Socket] in
theorem Reacts.quiet
    {requests : List ClientFrame} {state : State Socket}
    {reaction : Reaction Socket}
    (sameHandlers : reaction.state.handlers = state.handlers)
    (unpublished : reaction.published = []) :
    Reacts requests state reaction where
  handlers := fun _ listed => .inl (sameHandlers ▸ listed)
  published := by
    rw [unpublished]
    intro command impossible
    cases impossible

theorem onMessage_reacts
    {requests : List ClientFrame} {state : State Socket} {ws : Socket}
    (frame : Option Json)
    (present : Present state ws)
    (brought :
      ∀ json, frame = some json →
        { userId := (state.client ws).userId, frame := json } ∈ requests) :
    Reacts requests state (onMessage state ws frame) where
  handlers := by
    intro handler waits
    rcases onMessage_new waits with
      old | ⟨json, checked, isFrame, sends, isChecked, rfl⟩ |
        ⟨checked, rfl⟩
    · exact .inl old
    · exact
        .inr ⟨present, json, brought json isFrame, sends, isChecked⟩
    · exact .inr trivial
  published := by
    rw [onMessage_published]
    intro command impossible
    cases impossible

theorem react_reacts
    (settings : Settings) {requests : List ClientFrame}
    {state : State Socket}
    (backed :
      ∀ handler ∈ state.handlers, Backed requests state handler)
    (event : Event Socket)
    (brought : ∀ request ∈ received state event, request ∈ requests) :
    Reacts requests state (react settings state event) := by
  unfold react
  split
  · exact .quiet rfl rfl
  · rename_i running
    split
    · exact .quiet rfl rfl
    · split
      · exact
          { handlers := fun _ waits => onConnection_new waits
            published := by simp [onConnection_published] }
      · exact .quiet rfl rfl
    · exact .quiet rfl rfl
    · rename_i ws
      exact
        .quiet (closeSocket_quiet { state := state } ws).handlers
          (closeSocket_frames { state := state } ws).2
    · rename_i ws
      split
      · exact
          .quiet (onClose_state settings state ws).handlers
            (onClose_published settings state ws)
      · exact .quiet rfl rfl
    · rename_i ws frame
      split
      · rename_i live
        refine onMessage_reacts frame ?_ ?_
        · rcases live with opened | closing
          · simp [Present, opened]
          · simp [Present, closing]
        · rintro json rfl
          apply brought
          simp [received, running, live]
      · exact .quiet rfl rfl
    · unfold broadcastRoomEventToLocalClients
      split
      · exact
          .quiet (sendAll_quiet { state := state } _).handlers
            (sendAll_cases { state := state } _).2.1
      · exact .quiet rfl rfl
    · constructor
      · intro handler waits
        rcases List.mem_append.mp waits with old | new
        · exact .inl old
        · exact .inr (List.mem_singleton.mp new ▸ trivial)
      · intro command impossible
        cases impossible
    · split
      · exact .quiet rfl rfl
      · rename_i index succeeds _ handler found
        constructor
        · intro other waits
          rcases mem_replaceHandler waits with old | new
          · exact .inl old
          · have answered :=
              answer_backed (backed handler (List.mem_of_getElem? found))
                succeeds
            exact .inr (Option.some.inj new ▸ answered)
        · intro command impossible
          cases impossible
    · split
      · exact .quiet rfl rfl
      · rename_i index input _ handler found
        have continues :=
          @resume_continues _ requests { state := state } _ settings
            input handler (backed handler (List.mem_of_getElem? found))
        constructor
        · intro other waits
          rcases mem_replaceHandler waits with old | new
          · exact
              .inl (resume_handlers { state := state } settings input
                handler ▸ old)
          · exact .inr (continues.next other new)
        · intro command listed
          rcases continues.published command listed with
            impossible | asked
          · cases impossible
          · exact asked

/-- Every waiting handler is backed by the requests. -/
def AllBacked
    (requests : List ClientFrame) (state : State Socket) : Prop :=
  ∀ handler ∈ state.handlers, Backed requests state handler

/-- An event publishes only what has been asked for. -/
theorem AllBacked.react
    (settings : Settings) {requests later : List ClientFrame}
    {state : State Socket} (backed : AllBacked requests state)
    (event : Event Socket)
    (grows : ∀ request ∈ requests, request ∈ later)
    (brought : ∀ request ∈ received state event, request ∈ later) :
    AllBacked later (react settings state event).state ∧
      ∀ command ∈ (react settings state event).published,
        Asked later command := by
  have still :
      ∀ handler ∈ state.handlers, Backed later state handler :=
    fun handler waits =>
      (backed handler waits).mono grows (Quiet.extends (Quiet.refl state))
  have reacts := react_reacts settings still event brought
  refine ⟨fun handler waits => ?_, reacts.published⟩
  have before : Backed later state handler := by
    rcases reacts.handlers handler waits with old | new
    · exact still handler old
    · exact new
  exact
    before.mono (fun _ listed => listed)
      (step_extends settings state event)

end ChatBackend.Realtime.ClientCommands
