import ChatBackend.Foundation.EventRuns
import ChatBackend.Realtime.Server

/-!
# What reactions change

Sending frames changes nothing but the ready states of sockets whose buffer
is full.  `Quiet` is this relation, and `sendAll_frames` says which of the
offered frames are sent.
-/

namespace ChatBackend.Realtime.Reactions

open ChatBackend.Foundation.OrderedSets
open ChatBackend.Storage.Schema
open ChatBackend.Realtime.PresenceStore
open ChatBackend.Realtime.ServerFrames
open ChatBackend.Realtime.Server

variable {Socket : Type}

/-! ## Quiet changes -/

/--
Open sockets may have begun to close, and the process may have ended; the
rest is the same.
-/
structure Quiet (before after : State Socket) : Prop where
  roomMembers : after.roomMembers = before.roomMembers
  backpressured : after.backpressured = before.backpressured
  client : after.client = before.client
  store : after.store = before.store
  handlers : after.handlers = before.handlers
  crashed : before.crashed = true → after.crashed = true
  readyState :
    ∀ ws,
      after.readyState ws = before.readyState ws ∨
        (before.readyState ws = .opened ∧
          after.readyState ws = .closing)

theorem Quiet.refl (state : State Socket) : Quiet state state where
  roomMembers := rfl
  backpressured := rfl
  client := rfl
  store := rfl
  handlers := rfl
  crashed := id
  readyState := fun _ => Or.inl rfl

theorem Quiet.trans
    {first second third : State Socket}
    (early : Quiet first second) (late : Quiet second third) :
    Quiet first third where
  roomMembers := late.roomMembers.trans early.roomMembers
  backpressured := late.backpressured.trans early.backpressured
  client := late.client.trans early.client
  store := late.store.trans early.store
  handlers := late.handlers.trans early.handlers
  crashed := fun crashed => late.crashed (early.crashed crashed)
  readyState := by
    intro ws
    rcases early.readyState ws with same | ⟨opened, closing⟩
    · rcases late.readyState ws with sameLater | ⟨opened, closing⟩
      · exact Or.inl (sameLater.trans same)
      · exact Or.inr ⟨same ▸ opened, closing⟩
    · rcases late.readyState ws with same | ⟨reopened, _⟩
      · exact Or.inr ⟨opened, same.trans closing⟩
      · rw [closing] at reopened
        cases reopened

theorem Quiet.grows
    {before after : State Socket} (quiet : Quiet before after) :
    before.handlers <+: after.handlers :=
  quiet.handlers ▸ List.prefix_refl _

variable [DecidableEq Socket] (reaction : Reaction Socket)

omit [DecidableEq Socket] in
/-- The queries only read the rows of the table. -/
theorem isMember_congr
    {before after : State Socket}
    (same : after.roomMembers = before.roomMembers)
    (userId : UserId) (roomId : RoomId) :
    after.isMember userId roomId = before.isMember userId roomId := by
  rw [State.isMember, same, State.isMember]

theorem closeSocket_quiet (ws : Socket) :
    Quiet reaction.state (reaction.closeSocket ws).state := by
  unfold Reaction.closeSocket
  split
  · rename_i opened
    refine { Quiet.refl reaction.state with readyState := ?_ }
    intro other
    by_cases same : other = ws
    · subst same
      exact
        Or.inr
          ⟨opened, by simp [Reaction.setReadyState]⟩
    · exact Or.inl (by simp [Reaction.setReadyState, same])
  · exact Quiet.refl _

theorem closeSocket_frames (ws : Socket) :
    (reaction.closeSocket ws).frames = reaction.frames ∧
      (reaction.closeSocket ws).published = reaction.published := by
  unfold Reaction.closeSocket
  split <;> exact ⟨rfl, rfl⟩

/-! ## Sending -/

/-- The socket takes frames. -/
def Writable (state : State Socket) (ws : Socket) : Prop :=
  state.readyState ws = .opened ∧ state.backpressured ws = false

instance (state : State Socket) (ws : Socket) :
    Decidable (Writable state ws) :=
  inferInstanceAs
    (Decidable
      (state.readyState ws = .opened ∧ state.backpressured ws = false))

theorem sendJson_cases (ws : Socket) (frame : WsServerFrame) :
    Quiet reaction.state (reaction.sendJson ws frame).state ∧
      (reaction.sendJson ws frame).published = reaction.published ∧
        (reaction.sendJson ws frame).frames =
          reaction.frames ++
            if Writable reaction.state ws then [(ws, frame)] else [] := by
  unfold Reaction.sendJson
  split
  · rename_i opened
    split
    · rename_i full
      rcases closeSocket_frames reaction ws with ⟨frames, published⟩
      exact
        ⟨closeSocket_quiet reaction ws, published,
          by simp [frames, Writable, full]⟩
    · rename_i room
      exact
        ⟨Quiet.refl _, rfl,
          by simp [Writable, opened, Bool.not_eq_true _ ▸ room]⟩
  · rename_i closed
    exact ⟨Quiet.refl _, rfl, by simp [Writable, closed]⟩

/-- Full sockets stay full, and only they begin to close. -/
theorem sendJson_writable (ws other : Socket) (frame : WsServerFrame) :
    Writable (reaction.sendJson ws frame).state other ↔
      Writable reaction.state other := by
  unfold Reaction.sendJson
  split
  · split
    · rename_i opened full
      unfold Reaction.closeSocket
      rw [if_pos opened]
      by_cases same : other = ws
      · subst same
        simp [Writable, Reaction.setReadyState, full]
      · simp [Writable, Reaction.setReadyState, same]
    · rfl
  · rfl

/-- What is sent of a list of frames: those to writable sockets. -/
theorem sendAll_cases (frames : List (Socket × WsServerFrame)) :
    Quiet reaction.state (reaction.sendAll frames).state ∧
      (reaction.sendAll frames).published = reaction.published ∧
        (reaction.sendAll frames).frames =
          reaction.frames ++
            frames.filter fun frame =>
              Writable reaction.state frame.1 := by
  unfold Reaction.sendAll
  induction frames generalizing reaction with
  | nil => exact ⟨Quiet.refl _, rfl, by simp⟩
  | cons first rest induction =>
      rcases sendJson_cases reaction first.1 first.2 with
        ⟨quiet, published, sent⟩
      rcases induction (reaction.sendJson first.1 first.2) with
        ⟨quietLater, publishedLater, sentLater⟩
      refine
        ⟨quiet.trans quietLater, publishedLater.trans published, ?_⟩
      rw [List.foldl_cons, sentLater, sent, List.append_assoc]
      congr 1
      simp only [sendJson_writable]
      by_cases writable : Writable reaction.state first.1
      · simp [writable]
      · simp [writable]

theorem sendJson_eq (ws : Socket) (frame : WsServerFrame) :
    reaction.sendJson ws frame = reaction.sendAll [(ws, frame)] :=
  rfl

/-! ## Contacts -/

theorem mem_contacts
    {state : State Socket} {userId : UserId} {rooms : List RoomId}
    {ws : Socket} :
    ws ∈ contacts state userId rooms ↔
      ∃ roomId ∈ rooms,
        ws ∈ state.store.roomSockets.members roomId ∧
          ws ∈ state.store.clientStates ∧
            (state.client ws).userId ≠ userId := by
  rw [contacts, ← OrderedSet.mem_iff, OrderedSet.mem_addAll]
  simp only [List.mem_flatMap, List.mem_filter,
    OrderedSet.notMem_empty, or_false, Bool.and_eq_true,
    decide_eq_true_eq, bne_iff_ne]
  rfl

theorem mem_findLocalOnlineRoomMembers
    {state : State Socket} {ws : Socket} {userId : UserId} :
    userId ∈ findLocalOnlineRoomMembers state ws ↔
      ∃ other ∈
          contacts state (state.client ws).userId
            (state.client ws).roomIds.items,
        (state.client other).userId = userId := by
  rw [findLocalOnlineRoomMembers, ← OrderedSet.mem_iff,
    OrderedSet.mem_addAll]
  simp

/-! ## Joining rooms -/

section Joining

variable (ws other : Socket) (rooms : List RoomId)

theorem joinRooms_client :
    (reaction.joinRooms ws rooms).state.client other =
      if other = ws then
        { reaction.state.client ws with
          roomIds := (reaction.state.client ws).roomIds.addAll rooms }
      else reaction.state.client other := by
  rw [Reaction.joinRooms]
  by_cases same : other = ws
  · subst same
    simp [addSocketToRooms_state]
  · simp [same]

theorem joinRooms_userId :
    ((reaction.joinRooms ws rooms).state.client other).userId =
      (reaction.state.client other).userId := by
  rw [joinRooms_client]
  split
  · rename_i same
    rw [same]
  · rfl

theorem mem_joinRooms_roomIds (roomId : RoomId) :
    roomId ∈
        ((reaction.joinRooms ws rooms).state.client other).roomIds ↔
      roomId ∈ (reaction.state.client other).roomIds ∨
        (other = ws ∧ roomId ∈ rooms) := by
  rw [joinRooms_client]
  split
  · rename_i same
    subst same
    simp [or_comm]
  · rename_i different
    simp [different]

theorem mem_joinRooms_members (roomId : RoomId) :
    other ∈
        (reaction.joinRooms ws rooms).state.store.roomSockets.members
          roomId ↔
      other ∈ reaction.state.store.roomSockets.members roomId ∨
        (other = ws ∧ roomId ∈ rooms) :=
  mem_addSocketToRooms rooms roomId

theorem joinRooms_store :
    (reaction.joinRooms ws rooms).state.store.userSockets =
        reaction.state.store.userSockets ∧
      (reaction.joinRooms ws rooms).state.store.clientStates =
        reaction.state.store.clientStates :=
  addSocketToRooms_store rooms

end Joining

/-! ## Handlers -/

/-- The handler adds its socket to the index of rooms when it resumes. -/
inductive JoinCause (state : State Socket) :
    Handler Socket → Socket → List RoomId → Prop where
  | setup (ws : Socket) (wasOnline : Bool) (rooms : List RoomId) :
      state.readyState ws = .opened → ws ∈ state.store.clientStates →
        JoinCause state (.setupRooms ws wasOnline (.rows rooms)) ws rooms
  | send (ws : Socket) (frame : SendFrame) :
      JoinCause state (.joinSend ws frame (.rows true)) ws [frame.chatId]
  | typing (ws : Socket) (frame : TypingFrame) :
      JoinCause state (.joinTyping ws frame (.rows true)) ws
        [frame.chatId]

omit [DecidableEq Socket] in
theorem crash_quiet : Quiet reaction.state reaction.crash.state :=
  { Quiet.refl reaction.state with crashed := fun _ => rfl }

theorem sendAll_quiet (frames : List (Socket × WsServerFrame)) :
    Quiet reaction.state (reaction.sendAll frames).state :=
  (sendAll_cases reaction frames).1

theorem sendJson_quiet (ws : Socket) (frame : WsServerFrame) :
    Quiet reaction.state (reaction.sendJson ws frame).state :=
  (sendJson_cases reaction ws frame).1

theorem sendError_quiet
    (ws : Socket) (reason : WsErrorReason) (detail : String)
    (requestId : Option String) :
    Quiet reaction.state
      (reaction.sendError ws reason detail requestId).state :=
  sendJson_quiet reaction ws _

theorem broadcastPresence_quiet (ws : Socket) (online : Bool) :
    Quiet reaction.state (broadcastPresence reaction ws online).state :=
  sendAll_quiet reaction _

/-- The handler goes on after `ensureRoomIndexed` found a membership. -/
def joins : Handler Socket → Option (Socket × RoomId)
  | .joinSend ws frame (.rows true) => some (ws, frame.chatId)
  | .joinTyping ws frame (.rows true) => some (ws, frame.chatId)
  | _ => none

/-- A setup that finds its socket open and registered joins the rooms. -/
theorem setupWithRooms_quiet
    (settings : Settings) {ws : Socket} (wasOnline : Bool)
    (rooms : List RoomId)
    (opened : reaction.state.readyState ws = .opened)
    (registered : ws ∈ reaction.state.store.clientStates) :
    Quiet (reaction.joinRooms ws rooms).state
      (setupWithRooms settings reaction ws wasOnline rooms).1.state := by
  unfold setupWithRooms
  rw [if_pos ⟨opened, registered⟩]
  dsimp only
  split
  · split
    · exact Quiet.refl _
    · exact Quiet.refl _
  · split
    · exact sendAll_quiet _ _
    · exact (sendAll_quiet _ _).trans (sendAll_quiet _ _)

/-- The join happens whether or not the socket is still registered. -/
theorem resume_joins
    (settings : Settings) (input : Resumption)
    {handler : Handler Socket} {ws : Socket} {roomId : RoomId}
    (joined : joins handler = some (ws, roomId)) :
    Quiet (reaction.joinRooms ws [roomId]).state
      (resume settings reaction input handler).1.state := by
  unfold joins at joined
  split at joined
  · cases joined
    exact Quiet.refl _
  · cases joined
    exact sendAll_quiet _ _
  · cases joined

/-- Resuming a handler joins rooms or does not, and then sends. -/
theorem resume_state
    (settings : Settings) (input : Resumption)
    (handler : Handler Socket) :
    ∃ base,
      Quiet base (resume settings reaction input handler).1.state ∧
        (base = reaction.state ∨
          ∃ ws rooms, JoinCause reaction.state handler ws rooms ∧
            base = (reaction.joinRooms ws rooms).state) := by
  have same :
      ∀ after : State Socket, Quiet reaction.state after →
        ∃ base,
          Quiet base after ∧
            (base = reaction.state ∨
              ∃ ws rooms, JoinCause reaction.state handler ws rooms ∧
                base = (reaction.joinRooms ws rooms).state) :=
    fun after quiet => ⟨_, quiet, Or.inl rfl⟩
  unfold resume
  split
  · rename_i ws wasOnline rooms
    by_cases guard :
        reaction.state.readyState ws = .opened ∧
          ws ∈ reaction.state.store.clientStates
    · exact
        ⟨_,
          setupWithRooms_quiet reaction settings wasOnline rooms guard.1
            guard.2,
          Or.inr
            ⟨ws, rooms, .setup ws wasOnline rooms guard.1 guard.2, rfl⟩⟩
    · unfold setupWithRooms
      rw [if_neg guard]
      exact same _ (Quiet.refl _)
  · exact same _ (closeSocket_quiet _ _)
  · exact same _ (Quiet.refl _)
  · exact same _ (closeSocket_quiet _ _)
  · split
    · exact same _ (sendAll_quiet _ _)
    · exact same _ (closeSocket_quiet _ _)
  · exact same _ (Quiet.refl _)
  · split
    · split
      · exact same _ (Quiet.refl _)
      · exact same _ (Quiet.refl _)
    · exact same _ (sendError_quiet _ _ _ _ _)
  · rename_i ws frame
    exact
      ⟨_, Quiet.refl _, Or.inr ⟨ws, [frame.chatId], .send ws frame, rfl⟩⟩
  · exact same _ (sendError_quiet _ _ _ _ _)
  · exact same _ (crash_quiet _)
  · split
    · exact same _ (sendJson_quiet _ _ _)
    · split
      · exact same _ (sendError_quiet _ _ _ _ _)
      · exact same _ (Quiet.refl _)
  · exact same _ (Quiet.refl _)
  · split
    · split
      · exact same _ (sendAll_quiet _ _)
      · exact same _ (Quiet.refl _)
    · exact same _ (sendError_quiet _ _ _ _ _)
  · rename_i ws frame
    exact
      ⟨_, sendAll_quiet _ _,
        Or.inr ⟨ws, [frame.chatId], .typing ws frame, rfl⟩⟩
  · exact same _ (sendError_quiet _ _ _ _ _)
  · exact same _ (crash_quiet _)
  · exact same _ (sendAll_quiet _ _)
  · exact same _ (crash_quiet _)
  · exact same _ (Quiet.refl _)

/-- A message callback sends, or starts a handler. -/
theorem onMessage_state
    (state : State Socket) (ws : Socket) (frame : Option Json) :
    Quiet state
      { (onMessage state ws frame).state with
        handlers := state.handlers } := by
  have same :
      ∀ after : State Socket, Quiet state after →
        Quiet state { after with handlers := state.handlers } :=
    fun after quiet => { quiet with handlers := rfl }
  cases frame with
  | none => exact same state (Quiet.refl state)
  | some frame =>
      simp only [onMessage]
      split
      · exact same _ (crash_quiet { state := state })
      · exact same _ (sendJson_quiet { state := state } _ _)
      · split
        · exact same _ (crash_quiet { state := state })
        · exact same _ (sendError_quiet { state := state } _ _ _ _)
        · exact Quiet.refl state
      · split
        · exact same _ (crash_quiet { state := state })
        · exact same _ (sendError_quiet { state := state } _ _ _ _)
        · exact Quiet.refl state
      · exact same _ (sendError_quiet { state := state } _ _ _ _)

omit [DecidableEq Socket] in
theorem mem_replaceHandler
    {state : State Socket} {index : Nat}
    {next : Option (Handler Socket)} {handler : Handler Socket}
    (member : handler ∈ (replaceHandler state index next).handlers) :
    handler ∈ state.handlers ∨ next = some handler := by
  cases next with
  | none =>
      exact Or.inl (List.mem_of_mem_eraseIdx member)
  | some new =>
      rcases List.mem_or_eq_of_mem_set member with old | same
      · exact Or.inl old
      · exact Or.inr (by rw [same])

/-! ## Steps -/

/-- The state in which the connection callback has registered a client. -/
def connected
    (settings : Settings) (state : State Socket) (ws : Socket)
    (userId : UserId) (uuid : String) : State Socket :=
  let client : ClientState :=
    { userId := userId
      connectionId := createConnectionId settings uuid
      roomIds := ∅ }
  { state with
    readyState := Function.update state.readyState ws .opened
    client := Function.update state.client ws client
    store := addClient state.store ws client }

/-- The state in which the close callback has removed a client. -/
def disconnected (state : State Socket) (ws : Socket) : State Socket :=
  { state with
    readyState := Function.update state.readyState ws .closed
    store :=
      if ws ∈ state.store.clientStates then
        removeClient state.store ws (state.client ws)
      else state.store }

/-- The states that an event leads to before frames are sent. -/
inductive Change (settings : Settings) (state : State Socket) :
    Event Socket → State Socket → Prop where
  | same (event : Event Socket) : Change settings state event state
  | createChat (rows : List RoomMember) :
      Change settings state (.createChat rows)
        { state with roomMembers := state.roomMembers ++ rows }
  | connect (ws : Socket) (userId : UserId) (uuid : String) :
      state.readyState ws = .absent →
        Change settings state (.connect ws userId uuid)
          (connected settings state ws userId uuid)
  | buffer (ws : Socket) (backpressured : Bool) :
      Change settings state (.buffer ws backpressured)
        { state with
          backpressured :=
            Function.update state.backpressured ws backpressured }
  | close (ws : Socket) :
      state.readyState ws = .opened ∨ state.readyState ws = .closing →
        Change settings state (.close ws) (disconnected state ws)
  | join
      (index : Nat) (input : Resumption) (handler : Handler Socket)
      (ws : Socket) (rooms : List RoomId) :
      state.crashed = false → state.handlers[index]? = some handler →
        JoinCause state handler ws rooms →
          Change settings state (.resume index input)
            (Reaction.joinRooms { state := state } ws rooms).state

theorem onConnection_state
    (settings : Settings) (state : State Socket) (ws : Socket)
    (userId : UserId) (uuid : String) :
    Quiet (connected settings state ws userId uuid)
      { (onConnection settings state ws userId uuid).state with
        handlers := state.handlers } := by
  unfold onConnection
  dsimp only
  split
  · exact Quiet.refl _
  · split
    · exact Quiet.refl _
    · split
      · exact Quiet.refl _
      · exact
          { broadcastPresence_quiet
              { state := connected settings state ws userId uuid } ws
              true with
            handlers := rfl }

theorem onClose_state
    (settings : Settings) (state : State Socket) (ws : Socket) :
    Quiet (disconnected state ws) (onClose settings state ws).state := by
  unfold onClose disconnected
  by_cases registered : ws ∈ state.store.clientStates
  · simp only [registered, if_true]
    split
    · exact Quiet.refl _
    · split
      · exact Quiet.refl _
      · exact
          broadcastPresence_quiet
            { state :=
                { state with
                  readyState :=
                    Function.update state.readyState ws .closed
                  store :=
                    removeClient state.store ws (state.client ws) } }
            ws false
  · simp only [registered, if_false]
    exact Quiet.refl _

/-- Every step is a change that is quiet from there on. -/
theorem step_change
    (settings : Settings) (state : State Socket) (event : Event Socket) :
    ∃ base, Change settings state event base ∧
      Quiet base
        { step settings state event with handlers := base.handlers } := by
  have same :
      ∀ after : State Socket, Quiet state after →
        ∃ base, Change settings state event base ∧
          Quiet base { after with handlers := base.handlers } :=
    fun after quiet => ⟨state, .same event, { quiet with handlers := rfl }⟩
  unfold step react
  split
  · exact same _ (Quiet.refl state)
  · rename_i running
    split
    · rename_i rows
      exact ⟨_, .createChat rows, Quiet.refl _⟩
    · rename_i ws userId uuid
      split
      · rename_i absent
        exact
          ⟨_, .connect ws userId uuid absent,
            onConnection_state settings state ws userId uuid⟩
      · exact same _ (Quiet.refl state)
    · rename_i ws backpressured
      exact ⟨_, .buffer ws backpressured, Quiet.refl _⟩
    · rename_i ws
      exact same _ (closeSocket_quiet { state := state } ws)
    · rename_i ws
      split
      · rename_i live
        exact
          ⟨_, .close ws live,
            { onClose_state settings state ws with handlers := rfl }⟩
      · exact same _ (Quiet.refl state)
    · rename_i ws frame
      split
      · exact ⟨state, .same _, onMessage_state state ws frame⟩
      · exact same _ (Quiet.refl state)
    · unfold broadcastRoomEventToLocalClients
      split
      · exact same _ (sendAll_quiet { state := state } _)
      · exact same _ (Quiet.refl state)
    · exact ⟨state, .same _, Quiet.refl state⟩
    · split
      · exact same _ (Quiet.refl state)
      · exact ⟨state, .same _, Quiet.refl state⟩
    · rename_i index input
      split
      · exact same _ (Quiet.refl state)
      · rename_i handler found
        rcases resume_state { state := state } settings input handler with
          ⟨base, quiet, rfl | ⟨ws, rooms, cause, rfl⟩⟩
        · exact ⟨_, .same _, { quiet with handlers := rfl }⟩
        · exact
            ⟨_,
              .join index input handler ws rooms (by simpa using running)
                found cause,
              { quiet with handlers := rfl }⟩

/-! ## Waiting handlers -/

/-- The event executes the query of this handler or resumes it. -/
def Touches
    (state : State Socket) (handler : Handler Socket) :
    Event Socket → Prop
  | .query index _ => state.handlers[index]? = some handler
  | .resume index _ => state.handlers[index]? = some handler
  | _ => False

omit [DecidableEq Socket] in
theorem mem_eraseIdx_of_ne
    {handlers : List (Handler Socket)} {index : Nat}
    {handler other : Handler Socket} (member : handler ∈ handlers)
    (found : handlers[index]? = some other) (different : other ≠ handler) :
    handler ∈ handlers.eraseIdx index := by
  rcases List.mem_iff_getElem?.mp member with ⟨position, isHandler⟩
  refine
    List.mem_eraseIdx_iff_getElem?.mpr ⟨position, ?_, isHandler⟩
  rintro rfl
  exact different (Option.some.inj (found.symm.trans isHandler))

omit [DecidableEq Socket] in
theorem mem_set_of_ne
    {handlers : List (Handler Socket)} {index : Nat}
    {handler other : Handler Socket} (next : Handler Socket)
    (member : handler ∈ handlers)
    (found : handlers[index]? = some other) (different : other ≠ handler) :
    handler ∈ handlers.set index next := by
  rcases List.mem_iff_getElem?.mp member with ⟨position, isHandler⟩
  refine List.mem_iff_getElem?.mpr ⟨position, ?_⟩
  rw [List.getElem?_set_ne]
  · exact isHandler
  · rintro rfl
    exact different (Option.some.inj (found.symm.trans isHandler))

omit [DecidableEq Socket] in
/-- Replacing a handler keeps the others. -/
theorem mem_replaceHandler_of_ne
    {state : State Socket} {index : Nat} {handler other : Handler Socket}
    (next : Option (Handler Socket)) (member : handler ∈ state.handlers)
    (found : state.handlers[index]? = some other)
    (different : other ≠ handler) :
    handler ∈ (replaceHandler state index next).handlers := by
  cases next with
  | none => exact mem_eraseIdx_of_ne member found different
  | some next => exact mem_set_of_ne next member found different

theorem onConnection_handlers
    (settings : Settings) (state : State Socket) (ws : Socket)
    (userId : UserId) (uuid : String) :
    state.handlers <+:
      (onConnection settings state ws userId uuid).state.handlers := by
  unfold onConnection
  dsimp only
  split
  · exact List.prefix_append _ _
  · split
    · exact List.prefix_append _ _
    · split
      · exact List.prefix_refl _
      · exact
          (broadcastPresence_quiet
            { state := connected settings state ws userId uuid } ws
            true).grows

theorem onMessage_handlers
    (state : State Socket) (ws : Socket) (frame : Option Json) :
    state.handlers <+: (onMessage state ws frame).state.handlers := by
  cases frame with
  | none => exact List.prefix_refl _
  | some frame =>
      simp only [onMessage]
      split
      · exact (crash_quiet { state := state }).grows
      · exact (sendJson_quiet { state := state } _ _).grows
      · split
        · exact (crash_quiet { state := state }).grows
        · exact (sendError_quiet { state := state } _ _ _ _).grows
        · exact List.prefix_append _ _
      · split
        · exact (crash_quiet { state := state }).grows
        · exact (sendError_quiet { state := state } _ _ _ _).grows
        · exact List.prefix_append _ _
      · exact (sendError_quiet { state := state } _ _ _ _).grows

/-- The handler that an event is for. -/
def handlerIndex : Event Socket → Option Nat
  | .query index _ => some index
  | .resume index _ => some index
  | _ => none

/-- Other events start handlers at most. -/
theorem handlers_grow
    (settings : Settings) (state : State Socket) {event : Event Socket}
    (forNone : handlerIndex event = none) :
    state.handlers <+: (step settings state event).handlers := by
  unfold step react
  split
  · exact List.prefix_refl _
  · cases event with
    | createChat rows => exact List.prefix_refl _
    | connect ws userId uuid =>
        dsimp only
        split
        · exact onConnection_handlers _ _ _ _ _
        · exact List.prefix_refl _
    | buffer ws backpressured => exact List.prefix_refl _
    | closing ws =>
        exact (closeSocket_quiet { state := state } ws).grows
    | close ws =>
        dsimp only
        split
        · exact (onClose_state settings state ws).grows
        · exact List.prefix_refl _
    | message ws frame =>
        dsimp only
        split
        · exact onMessage_handlers _ _ _
        · exact List.prefix_refl _
    | roomEvent message originConnectionId =>
        dsimp only
        unfold broadcastRoomEventToLocalClients
        split
        · exact (sendAll_quiet { state := state } _).grows
        · exact List.prefix_refl _
    | presenceEvent userId online => exact List.prefix_append _ _
    | query index succeeds => cases forNone
    | resume index input => cases forNone

theorem resume_handlers
    (settings : Settings) (input : Resumption)
    (handler : Handler Socket) :
    (resume settings reaction input handler).1.state.handlers =
      reaction.state.handlers := by
  rcases resume_state reaction settings input handler with
    ⟨base, quiet, rfl | ⟨ws, rooms, _, rfl⟩⟩
  · exact quiet.handlers
  · exact quiet.handlers

/-- A handler waits until an event is for it. -/
theorem handler_stays
    (settings : Settings) {state : State Socket} {event : Event Socket}
    {handler : Handler Socket} (member : handler ∈ state.handlers)
    (untouched : ¬Touches state handler event) :
    handler ∈ (step settings state event).handlers := by
  cases forHandler : handlerIndex event with
  | none => exact (handlers_grow settings state forHandler).subset member
  | some index =>
      unfold step react
      split
      · exact member
      · cases event with
        | query index succeeds =>
            dsimp only
            split
            · exact member
            · rename_i other found
              refine mem_replaceHandler_of_ne _ member found ?_
              rintro rfl
              exact untouched found
        | resume index input =>
            dsimp only
            split
            · exact member
            · rename_i other found
              have different : other ≠ handler := by
                rintro rfl
                exact untouched found
              have handlers :
                  (resume settings { state := state } input
                      other).1.state.handlers = state.handlers :=
                resume_handlers { state := state } settings input other
              rw [← handlers] at member found
              exact mem_replaceHandler_of_ne _ member found different
        | _ => cases forHandler

/-! ## Example inputs -/

def exampleSettings : Settings where
  preloadRoomsOnConnect := true
  redis := false
  instanceId := "instance"
  sha256 := id

def exampleSend : Json :=
  .object
    [("type", .string "send"), ("request_id", .string "request"),
      ("chat_id", .string "room"), ("body", .string "hello")]

end ChatBackend.Realtime.Reactions
