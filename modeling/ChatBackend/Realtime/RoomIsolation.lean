import ChatBackend.Realtime.Reactions
import Mathlib.Data.List.Dedup

/-!
# Rooms are isolated from each other

Whoever gets a frame about a room, or publishes a command for it, is a
member of the room.  The server looks the membership up at most once, when
it puts a room into a client state; from there on it trusts the index.  The
invariant follows the rows that were found: through the handlers that wait
with them, into the client states, and from these into the index.

`Safe` is the invariant together with what a reaction has sent so far.  Each
operation of a reaction keeps it, and the callbacks and handlers are made of
these operations.
-/

namespace ChatBackend.Realtime.RoomIsolation

open ChatBackend.Foundation.EventRuns
open ChatBackend.Foundation.OrderedSets
open ChatBackend.Storage.Schema
open ChatBackend.Writer.WriteCommands
open ChatBackend.Writer.OutboxDrain
open ChatBackend.Realtime.PresenceStore
open ChatBackend.Realtime.ServerFrames
open ChatBackend.Realtime.Server
open ChatBackend.Realtime.Reactions

variable {Socket : Type}

/-! ## What may be sent -/

/-- Both users are members of some room. -/
def Share
    (state : State Socket) (first second : UserId) : Prop :=
  ∃ roomId,
    state.isMember first roomId = true ∧
      state.isMember second roomId = true

/-- The origin of a room event; other events have none. -/
def origin : Event Socket → Option ConnectionId
  | .roomEvent _ originConnectionId => originConnectionId
  | _ => none

/-- The frame may be sent to the socket. -/
def Permitted
    (state : State Socket) (originConnectionId : Option ConnectionId)
    (ws : Socket) : WsServerFrame → Prop
  | .msg message =>
      state.isMember (state.client ws).userId message.chatId = true ∧
        (state.client ws).userId ≠ message.senderId ∧
          originConnectionId ≠ some (state.client ws).connectionId
  | .typing chatId _ _ =>
      state.isMember (state.client ws).userId chatId = true
  | .presence userId _ => Share state userId (state.client ws).userId
  | _ => True

/-- A reaction to an event that keeps the rooms apart. -/
structure Isolated
    (originConnectionId : Option ConnectionId)
    (reaction : Reaction Socket) : Prop where
  frames :
    ∀ sent ∈ reaction.frames,
      Permitted reaction.state originConnectionId sent.1 sent.2
  published :
    ∀ command ∈ reaction.published,
      reaction.state.isMember command.senderId command.roomId = true

/-! ## Queries -/

theorem mem_roomsOf
    {state : State Socket} {userId : UserId} {roomId : RoomId} :
    roomId ∈ state.roomsOf userId ↔
      state.isMember userId roomId = true := by
  simp [State.roomsOf, State.isMember, and_assoc]

theorem mem_otherMembers
    {state : State Socket} {rooms : List RoomId}
    {userId other : UserId}
    (listed : other ∈ state.otherMembers rooms userId) :
    ∃ roomId ∈ rooms, state.isMember other roomId = true := by
  simp only [State.otherMembers, List.mem_dedup, List.mem_map,
    List.mem_filter, Bool.and_eq_true] at listed
  rcases listed with ⟨row, ⟨member, inRooms, _⟩, isOther⟩
  refine ⟨row.roomId, by simpa using inRooms, ?_⟩
  simp only [State.isMember, List.any_eq_true, Bool.and_eq_true,
    beq_iff_eq]
  exact ⟨row, member, isOther, rfl⟩

/-! ## Knowledge of handlers -/

def Present (state : State Socket) (ws : Socket) : Prop :=
  state.readyState ws ≠ .absent

/-- An answer has the property, if it is there. -/
def Gives {Rows : Type} (property : Rows → Prop) : Answer Rows → Prop
  | .rows rows => property rows
  | _ => True

/-- What a handler carries along was true when it was looked up. -/
def Entitled (state : State Socket) : Handler Socket → Prop
  | .setupRooms ws _ answered =>
      Present state ws ∧
        Gives
          (fun rooms => ∀ roomId ∈ rooms,
            state.isMember (state.client ws).userId roomId = true)
          answered
  | .setupMembers ws rooms answered =>
      Present state ws ∧
        (∀ roomId ∈ rooms,
          state.isMember (state.client ws).userId roomId = true) ∧
        Gives
          (fun members => ∀ userId ∈ members,
            Share state userId (state.client ws).userId)
          answered
  | .setupOnline ws members =>
      Present state ws ∧
        ∀ userId ∈ members, Share state userId (state.client ws).userId
  | .setupRegister _ => True
  | .limitSend ws _ => Present state ws
  | .joinSend ws frame answered =>
      Present state ws ∧
        Gives
          (fun found => found = true →
            state.isMember (state.client ws).userId frame.chatId = true)
          answered
  | .publish _ command _ =>
      state.isMember command.senderId command.roomId = true
  | .retry _ command _ =>
      state.isMember command.senderId command.roomId = true
  | .limitTyping ws _ => Present state ws
  | .joinTyping ws frame answered =>
      Present state ws ∧
        Gives
          (fun found => found = true →
            state.isMember (state.client ws).userId frame.chatId = true)
          answered
  | .presence userId _ answered =>
      Gives
        (fun rooms => ∀ roomId ∈ rooms,
          state.isMember userId roomId = true)
        answered

/-- Memberships stay, and connected sockets stay those of their users. -/
structure Extends (before after : State Socket) : Prop where
  member :
    ∀ userId roomId, before.isMember userId roomId = true →
      after.isMember userId roomId = true
  present :
    ∀ ws, Present before ws →
      Present after ws ∧
        (after.client ws).userId = (before.client ws).userId

theorem Gives.imp
    {Rows : Type} {weaker stronger : Rows → Prop}
    (implied : ∀ rows, stronger rows → weaker rows)
    {answered : Answer Rows} (gives : Gives stronger answered) :
    Gives weaker answered := by
  cases answered with
  | waiting => trivial
  | failed => trivial
  | rows rows => exact implied rows gives

section Extension

variable {before after : State Socket}

theorem Extends.share
    (extension : Extends before after) {first second : UserId}
    (share : Share before first second) : Share after first second := by
  rcases share with ⟨roomId, isFirst, isSecond⟩
  exact
    ⟨roomId, extension.member _ _ isFirst,
      extension.member _ _ isSecond⟩

/-- What a handler carries along stays true. -/
theorem Entitled.mono
    (extension : Extends before after) {handler : Handler Socket}
    (entitled : Entitled before handler) : Entitled after handler := by
  cases handler with
  | setupRooms ws wasOnline answered =>
      rcases entitled with ⟨present, gives⟩
      rcases extension.present ws present with ⟨presentAfter, same⟩
      refine ⟨presentAfter, gives.imp fun rooms members => ?_⟩
      rw [same]
      exact fun roomId listed =>
        extension.member _ _ (members roomId listed)
  | setupMembers ws rooms answered =>
      rcases entitled with ⟨present, joined, gives⟩
      rcases extension.present ws present with ⟨presentAfter, same⟩
      rw [Entitled, same]
      exact
        ⟨presentAfter,
          fun roomId listed => extension.member _ _ (joined roomId listed),
          gives.imp fun members share userId listed =>
            extension.share (share userId listed)⟩
  | setupOnline ws members =>
      rcases entitled with ⟨present, share⟩
      rcases extension.present ws present with ⟨presentAfter, same⟩
      rw [Entitled, same]
      exact
        ⟨presentAfter,
          fun userId listed => extension.share (share userId listed)⟩
  | setupRegister ws => trivial
  | limitSend ws frame => exact (extension.present ws entitled).1
  | joinSend ws frame answered =>
      rcases entitled with ⟨present, gives⟩
      rcases extension.present ws present with ⟨presentAfter, same⟩
      refine ⟨presentAfter, gives.imp fun found member isFound => ?_⟩
      rw [same]
      exact extension.member _ _ (member isFound)
  | publish ws command attemptsLeft =>
      exact extension.member _ _ entitled
  | retry ws command attemptsLeft =>
      exact extension.member _ _ entitled
  | limitTyping ws frame => exact (extension.present ws entitled).1
  | joinTyping ws frame answered =>
      rcases entitled with ⟨present, gives⟩
      rcases extension.present ws present with ⟨presentAfter, same⟩
      refine ⟨presentAfter, gives.imp fun found member isFound => ?_⟩
      rw [same]
      exact extension.member _ _ (member isFound)
  | presence userId online answered =>
      exact
        Gives.imp
          (fun rooms members roomId listed =>
            extension.member _ _ (members roomId listed))
          entitled

theorem Quiet.extends (quiet : Quiet before after) :
    Extends before after where
  member := by
    intro userId roomId member
    rw [isMember_congr quiet.roomMembers]
    exact member
  present := by
    intro ws present
    rw [quiet.client]
    refine ⟨?_, rfl⟩
    rcases quiet.readyState ws with same | ⟨_, closing⟩
    · rw [Present, same]
      exact present
    · simp [Present, closing]

end Extension

variable [DecidableEq Socket]

omit [DecidableEq Socket] in
/-- The answer to a query is what the table says now. -/
theorem Entitled.answer
    {state : State Socket} {handler : Handler Socket}
    (entitled : Entitled state handler) (succeeds : Bool) :
    Entitled state (Server.answer state succeeds handler) := by
  cases succeeds with
  | false =>
      unfold Server.answer
      split
      · exact ⟨entitled.1, trivial⟩
      · exact ⟨entitled.1, entitled.2.1, trivial⟩
      · exact ⟨entitled.1, trivial⟩
      · exact ⟨entitled.1, trivial⟩
      · trivial
      · exact entitled
  | true =>
      unfold Server.answer
      split
      · exact ⟨entitled.1, fun roomId listed => mem_roomsOf.mp listed⟩
      · refine ⟨entitled.1, entitled.2.1, fun userId listed => ?_⟩
        rcases mem_otherMembers listed with ⟨roomId, inRooms, isMember⟩
        exact ⟨roomId, isMember, entitled.2.1 roomId inRooms⟩
      · exact ⟨entitled.1, id⟩
      · exact ⟨entitled.1, id⟩
      · exact fun roomId listed => mem_roomsOf.mp listed
      · exact entitled

/-! ## The invariant -/

/-- Client states and the index hold memberships of their users. -/
structure Sound (state : State Socket) : Prop where
  joined :
    ∀ ws roomId, roomId ∈ (state.client ws).roomIds →
      Present state ws ∧
        state.isMember (state.client ws).userId roomId = true
  indexed :
    ∀ ws roomId, ws ∈ state.store.roomSockets.members roomId →
      roomId ∈ (state.client ws).roomIds
  named :
    ∀ ws, Present state ws → (state.client ws).connectionId ≠ ""

structure Authorised (state : State Socket) : Prop where
  sound : Sound state
  entitled : ∀ handler ∈ state.handlers, Entitled state handler

omit [DecidableEq Socket] in
theorem Authorised.start (rows : List RoomMember) :
    Authorised (State.start rows : State Socket) where
  sound :=
    { joined := by simp [State.start]
      indexed := by simp [State.start, InMemoryPresenceStore.empty]
      named := by simp [State.start, Present] }
  entitled := by simp [State.start]

omit [DecidableEq Socket] in
theorem Sound.quiet
    {before after : State Socket} (sound : Sound before)
    (quiet : Quiet before after) : Sound after where
  joined := by
    intro ws roomId
    rw [quiet.client]
    intro joined
    rcases sound.joined ws roomId joined with ⟨present, member⟩
    exact
      ⟨((Quiet.extends quiet).present ws present).1,
        (Quiet.extends quiet).member _ _ member⟩
  indexed := by
    rw [quiet.store, quiet.client]
    exact sound.indexed
  named := by
    intro ws present
    rw [quiet.client]
    apply sound.named
    rcases quiet.readyState ws with same | ⟨opened, _⟩
    · rw [Present, ← same]
      exact present
    · simp [Present, opened]

omit [DecidableEq Socket] in
/-- Sockets in the index of a room are of its members. -/
theorem Sound.member
    {state : State Socket} (sound : Sound state) {ws : Socket}
    {roomId : RoomId}
    (listed : ws ∈ state.store.roomSockets.members roomId) :
    state.isMember (state.client ws).userId roomId = true :=
  (sound.joined ws roomId (sound.indexed ws roomId listed)).2

/-! ## Operations of a reaction -/

structure Safe
    (originConnectionId : Option ConnectionId)
    (reaction : Reaction Socket) : Prop
    extends Isolated originConnectionId reaction where
  sound : Sound reaction.state
  entitled :
    ∀ handler ∈ reaction.state.handlers,
      Entitled reaction.state handler

omit [DecidableEq Socket] in
theorem Safe.authorised
    {originConnectionId : Option ConnectionId}
    {reaction : Reaction Socket}
    (safe : Safe originConnectionId reaction) :
    Authorised reaction.state :=
  ⟨safe.sound, safe.entitled⟩

omit [DecidableEq Socket] in
/-- Nothing has been sent yet. -/
theorem Authorised.safe
    {state : State Socket} (authorised : Authorised state)
    (originConnectionId : Option ConnectionId) :
    Safe originConnectionId { state := state } where
  frames := by simp
  published := by simp
  sound := authorised.sound
  entitled := authorised.entitled

section Operations

variable {originConnectionId : Option ConnectionId}
  {reaction : Reaction Socket}

omit [DecidableEq Socket] in
/-- Permissions depend on memberships and identities only. -/
theorem Permitted.congr
    {before after : State Socket}
    (rows : after.roomMembers = before.roomMembers)
    {ws : Socket}
    (userId : (after.client ws).userId = (before.client ws).userId)
    (connectionId :
      (after.client ws).connectionId = (before.client ws).connectionId)
    {frame : WsServerFrame}
    (permitted : Permitted before originConnectionId ws frame) :
    Permitted after originConnectionId ws frame := by
  cases frame with
  | msg message =>
      simp only [Permitted, userId, connectionId, isMember_congr rows]
      exact permitted
  | typing chatId typingUser isTyping =>
      simp only [Permitted, userId, isMember_congr rows]
      exact permitted
  | presence other online =>
      simp only [Permitted, Share, userId, isMember_congr rows]
      exact permitted
  | ack requestId messageId acceptedAt => trivial
  | error reason requestId detail => trivial
  | pong => trivial

omit [DecidableEq Socket] in
theorem Safe.quiet
    {after : Reaction Socket}
    (safe : Safe originConnectionId reaction)
    (quiet : Quiet reaction.state after.state)
    (sent :
      ∀ frame ∈ after.frames, frame ∈ reaction.frames ∨
        Permitted reaction.state originConnectionId frame.1 frame.2)
    (published : after.published = reaction.published) :
    Safe originConnectionId after where
  frames := by
    intro frame member
    have same := congrFun quiet.client frame.1
    refine
      Permitted.congr quiet.roomMembers (by rw [same]) (by rw [same]) ?_
    rcases sent frame member with before | permitted
    · exact safe.frames frame before
    · exact permitted
  published := by
    rw [published]
    intro command member
    exact
      (Quiet.extends quiet).member _ _ (safe.published command member)
  sound := safe.sound.quiet quiet
  entitled := by
    rw [quiet.handlers]
    intro handler member
    exact (safe.entitled handler member).mono (Quiet.extends quiet)

theorem Safe.sendAll
    (safe : Safe originConnectionId reaction)
    (frames : List (Socket × WsServerFrame))
    (permitted :
      ∀ frame ∈ frames,
        Permitted reaction.state originConnectionId frame.1 frame.2) :
    Safe originConnectionId (reaction.sendAll frames) := by
  rcases sendAll_cases reaction frames with ⟨quiet, published, sent⟩
  refine safe.quiet quiet (fun frame member => ?_) published
  rw [sent, List.mem_append, List.mem_filter] at member
  rcases member with before | ⟨offered, _⟩
  · exact Or.inl before
  · exact Or.inr (permitted frame offered)

theorem Safe.sendJson
    (safe : Safe originConnectionId reaction) {ws : Socket}
    {frame : WsServerFrame}
    (permitted :
      Permitted reaction.state originConnectionId ws frame) :
    Safe originConnectionId (reaction.sendJson ws frame) := by
  rw [sendJson_eq]
  exact safe.sendAll [(ws, frame)] (by simpa using permitted)

theorem Safe.sendError
    (safe : Safe originConnectionId reaction) (ws : Socket)
    (reason : WsErrorReason) (detail : String)
    (requestId : Option String) :
    Safe originConnectionId
      (reaction.sendError ws reason detail requestId) :=
  safe.sendJson trivial

theorem Safe.closeSocket
    (safe : Safe originConnectionId reaction) (ws : Socket) :
    Safe originConnectionId (reaction.closeSocket ws) := by
  rcases closeSocket_frames reaction ws with ⟨frames, published⟩
  refine
    safe.quiet (closeSocket_quiet reaction ws) (fun frame member => ?_)
      published
  rw [frames] at member
  exact Or.inl member

omit [DecidableEq Socket] in
theorem Safe.crash (safe : Safe originConnectionId reaction) :
    Safe originConnectionId reaction.crash :=
  safe.quiet (crash_quiet reaction) (fun _ => Or.inl) rfl

omit [DecidableEq Socket] in
theorem Safe.await
    (safe : Safe originConnectionId reaction)
    {handler : Handler Socket}
    (entitled : Entitled reaction.state handler) :
    Safe originConnectionId (reaction.await handler) := by
  have extension :
      Extends reaction.state (reaction.await handler).state :=
    { member := fun _ _ member => member
      present := fun _ present => ⟨present, rfl⟩ }
  exact
    { frames := safe.frames
      published := safe.published
      sound :=
        { joined := safe.sound.joined
          indexed := safe.sound.indexed
          named := safe.sound.named }
      entitled := by
        intro other member
        refine Entitled.mono extension ?_
        rcases List.mem_append.mp member with before | new
        · exact safe.entitled other before
        · rw [List.mem_singleton.mp new]
          exact entitled }

omit [DecidableEq Socket] in
theorem Safe.publish
    (safe : Safe originConnectionId reaction)
    {command : MessageWriteCommand}
    (member :
      reaction.state.isMember command.senderId command.roomId = true) :
    Safe originConnectionId (reaction.publish command) where
  frames := safe.frames
  published := by
    intro other published
    rcases List.mem_append.mp published with before | new
    · exact safe.published other before
    · rw [List.mem_singleton.mp new]
      exact member
  sound := safe.sound
  entitled := safe.entitled

theorem joinRooms_identity (ws other : Socket) (rooms : List RoomId) :
    ((reaction.joinRooms ws rooms).state.client other).userId =
        (reaction.state.client other).userId ∧
      ((reaction.joinRooms ws rooms).state.client other).connectionId =
        (reaction.state.client other).connectionId := by
  rw [joinRooms_client]
  split
  · rename_i same
    subst same
    exact ⟨rfl, rfl⟩
  · exact ⟨rfl, rfl⟩

theorem joinRooms_extends (ws : Socket) (rooms : List RoomId) :
    Extends reaction.state (reaction.joinRooms ws rooms).state where
  member := fun _ _ member => member
  present := fun other present =>
    ⟨present, (joinRooms_identity ws other rooms).1⟩

/-- Rooms are joined only with the memberships that were found. -/
theorem Safe.joinRooms
    (safe : Safe originConnectionId reaction) {ws : Socket}
    (rooms : List RoomId) (present : Present reaction.state ws)
    (members :
      ∀ roomId ∈ rooms,
        reaction.state.isMember (reaction.state.client ws).userId
          roomId = true) :
    Safe originConnectionId (reaction.joinRooms ws rooms) where
  frames := by
    intro frame sent
    have permitted :
        Permitted reaction.state originConnectionId frame.1 frame.2 :=
      safe.frames frame sent
    rcases joinRooms_identity ws frame.1 rooms with
      ⟨sameUser, sameConnection⟩
    exact permitted.congr (by rfl) sameUser sameConnection
  published := safe.published
  sound :=
    { joined := by
        intro other roomId joined
        rw [(joinRooms_identity ws other rooms).1]
        rcases (mem_joinRooms_roomIds reaction ws other rooms roomId).mp
            joined with before | ⟨rfl, listed⟩
        · exact safe.sound.joined other roomId before
        · exact ⟨present, members roomId listed⟩
      indexed := by
        intro other roomId
        rw [mem_joinRooms_members, mem_joinRooms_roomIds]
        exact Or.imp_left (safe.sound.indexed other roomId)
      named := by
        intro other connected
        rw [(joinRooms_identity ws other rooms).2]
        exact safe.sound.named other connected }
  entitled := fun handler member =>
    (safe.entitled handler member).mono (joinRooms_extends ws rooms)

/-- A presence frame reaches members of rooms that its user is in. -/
theorem Safe.sendPresence
    (safe : Safe originConnectionId reaction) {userId : UserId}
    {rooms : List RoomId}
    (members :
      ∀ roomId ∈ rooms, reaction.state.isMember userId roomId = true)
    (online : Bool) :
    Safe originConnectionId
      (Server.sendPresence reaction userId rooms online) := by
  refine safe.sendAll _ fun frame offered => ?_
  rcases List.mem_map.mp offered with ⟨socket, contact, rfl⟩
  rcases mem_contacts.mp contact with ⟨roomId, listed, indexed, _⟩
  exact ⟨roomId, members roomId listed, safe.sound.member indexed⟩

theorem Safe.broadcastPresence
    (safe : Safe originConnectionId reaction) (ws : Socket)
    (online : Bool) :
    Safe originConnectionId
      (Server.broadcastPresence reaction ws online) :=
  safe.sendPresence
    (fun roomId joined => (safe.sound.joined ws roomId joined).2) online

theorem Safe.broadcastRoomEvent
    {event : RoomEvent} {state : State Socket}
    (safe : Safe originConnectionId { state := state })
    (sameRoom : event.roomId = event.message.chatId)
    (sameOrigin : event.originConnectionId = truthy originConnectionId) :
    Safe originConnectionId
      (broadcastRoomEventToLocalClients { state := state } event) := by
  unfold broadcastRoomEventToLocalClients
  split
  · refine safe.sendAll _ fun frame offered => ?_
    rcases List.mem_map.mp offered with ⟨socket, recipient, rfl⟩
    simp only [eventRecipients, List.mem_filter, Bool.and_eq_true,
      bne_iff_ne] at recipient
    rcases recipient with ⟨indexed, ⟨_, notSender⟩, notOrigin⟩
    refine ⟨sameRoom ▸ safe.sound.member indexed, notSender, ?_⟩
    rintro rfl
    have joined := safe.sound.indexed socket event.roomId indexed
    have named : (state.client socket).connectionId ≠ "" :=
      safe.sound.named socket (safe.sound.joined _ _ joined).1
    rw [sameOrigin] at notOrigin
    exact notOrigin (by simp [truthy, Option.filter, named])
  · exact safe

theorem Safe.acceptTyping
    (safe : Safe originConnectionId reaction) (ws : Socket)
    (frame : TypingFrame) :
    Safe originConnectionId
      (Server.acceptTyping reaction ws frame) := by
  refine safe.sendAll _ fun sent offered => ?_
  rcases List.mem_map.mp offered with ⟨socket, indexed, rfl⟩
  exact safe.sound.member indexed

end Operations

/-! ## Handlers -/

section Handlers

variable {originConnectionId : Option ConnectionId}
  {reaction : Reaction Socket}

/-- The reaction is safe, and so is what is waited for next. -/
def SafeNext
    (originConnectionId : Option ConnectionId)
    (resumed : Reaction Socket × Option (Handler Socket)) : Prop :=
  Safe originConnectionId resumed.1 ∧
    ∀ next, resumed.2 = some next → Entitled resumed.1.state next

omit [DecidableEq Socket] in
theorem Safe.ends (safe : Safe originConnectionId reaction) :
    SafeNext originConnectionId (reaction, none) :=
  ⟨safe, fun _ impossible => by cases impossible⟩

omit [DecidableEq Socket] in
theorem Safe.waits
    (safe : Safe originConnectionId reaction)
    {next : Handler Socket} (entitled : Entitled reaction.state next) :
    SafeNext originConnectionId (reaction, some next) :=
  ⟨safe, fun _ same => Option.some.inj same ▸ entitled⟩

omit [DecidableEq Socket] in
theorem Safe.acceptSend
    (settings : Settings)
    (safe : Safe originConnectionId reaction) {ws : Socket}
    {frame : SendFrame}
    (member :
      reaction.state.isMember (reaction.state.client ws).userId
        frame.chatId = true)
    (now : Timestamp) :
    SafeNext originConnectionId
      (Server.acceptSend settings reaction ws frame now) :=
  (safe.publish member).waits member

theorem Safe.setupWithRooms
    (settings : Settings)
    (safe : Safe originConnectionId reaction) {ws : Socket}
    (wasOnline : Bool) {rooms : List RoomId}
    (present : Present reaction.state ws)
    (members :
      ∀ roomId ∈ rooms,
        reaction.state.isMember (reaction.state.client ws).userId
          roomId = true) :
    SafeNext originConnectionId
      (Server.setupWithRooms settings reaction ws wasOnline rooms) := by
  have joined := safe.joinRooms rooms present members
  have ownRooms :
      ∀ roomId ∈
          ((reaction.joinRooms ws rooms).state.client ws).roomIds.items,
        (reaction.joinRooms ws rooms).state.isMember
          ((reaction.joinRooms ws rooms).state.client ws).userId
          roomId = true :=
    fun roomId listed => (joined.sound.joined ws roomId listed).2
  unfold Server.setupWithRooms
  split
  · dsimp only
    split
    · split
      · exact joined.waits trivial
      · exact joined.waits ⟨present, ownRooms, trivial⟩
    · have told :=
        joined.sendAll
          ((findLocalOnlineRoomMembers
              (reaction.joinRooms ws rooms).state ws).map
            fun userId => (ws, .presence userId true))
          (by
            intro frame offered
            rcases List.mem_map.mp offered with ⟨userId, online, rfl⟩
            rcases mem_findLocalOnlineRoomMembers.mp online with
              ⟨other, contact, rfl⟩
            rcases mem_contacts.mp contact with
              ⟨roomId, listed, indexed, _⟩
            exact
              ⟨roomId, joined.sound.member indexed,
                ownRooms roomId listed⟩)
      split
      · exact told.ends
      · exact (told.broadcastPresence ws true).ends
  · exact safe.ends

/-- Going on with a handler is safe. -/
theorem Safe.resume
    (settings : Settings)
    (safe : Safe originConnectionId reaction) (input : Resumption)
    {handler : Handler Socket}
    (entitled : Entitled reaction.state handler) :
    SafeNext originConnectionId
      (Server.resume settings reaction input handler) := by
  unfold Server.resume
  split
  · exact safe.setupWithRooms settings _ entitled.1 entitled.2
  · exact (safe.closeSocket _).ends
  · exact safe.waits ⟨entitled.1, entitled.2.2⟩
  · exact (safe.closeSocket _).ends
  · split
    · refine Safe.waits (safe.sendAll _ fun frame offered => ?_) trivial
      rcases List.mem_map.mp offered with ⟨userId, online, rfl⟩
      exact entitled.2 userId (List.mem_filter.mp online).1
    · exact (safe.closeSocket _).ends
  · exact safe.ends
  · split
    · split
      · rename_i joined
        exact
          safe.acceptSend settings (safe.sound.joined _ _ joined).2
            input.now
      · exact safe.waits ⟨entitled, trivial⟩
    · exact (safe.sendError _ _ _ _).ends
  · rename_i ws frame
    have joined :=
      safe.joinRooms [frame.chatId] entitled.1
        (by simpa using entitled.2 rfl)
    refine joined.acceptSend settings ?_ input.now
    rw [(joinRooms_identity ws ws [frame.chatId]).1]
    exact entitled.2 rfl
  · exact (safe.sendError _ _ _ _).ends
  · exact safe.crash.ends
  · split
    · refine Safe.ends (safe.sendJson ?_)
      trivial
    · split
      · exact (safe.sendError _ _ _ _).ends
      · exact safe.waits entitled
  · exact (safe.publish entitled).waits entitled
  · split
    · split
      · exact (safe.acceptTyping _ _).ends
      · exact safe.waits ⟨entitled, trivial⟩
    · exact (safe.sendError _ _ _ _).ends
  · rename_i ws frame
    have joined :=
      safe.joinRooms [frame.chatId] entitled.1
        (by simpa using entitled.2 rfl)
    exact (joined.acceptTyping ws frame).ends
  · exact (safe.sendError _ _ _ _).ends
  · exact safe.crash.ends
  · exact (safe.sendPresence entitled _).ends
  · exact safe.crash.ends
  · exact safe.waits entitled

end Handlers

/-! ## Callbacks -/

section Callbacks

variable {state : State Socket}

theorem Authorised.connected
    (settings : Settings) (authorised : Authorised state) {ws : Socket}
    (userId : UserId) (uuid : String)
    (absent : state.readyState ws = .absent) :
    Authorised (Reactions.connected settings state ws userId uuid) := by
  have extension :
      Extends state (Reactions.connected settings state ws userId uuid) :=
    { member := fun _ _ member => member
      present := by
        intro other present
        have different : other ≠ ws := by
          rintro rfl
          exact present absent
        simpa [Present, Reactions.connected, different] using present }
  refine
    ⟨⟨fun other roomId joined => ?_, fun other roomId listed => ?_,
        fun other present => ?_⟩,
      fun handler member =>
        (authorised.entitled handler member).mono extension⟩
  · by_cases same : other = ws
    · subst same
      simp [Reactions.connected] at joined
    · have before :=
        authorised.sound.joined other roomId
          (by simpa [Reactions.connected, same] using joined)
      simp only [Present, Reactions.connected,
        Function.update_of_ne same] at before ⊢
      exact before
  · have before := authorised.sound.indexed other roomId listed
    by_cases same : other = ws
    · subst same
      have present := (authorised.sound.joined _ _ before).1
      exact absurd absent present
    · simpa [Reactions.connected, same] using before
  · by_cases same : other = ws
    · subst same
      simp [Reactions.connected, createConnectionId]
    · have before := authorised.sound.named other
      simp only [Present, Reactions.connected,
        Function.update_of_ne same] at present before ⊢
      exact before present

/-- The close callback removes the socket from the index. -/
theorem Authorised.disconnected
    (authorised : Authorised state) {ws : Socket}
    (live : Present state ws) :
    Authorised (Reactions.disconnected state ws) := by
  have same :
      ∀ other,
        Present (Reactions.disconnected state ws) other ↔
          Present state other := by
    intro other
    by_cases isWs : other = ws
    · subst isWs
      simpa [Present, Reactions.disconnected] using live
    · simp [Present, Reactions.disconnected, isWs]
  have extension : Extends state (Reactions.disconnected state ws) :=
    { member := fun _ _ member => member
      present := fun other present =>
        ⟨(same other).mpr present, rfl⟩ }
  refine
    ⟨⟨fun other roomId joined => ?_, fun other roomId listed => ?_,
        fun other present => ?_⟩,
      fun handler member =>
        (authorised.entitled handler member).mono extension⟩
  · rcases authorised.sound.joined other roomId joined with
      ⟨present, member⟩
    exact ⟨(same other).mpr present, member⟩
  · apply authorised.sound.indexed other roomId
    simp only [Reactions.disconnected] at listed
    split at listed
    · exact (SetIndex.mem_members_deleteAll.mp listed).1
    · exact listed
  · exact authorised.sound.named other ((same other).mp present)

theorem Authorised.onConnection
    (settings : Settings) (authorised : Authorised state) {ws : Socket}
    (userId : UserId) (uuid : String)
    (absent : state.readyState ws = .absent) :
    Safe none (Server.onConnection settings state ws userId uuid) := by
  have registered :
      Safe none
        { state :=
            Reactions.connected settings state ws userId uuid } :=
    (authorised.connected settings userId uuid absent).safe none
  have present :
      Present (Reactions.connected settings state ws userId uuid) ws := by
    simp [Present, Reactions.connected]
  unfold Server.onConnection
  dsimp only
  split
  · exact registered.await ⟨present, trivial⟩
  · split
    · exact registered.await trivial
    · split
      · exact registered
      · exact registered.broadcastPresence ws true

theorem Authorised.onClose
    (settings : Settings) (authorised : Authorised state) {ws : Socket}
    (live : Present state ws) :
    Safe none (Server.onClose settings state ws) := by
  have removed := (authorised.disconnected live).safe none
  unfold Reactions.disconnected at removed
  unfold Server.onClose
  by_cases registered : ws ∈ state.store.clientStates
  · simp only [registered, if_true] at removed ⊢
    split
    · exact removed
    · split
      · exact removed
      · exact removed.broadcastPresence ws false
  · simp only [registered, if_false] at removed ⊢
    exact removed

theorem Authorised.onMessage
    (authorised : Authorised state) {ws : Socket}
    (live : Present state ws) (frame : Option Json) :
    Safe none (Server.onMessage state ws frame) := by
  have safe := authorised.safe none
  cases frame with
  | none => exact safe
  | some frame =>
      simp only [Server.onMessage]
      split
      · exact safe.crash
      · exact safe.sendJson trivial
      · split
        · exact safe.crash
        · exact safe.sendError _ _ _ _
        · exact safe.await live
      · split
        · exact safe.crash
        · exact safe.sendError _ _ _ _
        · exact safe.await live
      · exact safe.sendError _ _ _ _

omit [DecidableEq Socket] in
theorem Authorised.replaceHandler
    (authorised : Authorised state) (index : Nat)
    {next : Option (Handler Socket)}
    (entitled :
      ∀ handler, next = some handler → Entitled state handler) :
    Authorised (Server.replaceHandler state index next) := by
  have extension :
      Extends state (Server.replaceHandler state index next) :=
    { member := fun _ _ member => member
      present := fun _ present => ⟨present, rfl⟩ }
  refine
    ⟨⟨authorised.sound.joined, authorised.sound.indexed,
        authorised.sound.named⟩,
      fun handler member => ?_⟩
  refine Entitled.mono extension ?_
  rcases mem_replaceHandler member with before | new
  · exact authorised.entitled handler before
  · exact entitled handler new

end Callbacks

/-! ## Runs -/

omit [DecidableEq Socket] in
theorem Authorised.createChat
    {state : State Socket} (authorised : Authorised state)
    (rows : List RoomMember) :
    Authorised { state with roomMembers := state.roomMembers ++ rows } := by
  have extension :
      Extends state
        { state with roomMembers := state.roomMembers ++ rows } :=
    { member := by
        intro userId roomId member
        simp only [State.isMember, List.any_append, Bool.or_eq_true]
        exact Or.inl member
      present := fun _ present => ⟨present, rfl⟩ }
  refine
    ⟨⟨fun ws roomId joined => ?_, authorised.sound.indexed,
        authorised.sound.named⟩,
      fun handler member =>
        (authorised.entitled handler member).mono extension⟩
  rcases authorised.sound.joined ws roomId joined with ⟨present, member⟩
  exact ⟨present, extension.member _ _ member⟩

theorem Authorised.buffer
    {state : State Socket} (authorised : Authorised state)
    (ws : Socket) (backpressured : Bool) :
    Authorised
      { state with
        backpressured :=
          Function.update state.backpressured ws backpressured } := by
  have extension :
      Extends state
        { state with
          backpressured :=
            Function.update state.backpressured ws backpressured } :=
    { member := fun _ _ member => member
      present := fun _ present => ⟨present, rfl⟩ }
  exact
    ⟨⟨authorised.sound.joined, authorised.sound.indexed,
        authorised.sound.named⟩,
      fun handler member =>
        (authorised.entitled handler member).mono extension⟩

/-- Whatever happens, what is sent and published is permitted. -/
theorem Authorised.react
    (settings : Settings) {state : State Socket}
    (authorised : Authorised state) (event : Event Socket) :
    Safe (origin event) (Server.react settings state event) := by
  have live :
      ∀ ws, state.readyState ws = .opened ∨
          state.readyState ws = .closing → Present state ws := by
    rintro ws (opened | closing)
    · simp [Present, opened]
    · simp [Present, closing]
  unfold Server.react
  split
  · exact authorised.safe _
  · split
    · exact (authorised.createChat _).safe _
    · split
      · rename_i absent
        exact authorised.onConnection settings _ _ absent
      · exact authorised.safe _
    · rename_i ws backpressured
      exact (authorised.buffer ws backpressured).safe _
    · exact (authorised.safe _).closeSocket _
    · split
      · rename_i isLive
        exact authorised.onClose settings (live _ isLive)
      · exact authorised.safe _
    · split
      · rename_i isLive
        exact authorised.onMessage (live _ isLive) _
      · exact authorised.safe _
    · exact (authorised.safe _).broadcastRoomEvent rfl rfl
    · exact (authorised.safe _).await trivial
    · split
      · exact authorised.safe _
      · rename_i index succeeds _ handler found
        have entitled :=
          authorised.entitled handler (List.mem_of_getElem? found)
        refine Authorised.safe (authorised.replaceHandler index ?_) _
        rintro next ⟨⟩
        exact entitled.answer succeeds
    · split
      · exact authorised.safe _
      · rename_i index input _ handler found
        have entitled :=
          authorised.entitled handler (List.mem_of_getElem? found)
        rcases (authorised.safe none).resume settings input entitled with
          ⟨resumed, next⟩
        have replaced := resumed.authorised.replaceHandler index next
        exact
          { frames := fun sent member =>
              (resumed.frames sent member).congr rfl rfl rfl
            published := resumed.published
            sound := replaced.sound
            entitled := replaced.entitled }

/--
In every run, every msg and every typing frame concerns a room of the user
of its socket, a msg frame goes neither to the sender nor to the origin
connection, a presence frame concerns a user with whom its recipient shares
a room, and every published command names a sender who is in its room.
-/
theorem rooms_are_isolated
    (settings : Settings) (rows : List RoomMember)
    (events : List (Event Socket)) :
    EveryStep (Server.step settings)
      (fun state event =>
        Isolated (origin event) (Server.react settings state event))
      (State.start rows) events := by
  apply everyStep_of_invariant Authorised
  · intro state event authorised
    exact (authorised.react settings event).authorised
  · intro state event authorised
    exact (authorised.react settings event).toIsolated
  · exact Authorised.start rows

end ChatBackend.Realtime.RoomIsolation
