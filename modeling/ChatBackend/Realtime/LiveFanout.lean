import ChatBackend.Realtime.RoomIsolation

/-!
# Who is reached by a room event

A room event goes to the sockets in the index of its room.  A socket enters
the index with the rooms that the membership query of its setup returned,
and later with a room for which its client sent a frame.  No event tells the
server of a new room: a membership that is added after the setup has looked
leaves a client without the messages of the room until it sends something.

From the look-up on, `Tracked` says where the room is: in the index, or with
the setup handler that waits with the rows.
-/

namespace ChatBackend.Realtime.LiveFanout

open ChatBackend.Foundation.EventRuns
open ChatBackend.Foundation.OrderedSets
open ChatBackend.Storage.Schema
open ChatBackend.Writer.BatchTransaction
open ChatBackend.Writer.OutboxDrain
open ChatBackend.Realtime.PresenceStore
open ChatBackend.Realtime.ServerFrames
open ChatBackend.Realtime.Server
open ChatBackend.Realtime.Reactions
open ChatBackend.Realtime.RoomIsolation

variable {Socket : Type} [DecidableEq Socket]

/-! ## Recipients -/

/-- The socket whose connection setup a handler belongs to. -/
def setupSocket : Handler Socket → Option Socket
  | .setupRooms ws _ _ => some ws
  | .setupMembers ws _ _ => some ws
  | .setupOnline ws _ => some ws
  | .setupRegister ws => some ws
  | _ => none

/-- A registered socket that takes frames and has been set up. -/
structure Listening (state : State Socket) (ws : Socket) : Prop where
  running : state.crashed = false
  registered : ws ∈ state.store.clientStates
  writable : Writable state ws
  setUp : ∀ handler ∈ state.handlers, setupSocket handler ≠ some ws

/-- The socket is neither one of the sender nor the origin of a message. -/
def Foreign
    (state : State Socket) (ws : Socket) (message : MessageDto)
    (originConnectionId : Option ConnectionId) : Prop :=
  (state.client ws).userId ≠ message.senderId ∧
    originConnectionId ≠ some (state.client ws).connectionId

/-- The frames of a reaction that go to one socket. -/
def framesTo
    (reaction : Reaction Socket) (ws : Socket) :
    List (Socket × WsServerFrame) :=
  reaction.frames.filter fun sent => sent.1 = ws

/-- The event finds the membership of the user of a socket in a room. -/
inductive LooksUp
    (state : State Socket) (ws : Socket) (roomId : RoomId) :
    Event Socket → Prop where
  | setup (index : Nat) (wasOnline : Bool) :
      state.handlers[index]? =
          some (.setupRooms ws wasOnline .waiting) →
        state.isMember (state.client ws).userId roomId = true →
          LooksUp state ws roomId (.query index true)
  | frame (index : Nat) (input : Resumption) (handler : Handler Socket) :
      state.handlers[index]? = some handler →
        joins handler = some (ws, roomId) →
          LooksUp state ws roomId (.resume index input)

/-- Sockets in the index that listen get the message once. -/
theorem indexed_is_reached
    (settings : Settings) {state : State Socket} {ws : Socket}
    {message : MessageDto} {originConnectionId : Option ConnectionId}
    (listening : Listening state ws)
    (foreign : Foreign state ws message originConnectionId)
    (indexed :
      ws ∈ state.store.roomSockets.members message.chatId) :
    framesTo
        (Server.react settings state
          (.roomEvent message originConnectionId))
        ws =
      [(ws, .msg message)] := by
  have recipient :
      ws ∈ eventRecipients state
        (publishRoomMessage message originConnectionId) := by
    simp only [eventRecipients, publishRoomMessage, List.mem_filter,
      Bool.and_eq_true, decide_eq_true_eq, bne_iff_ne]
    refine ⟨indexed, ⟨listening.registered, foreign.1⟩, ?_⟩
    intro same
    refine foreign.2 (Eq.trans ?_ same.symm)
    cases originConnectionId with
    | none => simp [truthy] at same
    | some connectionId =>
        simp only [truthy, Option.filter] at same ⊢
        split at same
        · rename_i named
          simp [named]
        · cases same
  have once :
      (eventRecipients state
          (publishRoomMessage message originConnectionId)).Nodup :=
    (state.store.roomSockets.members message.chatId).nodup.filter _
  have sent :
      (Server.react settings state
          (.roomEvent message originConnectionId)).frames =
        ((eventRecipients state
              (publishRoomMessage message originConnectionId)).map
            fun socket => (socket, WsServerFrame.msg message)).filter
          fun frame => Writable state frame.1 := by
    simp only [Server.react, listening.running]
    exact (sendAll_cases { state := state } _).2.2
  have onlyWs :
      (eventRecipients state
            (publishRoomMessage message originConnectionId)).filter
          (fun socket => decide (socket = ws)) = [ws] := by
    rw [List.filter_eq, List.count_eq_one_of_mem once recipient]
    rfl
  rw [framesTo, sent, List.filter_filter, List.filter_map]
  refine
    congrArg (List.map fun socket => (socket, WsServerFrame.msg message))
      (Eq.trans (List.filter_congr fun socket _ => ?_) onlyWs)
  simp only [Function.comp_apply, ← Bool.decide_and, decide_eq_decide]
  constructor
  · exact And.left
  · rintro rfl
    exact ⟨rfl, listening.writable⟩

/-! ## From the look-up to the index -/

/-- Open sockets are registered. -/
def Registered (state : State Socket) : Prop :=
  ∀ ws, state.readyState ws = .opened → ws ∈ state.store.clientStates

theorem Registered.step
    (settings : Settings) {state : State Socket}
    (registered : Registered state) (event : Event Socket) :
    Registered (Server.step settings state event) := by
  rcases step_change settings state event with ⟨base, change, quiet⟩
  have registeredBase : Registered base := by
    cases change with
    | same => exact registered
    | createChat rows => exact registered
    | connect ws userId uuid absent =>
        intro other opened
        by_cases same : other = ws
        · simp [connected, addClient, same]
        · have before := registered other
          simp only [connected, Function.update_of_ne same] at opened
          simp [connected, addClient, before opened]
    | buffer ws backpressured => exact registered
    | close ws live =>
        intro other opened
        by_cases same : other = ws
        · subst same
          simp [disconnected] at opened
        · simp only [disconnected, Function.update_of_ne same] at opened
          have before := registered other opened
          simp only [disconnected]
          split
          · simp [removeClient, removeSocketFromRooms, same, before]
          · exact before
    | join index input handler ws rooms running found cause =>
        intro other opened
        rw [(joinRooms_store { state := state } ws rooms).2]
        exact registered other opened
  intro ws opened
  have store : (Server.step settings state event).store = base.store :=
    quiet.store
  rw [store]
  rcases quiet.readyState ws with same | ⟨isOpen, _⟩
  · exact registeredBase ws (same.symm.trans opened)
  · exact registeredBase ws isOpen

section Steps

variable {settings : Settings} {state : State Socket}
  {event : Event Socket} {ws : Socket}

theorem present_step
    (present : Present state ws) :
    Present (Server.step settings state event) ws := by
  rcases step_change settings state event with ⟨base, change, quiet⟩
  refine ((Quiet.extends quiet).present ws ?_).1
  cases change with
  | same => exact present
  | createChat rows => exact present
  | connect other userId uuid absent =>
      by_cases same : ws = other
      · simp [Present, connected, same]
      · simpa [Present, connected, same] using present
  | buffer other backpressured => exact present
  | close other live =>
      by_cases same : ws = other
      · simp [Present, disconnected, same]
      · simpa [Present, disconnected, same] using present
  | join index input handler other rooms running found cause =>
      exact present

/-- A socket that stays open was open, and stays in the indexes. -/
theorem stays_open
    (present : Present state ws)
    (opened :
      (Server.step settings state event).readyState ws = .opened) :
    state.readyState ws = .opened ∧
      ∀ roomId, ws ∈ state.store.roomSockets.members roomId →
        ws ∈ (Server.step settings state event).store.roomSockets.members
          roomId := by
  rcases step_change settings state event with ⟨base, change, quiet⟩
  have openedBase : base.readyState ws = .opened := by
    rcases quiet.readyState ws with same | ⟨isOpen, _⟩
    · exact same.symm.trans opened
    · exact isOpen
  have store : (Server.step settings state event).store = base.store :=
    quiet.store
  rw [store]
  cases change with
  | same => exact ⟨openedBase, fun _ => id⟩
  | createChat rows => exact ⟨openedBase, fun _ => id⟩
  | connect other userId uuid absent =>
      have different : ws ≠ other := by
        rintro rfl
        exact present absent
      refine ⟨?_, fun _ => id⟩
      simpa [connected, different] using openedBase
  | buffer other backpressured => exact ⟨openedBase, fun _ => id⟩
  | close other live =>
      have different : ws ≠ other := by
        rintro rfl
        simp [disconnected] at openedBase
      constructor
      · simpa [disconnected, different] using openedBase
      · intro roomId member
        simp only [disconnected]
        split
        · exact
            SetIndex.mem_members_deleteAll.mpr
              ⟨member, fun _ => different⟩
        · exact member
  | join index input handler other rooms running found cause =>
      refine ⟨openedBase, fun roomId member => ?_⟩
      rw [mem_joinRooms_members]
      exact Or.inl member

end Steps

/-- As long as the socket is open, the room is indexed or waits. -/
structure Tracked
    (ws : Socket) (roomId : RoomId) (state : State Socket) : Prop where
  registered : Registered state
  present : Present state ws
  kept :
    state.readyState ws = .opened →
      ws ∈ state.store.roomSockets.members roomId ∨
        ∃ wasOnline rooms,
          .setupRooms ws wasOnline (.rows rooms) ∈ state.handlers ∧
            roomId ∈ rooms

/-- The setup that resumes with the rows puts them into the index. -/
theorem waiting_rooms_step
    (settings : Settings) {state : State Socket} {event : Event Socket}
    {ws : Socket} {wasOnline : Bool} {rooms : List RoomId}
    {roomId : RoomId}
    (registered : Registered state)
    (opened : state.readyState ws = .opened)
    (waiting : .setupRooms ws wasOnline (.rows rooms) ∈ state.handlers)
    (listed : roomId ∈ rooms) :
    ws ∈ (Server.step settings state event).store.roomSockets.members
        roomId ∨
      .setupRooms ws wasOnline (.rows rooms) ∈
        (Server.step settings state event).handlers := by
  by_cases touched :
      Touches state (.setupRooms ws wasOnline (.rows rooms)) event
  · by_cases crashed : state.crashed = true
    · refine Or.inr ?_
      simpa [Server.step, react, crashed] using waiting
    · cases event with
      | query index succeeds =>
          have found : state.handlers[index]? = _ := touched
          refine Or.inr ?_
          simp only [Server.step, react, crashed, found]
          have bound := (List.getElem?_eq_some_iff.mp found).1
          exact
            List.mem_iff_getElem?.mpr
              ⟨index, by simp [replaceHandler, answer, bound]⟩
      | resume index input =>
          have found : state.handlers[index]? = _ := touched
          refine Or.inl ?_
          simp only [Server.step, react, crashed, found]
          have quiet :=
            setupWithRooms_quiet { state := state } settings wasOnline
              rooms opened (registered ws opened)
          change ws ∈
            (resume settings { state := state } input
              (.setupRooms ws wasOnline
                (.rows rooms))).1.state.store.roomSockets.members roomId
          rw [resume, quiet.store, mem_joinRooms_members]
          exact Or.inr ⟨rfl, listed⟩
      | _ => cases touched
  · exact Or.inr (handler_stays settings waiting touched)

theorem Tracked.step
    (settings : Settings) {ws : Socket} {roomId : RoomId}
    {state : State Socket} (tracked : Tracked ws roomId state)
    (event : Event Socket) :
    Tracked ws roomId (Server.step settings state event) where
  registered := tracked.registered.step settings event
  present := present_step tracked.present
  kept := by
    intro openedAfter
    rcases stays_open tracked.present openedAfter with ⟨opened, indexed⟩
    rcases tracked.kept opened with
      member | ⟨wasOnline, rooms, waiting, listed⟩
    · exact Or.inl (indexed roomId member)
    · rcases waiting_rooms_step settings tracked.registered opened waiting
          listed with joined | waits
      · exact Or.inl joined
      · exact Or.inr ⟨wasOnline, rooms, waits, listed⟩

/-! ## Runs -/

/-- Once the process has ended, nothing happens. -/
theorem run_crashed
    (settings : Settings) {state : State Socket}
    (crashed : state.crashed = true) (events : List (Event Socket)) :
    run (Server.step settings) state events = state := by
  induction events with
  | nil => rfl
  | cons event rest induction =>
      have same : Server.step settings state event = state := by
        simp [Server.step, react, crashed]
      rw [run_cons, same]
      exact induction

omit [DecidableEq Socket] in
theorem Registered.start (rows : List RoomMember) :
    Registered (State.start rows : State Socket) := by
  simp [Registered, State.start]

theorem reached_authorised
    (settings : Settings) (rows : List RoomMember)
    (events : List (Event Socket)) :
    Authorised (run (Server.step settings) (State.start rows) events) :=
  run_invariant Authorised
    (fun _ event authorised =>
      (authorised.react settings event).authorised)
    (Authorised.start rows) events

/-- The look-up is the beginning of what is tracked. -/
theorem LooksUp.tracked
    (settings : Settings) {state : State Socket} {ws : Socket}
    {roomId : RoomId} {event : Event Socket}
    (running : state.crashed = false)
    (registered : Registered state) (authorised : Authorised state)
    (looksUp : LooksUp state ws roomId event) :
    Tracked ws roomId (Server.step settings state event) := by
  cases looksUp with
  | setup index wasOnline found member =>
      have present : Present state ws :=
        (authorised.entitled _ (List.mem_of_getElem? found)).1
      have bound := (List.getElem?_eq_some_iff.mp found).1
      refine
        ⟨registered.step settings _, present_step present,
          fun _ => Or.inr
            ⟨wasOnline, state.roomsOf (state.client ws).userId, ?_,
              mem_roomsOf.mpr member⟩⟩
      simp only [Server.step, react, running, found]
      exact
        List.mem_iff_getElem?.mpr
          ⟨index, by simp [replaceHandler, answer, bound]⟩
  | frame index input handler found joined =>
      have present : Present state ws := by
        have entitled :=
          authorised.entitled handler (List.mem_of_getElem? found)
        unfold joins at joined
        split at joined
        · cases joined
          exact entitled.1
        · cases joined
          exact entitled.1
        · cases joined
      refine
        ⟨registered.step settings _, present_step present,
          fun _ => Or.inl ?_⟩
      have quiet :=
        resume_joins { state := state } settings input joined
      simp only [Server.step, react, running, found]
      change ws ∈
        (resume settings { state := state } input
          handler).1.state.store.roomSockets.members roomId
      rw [quiet.store, mem_joinRooms_members]
      exact Or.inr ⟨rfl, List.mem_singleton_self roomId⟩

/--
When a room event reaches the instance, every listening socket that is
foreign to the message gets it exactly once, if some earlier event has found
its membership: the query of its setup, or a frame that it sent.
-/
theorem looked_up_members_are_reached
    (settings : Settings) (rows : List RoomMember)
    (before after : List (Event Socket)) (event : Event Socket)
    (ws : Socket) (message : MessageDto)
    (originConnectionId : Option ConnectionId) :
    let asked := run (Server.step settings) (State.start rows) before
    let state := run (Server.step settings) asked (event :: after)
    LooksUp asked ws message.chatId event →
      Listening state ws →
        Foreign state ws message originConnectionId →
          framesTo
              (Server.react settings state
                (.roomEvent message originConnectionId))
              ws =
            [(ws, .msg message)] := by
  intro asked state looksUp listening foreign
  have running : asked.crashed = false := by
    rw [← Bool.not_eq_true]
    intro crashed
    have same : state = asked := run_crashed settings crashed _
    have isRunning := listening.running
    rw [same, crashed] at isRunning
    cases isRunning
  have registered : Registered asked :=
    run_invariant Registered
      (fun _ event registered => registered.step settings event)
      (Registered.start rows) before
  have tracked : Tracked ws message.chatId state :=
    run_invariant (Tracked ws message.chatId)
      (fun _ event tracked => tracked.step settings event)
      (looksUp.tracked settings running registered
        (reached_authorised settings rows before))
      after
  apply indexed_is_reached settings listening foreign
  rcases tracked.kept listening.writable.1 with
    indexed | ⟨wasOnline, waitingRooms, waiting, _⟩
  · exact indexed
  · exact absurd rfl (listening.setUp _ waiting)

/-! ## Rooms of before and after the look-up -/

def exampleMessage : MessageDto where
  id := "message"
  chatId := "room"
  senderId := "bob"
  body := "hello"
  createdAt := 0

theorem looked_up_members_are_reached_example :
    let rows : List RoomMember :=
      [{ userId := "ann", roomId := "room", joinedAt := 0 }]
    let events : List (Event Unit) :=
      [.connect () "ann" "uuid", .query 0 true, .resume 0 {}]
    framesTo
        (Server.react exampleSettings
          (run (Server.step exampleSettings) (State.start rows) events)
          (.roomEvent exampleMessage none))
        () =
      [((), .msg exampleMessage)] :=
  looked_up_members_are_reached exampleSettings
    [{ userId := "ann", roomId := "room", joinedAt := 0 }]
    [.connect () "ann" "uuid"] [.resume 0 {}] (.query 0 true) ()
    exampleMessage none
    (.setup 0 false rfl (by decide))
    ⟨by decide, by decide, by decide, by
      intro handler member
      cases member⟩
    ⟨by decide, by decide⟩

/-- The room is created when the setup is over. -/
def roomAfterSetup : List (Event Unit) :=
  [.connect () "ann" "uuid", .query 0 true, .resume 0 {},
    .createChat
      [{ userId := "ann", roomId := "room", joinedAt := 0 },
        { userId := "bob", roomId := "room", joinedAt := 0 }]]

theorem member_of_new_room_is_not_reached :
    let state :=
      run (Server.step exampleSettings) (State.start []) roomAfterSetup
    Listening state () ∧ state.isMember "ann" "room" = true ∧
      (state.client ()).userId = "ann" ∧
        Foreign state () exampleMessage none ∧
          framesTo
              (Server.react exampleSettings state
                (.roomEvent exampleMessage none))
              () =
            [] :=
  ⟨⟨by decide, by decide, by decide, by
      intro handler member
      cases member⟩,
    by decide, by decide, ⟨by decide, by decide⟩, by decide⟩

end ChatBackend.Realtime.LiveFanout
