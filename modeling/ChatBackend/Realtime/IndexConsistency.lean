import ChatBackend.Realtime.Reactions

/-!
# The indexes of the presence store

`Tidy` says that the three maps fit together and that nothing stays in them
when everything is over.  Joining a room after its membership query keeps
this only if the socket is still registered: the setup of a connection looks
again, `ensureRoomIndexed` does not.  The store is tidy after every step of
exactly those runs in which no such join comes too late.
-/

namespace ChatBackend.Realtime.IndexConsistency

open ChatBackend.Foundation.EventRuns
open ChatBackend.Foundation.OrderedSets
open ChatBackend.Storage.Schema
open ChatBackend.Realtime.PresenceStore
open ChatBackend.Realtime.ServerFrames
open ChatBackend.Realtime.Server
open ChatBackend.Realtime.Reactions

variable {Socket : Type} [DecidableEq Socket]

/-! ## Consistent indexes -/

structure Tidy (state : State Socket) : Prop where
  roomRegistered :
    ∀ ws roomId, ws ∈ state.store.roomSockets.members roomId →
      ws ∈ state.store.clientStates
  userRegistered :
    ∀ ws userId, ws ∈ state.store.userSockets.members userId →
      ws ∈ state.store.clientStates
  indexed :
    ∀ ws roomId,
      ws ∈ state.store.roomSockets.members roomId ↔
        ws ∈ state.store.clientStates ∧
          roomId ∈ (state.client ws).roomIds
  roomTrim : state.store.roomSockets.Trim
  userTrim : state.store.userSockets.Trim
  leakFree :
    (∀ ws,
        state.readyState ws = .absent ∨ state.readyState ws = .closed) →
      state.handlers = [] → state.store.isEmpty

/-- The socket has connected and not closed yet. -/
def Live (state : State Socket) (ws : Socket) : Prop :=
  state.readyState ws = .opened ∨ state.readyState ws = .closing

/-- What keeps the indexes tidy: they are those of the live sockets. -/
structure Indexed (state : State Socket) : Prop where
  registered : ∀ ws, ws ∈ state.store.clientStates ↔ Live state ws
  rooms :
    ∀ ws roomId,
      ws ∈ state.store.roomSockets.members roomId ↔
        ws ∈ state.store.clientStates ∧
          roomId ∈ (state.client ws).roomIds
  users :
    ∀ ws userId,
      ws ∈ state.store.userSockets.members userId ↔
        ws ∈ state.store.clientStates ∧
          (state.client ws).userId = userId
  roomTrim : state.store.roomSockets.Trim
  userTrim : state.store.userSockets.Trim

namespace Indexed

omit [DecidableEq Socket] in
theorem start (rows : List RoomMember) :
    Indexed (State.start rows : State Socket) where
  registered := by simp [State.start, InMemoryPresenceStore.empty, Live]
  rooms := by simp [State.start, InMemoryPresenceStore.empty]
  users := by simp [State.start, InMemoryPresenceStore.empty]
  roomTrim := SetIndex.trim_empty
  userTrim := SetIndex.trim_empty

variable {state : State Socket} (consistent : Indexed state)

include consistent

omit [DecidableEq Socket] in
theorem tidy : Tidy state where
  roomRegistered := fun ws roomId member =>
    ((consistent.rooms ws roomId).mp member).1
  userRegistered := fun ws userId member =>
    ((consistent.users ws userId).mp member).1
  indexed := consistent.rooms
  roomTrim := consistent.roomTrim
  userTrim := consistent.userTrim
  leakFree := by
    intro allClosed _
    have nobody : ∀ ws, ws ∉ state.store.clientStates := by
      intro ws member
      rcases (consistent.registered ws).mp member with live | live <;>
        rcases allClosed ws with gone | gone <;>
          cases live.symm.trans gone
    refine ⟨fun roomId => ?_, fun userId => ?_, ?_⟩
    · exact
        consistent.roomTrim.get_eq_none fun ws member =>
          nobody ws ((consistent.rooms ws roomId).mp member).1
    · exact
        consistent.userTrim.get_eq_none fun ws member =>
          nobody ws ((consistent.users ws userId).mp member).1
    · exact OrderedSet.eq_empty_iff.mpr nobody

omit [DecidableEq Socket] in
/-- Sending frames and replacing handlers change no index. -/
theorem quiet
    {after : State Socket} {handlers : List (Handler Socket)}
    (quiet : Quiet state { after with handlers := handlers }) :
    Indexed after where
  registered := by
    intro ws
    have store : after.store = state.store := quiet.store
    rw [store, consistent.registered ws]
    rcases quiet.readyState ws with same | ⟨opened, closing⟩
    · simp only [Live] at same ⊢
      rw [same]
    · simp only [Live] at closing ⊢
      simp [opened, closing]
  rooms := by
    have store : after.store = state.store := quiet.store
    have client : after.client = state.client := quiet.client
    rw [store, client]
    exact consistent.rooms
  users := by
    have store : after.store = state.store := quiet.store
    have client : after.client = state.client := quiet.client
    rw [store, client]
    exact consistent.users
  roomTrim := by
    have store : after.store = state.store := quiet.store
    rw [store]
    exact consistent.roomTrim
  userTrim := by
    have store : after.store = state.store := quiet.store
    rw [store]
    exact consistent.userTrim

theorem connect
    (settings : Settings) {ws : Socket} (userId : UserId)
    (uuid : String) (absent : state.readyState ws = .absent) :
    Indexed (connected settings state ws userId uuid) := by
  have unregistered : ws ∉ state.store.clientStates := by
    intro member
    rcases (consistent.registered ws).mp member with live | live <;>
      cases live.symm.trans absent
  constructor
  case registered =>
    intro other
    by_cases same : other = ws
    · subst same
      simp [connected, addClient, Live]
    · have before := consistent.registered other
      simpa [connected, addClient, Live, same] using before
  case rooms =>
    intro other roomId
    have before := consistent.rooms other roomId
    by_cases same : other = ws
    · subst same
      simpa [connected, addClient, unregistered] using before
    · simpa [connected, addClient, same] using before
  case users =>
    intro other otherUser
    have before := consistent.users other otherUser
    by_cases same : other = ws
    · subst same
      by_cases isUser : otherUser = userId
      · simp [connected, addClient, isUser]
      · simpa [connected, addClient, isUser, Ne.symm isUser,
          unregistered] using before
    · by_cases isUser : otherUser = userId
      · subst isUser
        simpa [connected, addClient, same] using before
      · simpa [connected, addClient, isUser, same] using before
  case roomTrim => exact consistent.roomTrim
  case userTrim => exact consistent.userTrim.add userId ws

theorem close
    {ws : Socket} (live : Live state ws) :
    Indexed (disconnected state ws) := by
  have member := (consistent.registered ws).mpr live
  simp only [disconnected, member, if_true]
  constructor
  case registered =>
    intro other
    by_cases same : other = ws
    · subst same
      simp [removeClient, removeSocketFromRooms, Live]
    · have before := consistent.registered other
      simpa [removeClient, removeSocketFromRooms, Live, same]
        using before
  case rooms =>
    intro other roomId
    simp only [removeClient, removeSocketFromRooms,
      SetIndex.mem_members_deleteAll, OrderedSet.mem_delete,
      consistent.rooms other roomId]
    constructor
    · rintro ⟨⟨registered, joined⟩, kept⟩
      refine ⟨⟨?_, registered⟩, joined⟩
      rintro rfl
      exact kept joined rfl
    · rintro ⟨⟨different, registered⟩, joined⟩
      exact ⟨⟨registered, joined⟩, fun _ => different⟩
  case users =>
    intro other userId
    simp only [removeClient, removeSocketFromRooms,
      SetIndex.mem_members_deleteAll, OrderedSet.mem_delete,
      consistent.users other userId, List.mem_singleton]
    constructor
    · rintro ⟨⟨registered, isUser⟩, kept⟩
      refine ⟨⟨?_, registered⟩, isUser⟩
      rintro rfl
      exact kept isUser.symm rfl
    · rintro ⟨⟨different, registered⟩, isUser⟩
      exact ⟨⟨registered, isUser⟩, fun _ => different⟩
  case roomTrim => exact consistent.roomTrim.deleteAll _ ws
  case userTrim => exact consistent.userTrim.deleteAll _ ws

theorem join
    {ws : Socket} (registered : ws ∈ state.store.clientStates)
    (rooms : List RoomId) :
    Indexed (Reaction.joinRooms { state := state } ws rooms).state := by
  rcases joinRooms_store { state := state } ws rooms with
    ⟨sameUsers, sameClients⟩
  constructor
  case registered =>
    intro other
    rw [sameClients]
    exact consistent.registered other
  case rooms =>
    intro other roomId
    rw [mem_joinRooms_members, mem_joinRooms_roomIds, sameClients]
    simp only [consistent.rooms other roomId]
    constructor
    · rintro (⟨member, joined⟩ | ⟨rfl, listed⟩)
      · exact ⟨member, Or.inl joined⟩
      · exact ⟨registered, Or.inr ⟨rfl, listed⟩⟩
    · rintro ⟨member, joined | ⟨rfl, listed⟩⟩
      · exact Or.inl ⟨member, joined⟩
      · exact Or.inr ⟨rfl, listed⟩
  case users =>
    intro other userId
    rw [sameUsers, sameClients, joinRooms_userId]
    exact consistent.users other userId
  case roomTrim =>
    exact addSocketToRooms_trim consistent.roomTrim rooms
  case userTrim =>
    rw [sameUsers]
    exact consistent.userTrim

end Indexed

/-! ## Late joins -/

/-- A membership found by `ensureRoomIndexed` is of a client that stays. -/
def LiveJoin (state : State Socket) : Event Socket → Prop
  | .resume index _ =>
      state.crashed = false →
        ∀ handler, state.handlers[index]? = some handler →
          ∀ ws roomId, joins handler = some (ws, roomId) →
            ws ∈ state.store.clientStates
  | _ => True

omit [DecidableEq Socket] in
theorem JoinCause.registered
    {state : State Socket} {handler : Handler Socket} {ws : Socket}
    {rooms : List RoomId} (cause : JoinCause state handler ws rooms)
    (live :
      ∀ roomId, joins handler = some (ws, roomId) →
        ws ∈ state.store.clientStates) :
    ws ∈ state.store.clientStates := by
  cases cause with
  | setup _ wasOnline rooms opened registered => exact registered
  | send _ frame => exact live frame.chatId rfl
  | typing _ frame => exact live frame.chatId rfl

theorem Indexed.step
    (settings : Settings) {state : State Socket}
    (consistent : Indexed state) (event : Event Socket)
    (guarded : LiveJoin state event) :
    Indexed (Server.step settings state event) := by
  rcases step_change settings state event with ⟨base, change, quiet⟩
  refine Indexed.quiet ?_ quiet
  cases change with
  | same => exact consistent
  | createChat rows =>
      exact { consistent with }
  | connect ws userId uuid absent =>
      exact consistent.connect settings userId uuid absent
  | buffer ws backpressured =>
      exact { consistent with }
  | close ws live => exact consistent.close live
  | join index input handler ws rooms running found cause =>
      have registered : ws ∈ state.store.clientStates :=
        JoinCause.registered cause fun roomId joined =>
          guarded running handler found ws roomId joined
      exact consistent.join registered rooms

/-- A late join puts a socket into an index that nobody removes. -/
theorem liveJoin_of_tidy
    (settings : Settings) {state : State Socket}
    {event : Event Socket}
    (tidy : Tidy (Server.step settings state event)) :
    LiveJoin state event := by
  cases event with
  | resume index input =>
      intro running handler found ws roomId joined
      have quiet :=
        resume_joins { state := state } settings input joined
      have store :
          (Server.step settings state (.resume index input)).store =
            (Reaction.joinRooms { state := state } ws
              [roomId]).state.store := by
        simp only [Server.step, react, running, found]
        exact quiet.store
      have registered := tidy.roomRegistered ws roomId
      rw [store, (joinRooms_store { state := state } ws [roomId]).2]
        at registered
      apply registered
      rw [mem_joinRooms_members]
      exact Or.inr ⟨rfl, List.mem_singleton_self roomId⟩
  | _ => trivial

/--
The indexes are tidy after every step of exactly those runs in which every
membership that `ensureRoomIndexed` finds is of a registered client.
-/
theorem indexes_tidy_iff
    (settings : Settings) (rows : List RoomMember)
    (events : List (Event Socket)) :
    EveryStep (Server.step settings)
        (fun state event => Tidy (Server.step settings state event))
        (State.start rows) events ↔
      EveryStep (Server.step settings) LiveJoin (State.start rows)
        events := by
  apply everyStep_iff_guarded
  · intro state event consistent guarded
    exact Indexed.step settings consistent event guarded
  · intro state event consistent
    constructor
    · exact liveJoin_of_tidy settings
    · intro guarded
      exact (Indexed.step settings consistent event guarded).tidy
  · exact Indexed.start rows

/-! ## A socket that closes too early -/

/-- The socket closes between the membership query and its answer. -/
def closeDuringSend : List (Event Unit) :=
  [.connect () "ann" "uuid", .query 0 true, .resume 0 {},
    .createChat [{ userId := "ann", roomId := "room", joinedAt := 0 }],
    .message () (some exampleSend), .resume 0 {}, .query 0 true,
    .close (), .resume 0 {}, .resume 0 {}]

theorem close_during_send_leaks :
    ¬Tidy
        (run (Server.step exampleSettings) (State.start [])
          closeDuringSend) := by
  intro tidy
  have finished :=
    tidy.leakFree (fun () => Or.inr (by decide)) (by rfl)
  exact absurd (finished.1 "room") (by decide)

end ChatBackend.Realtime.IndexConsistency
