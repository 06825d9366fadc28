import ChatBackend.Foundation.OrderedSets
import ChatBackend.Storage.Schema

/-!
# The in-memory presence store

`InMemoryPresenceStore` has three maps: the sockets of every room, the
sockets of every user, and the client state of every registered socket.  A
client state is an object that the handlers of its socket keep, also after
the client is removed; the third map is therefore modelled by its keys, and
the state of a socket is passed beside the store.
-/

namespace ChatBackend.Realtime.PresenceStore

open ChatBackend.Foundation.OrderedSets
open ChatBackend.Storage.Schema

variable {Socket : Type}

structure ClientState where
  userId : UserId
  connectionId : ConnectionId
  roomIds : OrderedSet RoomId

structure InMemoryPresenceStore (Socket : Type) where
  roomSockets : SetIndex RoomId Socket
  userSockets : SetIndex UserId Socket
  clientStates : OrderedSet Socket

def InMemoryPresenceStore.empty : InMemoryPresenceStore Socket where
  roomSockets := SetIndex.empty
  userSockets := SetIndex.empty
  clientStates := ∅

/-- None of the three maps has an entry. -/
def InMemoryPresenceStore.isEmpty
    (store : InMemoryPresenceStore Socket) : Prop :=
  (∀ roomId, store.roomSockets.get roomId = none) ∧
    (∀ userId, store.userSockets.get userId = none) ∧
      store.clientStates = ∅

variable [DecidableEq Socket]

def addClient
    (store : InMemoryPresenceStore Socket) (ws : Socket)
    (state : ClientState) : InMemoryPresenceStore Socket :=
  { store with
    clientStates := store.clientStates.add ws
    userSockets := store.userSockets.add state.userId ws }

/-- `removeSocketFromRooms`: leave the rooms of the client state. -/
def removeSocketFromRooms
    (store : InMemoryPresenceStore Socket) (ws : Socket)
    (state : ClientState) : InMemoryPresenceStore Socket :=
  { store with
    roomSockets := store.roomSockets.deleteAll state.roomIds.items ws }

/-- `removeClient` of a registered socket. -/
def removeClient
    (store : InMemoryPresenceStore Socket) (ws : Socket)
    (state : ClientState) : InMemoryPresenceStore Socket :=
  let left := removeSocketFromRooms store ws state
  { left with
    userSockets := left.userSockets.deleteAll [state.userId] ws
    clientStates := left.clientStates.delete ws }

/-- `addSocketToRoom` changes the index and the client state. -/
def addSocketToRoom
    (store : InMemoryPresenceStore Socket) (ws : Socket)
    (state : ClientState) (roomId : RoomId) :
    InMemoryPresenceStore Socket × ClientState :=
  ({ store with roomSockets := store.roomSockets.add roomId ws },
    { state with roomIds := state.roomIds.add roomId })

/-- The loop that adds a socket to the rooms of its user. -/
def addSocketToRooms
    (store : InMemoryPresenceStore Socket) (ws : Socket)
    (state : ClientState) :
    List RoomId → InMemoryPresenceStore Socket × ClientState
  | [] => (store, state)
  | roomId :: rest =>
      let (added, joined) := addSocketToRoom store ws state roomId
      addSocketToRooms added ws joined rest

def hasOpenSocketForUser
    (store : InMemoryPresenceStore Socket) (isOpen : Socket → Bool)
    (userId : UserId) : Bool :=
  (store.userSockets.members userId).items.any isOpen

/-! ## Members of the indexes -/

section Members

variable {store : InMemoryPresenceStore Socket} {ws other : Socket}
  {state : ClientState}

theorem addSocketToRooms_store (rooms : List RoomId) :
    (addSocketToRooms store ws state rooms).1.userSockets =
        store.userSockets ∧
      (addSocketToRooms store ws state rooms).1.clientStates =
        store.clientStates := by
  induction rooms generalizing store state with
  | nil => exact ⟨rfl, rfl⟩
  | cons roomId rest induction =>
      exact induction

theorem mem_addSocketToRooms
    (rooms : List RoomId) (roomId : RoomId) :
    other ∈ (addSocketToRooms store ws state rooms).1.roomSockets.members
        roomId ↔
      other ∈ store.roomSockets.members roomId ∨
        (other = ws ∧ roomId ∈ rooms) := by
  induction rooms generalizing store state with
  | nil => simp [addSocketToRooms]
  | cons first rest induction =>
      rw [addSocketToRooms, addSocketToRoom]
      rw [induction, SetIndex.members_add]
      by_cases same : roomId = first
      · subst same
        simp only [if_true, OrderedSet.mem_add, List.mem_cons, true_or,
          and_true]
        constructor
        · rintro ((isWs | before) | ⟨isWs, _⟩)
          · exact Or.inr isWs
          · exact Or.inl before
          · exact Or.inr isWs
        · rintro (before | isWs)
          · exact Or.inl (Or.inr before)
          · exact Or.inl (Or.inl isWs)
      · simp [same]

theorem addSocketToRooms_state (rooms : List RoomId) :
    (addSocketToRooms store ws state rooms).2 =
      { state with roomIds := state.roomIds.addAll rooms } := by
  induction rooms generalizing store state with
  | nil => rfl
  | cons roomId rest induction =>
      rw [addSocketToRooms, addSocketToRoom]
      rw [induction]
      rfl

theorem addSocketToRooms_trim
    (trim : store.roomSockets.Trim) (rooms : List RoomId) :
    (addSocketToRooms store ws state rooms).1.roomSockets.Trim := by
  induction rooms generalizing store state with
  | nil => exact trim
  | cons roomId rest induction =>
      exact
        induction
          (trim.add roomId ws)

end Members

end ChatBackend.Realtime.PresenceStore
