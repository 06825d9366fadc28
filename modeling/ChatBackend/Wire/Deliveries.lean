import ChatBackend.Chats.MessageCreation
import ChatBackend.Foundation.OrderedSets
import ChatBackend.Realtime.Reactions
import ChatBackend.Redis.ChannelPatterns
import ChatBackend.Wire.EventTexts

/-!
# Delivery to the realtime instances

Every realtime instance subscribes two handlers, one to the pattern of all
room channels and one to the presence channel.  `publish` calls the handlers
of the patterns that match a channel, pattern by pattern.

A room event reaches the room handler of every instance once, and no presence
handler; a presence event is the other way round.  The texts carry the events:
an instance offers the frames of `Server.broadcastRoomEventToLocalClients`,
and `sendJson` passes on those to sockets that are open and not too far
behind.
-/

namespace ChatBackend.Wire.Deliveries

open ChatBackend.Foundation.EventRuns
open ChatBackend.Foundation.OrderedSets
open ChatBackend.Storage.Schema
open ChatBackend.Writer.BatchTransaction
open ChatBackend.Writer.OutboxDrain
open ChatBackend.Chats.MessageCreation hiding Event step
open ChatBackend.Realtime.ServerFrames
open ChatBackend.Realtime.Server
open ChatBackend.Realtime.Reactions
open ChatBackend.Redis.ChannelPatterns
open ChatBackend.Wire.JsonPrinting
open ChatBackend.Wire.EventTexts

/-! ## Calls of listeners -/

variable {Listener : Type}

/-- The listeners of each pattern, in the order of the subscriptions. -/
abbrev Listeners (Listener : Type) :=
  OrderedMap String (OrderedSet Listener)

/-- The calls of a publication in their order, each under its pattern. -/
def publish
    (listeners : Listeners Listener) (channel : String) :
    List (String × Listener) :=
  listeners.entries.flatMap fun entry =>
    if matchesPattern entry.1 channel then
      entry.2.items.map fun listener => (entry.1, listener)
    else []

/-- The listeners of a pattern. -/
def listenersOf
    (listeners : Listeners Listener) (pattern : String) :
    OrderedSet Listener :=
  (listeners.get pattern).getD ∅

/-- A listener is called if its pattern matches the channel. -/
theorem mem_publish_iff
    {listeners : Listeners Listener} {channel pattern : String}
    {listener : Listener} :
    (pattern, listener) ∈ publish listeners channel ↔
      matchesPattern pattern channel = true ∧
        listener ∈ listenersOf listeners pattern := by
  rw [publish, List.mem_flatMap]
  constructor
  · rintro ⟨⟨other, set⟩, entry, call⟩
    split at call
    · rename_i found
      rcases List.mem_map.mp call with ⟨_, member, same⟩
      cases same
      refine ⟨found, ?_⟩
      rw [listenersOf, OrderedMap.get_eq_some_iff.mpr entry]
      exact member
    · cases call
  · rintro ⟨found, member⟩
    cases entry : listeners.get pattern with
    | none => simp [listenersOf, entry] at member
    | some set =>
        rw [listenersOf, entry, Option.getD_some] at member
        refine ⟨_, OrderedMap.get_eq_some_iff.mp entry, ?_⟩
        rw [if_pos found]
        exact List.mem_map_of_mem member

/-- No listener is called twice under one pattern. -/
theorem publish_nodup
    (listeners : Listeners Listener) (channel : String) :
    (publish listeners channel).Nodup := by
  rw [publish, List.nodup_flatMap]
  constructor
  · intro entry _
    split
    · exact
        entry.2.nodup.map fun _ _ same => (Prod.mk.injEq .. ▸ same).2
    · exact List.nodup_nil
  · have distinct := List.pairwise_map.mp listeners.nodup
    refine distinct.imp ?_
    intro first second different call inFirst inSecond
    apply different
    have patternOf : ∀ entry : String × OrderedSet Listener,
        call ∈
            (if matchesPattern entry.1 channel then
              entry.2.items.map fun listener => (entry.1, listener)
            else []) →
          call.1 = entry.1 := by
      intro entry member
      split at member
      · rcases List.mem_map.mp member with ⟨_, _, rfl⟩
        rfl
      · cases member
    rw [← patternOf first inFirst, patternOf second inSecond]

/-! ## Subscriptions -/

variable [DecidableEq Listener]

/-- A listener is added to those of its pattern. -/
def pSubscribe
    (listeners : Listeners Listener) (pattern : String)
    (listener : Listener) : Listeners Listener :=
  listeners.set pattern
    (((listeners.get pattern).getD ∅).add listener)

/-- Subscriptions one after another. -/
def subscribeAll
    (subscriptions : List (String × Listener)) : Listeners Listener :=
  subscriptions.foldl
    (fun listeners subscription =>
      pSubscribe listeners subscription.1 subscription.2)
    .empty

/-- A subscription adds one listener. -/
theorem mem_pSubscribe
    {listeners : Listeners Listener} {pattern other : String}
    {listener wanted : Listener} :
    wanted ∈ listenersOf (pSubscribe listeners pattern listener) other ↔
      (other = pattern ∧ wanted = listener) ∨
        wanted ∈ listenersOf listeners other := by
  rw [listenersOf, pSubscribe, OrderedMap.get_set]
  by_cases same : other = pattern
  · subst same
    simp [listenersOf]
  · simp [listenersOf, same]

/-- The listeners are those of the subscriptions. -/
theorem mem_subscribeAll
    {subscriptions : List (String × Listener)} {pattern : String}
    {listener : Listener} :
    listener ∈ listenersOf (subscribeAll subscriptions) pattern ↔
      (pattern, listener) ∈ subscriptions := by
  induction subscriptions using List.reverseRecOn with
  | nil => simp [subscribeAll, listenersOf]
  | append_singleton subscriptions last induction =>
      rw [subscribeAll, List.foldl_append, List.foldl_cons,
        List.foldl_nil, mem_pSubscribe, ← subscribeAll, induction,
        List.mem_append, List.mem_singleton, Prod.ext_iff, or_comm]

/-- A publication calls what subscribed to a pattern of its channel. -/
theorem mem_publish_subscribed_iff
    {subscriptions : List (String × Listener)}
    {channel pattern : String} {listener : Listener} :
    (pattern, listener) ∈
        publish (subscribeAll subscriptions) channel ↔
      Globs pattern.toList channel.toList ∧
        (pattern, listener) ∈ subscriptions := by
  rw [mem_publish_iff, matchesPattern_iff, mem_subscribeAll]

/-! ## The channels of events -/

/-- `ROOM_EVENT_PATTERN`. -/
def roomEventPattern : String :=
  "room:*:events"

/-- `PRESENCE_CHANNEL`. -/
def presenceChannel : String :=
  "presence:events"

/-- A text without line terminators. -/
def IsLine (text : String) : Prop :=
  ∀ character ∈ text.toList, isLineTerminator character = false

/-- A text without stars matches itself. -/
theorem globs_self
    (text : List Char) {pattern later : List Char}
    (plain : ∀ character ∈ text, character ≠ '*')
    (globs : Globs pattern later) :
    Globs (text ++ pattern) (text ++ later) := by
  induction text with
  | nil => exact globs
  | cons character text induction =>
      exact
        .self (plain character (by simp))
          (induction fun other member => plain other (by simp [member]))

/-- The pattern of room events matches the channels of all rooms. -/
theorem globs_roomEventChannel {roomId : RoomId} (isLine : IsLine roomId) :
    Globs roomEventPattern.toList (roomEventChannel roomId).toList := by
  have pieces :
      (roomEventChannel roomId).toList =
        "room:".toList ++ (roomId.toList ++ ":events".toList) := by
    simp [roomEventChannel]
  have events : Globs ":events".toList ":events".toList := by
    have plain := globs_self ":events".toList (by simp) Globs.nil
    simpa using plain
  rw [pieces]
  exact globs_self "room:".toList (by simp) (.star isLine events)

/-- No room has the channel of the presence events. -/
theorem not_globs_presence_room (roomId : RoomId) :
    ¬ Globs presenceChannel.toList (roomEventChannel roomId).toList := by
  have pieces :
      (roomEventChannel roomId).toList =
        'r' :: ("oom:".toList ++ (roomId.toList ++ ":events".toList)) := by
    simp [roomEventChannel]
  rw [pieces]
  intro globs
  cases globs

theorem globs_presenceChannel :
    Globs presenceChannel.toList presenceChannel.toList := by
  have plain :=
    globs_self presenceChannel.toList (by simp [presenceChannel])
      Globs.nil
  simpa using plain

/-- The pattern of the rooms leaves out the presence events. -/
theorem not_globs_room_presence :
    ¬ Globs roomEventPattern.toList presenceChannel.toList := by
  intro globs
  cases globs

/-! ## The instances -/

/-- The handlers that an instance subscribes. -/
inductive Handler where
  | roomEvents (server : Nat)
  | presenceEvents (server : Nat)
deriving DecidableEq

/-- What `createWebSocketServer` subscribes to. -/
def subscriptions (server : Nat) : List (String × Handler) :=
  [(roomEventPattern, .roomEvents server),
    (presenceChannel, .presenceEvents server)]

/-- The calls of a publication to which some instances have subscribed. -/
def calls (servers : List Nat) (channel : String) :
    List (String × Handler) :=
  publish (subscribeAll (servers.flatMap subscriptions)) channel

/-- A handler is called if one of its patterns matches. -/
theorem mem_calls_iff
    {servers : List Nat} {channel pattern : String} {handler : Handler} :
    (pattern, handler) ∈ calls servers channel ↔
      Globs pattern.toList channel.toList ∧
        ∃ server ∈ servers, (pattern, handler) ∈ subscriptions server := by
  rw [calls, mem_publish_subscribed_iff, List.mem_flatMap]

/-- The channel of a room calls the room handlers, and no others. -/
theorem mem_room_calls_iff
    {servers : List Nat} {roomId : RoomId} (isLine : IsLine roomId)
    {pattern : String} {handler : Handler} :
    (pattern, handler) ∈ calls servers (roomEventChannel roomId) ↔
      pattern = roomEventPattern ∧
        ∃ server ∈ servers, handler = .roomEvents server := by
  simp only [mem_calls_iff, subscriptions, List.mem_cons,
    List.not_mem_nil, or_false, Prod.mk.injEq]
  constructor
  · rintro ⟨globs, server, member, ⟨rfl, rfl⟩ | ⟨rfl, rfl⟩⟩
    · exact ⟨rfl, server, member, rfl⟩
    · exact absurd globs (not_globs_presence_room roomId)
  · rintro ⟨rfl, server, member, rfl⟩
    exact
      ⟨globs_roomEventChannel isLine, server, member, .inl ⟨rfl, rfl⟩⟩

/-- The presence channel calls the presence handlers, and no others. -/
theorem mem_presence_calls_iff
    {servers : List Nat} {pattern : String} {handler : Handler} :
    (pattern, handler) ∈ calls servers presenceChannel ↔
      pattern = presenceChannel ∧
        ∃ server ∈ servers, handler = .presenceEvents server := by
  simp only [mem_calls_iff, subscriptions, List.mem_cons,
    List.not_mem_nil, or_false, Prod.mk.injEq]
  constructor
  · rintro ⟨globs, server, member, ⟨rfl, rfl⟩ | ⟨rfl, rfl⟩⟩
    · exact absurd globs not_globs_room_presence
    · exact ⟨rfl, server, member, rfl⟩
  · rintro ⟨rfl, server, member, rfl⟩
    exact ⟨globs_presenceChannel, server, member, .inr ⟨rfl, rfl⟩⟩

/-- The events that the drain and the REST calls publish. -/
inductive Published : RoomEvent → Prop where
  | drained (row : ClaimedOutboxRow) (message : Message) :
      Published (roomEvent row message)
  | called (message : MessageDto) (origin : Option ConnectionId) :
      Published (roomMessageEvent message origin)

/-- Both publishers agree on channel, type and origin. -/
theorem Published.spec {event : RoomEvent} (published : Published event) :
    event.type = messageCreated ∧
      event.channel = roomEventChannel event.roomId ∧
      truthy event.originConnectionId = event.originConnectionId := by
  cases published with
  | drained row message =>
      refine ⟨rfl, rfl, ?_⟩
      simp [roomEvent, truthy, Option.filter_filter]
  | called message origin =>
      refine ⟨rfl, rfl, ?_⟩
      simp [roomMessageEvent, truthy, Option.filter_filter]

variable {Socket : Type} [DecidableEq Socket]

/-- What is sent of a room event: the offered frames to writable sockets. -/
theorem broadcastRoomEvent_frames
    (state : State Socket) {event : RoomEvent}
    (created : event.type = messageCreated) :
    (broadcastRoomEventToLocalClients { state := state } event).frames =
      ((eventRecipients state event).filter fun socket =>
          Writable state socket).map fun socket =>
        (socket, .msg event.message) := by
  rw [broadcastRoomEventToLocalClients, if_pos created,
    (sendAll_cases _ _).2.2, List.nil_append, List.filter_map]
  rfl

/--
An event that the drain or a request publishes calls the room handler of
every instance once, and no other handler.  From the text, each instance
offers the message to the sockets that its state says, and to no others; it
sends the frame to those of them that are open and below the buffer limit.
-/
theorem room_event_delivered
    (servers : List Nat) (state : Nat → State Socket) {event : RoomEvent}
    (published : Published event) (isLine : IsLine event.roomId) :
    (calls servers event.channel).Nodup ∧
      (∀ pattern handler,
        (pattern, handler) ∈ calls servers event.channel ↔
          pattern = roomEventPattern ∧
            ∃ server ∈ servers, handler = .roomEvents server) ∧
      ∀ server,
        framesForText (state server) (stringify (roomEventJson event)) =
            (eventRecipients (state server) event).map (fun socket =>
              (socket, frameJson (.msg event.message))) ∧
          (broadcastRoomEventToLocalClients { state := state server }
              event).frames =
            ((eventRecipients (state server) event).filter fun socket =>
                Writable (state server) socket).map fun socket =>
              (socket, .msg event.message) := by
  rcases published.spec with ⟨created, channel, origin⟩
  refine ⟨publish_nodup _ _, fun pattern handler => ?_, fun server => ?_⟩
  · rw [channel]
    exact mem_room_calls_iff isLine
  · exact
      ⟨framesForText_stringify (state server) created origin,
        broadcastRoomEvent_frames (state server) created⟩

def exampleMessage : MessageDto where
  id := "m"
  chatId := "r1"
  senderId := "u"
  body := "b"
  createdAt := 0

/--
The sender, and two members of the room who are connected; the second one is
behind with reading.
-/
def exampleInstance : State Nat :=
  run (step exampleSettings)
    (State.start
      [{ userId := "u", roomId := "r1", joinedAt := 0 },
        { userId := "v", roomId := "r1", joinedAt := 0 },
        { userId := "w", roomId := "r1", joinedAt := 0 }])
    [.connect 0 "u" "x", .query 0 true, .resume 0 {},
      .connect 1 "v" "y", .query 0 true, .resume 0 {},
      .connect 2 "w" "z", .query 0 true, .resume 0 {}, .buffer 2 true]

/-- Both members are offered the message, and the first one gets it. -/
theorem room_event_delivered_two :
    framesForText exampleInstance
          (stringify
            (roomEventJson (roomMessageEvent exampleMessage none))) =
        [(1, frameJson (.msg exampleMessage)),
          (2, frameJson (.msg exampleMessage))] ∧
      (broadcastRoomEventToLocalClients { state := exampleInstance }
          (roomMessageEvent exampleMessage none)).frames =
        [(1, .msg exampleMessage)] := by
  have recipients :
      eventRecipients exampleInstance
          (roomMessageEvent exampleMessage none) =
        [1, 2] := by
    decide +kernel
  have delivered :=
    (room_event_delivered [0] (fun _ => exampleInstance)
        (.called exampleMessage none)
        (by
          simp [IsLine, roomMessageEvent, exampleMessage,
            isLineTerminator])).2.2
      0
  rw [recipients] at delivered
  exact delivered.imp id fun sent => sent.trans (by decide +kernel)

/--
A presence event calls the presence handler of every instance once, and no
other handler.  Each instance reads the same user and the same state from
its text, and none takes it for a room event.
-/
theorem presence_event_delivered
    (servers : List Nat) (userId : UserId) (online : Bool) :
    (calls servers presenceChannel).Nodup ∧
      (∀ pattern handler,
        (pattern, handler) ∈ calls servers presenceChannel ↔
          pattern = presenceChannel ∧
            ∃ server ∈ servers, handler = .presenceEvents server) ∧
      parsePresenceEvent (stringify (presenceEventJson userId online)) =
        some (userId, online) ∧
      parseRoomEvent (stringify (presenceEventJson userId online)) =
        none :=
  ⟨publish_nodup _ _, fun _ _ => mem_presence_calls_iff,
    parsePresenceEvent_stringify userId online,
    parseRoomEvent_presence userId online⟩

end ChatBackend.Wire.Deliveries
