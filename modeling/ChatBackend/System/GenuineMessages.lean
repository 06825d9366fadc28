import ChatBackend.System.Composition

/-!
# Genuine messages

What users see of each other are messages, and they come a long way: from a
post or a client frame through the stream, a batch, the outbox and the
channel.  `Authentic` is what holds of a message on the channel: it is
stored, its sender is in its room, and the sender has posted it.  `Genuine`
adds that it is shown to another member.

`Intact` is the invariant of the whole back end that carries this along.
-/

namespace ChatBackend.System.GenuineMessages

open ChatBackend.Foundation.EventRuns
open ChatBackend.Storage.Schema
open ChatBackend.Storage.SequenceMigration
open ChatBackend.Storage.TableInvariants
open ChatBackend.Writer.WriteCommands
open ChatBackend.Writer.BatchTransaction
open ChatBackend.Writer.OutboxDrain
open ChatBackend.Realtime.ServerFrames
open ChatBackend.Realtime.Server hiding Event step
open ChatBackend.Realtime.ClientCommands
open ChatBackend.Realtime.MessageFrames
open ChatBackend.Realtime.RoomIsolation hiding Sound
open ChatBackend.Services.Transitions hiding Event step reached initial
open ChatBackend.Services.Fanout
open ChatBackend.Services.MessageOrigins
open ChatBackend.Chats.ChatQueries
open ChatBackend.Chats.MessageCreation hiding Event step reached
open ChatBackend.Chats.PostedChats
open ChatBackend.Chats.PublishedPosts
open ChatBackend.System.Composition

variable {Socket : Type}

/-! ## Where messages come from -/

def IsMember (db : Database) (userId : UserId) (roomId : RoomId) : Prop :=
  ∃ row ∈ db.roomMembers, row.userId = userId ∧ row.roomId = roomId

/-- The send frame asks for the message. -/
structure AsksFor (frame : Json) (message : MessageDto) : Prop where
  sends : dispatch frame = .ok .send
  chatId : frame.field "chat_id" = .ok (some (.string message.chatId))
  body :
    ∃ text, frame.field "body" = .ok (some (.string text)) ∧
      message.body = trim text

/-- The sender has posted the message, over REST or over a socket. -/
inductive Posted (backend : Backend Socket) (message : MessageDto) :
    Prop where
  | call (call : Call) :
      call ∈ backend.rest.calls → Posts call.input message →
        Posted backend message
  | frame (frame : Json) :
      { userId := message.senderId, frame := frame } ∈ backend.requests →
        AsksFor frame message → Posted backend message

structure Authentic
    (backend : Backend Socket) (message : MessageDto) : Prop where
  stored : InTable backend.database message
  posted : Posted backend message
  sender : IsMember backend.database message.senderId message.chatId

/-- The message may be shown to the user. -/
structure Genuine
    (backend : Backend Socket) (userId : UserId) (message : MessageDto) :
    Prop extends Authentic backend message where
  recipient : IsMember backend.database userId message.chatId
  other : userId ≠ message.senderId

/-! ## Growth -/

structure Grows (before after : Backend Socket) : Prop where
  messages :
    ∀ row ∈ before.database.messages, row ∈ after.database.messages
  members :
    ∀ row ∈ before.database.roomMembers, row ∈ after.database.roomMembers
  calls :
    ∀ call ∈ before.rest.calls, ∃ later ∈ after.rest.calls,
      later.input = call.input
  requests : ∀ request ∈ before.requests, request ∈ after.requests

section Growth

variable {before after : Backend Socket} (grows : Grows before after)

include grows

theorem IsMember.grow
    {userId : UserId} {roomId : RoomId}
    (member : IsMember before.database userId roomId) :
    IsMember after.database userId roomId := by
  rcases member with ⟨row, listed, isRow⟩
  exact ⟨row, grows.members row listed, isRow⟩

theorem Posted.grow
    {message : MessageDto} (posted : Posted before message) :
    Posted after message := by
  cases posted with
  | call call isCall posts =>
      rcases grows.calls call isCall with ⟨later, isLater, same⟩
      exact .call later isLater (same ▸ posts)
  | frame frame listed asks =>
      exact .frame frame (grows.requests _ listed) asks

theorem Authentic.grow
    {message : MessageDto} (authentic : Authentic before message) :
    Authentic after message where
  stored := authentic.stored.grow grows.messages
  posted := authentic.posted.grow grows
  sender := IsMember.grow grows authentic.sender

theorem Genuine.grow
    {userId : UserId} {message : MessageDto}
    (genuine : Genuine before userId message) :
    Genuine after userId message where
  toAuthentic := genuine.toAuthentic.grow grows
  recipient := IsMember.grow grows genuine.recipient
  other := genuine.other

end Growth

/-! ## The invariant -/

/-- A realtime instance knows memberships of the database only. -/
structure Faithful
    (backend : Backend Socket) (state : State Socket) : Prop where
  authorised : Authorised state
  backed : AllBacked backend.requests state
  members :
    ∀ row ∈ state.roomMembers, row ∈ backend.database.roomMembers

/-- The command comes from a member's frame. -/
structure Sent
    (backend : Backend Socket) (command : MessageWriteCommand) : Prop where
  asked : Asked backend.requests command
  member : IsMember backend.database command.senderId command.roomId

/-- What the steps of the back end keep. -/
structure Intact (backend : Backend Socket) : Prop where
  tables : Sound backend.database
  bookkeeping : Bookkeeping backend.rest.service
  traced : Traced backend.stream backend.rest.service
  calls : ∀ call ∈ backend.rest.calls, Checked backend.database call
  stream : ∀ command ∈ backend.stream, Sent backend command
  instances : ∀ state ∈ backend.instances, Faithful backend state
  channel : ∀ event ∈ backend.channel, Authentic backend event.message
  shown :
    ∀ entry ∈ backend.shown, Genuine backend entry.userId entry.message

/-! ## Published messages are authentic -/

/-- A stored message that carries a command of the stream. -/
theorem authentic_of_carries
    {backend : Backend Socket} {row : Message}
    (stored : row ∈ backend.database.messages)
    {command : MessageWriteCommand} (sent : Sent backend command)
    (carries : Carries command row) :
    Authentic backend (toMessageDto row) where
  stored := ⟨row, stored, rfl⟩
  posted := by
    rcases sent.asked with ⟨frame, listed, sends, sentBy⟩
    rcases sentBy.body with ⟨text, isText, isBody⟩
    have sender : (toMessageDto row).senderId = command.senderId :=
      carries.senderId
    have chat : (toMessageDto row).chatId = command.roomId :=
      carries.roomId
    refine .frame frame ?_ ⟨sends, ?_, text, isText, ?_⟩
    · rw [sender]
      exact listed
    · rw [chat]
      exact sentBy.roomId
    · exact carries.content.trans isBody
  sender := by
    have member := sent.member
    rw [← carries.senderId, ← carries.roomId] at member
    exact member

/-- What the services send to the channel is authentic. -/
theorem publishedBy_authentic
    {backend : Backend Socket} (intact : Intact backend)
    {event : Chats.MessageCreation.Event} {published : RoomEvent}
    (publishes : published ∈ publishedBy backend.rest event) :
    Authentic backend published.message := by
  unfold publishedBy at publishes
  split at publishes
  · rcases
        intact.traced.published intact.tables intact.bookkeeping
          (Option.mem_toList.mp publishes) with
      ⟨row, message, stored, rfl, command, inStream, carries⟩
    exact authentic_of_carries stored (intact.stream command inStream) carries
  · rcases
        published_posts intact.calls (Option.mem_toList.mp publishes) with
      ⟨call, isCall, message, origin, rfl, stored, posts, member⟩
    refine ⟨stored, .call call isCall posts, ?_⟩
    rw [SenderIsMember, findRoomMembership, List.find?_isSome] at member
    rcases member with ⟨row, listed, isRow⟩
    simp only [Bool.and_eq_true, beq_iff_eq] at isRow
    exact
      ⟨row, listed, isRow.1.trans posts.senderId.symm,
        isRow.2.trans posts.chatId.symm⟩

/-! ## Steps of the services -/

/-- The services do not touch what the instances know. -/
theorem Faithful.grow
    {before after : Backend Socket} (grows : Grows before after)
    {state : State Socket} (faithful : Faithful before state) :
    Faithful after state where
  authorised := faithful.authorised
  backed := fun handler waits =>
    (faithful.backed handler waits).mono grows.requests
      (Quiet.extends (Realtime.Reactions.Quiet.refl state))
  members := fun row listed =>
    grows.members row (faithful.members row listed)

theorem Sent.grow
    {before after : Backend Socket} (grows : Grows before after)
    {command : MessageWriteCommand} (sent : Sent before command) :
    Sent after command where
  asked := sent.asked.grow grows.requests
  member := IsMember.grow grows sent.member

theorem Intact.restStep
    (engine : Engine) {backend : Backend Socket} (intact : Intact backend)
    {event : Chats.MessageCreation.Event}
    (admitted : admits backend.stream event = true) :
    Intact
      { backend with
        rest := Chats.MessageCreation.step engine backend.rest event
        channel := backend.channel ++ publishedBy backend.rest event } := by
  rcases step_service engine backend.rest event with
    ⟨serviceEvent, isEvent, same⟩
  have consumes : Consumes backend.stream serviceEvent := by
    rcases isEvent with rfl | consumes
    · cases serviceEvent with
      | writerBatch commands origin =>
          simpa [admits, Consumes] using admitted
      | _ => trivial
    · exact consumes backend.stream
  have change :=
    step_change engine backend.rest.service serviceEvent intact.tables
  rw [← same] at change
  rcases step_grows engine event intact.tables with ⟨messages, members⟩
  have grows :
      Grows backend
        { backend with
          rest := Chats.MessageCreation.step engine backend.rest event
          channel :=
            backend.channel ++ publishedBy backend.rest event } :=
    { messages := messages
      members := fun row listed => by
        change row ∈ (Chats.MessageCreation.step engine backend.rest
          event).service.database.roomMembers
        rw [members]
        exact listed
      calls := step_keeps_inputs engine event intact.tables
      requests := fun _ listed => listed }
  exact
    { tables := change_sound change intact.tables
      bookkeeping :=
        change_bookkeeping change intact.tables intact.bookkeeping
      traced := intact.traced.change intact.tables change consumes
      calls := step_checked engine event intact.tables intact.calls
      stream := fun command inStream =>
        (intact.stream command inStream).grow grows
      instances := fun state isInstance =>
        (intact.instances state isInstance).grow grows
      channel := by
        intro published listed
        rcases List.mem_append.mp listed with old | new
        · exact (intact.channel published old).grow grows
        · exact (publishedBy_authentic intact new).grow grows
      shown := fun entry listed => (intact.shown entry listed).grow grows }

/-! ## Steps of createChat -/

/-- What a step of `createChat` does to the tables. -/
structure ChatGrown (before after : Database) : Prop where
  tables : Sound after
  messages : after.messages = before.messages
  outbox : after.messageOutbox = before.messageOutbox
  members :
    ∃ rows, after.roomMembers = before.roomMembers ++ rows

theorem ChatGrown.refl {db : Database} (sound : Sound db) :
    ChatGrown db db where
  tables := sound
  messages := rfl
  outbox := rfl
  members := ⟨[], (List.append_nil _).symm⟩

/-- A new room has no messages yet. -/
theorem createRoom_chatGrown
    {db created : Database} (sound : Sound db) {room : Room}
    {memberIds : List UserId} (first : room.nextMessageSeq = 1)
    (inserted :
      Chats.ChatCreation.createRoom db room memberIds = some created) :
    ChatGrown db created := by
  have valid := Chats.DirectChats.createRoom_valid sound.valid inserted
  rcases Chats.DirectChats.createRoom_eq_some_iff.mp inserted with
    ⟨⟨fresh, _, _⟩, rfl⟩
  refine
    { tables := ⟨valid, ?_⟩
      messages := rfl
      outbox := rfl
      members := ⟨_, rfl⟩ }
  intro other listed
  rcases List.mem_append.mp listed with old | new
  · exact sound.numbered other old
  · rw [List.mem_singleton.mp new]
    refine ⟨0, ?_, first⟩
    have none : roomSequences db.messages room.id = [] := by
      rw [roomSequences, List.map_eq_nil_iff, List.filter_eq_nil_iff]
      intro message stored inRoom
      have present := sound.valid.messageRoom message stored
      rw [beq_iff_eq.mp inRoom, fresh] at present
      cases present
    rw [none]
    exact List.Perm.refl _

theorem answerQuery_chatGrown
    {db : Database} (sound : Sound db) (userId : UserId)
    (answer : Chats.ChatCreation.Answer) (stage : Chats.ChatCreation.Stage) :
    ChatGrown db
      (Chats.ChatCreation.answerQuery db userId answer stage).1 := by
  cases stage with
  | creatingDirect targetUser =>
      simp only [Chats.ChatCreation.answerQuery]
      split
      · exact .refl sound
      · rename_i created inserted
        exact createRoom_chatGrown sound rfl inserted
  | creatingGroup name allIds =>
      simp only [Chats.ChatCreation.answerQuery]
      split
      · exact .refl sound
      · rename_i created inserted
        exact createRoom_chatGrown sound rfl inserted
  | findingMembers name memberIds resolved =>
      simp only [Chats.ChatCreation.answerQuery]
      split
      · exact .refl sound
      · exact .refl sound
  | _ => exact .refl sound

theorem chatStep_chatGrown
    {state : Chats.ChatCreation.State} (sound : Sound state.db)
    (event : Chats.ChatCreation.Event) :
    ChatGrown state.db (Chats.ChatCreation.step state event).db := by
  cases event with
  | register user =>
      simp only [Chats.ChatCreation.step]
      split
      · rename_i fresh
        exact
          { tables :=
              ⟨Chats.ChatAnswers.register_valid sound.valid fresh,
                numbered_of_same sound.numbered rfl rfl⟩
            messages := rfl
            outbox := rfl
            members := ⟨[], (List.append_nil _).symm⟩ }
      · exact .refl sound
  | call userId body => exact .refl sound
  | query index answer =>
      simp only [Chats.ChatCreation.step]
      split
      · exact .refl sound
      · rename_i call found
        have grown :=
          answerQuery_chatGrown sound call.userId answer call.stage
        simp only [Chats.ChatCreation.runQuery]
        split
        · exact .refl sound
        · split
          · exact grown
          · exact .refl sound
          · exact grown

/-! ## Steps of the instances -/

variable [DecidableEq Socket]

/-- Only new chats change what an instance knows of memberships. -/
theorem step_members
    (settings : Settings) (state : State Socket)
    {event : Realtime.Server.Event Socket}
    (notChat : ∀ rows, event ≠ .createChat rows) :
    (Realtime.Server.step settings state event).roomMembers =
      state.roomMembers := by
  rcases Realtime.Reactions.step_change settings state event with
    ⟨base, change, quiet⟩
  refine quiet.roomMembers.trans ?_
  cases change with
  | createChat rows => exact absurd rfl (notChat rows)
  | _ => rfl

theorem createChat_members
    (settings : Settings) (state : State Socket) (rows : List RoomMember) :
    ∀ row ∈
        (Realtime.Server.step settings state
          (.createChat rows)).roomMembers,
      row ∈ state.roomMembers ∨ row ∈ rows := by
  intro row listed
  unfold Realtime.Server.step Realtime.Server.react at listed
  split at listed
  · exact .inl listed
  · exact List.mem_append.mp listed

omit [DecidableEq Socket] in
/-- What an instance knows of a membership is true. -/
theorem isMember_of_instance
    {db : Database} {state : State Socket}
    (members : ∀ row ∈ state.roomMembers, row ∈ db.roomMembers)
    {userId : UserId} {roomId : RoomId}
    (member : state.isMember userId roomId = true) :
    IsMember db userId roomId := by
  rw [State.isMember, List.any_eq_true] at member
  rcases member with ⟨row, listed, isRow⟩
  simp only [Bool.and_eq_true, beq_iff_eq] at isRow
  exact ⟨row, members row listed, isRow⟩

theorem Faithful.step
    (settings : Settings) {before after : Backend Socket}
    (grows : Grows before after) {state : State Socket}
    (faithful : Faithful before state)
    (event : Realtime.Server.Event Socket)
    (brought : ∀ request ∈ received state event, request ∈ after.requests)
    (members :
      ∀ row ∈ (Realtime.Server.step settings state event).roomMembers,
        row ∈ after.database.roomMembers) :
    Faithful after (Realtime.Server.step settings state event) where
  authorised := (faithful.authorised.react settings event).authorised
  backed :=
    (faithful.backed.react settings event grows.requests brought).1
  members := members

theorem Intact.chatStep
    (settings : Settings) {backend : Backend Socket}
    (intact : Intact backend) (event : Chats.ChatCreation.Event) :
    Intact (backend.chat settings event) := by
  have grown :
      ChatGrown backend.database (backend.chat settings event).database :=
    @chatStep_chatGrown
      { db := backend.database, calls := backend.chats } intact.tables
      event
  rcases grown.members with ⟨rows, members⟩
  have messages :
      ∀ row ∈ backend.database.messages,
        row ∈ (backend.chat settings event).database.messages :=
    fun row stored => grown.messages ▸ stored
  have grows : Grows backend (backend.chat settings event) :=
    { messages := messages
      members := fun row listed => by
        rw [members]
        exact List.mem_append_left _ listed
      calls := fun call isCall => ⟨call, isCall, rfl⟩
      requests := fun _ listed => listed }
  have serviceGrows :
      Services.Fanout.Grows backend.rest.service
        (backend.chat settings event).rest.service :=
    { messages := messages
      outbox := by
        change ∀ row ∈ backend.database.messageOutbox,
          ∃ later ∈
              (backend.chat settings event).database.messageOutbox,
            later.id = row.id ∧ later.event = row.event
        rw [grown.outbox]
        exact outbox_same _
      published := fun _ listed => listed
      batchMessages := fun _ listed => listed }
  exact
    { tables := grown.tables
      bookkeeping :=
        bookkeeping_of_same intact.bookkeeping serviceGrows grown.outbox
          rfl fun drain isDrain =>
            (intact.bookkeeping.drains drain isDrain).grow serviceGrows
      traced :=
        intact.traced.grow (fun _ inStream => inStream) messages rfl
      calls := fun call isCall =>
        (intact.calls call isCall).grow messages grows.members
      stream := fun command inStream =>
        (intact.stream command inStream).grow grows
      instances := by
        intro state isInstance
        rcases List.mem_map.mp isInstance with ⟨old, isOld, rfl⟩
        have faithful := intact.instances old isOld
        refine faithful.step settings grows _ (by simp [received]) ?_
        intro row listed
        rcases createChat_members settings old _ row listed with
          known | new
        · exact grows.members row (faithful.members row known)
        · exact List.mem_of_mem_drop new
      channel := fun published listed =>
        (intact.channel published listed).grow grows
      shown := fun entry listed => (intact.shown entry listed).grow grows }

/-- What a reaction shows is a message of the channel, to a member. -/
theorem shownBy_genuine
    (settings : Settings) {backend : Backend Socket}
    {state : State Socket} (faithful : Faithful backend state)
    {event : Realtime.Server.Event Socket}
    (notChat : ∀ rows, event ≠ .createChat rows)
    (offered :
      ∀ message origin, event = .roomEvent message origin →
        Authentic backend message)
    {entry : Shown}
    (listed :
      entry ∈ shownBy (Realtime.Server.react settings state event)) :
    Genuine backend entry.userId entry.message := by
  rcases List.mem_filterMap.mp listed with ⟨sent, isSent, shows⟩
  rcases Option.map_eq_some_iff.mp shows with ⟨message, isShown, rfl⟩
  rcases react_shown settings state event isSent isShown with
    ⟨origin, isEvent⟩
  have permitted :=
    (faithful.authorised.react settings event).frames sent isSent
  have members :=
    step_members settings state notChat
  rcases sent with ⟨ws, frame⟩
  cases frame with
  | msg other =>
      cases isShown
      rcases permitted with ⟨member, different, _⟩
      exact
        { toAuthentic := offered message origin isEvent
          recipient :=
            isMember_of_instance
              (fun row isRow => faithful.members row (members ▸ isRow))
              member
          other := different }
  | _ => cases isShown

theorem Intact.reactStep
    (settings : Settings) {backend : Backend Socket}
    (intact : Intact backend) (index : Nat)
    {event : Realtime.Server.Event Socket}
    (notChat : ∀ rows, event ≠ .createChat rows)
    (offered :
      ∀ message origin, event = .roomEvent message origin →
        Authentic backend message) :
    Intact (backend.react settings index event) := by
  unfold Backend.react
  split
  · exact intact
  · rename_i state found
    have faithful :=
      intact.instances state (List.mem_of_getElem? found)
    dsimp only
    set reaction := Realtime.Server.react settings state event
    set after : Backend Socket :=
      { backend with
        instances := backend.instances.set index reaction.state
        stream := backend.stream ++ reaction.published
        requests := backend.requests ++ received state event
        shown := backend.shown ++ shownBy reaction }
    have grows : Grows backend after :=
      { messages := fun _ stored => stored
        members := fun _ listed => listed
        calls := fun call isCall => ⟨call, isCall, rfl⟩
        requests := fun _ listed => List.mem_append_left _ listed }
    have brought :
        ∀ request ∈ received state event, request ∈ after.requests :=
      fun _ listed => List.mem_append_right _ listed
    have members :
        ∀ row ∈ reaction.state.roomMembers,
          row ∈ backend.database.roomMembers := by
      intro row listed
      refine faithful.members row ?_
      rw [← step_members settings state notChat]
      exact listed
    have safe := faithful.authorised.react settings event
    have asked :=
      (faithful.backed.react settings event grows.requests brought).2
    exact
      { tables := intact.tables
        bookkeeping := intact.bookkeeping
        traced :=
          intact.traced.grow
            (fun _ inStream => List.mem_append_left _ inStream)
            (fun _ stored => stored) rfl
        calls := intact.calls
        stream := by
          intro command inStream
          rcases List.mem_append.mp inStream with old | new
          · exact (intact.stream command old).grow grows
          · exact
              ⟨asked command new,
                isMember_of_instance members (safe.published command new)⟩
        instances := by
          intro other isInstance
          rcases List.mem_or_eq_of_mem_set isInstance with old | rfl
          · exact (intact.instances other old).grow grows
          · exact faithful.step settings grows event brought members
        channel := fun published listed =>
          (intact.channel published listed).grow grows
        shown := by
          intro entry listed
          rcases List.mem_append.mp listed with old | new
          · exact (intact.shown entry old).grow grows
          · exact
              (shownBy_genuine settings faithful notChat offered
                new).grow grows }

/-! ## Runs -/

omit [DecidableEq Socket] in
theorem Intact.launchStep
    {backend : Backend Socket} (intact : Intact backend) :
    Intact
      { backend with
        instances :=
          backend.instances ++ [.start backend.database.roomMembers] } := by
  have grows :
      Grows backend
        { backend with
          instances :=
            backend.instances ++
              [.start backend.database.roomMembers] } :=
    { messages := fun _ stored => stored
      members := fun _ listed => listed
      calls := fun call isCall => ⟨call, isCall, rfl⟩
      requests := fun _ listed => listed }
  exact
    { tables := intact.tables
      bookkeeping := intact.bookkeeping
      traced := intact.traced
      calls := intact.calls
      stream := fun command inStream =>
        (intact.stream command inStream).grow grows
      instances := by
        intro state isInstance
        rcases List.mem_append.mp isInstance with old | new
        · exact (intact.instances state old).grow grows
        · rw [List.mem_singleton.mp new]
          exact
            { authorised := Authorised.start backend.database.roomMembers
              backed := fun handler impossible => by cases impossible
              members := fun _ listed => listed }
      channel := fun published listed =>
        (intact.channel published listed).grow grows
      shown := fun entry listed => (intact.shown entry listed).grow grows }

theorem Intact.step
    (engine : Engine) (settings : Settings) {backend : Backend Socket}
    (intact : Intact backend) (event : Event Socket) :
    Intact (Composition.step engine settings backend event) := by
  cases event with
  | rest event =>
      simp only [Composition.step]
      split
      · rename_i admitted
        exact intact.restStep engine admitted
      · exact intact
  | chat event => exact intact.chatStep settings event
  | launch => exact intact.launchStep
  | deliver index event =>
      simp only [Composition.step]
      split
      · rename_i listed
        refine intact.reactStep settings index (by simp) ?_
        rintro message origin ⟨⟩
        exact intact.channel event listed
      · exact intact
  | realtime index event =>
      simp only [Composition.step]
      split
      · rename_i isOwn
        refine intact.reactStep settings index ?_ ?_
        · rintro rows rfl
          cases isOwn
        · rintro message origin rfl
          cases isOwn
      · exact intact

omit [DecidableEq Socket] in
theorem initial_intact
    (engine : Engine) (legacy : LegacyTables) (clock : Timestamp) :
    Intact (initial engine legacy clock : Backend Socket) where
  tables := migrate_sound engine legacy
  bookkeeping := initial_bookkeeping engine legacy clock
  traced := fun _ impossible => by cases impossible
  calls := fun _ impossible => by cases impossible
  stream := fun _ impossible => by cases impossible
  instances := fun _ impossible => by cases impossible
  channel := fun _ impossible => by cases impossible
  shown := fun _ impossible => by cases impossible

/-- The rows behind two shown messages with one id are one row. -/
theorem InTable.same
    {db : Database} (sound : Sound db) {first second : MessageDto}
    (firstStored : InTable db first) (secondStored : InTable db second)
    (sameId : first.id = second.id) : first = second := by
  rcases firstStored with ⟨row, stored, rfl⟩
  rcases secondStored with ⟨other, otherStored, rfl⟩
  rw [message_separate sound.valid stored otherStored (.inl sameId)]

/--
In every run of the back end, whatever its parts do in whichever order:
a message that is shown to a user over a socket is stored, its sender has
posted it over REST or in a send frame, with its chat and its text, both
users are members of the chat, and nobody is shown his own message.  Two
users are never shown different messages under one id.
-/
theorem shown_messages_genuine
    (engine : Engine) (settings : Settings) (legacy : LegacyTables)
    (clock : Timestamp) (events : List (Event Socket)) :
    let backend := reached engine settings legacy clock events
    (∀ entry ∈ backend.shown,
        Genuine backend entry.userId entry.message) ∧
      ∀ first ∈ backend.shown, ∀ second ∈ backend.shown,
        first.message.id = second.message.id →
          first.message = second.message := by
  intro backend
  have intact : Intact backend :=
    run_invariant Intact
      (fun _ event kept => kept.step engine settings event)
      (initial_intact engine legacy clock) events
  refine ⟨intact.shown, fun first isFirst second isSecond sameId => ?_⟩
  exact
    InTable.same intact.tables (intact.shown first isFirst).stored
      (intact.shown second isSecond).stored sameId

def exampleSent : MessageWriteCommand where
  messageId := "msg_ana:request"
  requestId := "request"
  senderId := "ana"
  roomId := "room"
  body := "hello"
  acceptedAt := 7
  originConnectionId := some "instance:first"

def exampleMessage : MessageDto where
  id := "msg_ana:request"
  chatId := "room"
  senderId := "ana"
  body := "hello"
  createdAt := 7

/-- Ana and Ben connect, Ana sends, and Ben gets her message. -/
def exampleEvents : List (Event Bool) :=
  [.launch, .realtime 0 (.connect true "ana" "first"),
    .realtime 0 (.connect false "ben" "second"),
    .realtime 0 (.query 0 true), .realtime 0 (.resume 0 {}),
    .realtime 0 (.query 0 true), .realtime 0 (.resume 0 {}),
    .realtime 0
      (.message true (some Realtime.Reactions.exampleSend)),
    .realtime 0 (.resume 0 { now := 7 }),
    .rest (.writer (.writerBatch [exampleSent] none)),
    .rest (.writer (.startDrain { publisher := true } true)),
    .rest (.writer (.stepDrain 0 true)),
    .rest (.writer (.stepDrain 0 true)),
    .deliver 0
      (publishRoomMessage exampleMessage (some "instance:first"))]

theorem shown_messages_genuine_ben :
    let backend :=
      reached exampleEngine Realtime.Reactions.exampleSettings
        exampleTables 0 exampleEvents
    backend.shown = [{ userId := "ben", message := exampleMessage }] ∧
      Genuine backend "ben" exampleMessage := by
  intro backend
  have shown :
      backend.shown =
        [{ userId := "ben", message := exampleMessage }] := by
    decide
  have genuine :=
    (shown_messages_genuine exampleEngine
        Realtime.Reactions.exampleSettings exampleTables 0
        exampleEvents).1
  refine
    ⟨shown, genuine { userId := "ben", message := exampleMessage } ?_⟩
  rw [show (reached exampleEngine Realtime.Reactions.exampleSettings
    exampleTables 0 exampleEvents).shown = _ from shown]
  exact List.mem_singleton_self _

end ChatBackend.System.GenuineMessages
