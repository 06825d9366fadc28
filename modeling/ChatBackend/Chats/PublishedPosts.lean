import ChatBackend.Chats.PostedChats
import ChatBackend.Services.MessageOrigins

/-!
# What posts publish

A `createMessage` call publishes the message that it has inserted itself,
after the membership of the sender was looked up, and never a message that it
found in the cache or under the unique key.  `Checked` says this of a call in
every stage.

To the services a command of a call is one of their own events, or nothing:
`command_service`.
-/

namespace ChatBackend.Chats.PublishedPosts

open ChatBackend.Storage.Schema
open ChatBackend.Storage.TableInvariants
open ChatBackend.Writer.BatchTransaction
open ChatBackend.Writer.OutboxDrain
open ChatBackend.Realtime.ServerFrames
open ChatBackend.Services.MessageOrigins
open ChatBackend.Chats.ChatQueries
open ChatBackend.Chats.MessageRows
open ChatBackend.Chats.MessageCreation
open ChatBackend.Chats.CallOutcomes
open ChatBackend.Chats.PostedChats

/-! ## Posts -/

/-- The message is the one that the request of a call posts. -/
structure Posts (input : CreateMessageInput) (message : MessageDto) : Prop where
  senderId : message.senderId = input.senderId
  chatId : message.chatId = input.chatId
  body : ∃ text, input.body = some text ∧ message.body = trim text

/-- The message that a call has inserted and may still publish. -/
def insertedMessage : Stage → Option MessageDto
  | .updatingLastMessageAt message => some (toMessageDto message)
  | .caching _ message false => some message
  | .publishing message => some message
  | _ => none

/-- The call has not ended, and is past its first query. -/
def isChecked : Stage → Bool
  | .findingMembership | .failed _ => false
  | _ => true

/-- What is known of a call in its stage. -/
structure Checked (db : Database) (call : Call) : Prop where
  text :
    (∀ failure, call.stage ≠ .failed failure) →
      ∃ text, call.input.body = some text
  member :
    isChecked call.stage = true →
      (findRoomMembership db call.input.senderId
        call.input.chatId).isSome = true
  inserted :
    ∀ message, insertedMessage call.stage = some message →
      InTable db message ∧ Posts call.input message

theorem Checked.grow
    {before after : Database} {call : Call} (checked : Checked before call)
    (messages : ∀ row ∈ before.messages, row ∈ after.messages)
    (members : ∀ row ∈ before.roomMembers, row ∈ after.roomMembers) :
    Checked after call where
  text := checked.text
  member := by
    intro isChecked
    have found := checked.member isChecked
    rw [findRoomMembership, List.find?_isSome] at found ⊢
    rcases found with ⟨row, listed, isRow⟩
    exact ⟨row, members row listed, isRow⟩
  inserted := by
    intro message isInserted
    rcases checked.inserted message isInserted with ⟨stored, posts⟩
    exact ⟨stored.grow messages, posts⟩

/-! ## Commands -/

section Commands

variable {db : Database} {cache : Cache} {call : Call} {next : Stage}
  {answer : Answer}

/-- The member of the chat that the call is about. -/
def SenderIsMember (db : Database) (call : Call) : Prop :=
  (findRoomMembership db call.input.senderId
    call.input.chatId).isSome = true

theorem Checked.ended
    (failure : CreateMessageFailure) (numbers : Nat) :
    Checked db
      { call with stage := .failed failure, numbers := numbers } where
  text := fun running => absurd rfl (running failure)
  member := fun impossible => by cases impossible
  inserted := fun _ impossible => by cases impossible

/-- A call goes on without a message of its own. -/
theorem Checked.goesOn
    (text : ∃ text, call.input.body = some text)
    (member : SenderIsMember db call)
    (holdsNone : insertedMessage next = none) :
    Checked db { call with stage := next } where
  text := fun _ => text
  member := fun _ => member
  inserted := by
    intro message isInserted
    rw [holdsNone] at isInserted
    cases isInserted

/-- A call goes on with the message that it has inserted. -/
theorem Checked.carries
    {message : MessageDto} (text : ∃ text, call.input.body = some text)
    (member : SenderIsMember db call) (stored : InTable db message)
    (posts : Posts call.input message)
    (own :
      ∀ other, insertedMessage next = some other → other = message) :
    Checked db { call with stage := next } where
  text := fun _ => text
  member := fun _ => member
  inserted := by
    intro other isInserted
    rw [own other isInserted]
    exact ⟨stored, posts⟩

/-- A query whose connection fails ends the call. -/
theorem Checked.reads
    (checked : Checked db { call with stage := next }) :
    Checked db (readDatabase db cache call answer next).call := by
  unfold readDatabase
  dsimp only
  split
  · exact checked
  · exact .ended _ call.numbers

end Commands

section Stages

variable (input : CreateMessageInput) (deps : CreateMessageDependencies)

theorem afterCache_inserted
    {message other : MessageDto} {recoveredDuplicate : Bool}
    (isInserted :
      insertedMessage (afterCache deps message recoveredDuplicate) =
        some other) :
    recoveredDuplicate = false ∧ other = message := by
  unfold afterCache at isInserted
  split at isInserted
  · rename_i publishes
    cases isInserted
    cases recoveredDuplicate with
    | false => exact ⟨rfl, rfl⟩
    | true => cases publishes
  · cases isInserted

theorem afterRow_inserted
    {message : Message} {other : MessageDto} {recoveredDuplicate : Bool}
    (isInserted :
      insertedMessage (afterRow input deps message recoveredDuplicate) =
        some other) :
    recoveredDuplicate = false ∧ other = toMessageDto message := by
  unfold afterRow at isInserted
  split at isInserted
  · exact afterCache_inserted deps isInserted
  · cases recoveredDuplicate with
    | false =>
        cases isInserted
        exact ⟨rfl, rfl⟩
    | true => cases isInserted

end Stages

/-- The transaction posts what the request asks for. -/
theorem runCreateMessageRow_checked
    {db : Database} (sound : Sound db) (now : Timestamp) (cache : Cache)
    {call : Call} {text : String} (isText : call.input.body = some text)
    (member : SenderIsMember db call) (answer : Answer) :
    Checked (runCreateMessageRow now db cache call answer).database
      (runCreateMessageRow now db cache call answer).call := by
  unfold runCreateMessageRow
  split
  · exact .ended _ call.numbers
  · split
    · rename_i committed message succeeded
      rcases createMessageRow_ok sound.valid succeeded with
        ⟨room, _, _, _, rfl, created⟩
      cases created
      dsimp only
      split
      · constructor
        · exact fun _ => ⟨text, isText⟩
        · exact fun _ => member
        · rintro _ ⟨⟩
          refine
            ⟨⟨_, List.mem_append_right _ (List.mem_singleton_self _),
                rfl⟩,
              rfl, rfl, text, isText, ?_⟩
          simp [toMessageDto, CreateMessageRowInput.toMessage,
            CreateMessageInput.row, isText]
      · exact .ended _ _
    · exact .ended _ call.numbers
    · rename_i failure failed
      refine Checked.reads ?_
      unfold afterFailure
      split
      · exact .ended _ call.numbers
      · split
        · exact .goesOn ⟨text, isText⟩ member rfl
        · exact .ended _ call.numbers

/-- What is known of a call after one of its commands. -/
theorem runCommand_checked
    {db : Database} (sound : Sound db) (now : Timestamp) (cache : Cache)
    {call : Call} (checked : Checked db call) (answer : Answer) :
    Checked (runCommand now db cache call answer).database
      (runCommand now db cache call answer).call := by
  unfold runCommand
  split
  · rename_i finding
    have text := checked.text (by simp [finding])
    refine Checked.reads ?_
    unfold afterMembership
    split
    · exact .ended _ call.numbers
    · rename_i found
      have member : SenderIsMember db call := by
        simp [SenderIsMember, found]
      split
      · exact .goesOn text member rfl
      · exact .goesOn text member rfl
  · rename_i requestId reading
    have text := checked.text (by simp [reading])
    have member := checked.member (by simp [reading, isChecked])
    dsimp only
    split
    · split
      · exact .goesOn text member rfl
      · exact .goesOn text member rfl
    · exact .goesOn text member rfl
  · rename_i creating
    rcases checked.text (by simp [creating]) with ⟨text, isText⟩
    exact
      runCreateMessageRow_checked sound now cache isText
        (checked.member (by simp [creating, isChecked])) answer
  · rename_i requestId finding
    have text := checked.text (by simp [finding])
    have member := checked.member (by simp [finding, isChecked])
    refine Checked.reads ?_
    split
    · exact .ended _ call.numbers
    · refine .goesOn text member ?_
      rw [Option.eq_none_iff_forall_ne_some]
      intro other isInserted
      cases (afterRow_inserted _ _ isInserted).1
  · rename_i message updating
    have text := checked.text (by simp [updating])
    have member := checked.member (by simp [updating, isChecked])
    rcases checked.inserted (toMessageDto message)
        (by simp [updating, insertedMessage]) with
      ⟨stored, posts⟩
    unfold runUpdateLastMessageAt
    split
    · exact .ended _ call.numbers
    · dsimp only
      split
      · exact
          Checked.carries text member stored posts
            fun other isInserted => (afterRow_inserted _ _ isInserted).2
      · exact .ended _ call.numbers
  · rename_i requestId message recoveredDuplicate caching
    have text := checked.text (by simp [caching])
    have member := checked.member (by simp [caching, isChecked])
    dsimp only
    cases recoveredDuplicate with
    | true =>
        refine .goesOn text member ?_
        simp [afterCache, insertedMessage]
    | false =>
        rcases checked.inserted message (by simp [caching, insertedMessage])
          with ⟨stored, posts⟩
        exact
          .carries text member stored posts
            fun other isInserted => (afterCache_inserted _ isInserted).2
  · rename_i message publishing
    have text := checked.text (by simp [publishing])
    have member := checked.member (by simp [publishing, isChecked])
    exact
      { text := fun _ => text
        member := fun _ => member
        inserted := fun _ impossible => by cases impossible }
  · exact checked
  · exact checked

/-- A new call has only been checked. -/
theorem firstStage_checked
    (db : Database) (input : CreateMessageInput)
    (deps : CreateMessageDependencies) :
    Checked db
      { input := input, deps := deps, stage := firstStage input } := by
  unfold firstStage
  split
  · exact
      { text := fun running => absurd rfl (running (.app bodyRequired))
        member := fun impossible => by cases impossible
        inserted := fun _ impossible => by cases impossible }
  · rename_i text isText
    split
    · exact
        { text := fun _ => ⟨text, isText⟩
          member := fun impossible => by cases impossible
          inserted := fun _ impossible => by cases impossible }
    · exact
        { text := fun _ => ⟨text, isText⟩
          member := fun impossible => by cases impossible
          inserted := fun _ impossible => by cases impossible }

/-! ## Published messages -/

/-- The event that a command of a call publishes, resolved or not. -/
def publishedByCommand (state : RestState) : Event → Option RoomEvent
  | .command index _ =>
      match state.calls[index]? with
      | none => none
      | some call =>
          match call.stage with
          | .publishing message =>
              some (roomMessageEvent message call.deps.originConnectionId)
          | _ => none
  | _ => none

/-- A call publishes the stored message of its own post. -/
theorem published_posts
    {state : RestState}
    (checked :
      ∀ call ∈ state.calls, Checked state.service.database call)
    {event : Event} {published : RoomEvent}
    (publishes : publishedByCommand state event = some published) :
    ∃ call ∈ state.calls, ∃ message origin,
      published = roomMessageEvent message origin ∧
        InTable state.service.database message ∧
          Posts call.input message ∧
            SenderIsMember state.service.database call := by
  unfold publishedByCommand at publishes
  split at publishes
  · split at publishes
    · cases publishes
    · rename_i call found
      split at publishes
      · rename_i message publishing
        cases publishes
        have isCall := List.mem_of_getElem? found
        have callChecked := checked call isCall
        rcases callChecked.inserted message
            (by simp [publishing, insertedMessage]) with
          ⟨stored, posts⟩
        exact
          ⟨call, isCall, message, call.deps.originConnectionId, rfl,
            stored, posts,
            callChecked.member (by simp [publishing, isChecked])⟩
      · cases publishes
  · cases publishes

/-! ## Commands as events of the services -/

/-- A command changes the tables by one event of the services at most. -/
theorem command_service
    (engine : Engine) (state : RestState) (index : Nat)
    (answer : Answer) :
    ∃ event, (∀ stream, Consumes stream event) ∧
      (step engine state (.command index answer)).service =
        Services.Transitions.step engine state.service event := by
  have idle :
      state.service =
        Services.Transitions.step engine state.service
          (.advanceClock 0) := by
    simp [Services.Transitions.step]
  simp only [step]
  cases found : state.calls[index]? with
  | none => exact ⟨.advanceClock 0, fun _ => trivial, idle⟩
  | some call =>
      simp only
      unfold runCommand
      split
      · exact ⟨.advanceClock 0, fun _ => trivial, idle⟩
      · exact ⟨.advanceClock 0, fun _ => trivial, idle⟩
      · unfold runCreateMessageRow
        split
        · exact ⟨.advanceClock 0, fun _ => trivial, idle⟩
        · refine
            ⟨.createMessageRow answer.uuid call.input.row,
              fun _ => trivial, ?_⟩
          simp only [Services.Transitions.step]
          split
          · rename_i committed message succeeded
            rw [succeeded]
          · rename_i committed succeeded
            rw [succeeded]
          · rename_i failure failed
            rw [failed]
            rfl
      · exact ⟨.advanceClock 0, fun _ => trivial, idle⟩
      · rename_i message _
        unfold runUpdateLastMessageAt
        split
        · exact ⟨.advanceClock 0, fun _ => trivial, idle⟩
        · exact
            ⟨.updateLastMessageAt call.input.chatId message.createdAt,
              fun _ => trivial, rfl⟩
      · exact ⟨.advanceClock 0, fun _ => trivial, idle⟩
      · exact ⟨.advanceClock 0, fun _ => trivial, idle⟩
      · exact ⟨.advanceClock 0, fun _ => trivial, idle⟩
      · exact ⟨.advanceClock 0, fun _ => trivial, idle⟩

/-- Every step is one event of the services at most. -/
theorem step_service
    (engine : Engine) (state : RestState) (event : Event) :
    ∃ serviceEvent,
      (event = .writer serviceEvent ∨
        ∀ stream, Consumes stream serviceEvent) ∧
        (step engine state event).service =
          Services.Transitions.step engine state.service serviceEvent := by
  have idle :
      state.service =
        Services.Transitions.step engine state.service
          (.advanceClock 0) := by
    simp [Services.Transitions.step]
  cases event with
  | writer event =>
      simp only [step]
      split
      · exact ⟨event, .inl rfl, rfl⟩
      · exact ⟨.advanceClock 0, .inr fun _ => trivial, idle⟩
  | call input deps =>
      exact ⟨.advanceClock 0, .inr fun _ => trivial, idle⟩
  | command index answer =>
      rcases command_service engine state index answer with
        ⟨serviceEvent, consumes, same⟩
      exact ⟨serviceEvent, .inr consumes, same⟩
  | expire key => exact ⟨.advanceClock 0, .inr fun _ => trivial, idle⟩

/-! ## Steps -/

section Steps

variable (engine : Engine) {state : RestState} (event : Event)
  (sound : Sound state.service.database)

include sound

theorem step_grows :
    (∀ row ∈ state.service.database.messages,
        row ∈ (step engine state event).service.database.messages) ∧
      (step engine state event).service.database.roomMembers =
        state.service.database.roomMembers := by
  rcases step_service engine state event with ⟨serviceEvent, _, same⟩
  have change :=
    Services.Transitions.step_change engine state.service serviceEvent
      sound
  rw [same]
  exact
    ⟨fun _ stored =>
        Services.Transitions.change_keeps_messages change stored,
      change_keeps_members change⟩

/-- What is known of the calls, after a step. -/
theorem step_checked
    (checked :
      ∀ call ∈ state.calls, Checked state.service.database call) :
    ∀ call ∈ (step engine state event).calls,
      Checked (step engine state event).service.database call := by
  rcases step_grows engine event sound with ⟨messages, members⟩
  have kept :
      ∀ call ∈ state.calls,
        Checked (step engine state event).service.database call :=
    fun call isCall =>
      (checked call isCall).grow messages fun row listed => by
        rw [members]
        exact listed
  cases event with
  | writer event =>
      intro call isCall
      refine kept call ?_
      simp only [step] at isCall
      split at isCall
      · exact isCall
      · exact isCall
  | call input deps =>
      intro call isCall
      rcases List.mem_append.mp isCall with old | new
      · exact kept call old
      · rw [List.mem_singleton.mp new]
        exact firstStage_checked _ input deps
  | command index answer =>
      cases found : state.calls[index]? with
      | none =>
          simp only [step, found] at kept ⊢
          exact kept
      | some call =>
          simp only [step, found] at kept ⊢
          intro other isCall
          rcases List.mem_or_eq_of_mem_set isCall with old | rfl
          · exact kept other old
          · exact
              runCommand_checked sound state.service.clock state.cache
                (checked call (List.mem_of_getElem? found)) answer
  | expire key => exact kept

/-- No call is forgotten. -/
theorem step_keeps_inputs :
    ∀ call ∈ state.calls, ∃ later ∈ (step engine state event).calls,
      later.input = call.input := by
  intro call isCall
  cases event with
  | writer event =>
      refine ⟨call, ?_, rfl⟩
      simp only [step]
      split
      · exact isCall
      · exact isCall
  | call input deps =>
      exact ⟨call, List.mem_append_left _ isCall, rfl⟩
  | command index answer =>
      cases found : state.calls[index]? with
      | none =>
          refine ⟨call, ?_, rfl⟩
          simp only [step, found]
          exact isCall
      | some moving =>
          have sameInput :=
            (@runCommand_outcome _ state.cache moving answer sound
              state.service.clock).sameInput
          simp only [step, found]
          rcases List.mem_iff_getElem?.mp isCall with ⟨place, isPlace⟩
          by_cases same : index = place
          · subst same
            rcases found.symm.trans isPlace with ⟨⟩
            have inside := (List.getElem?_eq_some_iff.mp found).1
            exact ⟨_, List.mem_set inside _, sameInput⟩
          · refine ⟨call, List.mem_iff_getElem?.mpr ⟨place, ?_⟩, rfl⟩
            rw [List.getElem?_set_ne same]
            exact isPlace
  | expire key => exact ⟨call, isCall, rfl⟩

end Steps

end ChatBackend.Chats.PublishedPosts
