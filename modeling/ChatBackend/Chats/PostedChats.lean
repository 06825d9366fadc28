import ChatBackend.Chats.CallOutcomes

/-!
# The chat of a posted message

A message that `createMessage` returns is a row of the table in every case.
It is a row of the requested chat if the call has inserted it; a message
found in the cache or behind the unique key belongs to the chat in which the
request id was used before.

The run records which calls have written to the cache.  The property fails
exactly when a call meets an earlier use of its request id for another chat:
`posts_stay_in_chat_iff`.
-/

namespace ChatBackend.Chats.PostedChats

open ChatBackend.Foundation.EventRuns
open ChatBackend.Storage.Schema
open ChatBackend.Storage.SequenceMigration
open ChatBackend.Storage.TableInvariants
open ChatBackend.Writer.BatchTransaction
open ChatBackend.Services.Transitions hiding Event step reached
open ChatBackend.Chats.ChatQueries
open ChatBackend.Chats.MessageRows
open ChatBackend.Chats.MessageCreation
open ChatBackend.Chats.Idempotency
open ChatBackend.Chats.CallOutcomes

/-! ## The property and its guard -/

/-- The message has the sender and the chat of the request. -/
def InChat (input : CreateMessageInput) (message : MessageDto) : Prop :=
  message.senderId = input.senderId ∧ message.chatId = input.chatId

/-- Every returned message is a row with the sender and the chat. -/
def ReturnedInChat (state : RestState) : Prop :=
  ∀ call ∈ state.calls, ∀ message, call.stage = .returned message →
    ∃ row ∈ state.service.database.messages,
      toMessageDto row = message ∧
        row.senderId = call.input.senderId ∧
          row.roomId = call.input.chatId

/-- A key of the cache, and the request of the call that wrote it. -/
structure CacheUse where
  key : String
  input : CreateMessageInput

/-- The writes to the cache of one event. -/
def cacheUses (state : RestState) : Event → List CacheUse
  | .command index answer =>
      match state.calls[index]? with
      | none => []
      | some call =>
          ((cacheWrite call answer).map fun write =>
            { key := write.1, input := call.input }).toList
  | _ => []

/-- The request of the call that was the last to write the key. -/
def lastUse (uses : List CacheUse) (key : String) :
    Option CreateMessageInput :=
  (uses.find? fun use => use.key == key).map CacheUse.input

/-- The request ids of a call were not used for another chat. -/
structure OwnUses
    (recorded : Recorded RestState CacheUse) (call : Call)
    (answer : Answer) : Prop where
  /-- The entry that answers the call was written for its sender and chat. -/
  cached :
    ∀ key, cacheKey call answer = some key →
      (recorded.state.cache.get key).isSome →
        ∀ input, lastUse recorded.entries key = some input →
          input.senderId = call.input.senderId ∧
            input.chatId = call.input.chatId
  /-- What the sender has stored under the request id is in the chat. -/
  stored :
    ∀ requestId, recoveredRequest call answer = some requestId →
      ∀ row ∈ recorded.state.service.database.messages,
        row.key? = some (call.input.senderId, requestId) →
          row.roomId = call.input.chatId

/-- A call which finds its request id used finds it used for its chat. -/
def MeetsOwnUses
    (recorded : Recorded RestState CacheUse) : Event → Prop
  | .command index answer =>
      ∀ call, recorded.state.calls[index]? = some call →
        OwnUses recorded call answer
  | _ => True

/-! ## The invariant -/

/-- The message is a row of the table. -/
def InTable (db : Database) (message : MessageDto) : Prop :=
  ∃ row ∈ db.messages, toMessageDto row = message

structure CallPlaced (db : Database) (call : Call) : Prop where
  stored :
    ∀ message, heldMessage call.stage = some message →
      InTable db message
  own :
    ∀ message, ownMessage call.stage = some message →
      InChat call.input message

structure Placed (recorded : Recorded RestState CacheUse) : Prop where
  keyed : Keyed recorded.state
  cached :
    ∀ key message, recorded.state.cache.get key = some message →
      InTable recorded.state.service.database message
  uses :
    ∀ key message, recorded.state.cache.get key = some message →
      ∃ input, lastUse recorded.entries key = some input ∧
        InChat input message
  calls :
    ∀ call ∈ recorded.state.calls,
      CallPlaced recorded.state.service.database call

section Growing

variable {db after : Database}
  (grows : ∀ row ∈ db.messages, row ∈ after.messages)

include grows

theorem InTable.grow {message : MessageDto} (stored : InTable db message) :
    InTable after message := by
  rcases stored with ⟨row, member, shown⟩
  exact ⟨row, grows row member, shown⟩

theorem CallPlaced.grow {call : Call} (placed : CallPlaced db call) :
    CallPlaced after call where
  stored := fun message held => (placed.stored message held).grow grows
  own := placed.own

end Growing

theorem heldMessage_of_ownMessage
    {stage : Stage} {message : MessageDto}
    (own : ownMessage stage = some message) :
    heldMessage stage = some message := by
  unfold ownMessage at own
  split at own
  · exact own
  · exact own
  · exact own
  · exact own
  · cases own

/-! ## Stages -/

section Stages

variable {db : Database} {call : Call} {next : Stage} {message : MessageDto}

/-- Without a message there is nothing to place. -/
theorem CallPlaced.none
    (holdsNone : heldMessage next = none) :
    CallPlaced db { call with stage := next } where
  stored := by
    intro other held
    rw [holdsNone] at held
    cases held
  own := by
    intro other own
    have held := heldMessage_of_ownMessage own
    rw [holdsNone] at held
    cases held

/-- A call moves on with a message of the table. -/
theorem CallPlaced.hold
    (holds : heldMessage next = some message)
    (stored : InTable db message)
    (own : ownMessage next = some message → InChat call.input message) :
    CallPlaced db { call with stage := next } where
  stored := by
    intro other held
    rw [holds] at held
    cases held
    exact stored
  own := by
    intro other owned
    have same := heldMessage_of_ownMessage owned
    rw [holds] at same
    cases same
    exact own owned

theorem ownMessage_caching_recovered
    (requestId : String) (message : MessageDto) :
    ownMessage (.caching requestId message true) = none :=
  rfl

end Stages

/-! ## Commands -/

/-- What one command of a call keeps. -/
structure CommandPlaced (outcome : Outcome) : Prop where
  cached :
    ∀ key message, outcome.cache.get key = some message →
      InTable outcome.database message
  next : CallPlaced outcome.database outcome.call

theorem inTable_of_found
    {db : Database} {senderId : UserId} {requestId : String}
    {row : Message}
    (found : findMessageByRequestId db senderId requestId = some row) :
    InTable db (toMessageDto row) :=
  ⟨row, List.mem_of_find?_eq_some found, rfl⟩

section Commands

variable {db : Database} {cache : Cache} {call : Call} {answer : Answer}
  (cached :
    ∀ key message, cache.get key = some message → InTable db message)
  (placed : CallPlaced db call)
  (cachedInChat :
    ∀ message, cachedMessage cache call answer = some message →
      InChat call.input message)
  (recoveredInChat :
    ∀ message, recoveredMessage db call answer = some message →
      InChat call.input message)

include cached

/-- A command which leaves the tables and the cache alone. -/
theorem CommandPlaced.quiet
    {next : Call} (placedNext : CallPlaced db next) :
    CommandPlaced { database := db, cache := cache, call := next } where
  cached := cached
  next := placedNext

include placed cachedInChat recoveredInChat

theorem commandOutcome_placed
    {outcome : Outcome}
    (command : CommandOutcome db cache call answer outcome) :
    CommandPlaced outcome := by
  cases command with
  | stopped => exact .quiet cached placed
  | moved next holdsNone request => exact .quiet cached (.none holdsNone)
  | inserted row room next numbers member sameRoom accepted sender
      inRoom stage soundAfter =>
      have grows :
          ∀ old ∈ db.messages,
            old ∈ (withMessageRow db call.input.chatId row).messages :=
        fun old inTable => List.mem_append_left _ inTable
      have stored :
          InTable (withMessageRow db call.input.chatId row)
            (toMessageDto row) :=
        ⟨row, List.mem_append_right _ (List.mem_singleton_self _), rfl⟩
      refine
        { cached := fun key message hit =>
            (cached key message hit).grow grows
          next := ?_ }
      rcases stage with rfl | ⟨failure, rfl⟩
      · exact
          @CallPlaced.hold _ { call with numbers := numbers } _ _ rfl
            stored (fun _ => ⟨sender, inRoom⟩)
      · exact @CallPlaced.none _ { call with numbers := numbers } _ rfl
  | updated row next updating stage =>
      refine { cached := cached, next := ?_ }
      rcases stage with rfl | ⟨failure, rfl⟩
      · refine
          CallPlaced.hold
            (afterRow_holds call.input call.deps row false).2.1 ?_ ?_
        · exact placed.stored _ (by rw [updating]; rfl)
        · intro _
          exact placed.own _ (by rw [updating]; rfl)
      · exact .none rfl
  | hit message found =>
      rcases cached_of_cachedMessage found with ⟨key, entry⟩
      exact
        .quiet cached
          (.hold rfl (cached key message entry)
            (fun _ => cachedInChat message found))
  | found requestId row finding kept found =>
      apply CommandPlaced.quiet cached
      refine
        CallPlaced.hold
          (afterRow_holds call.input call.deps row true).2.1 ?_ ?_
      · exact inTable_of_found found
      · intro own
        rcases recoveredMessage_of_found answer finding kept found with
          ⟨used, caching⟩ | recovered
        · rw [caching, ownMessage_caching_recovered] at own
          cases own
        · exact recoveredInChat _ recovered
  | cached requestId message recoveredDuplicate written caching stage =>
      have stored : InTable db message :=
        placed.stored message (by rw [caching]; rfl)
      have stillCached :
          ∀ key other, written.get key = some other →
            InTable db other := by
        rcases stage with rfl | rfl
        · exact cached
        · exact Cache.holds_set cached stored
      apply CommandPlaced.quiet stillCached
      refine
        CallPlaced.hold
          (afterCache_holds call.deps message recoveredDuplicate).2.1 ?_ ?_
      · exact stored
      · intro _
        cases recoveredDuplicate with
        | false => exact placed.own message (by rw [caching]; rfl)
        | true =>
            exact recoveredInChat message
              (by simp only [recoveredMessage, caching])
  | published message events publishing =>
      apply CommandPlaced.quiet cached
      exact
        @CallPlaced.hold _ { call with published := events } _ _ rfl
          (placed.stored message (by rw [publishing]; rfl))
          (fun _ => placed.own message (by rw [publishing]; rfl))

omit cached cachedInChat in
/-- What a call writes to the cache is of its sender and chat. -/
theorem inChat_of_cacheWrite
    {key : String} {message : MessageDto}
    (writes : cacheWrite call answer = some (key, message)) :
    InChat call.input message := by
  unfold cacheWrite at writes
  split at writes
  · rename_i requestId held recoveredDuplicate caching
    split at writes
    · cases writes
    · cases writes
      cases recoveredDuplicate with
      | false => exact placed.own message (by rw [caching]; rfl)
      | true =>
          exact recoveredInChat message
            (by simp only [recoveredMessage, caching])
  · cases writes

end Commands

/-! ## Uses -/

/-- The newest use of a key is found first. -/
theorem lastUse_cons (use : CacheUse) (uses : List CacheUse) (key : String) :
    lastUse (use :: uses) key =
      if key = use.key then some use.input else lastUse uses key := by
  unfold lastUse
  rw [List.find?_cons]
  by_cases same : key = use.key
  · subst same
    simp
  · rw [if_neg same, beq_false_of_ne (Ne.symm same)]

section Uses

variable {recorded : Recorded RestState CacheUse}
  (placed : Placed recorded) {call : Call} {answer : Answer}

include placed

/-- A call finds its own uses exactly if what it finds is in its chat. -/
theorem ownUses_iff (member : call ∈ recorded.state.calls) :
    OwnUses recorded call answer ↔
      (∀ message,
          cachedMessage recorded.state.cache call answer = some message →
            InChat call.input message) ∧
        ∀ message,
          recoveredMessage recorded.state.service.database call answer =
              some message →
            InChat call.input message := by
  have valid := placed.keyed.sound.valid
  have recovers :=
    @recoveredMessage_iff _ call valid (placed.keyed.calls call member)
      answer
  constructor
  · intro own
    refine ⟨fun message hit => ?_, fun message recovered => ?_⟩
    · rcases Option.bind_eq_some_iff.mp hit with ⟨key, reads, entry⟩
      rcases placed.uses key message entry with ⟨input, used, inChat⟩
      have same :=
        own.cached key reads (Option.isSome_of_eq_some entry) input used
      exact ⟨inChat.1.trans same.1, inChat.2.trans same.2⟩
    · rcases recovers.mp recovered with
        ⟨requestId, request, row, inTable, key, rfl⟩
      have inRoom := own.stored requestId request row inTable key
      rcases Option.map_eq_some_iff.mp key with ⟨_, _, same⟩
      exact ⟨congrArg Prod.fst same, inRoom⟩
  · rintro ⟨cachedInChat, recoveredInChat⟩
    constructor
    · intro key reads present input used
      rcases Option.isSome_iff_exists.mp present with ⟨message, entry⟩
      rcases placed.uses key message entry with ⟨_, sameUse, inChat⟩
      rw [used, Option.some.injEq] at sameUse
      subst sameUse
      have own :=
        cachedInChat message
          (by rw [cachedMessage, reads, Option.bind_some, entry])
      exact ⟨inChat.1.symm.trans own.1, inChat.2.symm.trans own.2⟩
    · intro requestId request row inTable key
      exact
        (recoveredInChat (toMessageDto row)
          (recovers.mpr ⟨requestId, request, row, inTable, key, rfl⟩)).2

end Uses

/-! ## Runs -/

/-- The system, with the writes to the cache. -/
def recordedUses (engine : Engine) :
    Recorded RestState CacheUse → Event → Recorded RestState CacheUse :=
  recordedStep (step engine) cacheUses

theorem writer_placed
    (engine : Engine) {recorded : Recorded RestState CacheUse}
    (placed : Placed recorded) (event : Services.Transitions.Event) :
    Placed (recordedUses engine recorded (.writer event)) := by
  have keyed :=
    step_keyed engine recorded.state (.writer event) placed.keyed
  by_cases enabled : isWriter event
  · have change :=
      step_change engine recorded.state.service event
        placed.keyed.sound
    have grows :
        ∀ row ∈ recorded.state.service.database.messages,
          row ∈
            (Services.Transitions.step engine recorded.state.service
              event).database.messages :=
      fun _ inTable => change_keeps_messages change inTable
    simp only [recordedUses, recordedStep, step, if_pos enabled]
      at keyed ⊢
    exact
      { keyed := keyed
        cached := fun key message hit =>
          (placed.cached key message hit).grow grows
        uses := placed.uses
        calls := fun call member =>
          (placed.calls call member).grow grows }
  · simp only [recordedUses, recordedStep, step, if_neg enabled]
    exact { placed with }

theorem call_placed
    (engine : Engine) {recorded : Recorded RestState CacheUse}
    (placed : Placed recorded) (input : CreateMessageInput)
    (deps : CreateMessageDependencies) :
    Placed (recordedUses engine recorded (.call input deps)) where
  keyed :=
    step_keyed engine recorded.state (.call input deps) placed.keyed
  cached := placed.cached
  uses := placed.uses
  calls := by
    intro call member
    rcases List.mem_append.mp member with old | new
    · exact placed.calls call old
    · rw [List.mem_singleton] at new
      subst new
      exact
        @CallPlaced.none _
          { input := input, deps := deps, stage := .creatingRow } _
          (firstStage_search input).2.1

/-- The entries of the cache keep the requests that wrote them. -/
theorem command_uses
    {recorded : Recorded RestState CacheUse} (placed : Placed recorded)
    {call : Call} (member : call ∈ recorded.state.calls)
    {answer : Answer} (now : Timestamp)
    (recoveredInChat :
      ∀ message,
        recoveredMessage recorded.state.service.database call answer =
            some message →
          InChat call.input message)
    {key : String} {message : MessageDto}
    (hit :
      (runCommand now recorded.state.service.database
            recorded.state.cache call answer).cache.get key =
        some message) :
    ∃ input,
      lastUse
            (((cacheWrite call answer).map fun write =>
                  ({ key := write.1, input := call.input } :
                    CacheUse)).toList ++
              recorded.entries)
            key =
          some input ∧
        InChat input message := by
  rw [runCommand_cache] at hit
  cases writes : cacheWrite call answer with
  | none =>
      rw [writes] at hit
      exact placed.uses key message hit
  | some write =>
      rw [writes] at hit
      simp only [Cache.get_set] at hit
      simp only [Option.map_some, Option.toList_some, List.cons_append,
        List.nil_append, lastUse_cons]
      split at hit
      case isTrue same =>
          cases hit
          rw [if_pos same]
          exact
            ⟨call.input, rfl,
              inChat_of_cacheWrite (placed.calls call member)
                recoveredInChat writes⟩
      case isFalse different =>
          rw [if_neg different]
          exact placed.uses key message hit

theorem command_placed
    (engine : Engine) {recorded : Recorded RestState CacheUse}
    (placed : Placed recorded) (index : Nat) (answer : Answer)
    (meets : MeetsOwnUses recorded (.command index answer)) :
    Placed (recordedUses engine recorded (.command index answer)) := by
  have keyed :=
    step_keyed engine recorded.state (.command index answer) placed.keyed
  cases found : recorded.state.calls[index]? with
  | none =>
      simp only [recordedUses, recordedStep, step, cacheUses, found]
      exact { placed with }
  | some call =>
      have member := List.mem_of_getElem? found
      rcases (ownUses_iff placed member).mp (meets call found) with
        ⟨cachedInChat, recoveredInChat⟩
      have command :=
        @runCommand_outcome _ recorded.state.cache call answer
          placed.keyed.sound recorded.state.service.clock
      have after :=
        commandOutcome_placed placed.cached (placed.calls call member)
          cachedInChat recoveredInChat command
      simp only [recordedUses, recordedStep, step, cacheUses, found]
        at keyed ⊢
      refine
        { keyed := keyed
          cached := after.cached
          uses := fun key message hit =>
            command_uses placed member _ recoveredInChat hit
          calls := fun other listed => ?_ }
      rcases List.mem_or_eq_of_mem_set listed with old | rfl
      · exact (placed.calls other old).grow command.keeps
      · exact after.next

theorem expire_placed
    (engine : Engine) {recorded : Recorded RestState CacheUse}
    (placed : Placed recorded) (key : String) :
    Placed (recordedUses engine recorded (.expire key)) := by
  have kept :
      ∀ other message,
        (recorded.state.cache.remove key).get other = some message →
          recorded.state.cache.get other = some message := by
    intro other message hit
    rw [Cache.get_remove] at hit
    split at hit
    · cases hit
    · exact hit
  exact
    { keyed :=
        step_keyed engine recorded.state (.expire key) placed.keyed
      cached := fun other message hit =>
        placed.cached other message (kept other message hit)
      uses := fun other message hit =>
        placed.uses other message (kept other message hit)
      calls := placed.calls }

theorem step_placed
    (engine : Engine) (recorded : Recorded RestState CacheUse)
    (event : Event) (placed : Placed recorded)
    (meets : MeetsOwnUses recorded event) :
    Placed (recordedUses engine recorded event) := by
  cases event with
  | writer event => exact writer_placed engine placed event
  | call input deps => exact call_placed engine placed input deps
  | command index answer =>
      exact command_placed engine placed index answer meets
  | expire key => exact expire_placed engine placed key

theorem Placed.returnedInChat
    {recorded : Recorded RestState CacheUse} (placed : Placed recorded) :
    ReturnedInChat recorded.state := by
  intro call member message returned
  have placedCall := placed.calls call member
  rcases placedCall.stored message (by rw [returned]; rfl) with
    ⟨row, inTable, rfl⟩
  have inChat := placedCall.own _ (by rw [returned]; rfl)
  exact ⟨row, inTable, rfl, inChat.1, inChat.2⟩

/-- If what a command returns is in the chat, it met its own uses. -/
theorem meetsOwnUses_of_returnedInChat
    (engine : Engine) (recorded : Recorded RestState CacheUse)
    (event : Event) (placed : Placed recorded)
    (holds : ReturnedInChat (step engine recorded.state event)) :
    MeetsOwnUses recorded event := by
  cases event with
  | writer _ => trivial
  | call _ _ => trivial
  | expire _ => trivial
  | command index answer =>
      intro call found
      rw [ownUses_iff placed (List.mem_of_getElem? found)]
      have ran :
          (runCommand recorded.state.service.clock
              recorded.state.service.database recorded.state.cache call
              answer).call ∈
            (step engine recorded.state (.command index answer)).calls := by
        simp only [step, found]
        rcases List.getElem?_eq_some_iff.mp found with ⟨inside, _⟩
        exact List.mem_set inside _
      have sameInput :=
        (@runCommand_outcome _ recorded.state.cache call answer
          placed.keyed.sound recorded.state.service.clock).sameInput
      have inChat :
          ∀ message,
            (runCommand recorded.state.service.clock
                  recorded.state.service.database recorded.state.cache
                  call answer).call.stage =
                .returned message →
              InChat call.input message := by
        intro message returned
        rcases holds _ ran message returned with
          ⟨row, _, rfl, sender, room⟩
        rw [sameInput] at sender room
        exact ⟨sender, room⟩
      exact
        ⟨fun message hit =>
            inChat message (returns_cachedMessage answer _ hit),
          fun message recovered =>
            inChat message (returns_recoveredMessage answer _ recovered)⟩

theorem initial_placed
    (engine : Engine) (legacy : LegacyTables) (clock : Timestamp) :
    Placed
      { state :=
          { service :=
              Services.Transitions.initial engine legacy clock } } where
  keyed := initial_keyed engine legacy clock
  cached := by simp [Cache.get]
  uses := by simp [Cache.get]
  calls := by simp

/--
Every message that calls return in a run is a row of the sender in the chat
exactly if no call meets its request id where it was used for another chat:
not in the cache entry that answers it, and not in the table when it recovers
the row of another call.
-/
theorem posts_stay_in_chat_iff
    (engine : Engine) (legacy : LegacyTables) (clock : Timestamp)
    (events : List Event) :
    EveryStep (step engine)
        (fun state event => ReturnedInChat (step engine state event))
        { service := Services.Transitions.initial engine legacy clock }
        events ↔
      EveryStep (recordedUses engine) MeetsOwnUses
        { state :=
            { service :=
                Services.Transitions.initial engine legacy clock } }
        events := by
  have unrecorded :=
    @everyStep_recorded _ _ (step engine) _ cacheUses
      (fun state event => ReturnedInChat (step engine state event))
      { state :=
          { service :=
              Services.Transitions.initial engine legacy clock } }
      events
  rw [← unrecorded]
  exact
    everyStep_iff_guarded (step_placed engine)
      (fun recorded event placed =>
        ⟨meetsOwnUses_of_returnedInChat engine recorded event placed,
          fun meets =>
            (step_placed engine recorded event placed
              meets).returnedInChat⟩)
      (initial_placed engine legacy clock) events

/-! ## A request id in two chats -/

/-- Ana and Ben share a second room. -/
def exampleRooms : LegacyTables :=
  { exampleTables with
    rooms :=
      exampleTables.rooms ++
        [{ id := "garden", createdAt := 0, lastMessageAt := 0 }]
    roomMembers :=
      exampleTables.roomMembers ++
        [{ userId := "ana", roomId := "garden", joinedAt := 0 },
          { userId := "ben", roomId := "garden", joinedAt := 0 }]
    roomIds := by decide
    memberIds := by decide
    memberUser := by decide
    memberRoom := by decide
    messageRoom := by decide
    writeRoom := by decide }

/-- What Ana sends to the garden under the request id of the room. -/
def exampleReused : CreateMessageInput where
  senderId := "ana"
  chatId := "garden"
  body := some "bye"
  requestId := some "request"

/-- Ana posts to the room, and to the garden with the same request id. -/
def exampleReusedRequest : List Event :=
  [.call
      { senderId := "ana"
        chatId := "room"
        body := some "hello"
        requestId := some "request" }
      {},
    .command 0 {}, .command 0 {}, .command 0 { uuid := "first" },
    .command 0 {}, .command 0 {}, .command 0 {},
    .call exampleReused {}, .command 1 {}, .command 1 {}]

/-- The call to the garden returns the message of the room. -/
theorem reused_request_returns_other_chat :
    ¬ EveryStep (step exampleEngine)
        (fun state event =>
          ReturnedInChat (step exampleEngine state event))
        { service :=
            Services.Transitions.initial exampleEngine exampleRooms 0 }
        exampleReusedRequest := by
  intro everyStep
  have cut :
      exampleReusedRequest =
        exampleReusedRequest.dropLast ++ [.command 1 {}] := by
    decide
  rw [cut, everyStep_append] at everyStep
  have holds := everyStep.2.1
  have returned :
      ({ input := exampleReused
         deps := {}
         stage :=
           .returned
             { id := "first"
               chatId := "room"
               senderId := "ana"
               body := "hello"
               createdAt := 0 } } : Call) ∈
        (step exampleEngine
          (reached exampleEngine exampleRooms 0
            exampleReusedRequest.dropLast)
          (.command 1 {})).calls := by
    decide +kernel
  rcases holds _ returned _ rfl with ⟨row, _, shown, _, inGarden⟩
  have chat : row.roomId = "room" := congrArg MessageDto.chatId shown
  rw [inGarden] at chat
  exact absurd chat (by decide)

end ChatBackend.Chats.PostedChats
