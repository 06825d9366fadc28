import ChatBackend.Chats.Idempotency

/-!
# What a command of a call does

Every command of a `createMessage` call moves on without a message, inserts
its row, moves the room's time, finds a message of another call or of the
writer, or passes on the message that it has.  `CommandOutcome` lists these
cases once for the invariants of calls.

A message that a call returns without having inserted it comes from the
cache, `cachedMessage`, or from the table, `recoveredMessage`.  The latter is
the row of the call's sender and request id: `recoveredMessage_iff`.
-/

namespace ChatBackend.Chats.CallOutcomes

open ChatBackend.Storage.Schema
open ChatBackend.Storage.SequenceMigration
open ChatBackend.Storage.TableInvariants
open ChatBackend.Writer.BatchTransaction
open ChatBackend.Services.Transitions hiding Event step reached
open ChatBackend.Chats.ChatQueries
open ChatBackend.Chats.MessageRows
open ChatBackend.Chats.MessageCreation
open ChatBackend.Chats.Idempotency

/-! ## Found messages -/

/-- The key of the cache under which the command is answered, if any. -/
def cacheKey (call : Call) (answer : Answer) : Option String :=
  match call.stage with
  | .readingCache requestId =>
      if answer.connection = .kept then
        some (messageIdempotencyKey call.input.senderId requestId)
      else none
  | _ => none

/-- The message that a call is about to return out of the cache. -/
def cachedMessage
    (cache : Cache) (call : Call) (answer : Answer) : Option MessageDto :=
  (cacheKey call answer).bind cache.get

/-- What the command writes to the cache, unless it is lost on the way. -/
def cacheWrite
    (call : Call) (answer : Answer) : Option (String × MessageDto) :=
  match call.stage with
  | .caching requestId message _ =>
      if answer.connection = .lostBefore then none
      else
        some
          (messageIdempotencyKey call.input.senderId requestId, message)
  | _ => none

/-- The request id whose row a call is about to return, if it does. -/
def recoveredRequest (call : Call) (answer : Answer) : Option String :=
  match call.stage with
  | .findingDuplicate requestId =>
      if answer.connection = .kept ∧
          cachedRequest call.input call.deps = none then
        some requestId
      else none
  | .caching requestId _ true => some requestId
  | _ => none

/-- The message of a found duplicate that a call is about to return. -/
def recoveredMessage
    (db : Database) (call : Call) (answer : Answer) : Option MessageDto :=
  match call.stage with
  | .findingDuplicate requestId =>
      if answer.connection = .kept ∧
          cachedRequest call.input call.deps = none then
        (findMessageByRequestId db call.input.senderId requestId).map
          toMessageDto
      else none
  | .caching _ message true => some message
  | _ => none

/-- The message that a call has inserted itself, or has returned. -/
def ownMessage : Stage → Option MessageDto
  | .updatingLastMessageAt message => some (toMessageDto message)
  | .caching _ message false => some message
  | .publishing message | .returned message => some message
  | _ => none

/-! ## Outcomes -/

variable (db : Database) (cache : Cache) (call : Call)
  (answer : Answer)

/-- What a command leads to, by what it does. -/
inductive CommandOutcome : Outcome → Prop where
  | stopped :
      CommandOutcome { database := db, cache := cache, call := call }
  | moved (next : Stage) :
      heldMessage next = none →
        (∀ used, usedRequest next = some used →
          truthy call.input.requestId = some used) →
        CommandOutcome
          { database := db
            cache := cache
            call := { call with stage := next } }
  | inserted
      (row : Message) (room : Room) (next : Stage) (numbers : Nat) :
      room ∈ db.rooms → room.id = call.input.chatId →
        RowAccepted db row → row.senderId = call.input.senderId →
        row.roomId = call.input.chatId →
        next = .updatingLastMessageAt row ∨
            (∃ failure, next = .failed failure) →
        Sound (withMessageRow db call.input.chatId row) →
          CommandOutcome
            { database := withMessageRow db call.input.chatId row
              cache := cache
              call := { call with stage := next, numbers := numbers } }
  | updated (row : Message) (next : Stage) :
      call.stage = .updatingLastMessageAt row →
        next = afterRow call.input call.deps row false ∨
            (∃ failure, next = .failed failure) →
          CommandOutcome
            { database :=
                updateLastMessageAt db call.input.chatId row.createdAt
              cache := cache
              call := { call with stage := next } }
  | hit (message : MessageDto) :
      cachedMessage cache call answer = some message →
        CommandOutcome
          { database := db
            cache := cache
            call := { call with stage := .returned message } }
  | found (requestId : String) (row : Message) :
      call.stage = .findingDuplicate requestId →
        answer.connection = .kept →
        findMessageByRequestId db call.input.senderId requestId =
          some row →
          CommandOutcome
            { database := db
              cache := cache
              call :=
                { call with
                  stage := afterRow call.input call.deps row true } }
  | cached
      (requestId : String) (message : MessageDto)
      (recoveredDuplicate : Bool) (written : Cache) :
      call.stage = .caching requestId message recoveredDuplicate →
        written = cache ∨
          written =
            cache.set
              (messageIdempotencyKey call.input.senderId requestId)
              message →
          CommandOutcome
            { database := db
              cache := written
              call :=
                { call with
                  stage :=
                    afterCache call.deps message recoveredDuplicate } }
  | published
      (message : MessageDto)
      (events : List Writer.OutboxDrain.RoomEvent) :
      call.stage = .publishing message →
        CommandOutcome
          { database := db
            cache := cache
            call :=
              { call with
                stage := .returned message
                published := events } }

variable {db cache call}

/-- No command changes what was asked for. -/
theorem CommandOutcome.sameInput
    {answer : Answer} {outcome : Outcome}
    (command : CommandOutcome db cache call answer outcome) :
    outcome.call.input = call.input := by
  cases command <;> rfl

/-- A stage that uses no request id is about none of its call. -/
theorem request_of_usesNone
    {input : CreateMessageInput} {next : Stage}
    (usesNone : usedRequest next = none) :
    ∀ used, usedRequest next = some used →
      truthy input.requestId = some used := by
  intro used uses
  rw [usesNone] at uses
  cases uses

theorem CommandOutcome.fail (failure : CreateMessageFailure) :
    CommandOutcome db cache call answer
      { database := db
        cache := cache
        call := { call with stage := .failed failure } } :=
  .moved _ rfl (request_of_usesNone rfl)

theorem readDatabase_outcome
    {next : Stage} (holdsNone : heldMessage next = none)
    (request :
      ∀ used, usedRequest next = some used →
        truthy call.input.requestId = some used) :
    CommandOutcome db cache call answer
      (readDatabase db cache call answer next) := by
  unfold readDatabase
  split
  · exact .moved next holdsNone request
  · exact .fail answer _

theorem createMessageRow_outcome
    (sound : Sound db) (now : Timestamp) :
    CommandOutcome db cache call answer
      (runCreateMessageRow now db cache call answer) := by
  unfold runCreateMessageRow
  split
  · exact .fail answer _
  · split
    · rename_i committed message succeeded
      rcases createMessageRow_ok sound.valid succeeded with
        ⟨room, member, sameRoom, accepted, rfl, created⟩
      cases created
      refine
        .inserted _ room _ _ member sameRoom accepted rfl rfl ?_
          (withMessageRow_sound sound member sameRoom accepted)
      split
      · exact .inl rfl
      · exact .inr ⟨_, rfl⟩
    · rename_i succeeded
      rcases createMessageRow_ok sound.valid succeeded with
        ⟨_, _, _, _, _, created⟩
      cases created
    · rename_i failure _
      have search := afterFailure_search call.input failure
      exact readDatabase_outcome answer search.2.1 search.1

theorem updateLastMessageAt_outcome
    {row : Message} (updating : call.stage = .updatingLastMessageAt row) :
    CommandOutcome db cache call answer
      (runUpdateLastMessageAt db cache call answer row) := by
  unfold runUpdateLastMessageAt
  split
  · exact .fail answer _
  · split
    · exact .updated row _ updating (.inl rfl)
    · exact .updated row _ updating (.inr ⟨_, rfl⟩)

theorem findingDuplicate_outcome
    {requestId : String}
    (finding : call.stage = .findingDuplicate requestId) :
    CommandOutcome db cache call answer
      (readDatabase db cache call answer
        (match findMessageByRequestId db call.input.senderId requestId
          with
          | none => .failed (.database .recordNotFound)
          | some message =>
              afterRow call.input call.deps message true)) := by
  split
  · exact readDatabase_outcome answer rfl (request_of_usesNone rfl)
  · rename_i row found
    unfold readDatabase
    split
    · rename_i kept
      exact .found requestId row finding kept found
    · exact .fail answer _

theorem runCommand_outcome
    (sound : Sound db) (now : Timestamp) :
    CommandOutcome db cache call answer
      (runCommand now db cache call answer) := by
  unfold runCommand
  split
  case h_1 =>
      have search :=
        afterMembership_search call.input call.deps
          (findRoomMembership db call.input.senderId call.input.chatId)
      exact readDatabase_outcome answer search.2.1 search.1
  case h_2 requestId reading =>
      have creates :
          CommandOutcome db cache call answer
            { database := db
              cache := cache
              call := { call with stage := .creatingRow } } :=
        .moved _ rfl (request_of_usesNone rfl)
      split
      · rename_i kept
        split
        · exact creates
        · rename_i message hit
          refine .hit message ?_
          rw [cachedMessage, cacheKey, reading]
          simp only [if_pos kept, Option.bind_some, hit]
      · exact creates
  case h_3 => exact createMessageRow_outcome answer sound now
  case h_4 requestId finding =>
      exact findingDuplicate_outcome answer finding
  case h_5 row updating =>
      exact updateLastMessageAt_outcome answer updating
  case h_6 requestId message recoveredDuplicate caching =>
      refine .cached requestId message recoveredDuplicate _ caching ?_
      split
      · exact .inl rfl
      · exact .inr rfl
  case h_7 message publishing =>
      exact .published message _ publishing
  case h_8 => exact .stopped
  case h_9 => exact .stopped

theorem runCreateMessageRow_cache (now : Timestamp) :
    (runCreateMessageRow now db cache call answer).cache = cache := by
  unfold runCreateMessageRow
  split
  · rfl
  · split <;> rfl

theorem runUpdateLastMessageAt_cache (row : Message) :
    (runUpdateLastMessageAt db cache call answer row).cache = cache := by
  unfold runUpdateLastMessageAt
  split <;> rfl

/-- Only the write of a call changes the cache. -/
theorem runCommand_cache (now : Timestamp) :
    (runCommand now db cache call answer).cache =
      match cacheWrite call answer with
      | none => cache
      | some (key, message) => cache.set key message := by
  cases stage : call.stage with
  | creatingRow =>
      simp only [runCommand, cacheWrite, stage, runCreateMessageRow_cache]
  | updatingLastMessageAt row =>
      simp only [runCommand, cacheWrite, stage,
        runUpdateLastMessageAt_cache]
  | caching requestId message recoveredDuplicate =>
      simp only [runCommand, cacheWrite, stage]
      split <;> rfl
  | _ => simp only [runCommand, cacheWrite, stage, readDatabase]

/-! ## Returned messages -/

theorem returns_cachedMessage
    (now : Timestamp) {message : MessageDto}
    (hit : cachedMessage cache call answer = some message) :
    (runCommand now db cache call answer).call.stage =
      .returned message := by
  rcases Option.bind_eq_some_iff.mp hit with ⟨key, reads, entry⟩
  unfold cacheKey at reads
  split at reads
  · rename_i requestId reading
    split at reads
    · rename_i kept
      cases reads
      simp only [runCommand, reading, if_pos kept, entry]
    · cases reads
  · cases reads

theorem afterCache_recovered
    (deps : CreateMessageDependencies) (message : MessageDto) :
    afterCache deps message true = .returned message := by
  simp [afterCache]

theorem returns_recoveredMessage
    (now : Timestamp) {message : MessageDto}
    (recovered : recoveredMessage db call answer = some message) :
    (runCommand now db cache call answer).call.stage =
      .returned message := by
  unfold recoveredMessage at recovered
  split at recovered
  · rename_i requestId finding
    split at recovered
    · rename_i direct
      rcases Option.map_eq_some_iff.mp recovered with ⟨row, found, rfl⟩
      simp only [runCommand, finding, found, readDatabase,
        if_pos direct.1, afterRow, direct.2, afterCache_recovered]
    · cases recovered
  · rename_i requestId held caching
    cases recovered
    simp only [runCommand, caching, afterCache_recovered]
  · cases recovered

theorem database_of_recoveredMessage
    (now : Timestamp) {message : MessageDto}
    (recovered : recoveredMessage db call answer = some message) :
    (runCommand now db cache call answer).database = db := by
  unfold recoveredMessage at recovered
  split at recovered
  · rename_i requestId finding
    simp only [runCommand, finding, readDatabase]
  · rename_i requestId held caching
    simp only [runCommand, caching]
  · cases recovered

/-- A cached message is an entry of the cache. -/
theorem cached_of_cachedMessage
    {answer : Answer} {message : MessageDto}
    (hit : cachedMessage cache call answer = some message) :
    ∃ key, cache.get key = some message := by
  rcases Option.bind_eq_some_iff.mp hit with ⟨key, _, entry⟩
  exact ⟨key, entry⟩

/-- A found row is either cached first, or returned at once. -/
theorem recoveredMessage_of_found
    {requestId : String} {row : Message}
    (finding : call.stage = .findingDuplicate requestId)
    (kept : answer.connection = .kept)
    (found :
      findMessageByRequestId db call.input.senderId requestId =
        some row) :
    (∃ used,
        afterRow call.input call.deps row true =
          .caching used (toMessageDto row) true) ∨
      recoveredMessage db call answer = some (toMessageDto row) := by
  unfold afterRow
  split
  · rename_i direct
    right
    simp only [recoveredMessage, finding]
    rw [if_pos ⟨kept, direct⟩, found]
    rfl
  · exact .inl ⟨_, rfl⟩

/-! ## The row of the request id -/

theorem findMessageByRequestId_key
    {senderId : UserId} {requestId : String} {row : Message}
    (found : findMessageByRequestId db senderId requestId = some row) :
    row.key? = some (senderId, requestId) := by
  have same := List.find?_some found
  rw [Bool.and_eq_true, beq_iff_eq, beq_iff_eq] at same
  rw [Message.key?, same.1, same.2, Option.map_some]

theorem findMessageByRequestId_stored
    {senderId : UserId} {requestId : String} {row : Message}
    (found : findMessageByRequestId db senderId requestId = some row) :
    Stored senderId requestId db (toMessageDto row) :=
  ⟨row, List.mem_of_find?_eq_some found, findMessageByRequestId_key found,
    rfl⟩

/-- The row under a key is the one that the lookup finds. -/
theorem findMessageByRequestId_of_mem
    (valid : db.Valid) {senderId : UserId} {requestId : String}
    {row : Message} (inTable : row ∈ db.messages)
    (key : row.key? = some (senderId, requestId)) :
    findMessageByRequestId db senderId requestId = some row := by
  cases found : findMessageByRequestId db senderId requestId with
  | none =>
      have absent := List.find?_eq_none.mp found row inTable
      rcases Option.map_eq_some_iff.mp key with ⟨used, isRequest, same⟩
      cases same
      rw [isRequest] at absent
      simp at absent
  | some other =>
      have sameRow :=
        message_separate valid (List.mem_of_find?_eq_some found) inTable
          (.inr ⟨_, findMessageByRequestId_key found, key⟩)
      rw [sameRow]

/-- A call uses its own request id, and caches the row that it found. -/
structure CallKeyed (db : Database) (call : Call) : Prop where
  request :
    ∀ used, usedRequest call.stage = some used →
      truthy call.input.requestId = some used
  recovered :
    ∀ used message, call.stage = .caching used message true →
      Stored call.input.senderId used db message

theorem CallKeyed.grow
    {after : Database} (keyed : CallKeyed db call)
    (grows : ∀ row ∈ db.messages, row ∈ after.messages) :
    CallKeyed after call where
  request := keyed.request
  recovered := fun used message caching =>
    (keyed.recovered used message caching).grow grows

/-- A call which is not caching has only to use its own request id. -/
theorem CallKeyed.of_request
    {next : Call}
    (request :
      ∀ used, usedRequest next.stage = some used →
        truthy next.input.requestId = some used)
    (fresh :
      ∀ used message, next.stage ≠ .caching used message true) :
    CallKeyed db next where
  request := request
  recovered := fun used message caching =>
    (fresh used message caching).elim

theorem afterCache_ne_caching
    (deps : CreateMessageDependencies) (message : MessageDto)
    (recoveredDuplicate : Bool) (used : String) (other : MessageDto) :
    afterCache deps message recoveredDuplicate ≠
      .caching used other true := by
  unfold afterCache
  split <;> exact Stage.noConfusion

/-- A row is cached under the request id of its call. -/
theorem caching_of_afterRow
    {input : CreateMessageInput} {deps : CreateMessageDependencies}
    {row : Message} {recoveredDuplicate flag : Bool} {used : String}
    {message : MessageDto}
    (caching :
      afterRow input deps row recoveredDuplicate =
        .caching used message flag) :
    flag = recoveredDuplicate ∧ message = toMessageDto row ∧
      truthy input.requestId = some used := by
  unfold afterRow at caching
  split at caching
  · unfold afterCache at caching
    split at caching <;> cases caching
  · rename_i requested
    cases caching
    exact ⟨rfl, rfl, truthy_of_cachedRequest requested⟩

theorem CommandOutcome.keyed
    {answer : Answer} {outcome : Outcome}
    (command : CommandOutcome db cache call answer outcome)
    (keyed : CallKeyed db call) :
    CallKeyed outcome.database outcome.call := by
  cases command with
  | stopped => exact keyed
  | moved next holdsNone request =>
      refine .of_request request fun used message caching => ?_
      rw [show next = .caching used message true from caching] at holdsNone
      cases holdsNone
  | inserted row room next numbers member sameRoom accepted sender inRoom
      stage soundAfter =>
      rcases stage with rfl | ⟨failure, rfl⟩ <;>
        exact
          .of_request (request_of_usesNone rfl) fun _ _ =>
            Stage.noConfusion
  | updated row next updating stage =>
      rcases stage with rfl | ⟨failure, rfl⟩
      · refine
          .of_request (afterRow_holds call.input call.deps row false).1
            fun used message caching => ?_
        exact Bool.noConfusion (caching_of_afterRow caching).1
      · exact
          .of_request (request_of_usesNone rfl) fun _ _ =>
            Stage.noConfusion
  | hit message found =>
      exact
        .of_request (request_of_usesNone rfl) fun _ _ => Stage.noConfusion
  | found requestId row finding kept found =>
      refine
        { request := (afterRow_holds call.input call.deps row true).1
          recovered := fun used message caching => ?_ }
      rcases caching_of_afterRow caching with ⟨_, rfl, requested⟩
      have own := keyed.request requestId (by rw [finding]; rfl)
      rw [requested, Option.some.injEq] at own
      subst own
      exact findMessageByRequestId_stored found
  | cached requestId message recoveredDuplicate written caching stage =>
      exact
        .of_request
          (request_of_usesNone
            (afterCache_holds call.deps message recoveredDuplicate).1)
          (afterCache_ne_caching call.deps message recoveredDuplicate)
  | published message events publishing =>
      exact
        .of_request (request_of_usesNone rfl) fun _ _ => Stage.noConfusion

/-- What a call recovers is the row of its sender and request id. -/
theorem recoveredMessage_iff
    (valid : db.Valid) (keyed : CallKeyed db call)
    {answer : Answer} {message : MessageDto} :
    recoveredMessage db call answer = some message ↔
      ∃ requestId,
        recoveredRequest call answer = some requestId ∧
          Stored call.input.senderId requestId db message := by
  unfold recoveredMessage recoveredRequest
  split
  · split
    · constructor
      · intro recovered
        rcases Option.map_eq_some_iff.mp recovered with ⟨row, found, rfl⟩
        exact ⟨_, rfl, findMessageByRequestId_stored found⟩
      · rintro ⟨requestId, ⟨⟩, row, inTable, key, rfl⟩
        rw [findMessageByRequestId_of_mem valid inTable key,
          Option.map_some]
    · simp
  · rename_i requestId held caching
    have stored := keyed.recovered requestId held caching
    constructor
    · rintro ⟨⟩
      exact ⟨requestId, rfl, stored⟩
    · rintro ⟨_, ⟨⟩, other⟩
      rw [Stored.unique valid stored other]
  · simp

/-! ## Runs -/

theorem CommandOutcome.sound
    {answer : Answer} {outcome : Outcome}
    (command : CommandOutcome db cache call answer outcome)
    (sound : Sound db) : Sound outcome.database := by
  cases command with
  | inserted _ _ _ _ _ _ _ _ _ _ soundAfter => exact soundAfter
  | updated => exact updateLastMessageAt_sound sound _ _
  | _ => exact sound

/-- No command takes a message out of the table. -/
theorem CommandOutcome.keeps
    {answer : Answer} {outcome : Outcome}
    (command : CommandOutcome db cache call answer outcome) :
    ∀ row ∈ db.messages, row ∈ outcome.database.messages := by
  intro row inTable
  cases command with
  | inserted => exact List.mem_append_left _ inTable
  | _ => exact inTable

/-- The tables are sound, and every call uses its own request id. -/
structure Keyed (state : RestState) : Prop where
  sound : Sound state.service.database
  calls : ∀ call ∈ state.calls, CallKeyed state.service.database call

theorem writer_keyed
    (engine : Engine) {state : RestState} (keyed : Keyed state)
    (event : Services.Transitions.Event) :
    Keyed (step engine state (.writer event)) := by
  simp only [step]
  split
  case isFalse => exact keyed
  case isTrue =>
      have change := step_change engine state.service event keyed.sound
      exact
        { sound := change_sound change keyed.sound
          calls := fun call member =>
            (keyed.calls call member).grow fun _ inTable =>
              change_keeps_messages change inTable }

theorem step_keyed
    (engine : Engine) (state : RestState) (event : Event)
    (keyed : Keyed state) : Keyed (step engine state event) := by
  cases event with
  | writer event => exact writer_keyed engine keyed event
  | expire key => exact { keyed with }
  | call input deps =>
      refine { keyed with calls := fun call member => ?_ }
      rcases List.mem_append.mp member with old | new
      · exact keyed.calls call old
      · rw [List.mem_singleton] at new
        subst new
        refine
          .of_request (request_of_usesNone (firstStage_search input).1)
            fun used message caching => ?_
        have holdsNone := (firstStage_search input).2.1
        rw [show firstStage input = .caching used message true from
          caching] at holdsNone
        cases holdsNone
  | command index answer =>
      simp only [step]
      split
      case h_1 => exact keyed
      case h_2 call found =>
          have command :=
            @runCommand_outcome _ state.cache call answer keyed.sound
              state.service.clock
          refine
            { sound := command.sound keyed.sound
              calls := fun other member => ?_ }
          rcases List.mem_or_eq_of_mem_set member with old | rfl
          · exact (keyed.calls other old).grow command.keeps
          · exact
              command.keyed
                (keyed.calls call (List.mem_of_getElem? found))

theorem initial_keyed
    (engine : Engine) (legacy : LegacyTables) (clock : Timestamp) :
    Keyed
      { service := Services.Transitions.initial engine legacy clock } where
  sound := migrate_sound engine legacy
  calls := by simp

end ChatBackend.Chats.CallOutcomes
