import ChatBackend.Realtime.IndexConsistency
import ChatBackend.Realtime.MessageFrames
import Mathlib.Algebra.Ring.Nat

/-!
# The counters of the realtime server

`createRealtimeMetrics` counts connections, send frames, refusals of the rate
limiter, publish attempts and acks.  The calls that move its counters are
spread over the callbacks of a socket, `handleSend`, `handleTyping` and the
instrumented publisher; here they stand beside the reactions of the server.

`counters_exact` relates the counters to what the server has really done and
to the handlers that wait.  The latency trackers and the delay of the event
loop are left out, since no counter depends on them.
-/

namespace ChatBackend.Realtime.ServerMetrics

open ChatBackend.Foundation.EventRuns
open ChatBackend.Foundation.OrderedSets
open ChatBackend.Storage.Schema
open ChatBackend.Writer.WriteCommands
open ChatBackend.Realtime.PresenceStore
open ChatBackend.Realtime.ServerFrames
open ChatBackend.Realtime.Server
open ChatBackend.Realtime.Reactions
open ChatBackend.Realtime.IndexConsistency
open ChatBackend.Realtime.MessageFrames

variable {Socket : Type}

/-! ## Counters -/

structure RealtimeCounters where
  wsConnected : Nat := 0
  sendFrameReceived : Nat := 0
  sendRateLimited : Nat := 0
  typingRateLimited : Nat := 0
  natsPublishStarted : Nat := 0
  natsPublishSucceeded : Nat := 0
  natsPublishFailed : Nat := 0
  natsPublishSkipped : Nat := 0
  ackSent : Nat := 0
deriving DecidableEq, Repr

namespace RealtimeCounters

variable (counters : RealtimeCounters)

def recordWsConnected : RealtimeCounters :=
  { counters with wsConnected := counters.wsConnected + 1 }

/-- The counter does not fall below zero. -/
def recordWsDisconnected : RealtimeCounters :=
  { counters with wsConnected := counters.wsConnected - 1 }

def recordSendFrameReceived : RealtimeCounters :=
  { counters with sendFrameReceived := counters.sendFrameReceived + 1 }

def recordRateLimitedSend : RealtimeCounters :=
  { counters with sendRateLimited := counters.sendRateLimited + 1 }

def recordRateLimitedTyping : RealtimeCounters :=
  { counters with typingRateLimited := counters.typingRateLimited + 1 }

def recordNatsPublishStarted : RealtimeCounters :=
  { counters with natsPublishStarted := counters.natsPublishStarted + 1 }

def recordNatsPublishSucceeded : RealtimeCounters :=
  { counters with
    natsPublishSucceeded := counters.natsPublishSucceeded + 1 }

def recordNatsPublishFailed : RealtimeCounters :=
  { counters with natsPublishFailed := counters.natsPublishFailed + 1 }

def recordAckSent : RealtimeCounters :=
  { counters with ackSent := counters.ackSent + 1 }

/-- What a handler records when it goes on. -/
def recordResumed
    (state : State Socket) (input : Resumption) :
    Handler Socket → RealtimeCounters
  | .limitSend ws frame =>
      if input.allowed then
        if frame.chatId ∈ (state.client ws).roomIds then
          counters.recordNatsPublishStarted
        else counters
      else counters.recordRateLimitedSend
  | .joinSend _ _ (.rows true) => counters.recordNatsPublishStarted
  | .publish _ _ _ =>
      if input.published then
        counters.recordNatsPublishSucceeded.recordAckSent
      else counters.recordNatsPublishFailed
  | .retry _ _ _ => counters.recordNatsPublishStarted
  | .limitTyping _ _ =>
      if input.allowed then counters
      else counters.recordRateLimitedTyping
  | _ => counters

/-- What is recorded at an event of a running server. -/
def record (state : State Socket) : Event Socket → RealtimeCounters
  | .connect ws _ _ =>
      if state.readyState ws = .absent then counters.recordWsConnected
      else counters
  | .close ws =>
      if state.readyState ws = .opened ∨
          state.readyState ws = .closing then
        counters.recordWsDisconnected
      else counters
  | .message ws frame =>
      if state.readyState ws = .opened ∨
          state.readyState ws = .closing then
        match frame.map dispatch with
        | some (.ok .send) => counters.recordSendFrameReceived
        | _ => counters
      else counters
  | .resume index input =>
      match state.handlers[index]? with
      | none => counters
      | some handler => counters.recordResumed state input handler
  | _ => counters

end RealtimeCounters

/-- A server with its counters, and all it has sent and published. -/
structure MeteredServer (Socket : Type) where
  server : State Socket
  counters : RealtimeCounters := {}
  frames : List (Socket × WsServerFrame) := []
  published : List MessageWriteCommand := []

variable [DecidableEq Socket]

def step
    (settings : Settings) (metered : MeteredServer Socket)
    (event : Event Socket) : MeteredServer Socket :=
  let reaction := react settings metered.server event
  { server := reaction.state
    counters :=
      if metered.server.crashed then metered.counters
      else metered.counters.record metered.server event
    frames := metered.frames ++ reaction.frames
    published := metered.published ++ reaction.published }

def reached
    (settings : Settings) (roomMembers : List RoomMember)
    (events : List (Event Socket)) : MeteredServer Socket :=
  run (step settings) { server := .start roomMembers } events

/-! ## Weights of handlers -/

/-- The handler waits for the result of a publish attempt. -/
def publishing : Handler Socket → Nat
  | .publish _ _ _ => 1
  | _ => 0

/-- The handler has not yet answered a send frame. -/
def sending : Handler Socket → Nat
  | .limitSend _ _ => 1
  | .joinSend _ _ _ => 1
  | .publish _ _ _ => 1
  | .retry _ _ _ => 1
  | _ => 0

/-- The publish attempts that the handler can still start. -/
def attemptsLeft : Handler Socket → Nat
  | .limitSend _ _ => publishAttempts
  | .joinSend _ _ _ => publishAttempts
  | .publish _ _ left => left
  | .retry _ _ left => left + 1
  | _ => 0

def total
    (weight : Handler Socket → Nat) (handlers : List (Handler Socket)) :
    Nat :=
  (handlers.map weight).sum

/-- The weight of a handler that may be missing. -/
def weightOf
    (weight : Handler Socket → Nat) (handler : Option (Handler Socket)) :
    Nat :=
  handler.elim 0 weight

omit [DecidableEq Socket] in
theorem total_eraseIdx
    (weight : Handler Socket → Nat) {handlers : List (Handler Socket)}
    {index : Nat} {handler : Handler Socket}
    (found : handlers[index]? = some handler) :
    total weight (handlers.eraseIdx index) + weight handler =
      total weight handlers := by
  induction handlers generalizing index with
  | nil => cases found
  | cons head rest induction =>
      cases index with
      | zero =>
          cases found
          simp [total, Nat.add_comm]
      | succ index =>
          have := @induction index found
          simp only [total, List.eraseIdx_cons_succ, List.map_cons,
            List.sum_cons] at this ⊢
          omega

omit [DecidableEq Socket] in
theorem total_set
    (weight : Handler Socket → Nat) {handlers : List (Handler Socket)}
    {index : Nat} {handler : Handler Socket}
    (found : handlers[index]? = some handler) (next : Handler Socket) :
    total weight (handlers.set index next) + weight handler =
      total weight handlers + weight next := by
  induction handlers generalizing index with
  | nil => cases found
  | cons head rest induction =>
      cases index with
      | zero =>
          cases found
          simp only [total, List.set_cons_zero, List.map_cons,
            List.sum_cons]
          omega
      | succ index =>
          have := @induction index found
          simp only [total, List.set_cons_succ, List.map_cons,
            List.sum_cons] at this ⊢
          omega

omit [DecidableEq Socket] in
/-- A handler gives its place to the next one. -/
theorem total_replaceHandler
    (weight : Handler Socket → Nat) {state : State Socket} {index : Nat}
    {handler : Handler Socket}
    (found : state.handlers[index]? = some handler)
    (next : Option (Handler Socket)) :
    total weight (replaceHandler state index next).handlers +
        weight handler =
      total weight state.handlers + weightOf weight next := by
  cases next with
  | none => exact total_eraseIdx weight found
  | some next => exact total_set weight found next

/-! ## Books -/

def acks (frames : List (Socket × WsServerFrame)) : Nat :=
  frames.countP fun sent => isAck sent.2

/--
What the counters say of a reaction that has replaced a handler, that has
started one, or that has done neither.
-/
structure Booked
    (before after : RealtimeCounters)
    (old new : Option (Handler Socket)) (reaction : Reaction Socket) :
    Prop where
  attempts :
    after.natsPublishStarted + before.natsPublishSucceeded +
          before.natsPublishFailed + weightOf publishing old =
      before.natsPublishStarted + after.natsPublishSucceeded +
        after.natsPublishFailed + weightOf publishing new
  acked :
    after.ackSent + before.natsPublishSucceeded =
      before.ackSent + after.natsPublishSucceeded
  answered :
    after.ackSent + after.sendRateLimited + weightOf sending new +
          before.sendFrameReceived ≤
      before.ackSent + before.sendRateLimited + weightOf sending old +
        after.sendFrameReceived
  budget :
    after.natsPublishStarted + publishAttempts * after.sendRateLimited +
          weightOf attemptsLeft new +
          publishAttempts * before.sendFrameReceived ≤
      before.natsPublishStarted +
          publishAttempts * before.sendRateLimited +
          weightOf attemptsLeft old +
        publishAttempts * after.sendFrameReceived
  published :
    after.natsPublishStarted =
      before.natsPublishStarted + reaction.published.length
  ackFrames : acks reaction.frames + before.ackSent ≤ after.ackSent
  skipped : after.natsPublishSkipped = before.natsPublishSkipped

omit [DecidableEq Socket] in
theorem acks_plain
    {reaction : Reaction Socket} (plain : Plain isAck reaction) :
    acks reaction.frames = 0 :=
  List.countP_eq_zero.mpr fun sent listed => by
    simp [plain sent listed]

omit [DecidableEq Socket] in
/-- Nothing is recorded at a reaction without an ack and a command. -/
theorem booked_idle
    {reaction : Reaction Socket} (plain : Plain isAck reaction)
    (unpublished : reaction.published = [])
    (counters : RealtimeCounters) {old new : Option (Handler Socket)}
    (publishes : weightOf publishing new = weightOf publishing old)
    (sends : weightOf sending new ≤ weightOf sending old)
    (starts : weightOf attemptsLeft new ≤ weightOf attemptsLeft old) :
    Booked counters counters old new reaction where
  attempts := by rw [publishes]
  acked := rfl
  answered := by omega
  budget := by omega
  published := by rw [unpublished]; rfl
  ackFrames := by rw [acks_plain plain, Nat.zero_add]
  skipped := rfl

/-! ## Handlers -/

section Handlers

variable (settings : Settings) (reaction : Reaction Socket)
  (input : Resumption)

theorem setupWithRooms_published
    (ws : Socket) (wasOnline : Bool) (rooms : List RoomId) :
    (setupWithRooms settings reaction ws wasOnline rooms).1.published =
      reaction.published := by
  unfold setupWithRooms
  split
  · dsimp only
    split
    · split <;> rfl
    · split
      · exact (sendAll_cases _ _).2.1
      · exact ((sendAll_cases _ _).2.1).trans (sendAll_cases _ _).2.1
  · rfl

/-- Handlers that do not send messages publish nothing. -/
theorem resume_published
    {handler : Handler Socket} (other : sending handler = 0) :
    (resume settings reaction input handler).1.published =
      reaction.published := by
  unfold resume
  split
  · exact setupWithRooms_published _ _ _ _ _
  · exact (closeSocket_frames _ _).2
  · rfl
  · exact (closeSocket_frames _ _).2
  · split
    · exact (sendAll_cases _ _).2.1
    · exact (closeSocket_frames _ _).2
  · rfl
  · cases other
  · cases other
  · cases other
  · cases other
  · cases other
  · cases other
  · split
    · split
      · exact (sendAll_cases _ _).2.1
      · rfl
    · exact (sendJson_cases _ _ _).2.1
  · exact (sendAll_cases _ _).2.1
  · exact (sendJson_cases _ _ _).2.1
  · rfl
  · exact (sendAll_cases _ _).2.1
  · rfl
  · rfl

/-- What comes after a handler that does not send messages. -/
theorem resume_sending
    {handler : Handler Socket} (other : sending handler = 0) :
    weightOf sending (resume settings reaction input handler).2 = 0 := by
  unfold resume
  split
  · unfold setupWithRooms
    split
    · dsimp only
      split
      · split <;> rfl
      · split <;> rfl
    · rfl
  · rfl
  · rfl
  · rfl
  · split <;> rfl
  · rfl
  · cases other
  · cases other
  · cases other
  · cases other
  · cases other
  · cases other
  · split
    · split <;> rfl
    · rfl
  · rfl
  · rfl
  · rfl
  · rfl
  · rfl
  · exact other

variable (counters : RealtimeCounters) (state : State Socket)

omit [DecidableEq Socket] in
theorem weights_eq_zero
    {handler : Option (Handler Socket)}
    (other : weightOf sending handler = 0) :
    weightOf publishing handler = 0 ∧ weightOf attemptsLeft handler = 0 := by
  cases handler with
  | none => exact ⟨rfl, rfl⟩
  | some handler =>
      cases handler <;> first | exact ⟨rfl, rfl⟩ | cases other

/-- A handler that does not send messages records refusals at most. -/
theorem resume_booked_other
    {handler : Handler Socket} (other : sending handler = 0) :
    Booked counters (counters.recordResumed state input handler)
      (some handler) (resume settings { state := state } input handler).2
      (resume settings { state := state } input handler).1 := by
  have plain :
      Plain isAck (resume settings { state := state } input handler).1 := by
    refine (plain_start state).resume isAck_special settings input _ ?_
    rintro ws command left rfl
    cases other
  have before : weightOf publishing (some handler) = 0 ∧ _ :=
    weights_eq_zero other
  have next := resume_sending settings { state := state } input other
  have after := weights_eq_zero next
  have idle :
      Booked counters counters (some handler)
        (resume settings { state := state } input handler).2
        (resume settings { state := state } input handler).1 :=
    booked_idle plain
      (resume_published settings { state := state } input other) counters
      (after.1.trans before.1.symm) (by rw [next]; exact Nat.zero_le _)
      (by rw [after.2]; exact Nat.zero_le _)
  cases handler with
  | limitTyping ws frame =>
      simp only [RealtimeCounters.recordResumed]
      split
      · exact idle
      · exact { idle with }
  | limitSend _ _ => cases other
  | joinSend _ _ _ => cases other
  | publish _ _ _ => cases other
  | retry _ _ _ => cases other
  | _ => exact idle

variable {ws : Socket}

omit [DecidableEq Socket] in
/-- A publish attempt starts. -/
theorem booked_started
    {before : Reaction Socket} (plain : Plain isAck before)
    (unpublished : before.published = [])
    (command : MessageWriteCommand) (left : Nat) {old : Handler Socket}
    (waited : weightOf publishing (some old) = 0)
    (sent : weightOf sending (some old) = 1)
    (spare : weightOf attemptsLeft (some old) = left + 1) :
    Booked counters counters.recordNatsPublishStarted (some old)
      (some (.publish ws command left)) (before.publish command) where
  attempts := by
    rw [waited]
    simp only [RealtimeCounters.recordNatsPublishStarted, weightOf,
      Option.elim_some, publishing]
    omega
  acked := rfl
  answered := by
    rw [sent]
    exact le_refl _
  budget := by
    rw [spare]
    simp only [RealtimeCounters.recordNatsPublishStarted, weightOf,
      Option.elim_some, attemptsLeft]
    omega
  published := by
    simp only [Reaction.publish, unpublished]
    rfl
  ackFrames := by
    have none : acks (before.publish command).frames = 0 :=
      acks_plain plain
    rw [none, Nat.zero_add]
    exact le_refl _
  skipped := rfl

omit [DecidableEq Socket] in
/-- The rate limiter refuses a send frame. -/
theorem booked_refused
    {after : Reaction Socket} (plain : Plain isAck after)
    (unpublished : after.published = []) (frame : SendFrame) :
    Booked counters counters.recordRateLimitedSend
      (some (.limitSend ws frame)) none after where
  attempts := rfl
  acked := rfl
  answered := by
    simp only [RealtimeCounters.recordRateLimitedSend, weightOf,
      Option.elim_some, Option.elim_none, sending]
    omega
  budget := by
    simp only [RealtimeCounters.recordRateLimitedSend, weightOf,
      Option.elim_some, Option.elim_none, attemptsLeft, publishAttempts]
    omega
  published := by rw [unpublished]; rfl
  ackFrames := by
    rw [acks_plain plain, Nat.zero_add]
    exact le_refl _
  skipped := rfl

omit [DecidableEq Socket] in
/-- A publish attempt fails, and the handler gives up or waits. -/
theorem booked_failed
    {after : Reaction Socket} (plain : Plain isAck after)
    (unpublished : after.published = [])
    (command : MessageWriteCommand) (left : Nat)
    {new : Option (Handler Socket)}
    (waits : weightOf publishing new = 0)
    (sends : weightOf sending new ≤ 1)
    (spare : weightOf attemptsLeft new ≤ left) :
    Booked counters counters.recordNatsPublishFailed
      (some (.publish ws command left)) new after where
  attempts := by
    rw [waits]
    simp only [RealtimeCounters.recordNatsPublishFailed, weightOf,
      Option.elim_some, publishing]
    omega
  acked := rfl
  answered := by
    simp only [RealtimeCounters.recordNatsPublishFailed, weightOf,
      Option.elim_some, sending] at sends ⊢
    omega
  budget := by
    simp only [RealtimeCounters.recordNatsPublishFailed, weightOf,
      Option.elim_some, attemptsLeft] at spare ⊢
    omega
  published := by rw [unpublished]; rfl
  ackFrames := by
    rw [acks_plain plain, Nat.zero_add]
    exact le_refl _
  skipped := rfl

/-- A publish attempt succeeds, and the handler acknowledges the frame. -/
theorem booked_succeeded (command : MessageWriteCommand) (left : Nat) :
    Booked counters
      counters.recordNatsPublishSucceeded.recordAckSent
      (some (.publish ws command left)) none
      (Reaction.sendJson { state := state } ws
        (.ack command.requestId command.messageId
          command.acceptedAt)) := by
  rcases sendJson_cases { state := state } ws
      (.ack command.requestId command.messageId command.acceptedAt) with
    ⟨_, unpublished, frames⟩
  exact
    { attempts := by
        simp only [RealtimeCounters.recordNatsPublishSucceeded,
          RealtimeCounters.recordAckSent, weightOf, Option.elim_some,
          Option.elim_none, publishing]
        omega
      acked := by
        simp only [RealtimeCounters.recordNatsPublishSucceeded,
          RealtimeCounters.recordAckSent]
        omega
      answered := by
        simp only [RealtimeCounters.recordNatsPublishSucceeded,
          RealtimeCounters.recordAckSent, weightOf, Option.elim_some,
          Option.elim_none, sending]
        omega
      budget := by
        simp only [RealtimeCounters.recordNatsPublishSucceeded,
          RealtimeCounters.recordAckSent, weightOf, Option.elim_some,
          Option.elim_none, attemptsLeft]
        omega
      published := by rw [unpublished]; rfl
      ackFrames := by
        rw [frames, Nat.add_comm]
        refine Nat.add_le_add_left ?_ counters.ackSent
        split <;> simp [acks, isAck]
      skipped := rfl }

theorem resume_booked_send
    {handler : Handler Socket} (sends : sending handler = 1) :
    Booked counters (counters.recordResumed state input handler)
      (some handler) (resume settings { state := state } input handler).2
      (resume settings { state := state } input handler).1 := by
  have start : Plain isAck ({ state := state } : Reaction Socket) :=
    plain_start state
  have failed (ws : Socket) (reason : WsErrorReason) (detail : String)
      (requestId : Option String) :
      Plain isAck
          (Reaction.sendError { state := state } ws reason detail
            requestId) ∧
        (Reaction.sendError { state := state } ws reason detail
            requestId).published = [] :=
    ⟨start.sendError isAck_special ws reason detail requestId,
      (sendJson_cases { state := state } ws _).2.1⟩
  cases handler with
  | limitSend ws frame =>
      simp only [RealtimeCounters.recordResumed, resume]
      split
      · split
        · exact booked_started counters start rfl _ 2 rfl rfl rfl
        · exact booked_idle start rfl counters rfl (le_refl _) (le_refl _)
      · exact
          booked_refused counters (failed _ _ _ _).1 (failed _ _ _ _).2
            frame
  | joinSend ws frame membership =>
      cases membership with
      | waiting =>
          exact booked_idle start rfl counters rfl (le_refl _) (le_refl _)
      | failed =>
          have crashes : Plain isAck (Reaction.crash { state := state }) :=
            start
          exact
            booked_idle crashes rfl counters rfl (Nat.zero_le _)
              (Nat.zero_le _)
      | rows isMember =>
          cases isMember with
          | true =>
              exact
                booked_started counters (start.joinRooms ws _) rfl _ 2 rfl
                  rfl rfl
          | false =>
              simp only [RealtimeCounters.recordResumed, resume]
              exact
                booked_idle (failed _ _ _ _).1 (failed _ _ _ _).2 counters
                  rfl (Nat.zero_le _) (Nat.zero_le _)
  | publish ws command left =>
      simp only [RealtimeCounters.recordResumed, resume]
      split
      · exact booked_succeeded counters state command left
      · cases left with
        | zero =>
            exact
              booked_failed counters (failed _ _ _ _).1
                (failed _ _ _ _).2 command 0 rfl (Nat.zero_le _)
                (le_refl _)
        | succ left =>
            exact
              booked_failed counters start rfl command (left + 1) rfl
                (le_refl _) (le_refl _)
  | retry ws command left =>
      exact booked_started counters start rfl command left rfl rfl rfl
  | _ => cases sends

theorem resume_booked (handler : Handler Socket) :
    Booked counters (counters.recordResumed state input handler)
      (some handler) (resume settings { state := state } input handler).2
      (resume settings { state := state } input handler).1 := by
  by_cases other : sending handler = 0
  · exact resume_booked_other settings input counters state other
  · refine resume_booked_send settings input counters state ?_
    cases handler <;> first | rfl | exact absurd rfl other

end Handlers

/-! ## Reactions -/

/-- What the counters say of an event and of the handlers after it. -/
def Entered
    (before after : RealtimeCounters) (handlers : List (Handler Socket))
    (reaction : Reaction Socket) : Prop :=
  ∃ old new,
    Booked before after old new reaction ∧
      ∀ weight,
        total weight reaction.state.handlers + weightOf weight old =
          total weight handlers + weightOf weight new

section Events

variable {handlers : List (Handler Socket)} {reaction : Reaction Socket}
  (counters : RealtimeCounters)

omit [DecidableEq Socket] in
theorem total_append
    (weight : Handler Socket → Nat) (new : Option (Handler Socket)) :
    total weight (handlers ++ new.toList) =
      total weight handlers + weightOf weight new := by
  cases new <;> simp [total, weightOf]

omit [DecidableEq Socket] in
/-- An event which starts a handler at most. -/
theorem entered_started
    {after : RealtimeCounters} {new : Option (Handler Socket)}
    (booked : Booked counters after none new reaction)
    (started : reaction.state.handlers = handlers ++ new.toList) :
    Entered counters after handlers reaction :=
  ⟨none, new, booked, fun weight => by
    rw [started, total_append]
    rfl⟩

omit [DecidableEq Socket] in
theorem entered_idle
    (plain : Plain isAck reaction) (unpublished : reaction.published = [])
    {new : Option (Handler Socket)} (other : weightOf sending new = 0)
    (started : reaction.state.handlers = handlers ++ new.toList) :
    Entered counters counters handlers reaction := by
  rcases weights_eq_zero other with ⟨publishes, starts⟩
  exact
    entered_started counters
      (booked_idle plain unpublished counters publishes (le_of_eq other)
        (le_of_eq starts))
      started

omit [DecidableEq Socket] in
/-- An event without a record that keeps the handlers. -/
theorem entered_kept
    (plain : Plain isAck reaction) (unpublished : reaction.published = [])
    (kept : reaction.state.handlers = handlers) :
    Entered counters counters handlers reaction := by
  have booked : Booked counters counters none none reaction :=
    booked_idle plain unpublished counters rfl (le_refl _) (le_refl _)
  exact entered_started counters booked (by simp [kept])

omit [DecidableEq Socket] in
/-- A send frame is received; its handler starts if the frame is valid. -/
theorem entered_received
    (plain : Plain isAck reaction) (unpublished : reaction.published = [])
    {new : Option (Handler Socket)}
    (isNew :
      new = none ∨ ∃ ws frame, new = some (.limitSend ws frame))
    (started : reaction.state.handlers = handlers ++ new.toList) :
    Entered counters counters.recordSendFrameReceived handlers
      reaction := by
  have waits :
      weightOf publishing new = 0 ∧ weightOf sending new ≤ 1 ∧
        weightOf attemptsLeft new ≤ publishAttempts := by
    rcases isNew with rfl | ⟨ws, frame, rfl⟩
    · exact ⟨rfl, Nat.zero_le _, Nat.zero_le _⟩
    · exact ⟨rfl, le_refl _, le_refl _⟩
  refine entered_started counters ?_ started
  exact
    { attempts := by rw [waits.1]; rfl
      acked := rfl
      answered := by
        have := waits.2.1
        simp only [RealtimeCounters.recordSendFrameReceived, weightOf,
          Option.elim_none] at this ⊢
        omega
      budget := by
        have := waits.2.2
        simp only [RealtimeCounters.recordSendFrameReceived, weightOf,
          Option.elim_none, publishAttempts] at this ⊢
        omega
      published := by rw [unpublished]; rfl
      ackFrames := by
        rw [acks_plain plain, Nat.zero_add]
        exact le_refl _
      skipped := rfl }

end Events

section Callbacks

variable (settings : Settings) (state : State Socket)
  (counters : RealtimeCounters) (ws : Socket)

omit [DecidableEq Socket] in
/-- The number of connections stands in no other book. -/
theorem Entered.connections
    {before after : RealtimeCounters} {handlers : List (Handler Socket)}
    {reaction : Reaction Socket}
    (entered : Entered before after handlers reaction) (number : Nat) :
    Entered before { after with wsConnected := number } handlers
      reaction := by
  rcases entered with ⟨old, new, booked, totals⟩
  exact ⟨old, new, { booked with }, totals⟩

theorem onConnection_entered (userId : UserId) (uuid : String) :
    Entered counters counters.recordWsConnected state.handlers
      (onConnection settings state ws userId uuid) := by
  have start :
      Plain isAck
        ({ state := connected settings state ws userId uuid } :
          Reaction Socket) :=
    plain_start _
  have waits (handler : Handler Socket) (other : sending handler = 0) :
      Entered counters counters state.handlers
        (Reaction.await
          { state := connected settings state ws userId uuid }
          handler) :=
    entered_idle counters start rfl
      (show weightOf sending (some handler) = 0 from other) rfl
  apply Entered.connections
  unfold onConnection
  dsimp only
  split
  · exact waits _ rfl
  · split
    · exact waits _ rfl
    · split
      · exact entered_kept counters start rfl rfl
      · exact
          entered_kept counters (start.sendPresence isAck_special _ _ true)
            (sendAll_cases _ _).2.1 (sendAll_quiet _ _).handlers

theorem onClose_entered :
    Entered counters counters.recordWsDisconnected state.handlers
      (onClose settings state ws) := by
  refine (entered_kept counters ?_ ?_ ?_).connections _
  · exact onClose_plain isAck_special settings state ws
  · unfold onClose
    dsimp only
    split
    · split
      · rfl
      · split
        · rfl
        · exact (sendAll_cases _ _).2.1
    · rfl
  · exact (onClose_state settings state ws).handlers

theorem onMessage_entered (frame : Option Json) :
    Entered counters
      (match frame.map dispatch with
        | some (.ok .send) => counters.recordSendFrameReceived
        | _ => counters)
      state.handlers (onMessage state ws frame) := by
  have plain := onMessage_plain isAck_special state ws frame
  cases frame with
  | none => exact entered_kept counters plain rfl rfl
  | some json =>
      simp only [onMessage, Option.map_some] at plain ⊢
      revert plain
      cases dispatch json with
      | error _ => exact fun plain => entered_kept counters plain rfl rfl
      | ok kind =>
          cases kind with
          | ping =>
              exact fun plain =>
                entered_kept counters plain (sendJson_cases _ _ _).2.1
                  (sendJson_quiet _ _ _).handlers
          | send =>
              dsimp only
              cases checkSend json with
              | error _ =>
                  exact fun plain =>
                    entered_received counters plain rfl (.inl rfl)
                      (List.append_nil _).symm
              | ok checked =>
                  cases checked with
                  | error detail =>
                      exact fun plain =>
                        entered_received counters plain
                          (sendJson_cases _ _ _).2.1 (.inl rfl)
                          ((sendJson_quiet _ _ _).handlers.trans
                            (List.append_nil _).symm)
                  | ok sent =>
                      exact fun plain =>
                        entered_received counters plain rfl
                          (.inr ⟨ws, sent, rfl⟩) rfl
          | typing =>
              dsimp only
              cases checkTyping json with
              | error _ =>
                  exact fun plain => entered_kept counters plain rfl rfl
              | ok checked =>
                  cases checked with
                  | error detail =>
                      exact fun plain =>
                        entered_kept counters plain
                          (sendJson_cases _ _ _).2.1
                          (sendJson_quiet _ _ _).handlers
                  | ok typed =>
                      exact fun plain =>
                        entered_idle counters plain rfl
                          (show
                            weightOf sending
                                (some (.limitTyping ws typed)) = 0
                            from rfl)
                          rfl
          | unknown =>
              exact fun plain =>
                entered_kept counters plain (sendJson_cases _ _ _).2.1
                  (sendJson_quiet _ _ _).handlers

end Callbacks

omit [DecidableEq Socket] in
/-- An answered query changes the weight of no handler. -/
theorem answer_weights
    (state : State Socket) (succeeds : Bool) (handler : Handler Socket) :
    publishing (answer state succeeds handler) = publishing handler ∧
      sending (answer state succeeds handler) = sending handler ∧
        attemptsLeft (answer state succeeds handler) =
          attemptsLeft handler := by
  unfold answer
  split <;> exact ⟨rfl, rfl, rfl⟩

/-- Every event of a running server is entered in the books. -/
theorem react_entered
    (settings : Settings) {state : State Socket}
    (running : state.crashed = false) (counters : RealtimeCounters)
    (event : Event Socket) :
    Entered counters (counters.record state event) state.handlers
      (react settings state event) := by
  have start : Plain isAck ({ state := state } : Reaction Socket) :=
    plain_start state
  have same :
      Entered counters counters state.handlers
        ({ state := state } : Reaction Socket) :=
    entered_kept counters start rfl rfl
  unfold react
  rw [if_neg (by simp [running])]
  cases event with
  | createChat rows => exact entered_kept counters start rfl rfl
  | connect ws userId uuid =>
      simp only [RealtimeCounters.record]
      split
      · exact onConnection_entered settings state counters ws userId uuid
      · exact same
  | buffer ws backpressured => exact entered_kept counters start rfl rfl
  | closing ws =>
      exact
        entered_kept counters (start.closeSocket ws)
          (closeSocket_frames _ _).2 (closeSocket_quiet _ _).handlers
  | close ws =>
      simp only [RealtimeCounters.record]
      split
      · exact onClose_entered settings state counters ws
      · exact same
  | message ws frame =>
      simp only [RealtimeCounters.record]
      split
      · exact onMessage_entered state counters ws frame
      · exact same
  | roomEvent message origin =>
      dsimp only
      unfold broadcastRoomEventToLocalClients
      split
      · refine
          entered_kept counters (start.sendAll ?_) (sendAll_cases _ _).2.1
            (sendAll_quiet _ _).handlers
        intro sent offered
        rcases List.mem_map.mp offered with ⟨socket, _, rfl⟩
        rfl
      · exact same
  | presenceEvent userId online =>
      exact
        entered_idle counters start rfl
          (show
            weightOf sending
                (some (Handler.presence userId online .waiting :
                  Handler Socket)) = 0
            from rfl)
          rfl
  | query index succeeds =>
      dsimp only
      cases found : state.handlers[index]? with
      | none => exact same
      | some handler =>
          rcases answer_weights state succeeds handler with
            ⟨publishes, sends, starts⟩
          have booked :
              Booked counters counters (some handler)
                (some (answer state succeeds handler))
                { state :=
                    replaceHandler state index
                      (some (answer state succeeds handler)) } :=
            booked_idle (plain_start _) rfl counters publishes
              (le_of_eq sends) (le_of_eq starts)
          exact
            ⟨_, _, booked, fun weight =>
              total_replaceHandler weight found _⟩
  | resume index input =>
      simp only [RealtimeCounters.record]
      cases found : state.handlers[index]? with
      | none => exact same
      | some handler =>
          have kept :=
            resume_handlers { state := state } settings input handler
          refine
            ⟨some handler,
              (resume settings { state := state } input handler).2,
              { resume_booked settings input counters state handler with },
              fun weight => ?_⟩
          have isThere :
              (resume settings { state := state } input
                  handler).1.state.handlers[index]? = some handler := by
            rw [kept]
            exact found
          have replaced :=
            total_replaceHandler weight isThere
              (resume settings { state := state } input handler).2
          rw [kept] at replaced
          exact replaced

/-! ## Connections -/

/-- The registered sockets are the live ones, and this is their number. -/
structure Registered (state : State Socket) (number : Nat) : Prop where
  live : ∀ ws, ws ∈ state.store.clientStates ↔ Live state ws
  number : number = state.store.clientStates.items.length

namespace Registered

variable {state : State Socket} {number : Nat}
  (registered : Registered state number)

include registered

omit [DecidableEq Socket] in
theorem quiet
    {after : State Socket} {handlers : List (Handler Socket)}
    (quiet : Quiet state { after with handlers := handlers }) :
    Registered after number where
  live := by
    intro ws
    have store : after.store = state.store := quiet.store
    rw [store, registered.live ws]
    rcases quiet.readyState ws with same | ⟨opened, closing⟩
    · simp only [Live] at same ⊢
      rw [same]
    · simp only [Live] at closing ⊢
      simp [opened, closing]
  number := by
    have store : after.store = state.store := quiet.store
    rw [store]
    exact registered.number

theorem connect
    (settings : Settings) {ws : Socket} (userId : UserId)
    (uuid : String) (absent : state.readyState ws = .absent) :
    Registered (connected settings state ws userId uuid)
      (number + 1) where
  live := by
    intro other
    by_cases same : other = ws
    · subst same
      simp [connected, addClient, Live]
    · have before := registered.live other
      simpa [connected, addClient, Live, same] using before
  number := by
    have unregistered : ws ∉ state.store.clientStates.items := by
      intro member
      rcases (registered.live ws).mp member with live | live <;>
        cases live.symm.trans absent
    simp [connected, addClient, OrderedSet.add, unregistered,
      registered.number]

theorem close {ws : Socket} (live : Live state ws) :
    Registered (disconnected state ws) (number - 1) := by
  have member := (registered.live ws).mpr live
  refine { live := ?_, number := ?_ }
  · intro other
    by_cases same : other = ws
    · subst same
      simp [disconnected, member, removeClient, removeSocketFromRooms,
        Live]
    · have before := registered.live other
      simpa [disconnected, member, removeClient, removeSocketFromRooms,
        Live, same] using before
  · simp only [disconnected, member, if_true, removeClient,
      removeSocketFromRooms, OrderedSet.delete]
    rw [← state.store.clientStates.nodup.erase_eq_filter,
      List.length_erase_of_mem member, registered.number]

theorem join (ws : Socket) (rooms : List RoomId) :
    Registered (Reaction.joinRooms { state := state } ws rooms).state
      number := by
  have store := (joinRooms_store { state := state } ws rooms).2
  exact
    { live := fun other => by
        rw [store]
        exact registered.live other
      number := by
        rw [store]
        exact registered.number }

end Registered

omit [DecidableEq Socket] in
theorem recordResumed_wsConnected
    (counters : RealtimeCounters) (state : State Socket)
    (input : Resumption) (handler : Handler Socket) :
    (counters.recordResumed state input handler).wsConnected =
      counters.wsConnected := by
  unfold RealtimeCounters.recordResumed
  split
  · split
    · split <;> rfl
    · rfl
  · rfl
  · split <;> rfl
  · rfl
  · split <;> rfl
  · rfl

theorem react_registered
    (settings : Settings) {state : State Socket}
    (running : state.crashed = false) {counters : RealtimeCounters}
    (registered : Registered state counters.wsConnected)
    (event : Event Socket) :
    Registered (react settings state event).state
      (counters.record state event).wsConnected := by
  unfold react
  rw [if_neg (by simp [running])]
  cases event with
  | createChat rows =>
      exact
        { live := registered.live, number := registered.number }
  | connect ws userId uuid =>
      simp only [RealtimeCounters.record]
      split
      · rename_i absent
        exact
          (registered.connect settings userId uuid absent).quiet
            (onConnection_state settings state ws userId uuid)
      · exact registered
  | buffer ws backpressured =>
      exact
        { live := registered.live, number := registered.number }
  | closing ws =>
      exact registered.quiet (closeSocket_quiet { state := state } ws)
  | close ws =>
      simp only [RealtimeCounters.record]
      split
      · rename_i live
        exact (registered.close live).quiet (onClose_state settings state ws)
      · exact registered
  | message ws frame =>
      simp only [RealtimeCounters.record]
      split
      · have after := registered.quiet (onMessage_state state ws frame)
        split <;> exact after
      · exact registered
  | roomEvent message origin =>
      dsimp only
      unfold broadcastRoomEventToLocalClients
      split
      · exact registered.quiet (sendAll_quiet { state := state } _)
      · exact registered
  | presenceEvent userId online =>
      exact
        { live := registered.live, number := registered.number }
  | query index succeeds =>
      dsimp only
      cases state.handlers[index]? with
      | none => exact registered
      | some handler =>
          exact
            { live := registered.live, number := registered.number }
  | resume index input =>
      simp only [RealtimeCounters.record]
      cases state.handlers[index]? with
      | none => exact registered
      | some handler =>
          dsimp only
          rw [recordResumed_wsConnected]
          rcases resume_state { state := state } settings input handler
            with ⟨base, quiet, rfl | ⟨ws, rooms, _, rfl⟩⟩
          · exact registered.quiet { quiet with }
          · exact (registered.join ws rooms).quiet { quiet with }

/-! ## Runs -/

/-- The counters agree with the server and with its output. -/
structure Exact (metered : MeteredServer Socket) : Prop where
  connections :
    Registered metered.server metered.counters.wsConnected
  attempts :
    metered.counters.natsPublishStarted =
      metered.counters.natsPublishSucceeded +
        metered.counters.natsPublishFailed +
          total publishing metered.server.handlers
  acked :
    metered.counters.ackSent = metered.counters.natsPublishSucceeded
  answered :
    metered.counters.ackSent + metered.counters.sendRateLimited +
        total sending metered.server.handlers ≤
      metered.counters.sendFrameReceived
  budget :
    metered.counters.natsPublishStarted +
          publishAttempts * metered.counters.sendRateLimited +
        total attemptsLeft metered.server.handlers ≤
      publishAttempts * metered.counters.sendFrameReceived
  published :
    metered.counters.natsPublishStarted = metered.published.length
  ackFrames : acks metered.frames ≤ metered.counters.ackSent
  skipped : metered.counters.natsPublishSkipped = 0

theorem Exact.step
    (settings : Settings) {metered : MeteredServer Socket}
    (running : metered.server.crashed = false)
    (isExact : Exact metered) (event : Event Socket) :
    Exact (ServerMetrics.step settings metered event) := by
  rcases react_entered settings running metered.counters event with
    ⟨old, new, booked, totals⟩
  have registered :=
    react_registered settings running isExact.connections event
  unfold ServerMetrics.step
  simp only [running, Bool.false_eq_true, if_false]
  exact
    { connections := registered
      attempts := by
        have := isExact.attempts
        have := booked.attempts
        have := totals publishing
        dsimp only at this ⊢
        omega
      acked := by
        have := isExact.acked
        have := booked.acked
        dsimp only
        omega
      answered := by
        have := isExact.answered
        have := booked.answered
        have := totals sending
        dsimp only
        omega
      budget := by
        have := isExact.budget
        have := booked.budget
        have := totals attemptsLeft
        dsimp only
        omega
      published := by
        have := isExact.published
        have := booked.published
        simp only [List.length_append]
        omega
      ackFrames := by
        have := isExact.ackFrames
        have := booked.ackFrames
        dsimp only
        rw [acks, List.countP_append, ← acks, ← acks]
        omega
      skipped := booked.skipped.trans isExact.skipped }

/--
As long as the process runs, the counters are exact: connections are
registered sockets, every publish attempt is one that was made and has
succeeded, failed or not ended, an ack is recorded for every success and
frame that was really acknowledged, and no send frame is answered twice or
tried more often than it may be.
-/
theorem counters_exact
    (settings : Settings) (roomMembers : List RoomMember)
    (events : List (Event Socket))
    (running :
      (reached settings roomMembers events).server.crashed = false) :
    Exact (reached settings roomMembers events) := by
  refine
    run_invariant
      (fun metered => metered.server.crashed = false → Exact metered)
      ?_ ?_ events running
  · intro metered event isExact running
    have before : metered.server.crashed = false := by
      by_contra crashed
      unfold step react at running
      rw [if_pos (Bool.eq_true_of_not_eq_false crashed)] at running
      exact crashed running
    exact (isExact before).step settings before event
  · intro _
    exact
      { connections :=
          { live := by simp [State.start, InMemoryPresenceStore.empty, Live]
            number := rfl }
        attempts := rfl
        acked := rfl
        answered := le_refl _
        budget := le_refl _
        published := rfl
        ackFrames := le_refl _
        skipped := rfl }

/-- Ana's message needs two attempts. -/
def exampleEvents : List (Event Bool) :=
  [.connect true "ana" "first", .query 0 true, .resume 0 {},
    .message true (some exampleSend), .resume 0 {},
    .resume 0 { published := false }, .resume 0 {}, .resume 0 {}]

def exampleRows : List RoomMember :=
  [{ userId := "ana", roomId := "room", joinedAt := 0 }]

theorem counters_exact_retried :
    Exact (reached exampleSettings exampleRows exampleEvents) ∧
      (reached exampleSettings exampleRows exampleEvents).counters =
        { wsConnected := 1
          sendFrameReceived := 1
          natsPublishStarted := 2
          natsPublishSucceeded := 1
          natsPublishFailed := 1
          ackSent := 1 } :=
  ⟨counters_exact exampleSettings exampleRows exampleEvents (by decide),
    by decide⟩

end ChatBackend.Realtime.ServerMetrics
