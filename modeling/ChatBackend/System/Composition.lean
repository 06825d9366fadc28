import ChatBackend.Chats.ChatAnswers
import ChatBackend.Chats.PublishedPosts
import ChatBackend.Realtime.ClientCommands
import ChatBackend.Realtime.MessageFrames

/-!
# The back end as a whole

The chat service, the message writer and any number of realtime instances,
around one database.  What the instances publish goes into the stream that
the writer consumes, and what posts and drains publish goes to the channel
that every instance subscribes to.

The stream and the channel keep everything that was sent to them, even when
the publish seemed to fail.  A batch may take any commands of the stream, and
an instance may get any event of the channel, at any time and any number of
times: this covers every order, loss and repetition of deliveries.

Two histories are kept: the frames that came from clients, and the messages
that were shown to users.
-/

namespace ChatBackend.System.Composition

open ChatBackend.Foundation.EventRuns
open ChatBackend.Storage.Schema
open ChatBackend.Storage.SequenceMigration
open ChatBackend.Writer.WriteCommands
open ChatBackend.Writer.BatchTransaction
open ChatBackend.Writer.OutboxDrain
open ChatBackend.Realtime.Server hiding Event step
open ChatBackend.Realtime.ClientCommands
open ChatBackend.Realtime.MessageFrames
open ChatBackend.Services.MessageOrigins
open ChatBackend.Chats.MessageCreation hiding Event step reached Call
open ChatBackend.Chats.PublishedPosts

variable {Socket : Type}

/-! ## States -/

/-- A message frame, by the user of its socket. -/
structure Shown where
  userId : UserId
  message : MessageDto
deriving DecidableEq, Repr

structure Backend (Socket : Type) where
  rest : RestState
  chats : List Chats.ChatCreation.Call := []
  instances : List (State Socket) := []
  stream : List MessageWriteCommand := []
  channel : List RoomEvent := []
  requests : List ClientFrame := []
  shown : List Shown := []

def Backend.database (backend : Backend Socket) : Database :=
  backend.rest.service.database

def initial
    (engine : Engine) (legacy : LegacyTables) (clock : Timestamp) :
    Backend Socket where
  rest := { service := Services.Transitions.initial engine legacy clock }

/-! ## Events -/

inductive Event (Socket : Type) where
  | rest (event : Chats.MessageCreation.Event)
  | chat (event : Chats.ChatCreation.Event)
  | launch
  | deliver (index : Nat) (event : RoomEvent)
  | realtime (index : Nat) (event : Realtime.Server.Event Socket)

/-- The writer works on commands of the stream. -/
def admits (stream : List MessageWriteCommand) :
    Chats.MessageCreation.Event → Bool
  | .writer (.writerBatch commands _) =>
      commands.all fun command => stream.contains command
  | .writer (.findDeadLetter command _) => stream.contains command
  | _ => true

/-- What a step of the services sends to the channel. -/
def publishedBy (rest : RestState) :
    Chats.MessageCreation.Event → List RoomEvent
  | .writer event => (publishedByStep rest.service event).toList
  | event => (publishedByCommand rest event).toList

/-- Chats and room events come to an instance from the other services. -/
def isLocal : Realtime.Server.Event Socket → Bool
  | .createChat _ | .roomEvent _ _ => false
  | _ => true

/-- The messages that a reaction shows. -/
def shownBy (reaction : Reaction Socket) : List Shown :=
  reaction.frames.filterMap fun sent =>
    (shownMessage sent.2).map fun message =>
      { userId := (reaction.state.client sent.1).userId
        message := message }

variable [DecidableEq Socket]

/-- An event at one of the instances. -/
def Backend.react
    (settings : Settings) (backend : Backend Socket) (index : Nat)
    (event : Realtime.Server.Event Socket) : Backend Socket :=
  match backend.instances[index]? with
  | none => backend
  | some state =>
      let reaction := Realtime.Server.react settings state event
      { backend with
        instances := backend.instances.set index reaction.state
        stream := backend.stream ++ reaction.published
        requests := backend.requests ++ received state event
        shown := backend.shown ++ shownBy reaction }

/-- A step of `createChat`; all instances see the new members. -/
def Backend.chat
    (settings : Settings) (backend : Backend Socket)
    (event : Chats.ChatCreation.Event) : Backend Socket :=
  let after :=
    Chats.ChatCreation.step
      { db := backend.database, calls := backend.chats } event
  let rows :=
    after.db.roomMembers.drop backend.database.roomMembers.length
  { backend with
    rest :=
      { backend.rest with
        service := { backend.rest.service with database := after.db } }
    chats := after.calls
    instances :=
      backend.instances.map fun state =>
        Realtime.Server.step settings state (.createChat rows) }

def step
    (engine : Engine) (settings : Settings) (backend : Backend Socket) :
    Event Socket → Backend Socket
  | .rest event =>
      if admits backend.stream event then
        { backend with
          rest := Chats.MessageCreation.step engine backend.rest event
          channel := backend.channel ++ publishedBy backend.rest event }
      else backend
  | .chat event => backend.chat settings event
  | .launch =>
      { backend with
        instances :=
          backend.instances ++ [.start backend.database.roomMembers] }
  | .deliver index event =>
      if event ∈ backend.channel then
        backend.react settings index
          (.roomEvent event.message event.originConnectionId)
      else backend
  | .realtime index event =>
      if isLocal event then backend.react settings index event
      else backend

/-- The state after a list of events from the migrated tables. -/
def reached
    (engine : Engine) (settings : Settings) (legacy : LegacyTables)
    (clock : Timestamp) (events : List (Event Socket)) : Backend Socket :=
  run (step engine settings) (initial engine legacy clock) events

end ChatBackend.System.Composition
