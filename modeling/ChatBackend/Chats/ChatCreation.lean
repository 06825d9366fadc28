import ChatBackend.Chats.ChatReads

/-!
# Creating chats

`createChat` as a call which goes from query to query, so that the queries of
other calls can run in between.  A direct chat is looked up before it is
created, by two queries.

`Answer` carries what a query gets from outside: which of several rows comes
first, the id and the time of a new row, and whether the connection fails
before or after the database has done its part.
-/

namespace ChatBackend.Chats.ChatCreation

open ChatBackend.Storage.Schema
open ChatBackend.Chats.ChatQueries
open ChatBackend.Chats.ChatReads

/-! ## Creating rooms -/

/-- `room.create` with its members, which is one transaction. -/
def createRoom
    (db : Database) (room : Room) (memberIds : List UserId) :
    Option Database :=
  if db.hasRoom room.id = false ∧ memberIds.Nodup ∧
      ∀ userId ∈ memberIds, db.hasUser userId = true then
    some
      { db with
        rooms := db.rooms ++ [room]
        roomMembers :=
          db.roomMembers ++
            memberIds.map fun userId =>
              { userId := userId
                roomId := room.id
                joinedAt := room.createdAt } }
  else none

/-- The row of a direct room. -/
def directRoom (id : RoomId) (now : Timestamp) : Room where
  id := id
  isGroup := false
  createdAt := now
  lastMessageAt := now

def createDirectRoom
    (db : Database) (id : RoomId) (now : Timestamp)
    (userId targetUserId : UserId) : Option Database :=
  createRoom db (directRoom id now) [userId, targetUserId]

/-- The row of a group. -/
def groupRoom (id : RoomId) (now : Timestamp) (name : String) : Room where
  id := id
  name := some name
  isGroup := true
  createdAt := now
  lastMessageAt := now

def createGroupRoom
    (db : Database) (id : RoomId) (now : Timestamp) (name : String)
    (memberIds : List UserId) : Option Database :=
  createRoom db (groupRoom id now name) memberIds

/-! ## Calls -/

/-- The body of the request; members that are no array are none. -/
structure CreateChatRequest where
  type : Option String := none
  name : Option String := none
  memberIds : Option (List String) := none
deriving DecidableEq, Repr

inductive CallFailure where
  | app (error : AppError)
  | database
deriving DecidableEq, Repr

/-- The query that a call waits for, or how it ended. -/
inductive Stage where
  | findingUser (rawTarget : String)
  | findingCandidates (targetUser : User)
  | creatingDirect (targetUser : User)
  | findingMembers
      (name : String) (memberIds : List String)
      (resolved : List (Option (Option User)))
  | creatingGroup (name : String) (allIds : List UserId)
  | returnedDirect (targetUser : User) (status : Nat) (chat : Chat)
  | returnedGroup (status : Nat) (chat : Chat)
  | failed (failure : CallFailure)
deriving DecidableEq, Repr

def validationFailed (statusCode : Nat) (message : String) : Stage :=
  .failed
    (.app
      { statusCode := statusCode
        code := "VALIDATION_FAILED"
        message := message })

/-- What the call checks before its first query. -/
def firstStage (body : CreateChatRequest) : Stage :=
  match truthy body.type, body.memberIds with
  | some type, some memberIds =>
      if type = "direct" then
        match memberIds with
        | [rawTarget] => .findingUser rawTarget
        | _ =>
            validationFailed 400
              "direct chat requires exactly 1 member_id"
      else if type = "group" then
        match truthy body.name with
        | none => validationFailed 400 "group chat requires a name"
        | some name =>
            if memberIds.isEmpty then
              validationFailed 400
                "group chat requires at least 1 member_id"
            else
              .findingMembers name memberIds
                (memberIds.map fun _ => none)
      else
        validationFailed 400 "type must be \"direct\" or \"group\""
  | _, _ => validationFailed 400 "type and member_ids are required"

def afterTarget
    (userId : UserId) (rawTarget : String) (targetUser : Option User) :
    Stage :=
  match targetUser with
  | none =>
      validationFailed 422
        s!"member_ids[0]: user \"{rawTarget}\" not found"
  | some targetUser =>
      if targetUser.id = userId then
        validationFailed 400
          "cannot create a direct chat with yourself"
      else .findingCandidates targetUser

/-- The first candidate with exactly two members. -/
def existingDirect
    (candidates : List CandidateView) : Option CandidateView :=
  candidates.find? fun view => view.members.length == 2

def existingChat (targetUser : User) (existing : CandidateView) : Chat where
  id := existing.room.id
  type := "direct"
  name := targetUser.displayName
  memberIds := existing.members.map RoomMember.userId
  lastMessage := existing.messages.head?.map toChatMessage
  createdAt := existing.room.createdAt

def createdDirectChat
    (userId : UserId) (targetUser : User) (room : Room) : Chat where
  id := room.id
  type := "direct"
  name := targetUser.displayName
  memberIds := [userId, targetUser.id]
  createdAt := room.createdAt

def createdGroupChat
    (name : String) (allIds : List UserId) (room : Room) : Chat where
  id := room.id
  type := "group"
  name := room.name.getD name
  memberIds := allIds
  createdAt := room.createdAt

def afterCandidates
    (targetUser : User) (candidates : List CandidateView) : Stage :=
  match existingDirect candidates with
  | some existing =>
      .returnedDirect targetUser 200 (existingChat targetUser existing)
  | none => .creatingDirect targetUser

/-- `Promise.all` is over when every member query has its answer. -/
def afterMembers
    (userId : UserId) (name : String) (memberIds : List String)
    (resolved : List (Option (Option User))) : Stage :=
  if resolved.all Option.isSome then
    let resolvedMembers := resolved.map Option.join
    match resolvedMembers.findIdx? Option.isNone with
    | some badIdx =>
        let identifier := memberIds.getD badIdx ""
        validationFailed 422
          s!"member_ids[{badIdx}]: user \"{identifier}\" not found"
    | none =>
        .creatingGroup name
          (userId :: (resolvedMembers.filterMap id).map User.id).eraseDups
  else .findingMembers name memberIds resolved

/-! ## Interleaved calls -/

structure Call where
  userId : UserId
  stage : Stage
deriving DecidableEq, Repr

structure State where
  db : Database := {}
  calls : List Call := []
deriving DecidableEq, Repr

structure Answer where
  connection : Connection := .kept
  /-- By how many rows the table is rotated. -/
  order : Nat := 0
  /-- Which of the member queries is answered. -/
  position : Nat := 0
  id : RoomId := ""
  now : Timestamp := 0
deriving DecidableEq, Repr

inductive Event where
  | register (user : User)
  | call (userId : UserId) (body : CreateChatRequest)
  | query (index : Nat) (answer : Answer)
deriving DecidableEq, Repr

/-- `findFirst` among users that the database returns in any order. -/
def firstUser
    (db : Database) (answer : Answer) (identifier : String) :
    Option User :=
  ((usersForChatMember db identifier).rotate answer.order).head?

/-- What one query does, to the database and to its call. -/
def answerQuery
    (db : Database) (userId : UserId) (answer : Answer) :
    Stage → Database × Stage
  | .findingUser rawTarget =>
      (db, afterTarget userId rawTarget (firstUser db answer rawTarget))
  | .findingCandidates targetUser =>
      (db,
        afterCandidates targetUser
          ((findDirectRoomCandidates db userId targetUser.id).rotate
            answer.order))
  | .creatingDirect targetUser =>
      match
        createDirectRoom db answer.id answer.now userId targetUser.id
      with
      | none => (db, .failed .database)
      | some created =>
          (created,
            .returnedDirect targetUser 201
              (createdDirectChat userId targetUser
                (directRoom answer.id answer.now)))
  | .findingMembers name memberIds resolved =>
      match memberIds[answer.position]? with
      | none => (db, .findingMembers name memberIds resolved)
      | some identifier =>
          (db,
            afterMembers userId name memberIds
              (resolved.set answer.position
                (some (firstUser db answer identifier))))
  | .creatingGroup name allIds =>
      match createGroupRoom db answer.id answer.now name allIds with
      | none => (db, .failed .database)
      | some created =>
          (created,
            .returnedGroup 201
              (createdGroupChat name allIds
                (groupRoom answer.id answer.now name)))
  | .returnedDirect targetUser status chat =>
      (db, .returnedDirect targetUser status chat)
  | .returnedGroup status chat => (db, .returnedGroup status chat)
  | .failed failure => (db, .failed failure)

def Stage.isOver : Stage → Bool
  | .returnedDirect _ _ _ | .returnedGroup _ _ | .failed _ => true
  | _ => false

/-- The query of a call, with the failures of its connection. -/
def runQuery
    (db : Database) (call : Call) (answer : Answer) : Database × Stage :=
  if call.stage.isOver then (db, call.stage)
  else
    match answer.connection with
    | .kept => answerQuery db call.userId answer call.stage
    | .lostBefore => (db, .failed .database)
    | .lostAfter =>
        ((answerQuery db call.userId answer call.stage).1,
          .failed .database)

/-- The unique keys of the table let the user in. -/
def registers (db : Database) (user : User) : Bool :=
  !db.users.any fun old =>
    old.id == user.id || old.username == user.username ||
      old.email == user.email

def step (state : State) : Event → State
  | .register user =>
      if registers state.db user then
        { state with
          db := { state.db with users := state.db.users ++ [user] } }
      else state
  | .call userId body =>
      { state with
        calls :=
          state.calls ++
            [{ userId := userId, stage := firstStage body }] }
  | .query index answer =>
      match state.calls[index]? with
      | none => state
      | some call =>
          let outcome := runQuery state.db call answer
          { db := outcome.1
            calls :=
              state.calls.set index { call with stage := outcome.2 } }

end ChatBackend.Chats.ChatCreation
