import ChatBackend.Chats.CreatedChats

/-!
# What clients are told about new chats

`createChat` runs as a list of queries, between which users register and
other calls create rooms.  `Follows` says what a call relies on in each of
its stages: what the body asked for, what the lookups have found, and which
room was made of it.  Users and rooms are only ever added, so that what was
found stays true.

Every chat that a call returned can be read again by its members, and by
nobody else; every refusal names what was wrong when it was looked up.
-/

namespace ChatBackend.Chats.ChatAnswers

open ChatBackend.Foundation.EventRuns
open ChatBackend.Storage.Schema
open ChatBackend.Chats.ChatQueries
open ChatBackend.Chats.ChatReads
open ChatBackend.Chats.ChatCreation
open ChatBackend.Chats.DirectChats
open ChatBackend.Chats.CreatedChats

/-! ## Users and rooms stay -/

structure Grown (before after : Database) : Prop where
  users : ∀ user ∈ before.users, user ∈ after.users
  rooms :
    ∀ room ∈ before.rooms,
      room ∈ after.rooms ∧
        memberIdsOf after room.id = memberIdsOf before room.id

theorem Grown.refl (db : Database) : Grown db db where
  users := fun _ member => member
  rooms := fun _ member => ⟨member, rfl⟩

/-- The user fits the identifier, by its id or by its name. -/
def Resolves (db : Database) (identifier : String) (user : User) : Prop :=
  user ∈ usersForChatMember db identifier

theorem Resolves.grow
    {before after : Database} (grown : Grown before after)
    {identifier : String} {user : User}
    (resolves : Resolves before identifier user) :
    Resolves after identifier user := by
  rcases List.mem_filter.mp resolves with ⟨inTable, fits⟩
  exact List.mem_filter.mpr ⟨grown.users user inTable, fits⟩

/-- A room of the table, with its members in some order. -/
structure RoomOf
    (db : Database) (room : Room) (memberIds : List UserId) : Prop where
  listed : room ∈ db.rooms
  members : (memberIdsOf db room.id).Perm memberIds

theorem RoomOf.grow
    {before after : Database} (grown : Grown before after) {room : Room}
    {memberIds : List UserId} (roomOf : RoomOf before room memberIds) :
    RoomOf after room memberIds where
  listed := (grown.rooms room roomOf.listed).1
  members := (grown.rooms room roomOf.listed).2 ▸ roomOf.members

section Insert

variable {db created : Database} {room : Room} {memberIds : List UserId}
  (valid : db.Valid)
  (inserted : createRoom db room memberIds = some created)

include inserted

theorem createRoom_grown : Grown db created := by
  rcases createRoom_eq_some_iff.mp inserted with ⟨⟨fresh, _, _⟩, rfl⟩
  constructor
  · exact fun _ member => member
  · intro old isRoom
    refine ⟨List.mem_append_left _ isRoom, ?_⟩
    have others :
        (memberIds.map fun userId =>
            ({ userId := userId
               roomId := room.id
               joinedAt := room.createdAt } : RoomMember)).filter
            (fun member => member.roomId == old.id) =
          [] := by
      rw [List.filter_eq_nil_iff]
      intro member listed
      rcases List.mem_map.mp listed with ⟨userId, _, rfl⟩
      simpa using (ne_of_hasRoom_eq_false fresh isRoom).symm
    simp only [memberIdsOf, membersOf, List.filter_append, others,
      List.append_nil]

include valid

theorem createRoom_roomOf : RoomOf created room memberIds := by
  rcases createRoom_eq_some_iff.mp inserted with ⟨⟨fresh, _, _⟩, rfl⟩
  constructor
  · exact List.mem_append_right _ (List.mem_singleton_self _)
  · have earlier :
        db.roomMembers.filter (fun member => member.roomId == room.id) =
          [] := by
      rw [List.filter_eq_nil_iff]
      intro member listed inRoom
      have present := valid.memberRoom member listed
      rw [beq_iff_eq.mp inRoom, fresh] at present
      cases present
    have added :
        (memberIds.map fun userId =>
            ({ userId := userId
               roomId := room.id
               joinedAt := room.createdAt } : RoomMember)).filter
            (fun member => member.roomId == room.id) =
          memberIds.map fun userId =>
            { userId := userId
              roomId := room.id
              joinedAt := room.createdAt } := by
      rw [List.filter_eq_self]
      intro member listed
      rcases List.mem_map.mp listed with ⟨userId, _, rfl⟩
      simp
    simp only [memberIdsOf, membersOf, List.filter_append, earlier,
      added, List.nil_append, List.map_map]
    exact .of_eq (List.map_id _)

end Insert

/-! ## What a call relies on -/

/-- The other user of a direct chat, as the body named it. -/
def IsTarget
    (db : Database) (userId : UserId) (body : CreateChatRequest)
    (targetUser : User) : Prop :=
  ∃ rawTarget,
    firstStage body = .findingUser rawTarget ∧
      Resolves db rawTarget targetUser ∧ targetUser.id ≠ userId

/-- The body asks for a group with this name and these members. -/
def IsGroup
    (body : CreateChatRequest) (name : String)
    (memberIds : List String) : Prop :=
  firstStage body =
    .findingMembers name memberIds (memberIds.map fun _ => none)

/-- The creator and the users that the identifiers stand for, each once. -/
structure Members
    (db : Database) (userId : UserId) (identifiers : List String)
    (allIds : List UserId) : Prop where
  distinct : allIds.Nodup
  creator : userId ∈ allIds
  resolved :
    ∀ identifier ∈ identifiers, ∃ user,
      Resolves db identifier user ∧ user.id ∈ allIds
  only :
    ∀ id ∈ allIds, id = userId ∨
      ∃ identifier ∈ identifiers, ∃ user,
        Resolves db identifier user ∧ user.id = id

/-- The chat is the room. -/
structure Describes
    (chat : Chat) (room : Room) (type name : String) : Prop where
  id : chat.id = room.id
  type : chat.type = type
  name : chat.name = name
  createdAt : chat.createdAt = room.createdAt

/-- How a call is refused; `seen` are identifiers that nobody had. -/
inductive Refusal
    (db : Database) (seen : String → Prop) (userId : UserId)
    (body : CreateChatRequest) (stage : Stage) : Prop where
  | malformed (first : firstStage body = stage)
  | target (rawTarget : String)
      (first : firstStage body = .findingUser rawTarget)
      (unknown : seen rawTarget)
      (refused :
        stage =
          validationFailed 422
            s!"member_ids[0]: user \"{rawTarget}\" not found")
  | oneself (rawTarget : String) (user : User)
      (first : firstStage body = .findingUser rawTarget)
      (resolves : Resolves db rawTarget user)
      (same : user.id = userId)
      (refused :
        stage =
          validationFailed 400
            "cannot create a direct chat with yourself")
  | member (name : String) (memberIds : List String) (index : Nat)
      (identifier : String) (group : IsGroup body name memberIds)
      (named : memberIds[index]? = some identifier)
      (unknown : seen identifier)
      (others :
        ∀ earlier < index, ∃ identifier user,
          memberIds[earlier]? = some identifier ∧
            Resolves db identifier user)
      (refused :
        stage =
          validationFailed 422
            s!"member_ids[{index}]: user \"{identifier}\" not found")

/-- The answer of a lookup: nobody was found then, or this user. -/
def Looked
    (db : Database) (seen : String → Prop) (identifier : String) :
    Option User → Prop
  | none => seen identifier
  | some user => Resolves db identifier user

/-- What a call relies on in each stage. -/
def Follows
    (db : Database) (seen : String → Prop) (userId : UserId)
    (body : CreateChatRequest) : Stage → Prop
  | .findingUser rawTarget => firstStage body = .findingUser rawTarget
  | .findingCandidates targetUser => IsTarget db userId body targetUser
  | .creatingDirect targetUser => IsTarget db userId body targetUser
  | .findingMembers name memberIds resolved =>
      IsGroup body name memberIds ∧
        resolved.length = memberIds.length ∧
          ∀ (index : Nat) (identifier : String) (answer : Option User),
            memberIds[index]? = some identifier →
              resolved[index]? = some (some answer) →
                Looked db seen identifier answer
  | .creatingGroup name allIds =>
      ∃ memberIds,
        IsGroup body name memberIds ∧ Members db userId memberIds allIds
  | .returnedDirect targetUser _ chat =>
      IsTarget db userId body targetUser ∧
        chat.memberIds.Perm [userId, targetUser.id] ∧
          ∃ room,
            RoomOf db room chat.memberIds ∧ room.isGroup = false ∧
              Describes chat room "direct" targetUser.displayName
  | .returnedGroup _ chat =>
      ∃ name memberIds,
        IsGroup body name memberIds ∧
          Members db userId memberIds chat.memberIds ∧
            ∃ room,
              RoomOf db room chat.memberIds ∧ room.isGroup = true ∧
                room.name = some name ∧ Describes chat room "group" name
  | .failed (.app error) =>
      Refusal db seen userId body (.failed (.app error))
  | .failed .database => True

/-! ## What was found stays true -/

section Growth

variable {before after : Database} (grown : Grown before after)
  {seen seenLater : String → Prop}
  (still : ∀ identifier, seen identifier → seenLater identifier)
  {userId : UserId} {body : CreateChatRequest}

include grown

theorem IsTarget.grow
    {targetUser : User} (target : IsTarget before userId body targetUser) :
    IsTarget after userId body targetUser := by
  rcases target with ⟨rawTarget, first, resolves, different⟩
  exact ⟨rawTarget, first, resolves.grow grown, different⟩

theorem Members.grow
    {identifiers : List String} {allIds : List UserId}
    (members : Members before userId identifiers allIds) :
    Members after userId identifiers allIds where
  distinct := members.distinct
  creator := members.creator
  resolved := by
    intro identifier listed
    rcases members.resolved identifier listed with
      ⟨user, resolves, member⟩
    exact ⟨user, resolves.grow grown, member⟩
  only := by
    intro id member
    rcases members.only id member with
      isCreator | ⟨identifier, listed, user, resolves, same⟩
    · exact Or.inl isCreator
    · exact
        Or.inr ⟨identifier, listed, user, resolves.grow grown, same⟩

include still

theorem Refusal.grow
    {stage : Stage} (refusal : Refusal before seen userId body stage) :
    Refusal after seenLater userId body stage := by
  cases refusal with
  | malformed first => exact .malformed first
  | target rawTarget first unknown refused =>
      exact .target rawTarget first (still _ unknown) refused
  | oneself rawTarget user first resolves same refused =>
      exact
        .oneself rawTarget user first (resolves.grow grown) same refused
  | member name memberIds index identifier group named unknown others
      refused =>
      refine
        .member name memberIds index identifier group named
          (still _ unknown) ?_ refused
      intro earlier less
      rcases others earlier less with ⟨other, user, isOther, resolves⟩
      exact ⟨other, user, isOther, resolves.grow grown⟩

theorem Looked.grow
    {identifier : String} {answer : Option User}
    (looked : Looked before seen identifier answer) :
    Looked after seenLater identifier answer := by
  cases answer with
  | none => exact still identifier looked
  | some user => exact Resolves.grow grown looked

theorem Follows.grow
    {stage : Stage} (follows : Follows before seen userId body stage) :
    Follows after seenLater userId body stage := by
  cases stage with
  | findingUser rawTarget => exact follows
  | findingCandidates targetUser => exact IsTarget.grow grown follows
  | creatingDirect targetUser => exact IsTarget.grow grown follows
  | findingMembers name memberIds resolved =>
      rcases follows with ⟨group, length, looked⟩
      exact
        ⟨group, length, fun index identifier answer named answered =>
          (looked index identifier answer named answered).grow grown
            still⟩
  | creatingGroup name allIds =>
      rcases follows with ⟨memberIds, group, members⟩
      exact ⟨memberIds, group, members.grow grown⟩
  | returnedDirect targetUser status chat =>
      rcases follows with ⟨target, pair, room, roomOf, direct, describes⟩
      exact
        ⟨target.grow grown, pair, room, roomOf.grow grown, direct,
          describes⟩
  | returnedGroup status chat =>
      rcases follows with
        ⟨name, memberIds, group, members, room, roomOf, rest⟩
      exact
        ⟨name, memberIds, group, members.grow grown, room,
          roomOf.grow grown, rest⟩
  | failed failure =>
      cases failure with
      | app error => exact Refusal.grow grown still follows
      | database => trivial

end Growth

/-! ## The stages of a call -/

/-- The first stage is a lookup, or the body is refused at once. -/
theorem firstStage_cases (body : CreateChatRequest) :
    (∃ rawTarget, firstStage body = .findingUser rawTarget) ∨
      (∃ name memberIds, IsGroup body name memberIds) ∨
        ∃ error, firstStage body = .failed (.app error) := by
  unfold IsGroup firstStage validationFailed
  split
  · split
    · split
      · exact Or.inl ⟨_, rfl⟩
      · exact Or.inr (Or.inr ⟨_, rfl⟩)
    · split
      · split
        · exact Or.inr (Or.inr ⟨_, rfl⟩)
        · split
          · exact Or.inr (Or.inr ⟨_, rfl⟩)
          · exact Or.inr (Or.inl ⟨_, _, rfl⟩)
      · exact Or.inr (Or.inr ⟨_, rfl⟩)
  · exact Or.inr (Or.inr ⟨_, rfl⟩)

section Stages

variable {db : Database} {seen : String → Prop} {userId : UserId}
  {body : CreateChatRequest}

theorem firstStage_follows (body : CreateChatRequest) :
    Follows db seen userId body (firstStage body) := by
  rcases firstStage_cases body with
    ⟨rawTarget, first⟩ | ⟨name, memberIds, first⟩ | ⟨error, first⟩
  · rw [first]
    exact first
  · rw [show firstStage body = _ from first]
    refine ⟨first, by simp, ?_⟩
    intro index identifier answer named answered
    rw [List.getElem?_map, named] at answered
    cases answered
  · rw [first]
    exact .malformed first

/-- The answer of `findFirst`: one of the rows, or there were none. -/
theorem firstUser_looked
    (answer : Answer) (identifier : String)
    (unknown :
      usersForChatMember db identifier = [] → seen identifier) :
    Looked db seen identifier (firstUser db answer identifier) := by
  cases found : firstUser db answer identifier with
  | none =>
      rw [firstUser, List.head?_eq_none_iff, List.rotate_eq_nil_iff]
        at found
      exact unknown found
  | some user =>
      have listed := List.mem_of_head? found
      rwa [List.mem_rotate] at listed

theorem afterTarget_follows
    {rawTarget : String} {targetUser : Option User}
    (first : firstStage body = .findingUser rawTarget)
    (looked : Looked db seen rawTarget targetUser) :
    Follows db seen userId body
      (afterTarget userId rawTarget targetUser) := by
  cases targetUser with
  | none => exact .target rawTarget first looked rfl
  | some targetUser =>
      by_cases same : targetUser.id = userId
      · rw [afterTarget, if_pos same]
        exact .oneself rawTarget targetUser first looked same rfl
      · rw [afterTarget, if_neg same]
        exact ⟨rawTarget, first, looked, same⟩

/-- A direct room has its two users as members, in some order. -/
theorem direct_members
    (valid : db.Valid) {room : Room} {targetUserId : UserId}
    (different : userId ≠ targetUserId)
    (direct : IsDirectRoom db room userId targetUserId) :
    (memberIdsOf db room.id).Perm [userId, targetUserId] := by
  refine
    (List.perm_ext_iff_of_nodup (memberIds_nodup valid room.id)
      (by simpa using different)).mpr ?_
  intro memberId
  have exactly := direct.2 memberId
  simp only [List.mem_map, mem_membersOf, and_assoc, exactly]
  simp

theorem afterCandidates_follows
    (valid : db.Valid) {targetUser : User} (order : Nat)
    (target : IsTarget db userId body targetUser) :
    Follows db seen userId body
      (afterCandidates targetUser
        ((findDirectRoomCandidates db userId targetUser.id).rotate
          order)) := by
  have different : userId ≠ targetUser.id := by
    rcases target with ⟨_, _, _, different⟩
    exact different.symm
  unfold afterCandidates
  split
  · rename_i existing found
    rcases existing_isDirectRoom valid different found with
      ⟨isRoom, direct⟩
    have pair := direct_members valid different direct
    have listed := List.mem_of_find?_eq_some found
    rw [List.mem_rotate, mem_findDirectRoomCandidates] at listed
    rcases listed with ⟨room, _, _, rfl⟩
    exact
      ⟨target, pair, room, ⟨isRoom, List.Perm.refl _⟩, direct.1,
        ⟨rfl, rfl, rfl, rfl⟩⟩
  · exact target

theorem nodup_eraseDups (ids : List UserId) : ids.eraseDups.Nodup := by
  induction length : ids.length using Nat.strong_induction_on
      generalizing ids with
  | _ size induction =>
      cases ids with
      | nil => exact List.nodup_nil
      | cons id rest =>
          rw [List.eraseDups_cons, List.nodup_cons]
          constructor
          · simp
          · refine induction _ ?_ _ rfl
            rw [← length]
            exact Nat.lt_succ_of_le (List.length_filter_le _ _)

/-- When every lookup found somebody, they are the members. -/
theorem members_of_found
    {memberIds : List String} {resolved : List (Option (Option User))}
    (length : resolved.length = memberIds.length)
    (found :
      ∀ (index : Nat) (identifier : String),
        memberIds[index]? = some identifier →
          ∃ user,
            resolved[index]? = some (some (some user)) ∧
              Resolves db identifier user) :
    Members db userId memberIds
      (userId ::
          ((resolved.map Option.join).filterMap id).map
            User.id).eraseDups where
  distinct := nodup_eraseDups _
  creator := by simp
  resolved := by
    intro identifier listed
    rcases List.mem_iff_getElem?.mp listed with ⟨index, named⟩
    rcases found index identifier named with ⟨user, isUser, resolves⟩
    refine ⟨user, resolves, ?_⟩
    rw [List.mem_eraseDups, List.mem_cons]
    refine Or.inr (List.mem_map_of_mem ?_)
    rw [List.mem_filterMap]
    exact
      ⟨some user,
        List.mem_map.mpr
          ⟨some (some user), List.mem_of_getElem? isUser, rfl⟩,
        rfl⟩
  only := by
    intro memberId listed
    rw [List.mem_eraseDups, List.mem_cons] at listed
    rcases listed with isCreator | isMember
    · exact Or.inl isCreator
    · rcases List.mem_map.mp isMember with ⟨user, isUser, rfl⟩
      rw [List.mem_filterMap] at isUser
      rcases isUser with ⟨_, isJoined, rfl⟩
      rcases List.mem_map.mp isJoined with ⟨answer, listed, joined⟩
      rcases List.mem_iff_getElem?.mp listed with ⟨index, isAnswer⟩
      have below : index < memberIds.length := by
        rw [← length]
        exact (List.getElem?_eq_some_iff.mp isAnswer).1
      rcases found index memberIds[index]
          (List.getElem?_eq_getElem below) with
        ⟨other, isOther, resolves⟩
      rw [isAnswer] at isOther
      rw [Option.some.inj isOther] at joined
      exact
        Or.inr
          ⟨memberIds[index], List.getElem_mem below, other, resolves,
            congrArg User.id (Option.some.inj joined)⟩

theorem joined_answer
    {resolved : List (Option (Option User))} {index : Nat}
    {answer : Option User}
    (answered : resolved[index]? = some (some answer))
    (below : index < (resolved.map Option.join).length) :
    (resolved.map Option.join)[index] = answer := by
  rcases List.getElem?_eq_some_iff.mp answered with ⟨_, isAnswer⟩
  rw [List.getElem_map, isAnswer]
  rfl

theorem afterMembers_follows
    {name : String} {memberIds : List String}
    {resolved : List (Option (Option User))}
    (group : IsGroup body name memberIds)
    (length : resolved.length = memberIds.length)
    (looked :
      ∀ (index : Nat) (identifier : String) (answer : Option User),
        memberIds[index]? = some identifier →
          resolved[index]? = some (some answer) →
            Looked db seen identifier answer) :
    Follows db seen userId body
      (afterMembers userId name memberIds resolved) := by
  unfold afterMembers
  by_cases complete : resolved.all Option.isSome = true
  · have answered :
        ∀ (index : Nat) (identifier : String),
          memberIds[index]? = some identifier →
            ∃ answer,
              resolved[index]? = some (some answer) ∧
                Looked db seen identifier answer := by
      intro index identifier named
      have below : index < resolved.length := by
        rw [length]
        exact (List.getElem?_eq_some_iff.mp named).1
      have isSome :=
        List.all_eq_true.mp complete resolved[index] (List.getElem_mem below)
      rcases Option.isSome_iff_exists.mp isSome with ⟨answer, isAnswer⟩
      have atIndex : resolved[index]? = some (some answer) := by
        rw [List.getElem?_eq_getElem below, isAnswer]
      exact
        ⟨answer, atIndex, looked index identifier answer named atIndex⟩
    rw [if_pos complete]
    dsimp only
    cases bad : (resolved.map Option.join).findIdx? Option.isNone with
    | some badIdx =>
        rcases List.findIdx?_eq_some_iff_getElem.mp bad with
          ⟨below, isNone, before⟩
        have inRange : badIdx < memberIds.length := by
          rw [← length]
          simpa using below
        have named : memberIds[badIdx]? = some memberIds[badIdx] :=
          List.getElem?_eq_getElem inRange
        rcases answered badIdx _ named with ⟨answer, atIndex, unknown⟩
        rw [joined_answer atIndex below, Option.isNone_iff_eq_none]
          at isNone
        subst isNone
        refine
          .member name memberIds badIdx memberIds[badIdx] group named
            unknown ?_ ?_
        · intro earlier less
          have alsoInRange := Nat.lt_trans less inRange
          rcases answered earlier memberIds[earlier]
              (List.getElem?_eq_getElem alsoInRange) with
            ⟨other, atEarlier, looked⟩
          have isSome := before earlier less
          rw [joined_answer atEarlier (Nat.lt_trans less below)]
            at isSome
          cases other with
          | none => exact absurd rfl isSome
          | some user =>
              exact
                ⟨_, user, List.getElem?_eq_getElem alsoInRange, looked⟩
        · rw [List.getD_eq_getElem?_getD, named]
          rfl
    | none =>
        refine ⟨memberIds, group, members_of_found length ?_⟩
        intro index identifier named
        rcases answered index identifier named with
          ⟨answer, atIndex, found⟩
        cases answer with
        | some user => exact ⟨user, atIndex, found⟩
        | none =>
            have listed :
                none ∈ resolved.map Option.join :=
              List.mem_map.mpr
                ⟨some none, List.mem_of_getElem? atIndex, rfl⟩
            have impossible :=
              List.findIdx?_eq_none_iff.mp bad none listed
            cases impossible
  · rw [if_neg complete]
    exact ⟨group, length, looked⟩

end Stages

/-! ## Queries -/

/-- The tables after a query: no change, or a room that was created. -/
theorem answerQuery_database
    (db : Database) (userId : UserId) (answer : Answer) (stage : Stage) :
    (answerQuery db userId answer stage).1 = db ∨
      ∃ room memberIds,
        createRoom db room memberIds =
          some (answerQuery db userId answer stage).1 := by
  cases stage with
  | creatingDirect targetUser =>
      simp only [answerQuery]
      split
      · exact Or.inl rfl
      · rename_i created inserted
        exact Or.inr ⟨_, _, inserted⟩
  | creatingGroup name allIds =>
      simp only [answerQuery]
      split
      · exact Or.inl rfl
      · rename_i created inserted
        exact Or.inr ⟨_, _, inserted⟩
  | findingMembers name memberIds resolved =>
      simp only [answerQuery]
      split <;> exact Or.inl rfl
  | _ => exact Or.inl rfl

theorem answerQuery_kept
    {db : Database} (valid : db.Valid) (userId : UserId) (answer : Answer)
    (stage : Stage) :
    (answerQuery db userId answer stage).1.Valid ∧
      Grown db (answerQuery db userId answer stage).1 := by
  rcases answerQuery_database db userId answer stage with
    same | ⟨room, memberIds, inserted⟩
  · rw [same]
    exact ⟨valid, Grown.refl db⟩
  · exact ⟨createRoom_valid valid inserted, createRoom_grown inserted⟩

theorem answerQuery_follows
    {db : Database} (valid : db.Valid) {seen : String → Prop}
    (unknown :
      ∀ identifier, usersForChatMember db identifier = [] →
        seen identifier)
    {userId : UserId} {body : CreateChatRequest} (answer : Answer)
    {stage : Stage} (follows : Follows db seen userId body stage) :
    Follows (answerQuery db userId answer stage).1 seen userId body
      (answerQuery db userId answer stage).2 := by
  cases stage with
  | findingUser rawTarget =>
      exact
        afterTarget_follows follows
          (firstUser_looked answer rawTarget (unknown rawTarget))
  | findingCandidates targetUser =>
      exact afterCandidates_follows valid answer.order follows
  | creatingDirect targetUser =>
      simp only [answerQuery]
      split
      · trivial
      · rename_i created inserted
        have grown := createRoom_grown inserted
        exact
          ⟨IsTarget.grow grown follows, List.Perm.refl _, _,
            createRoom_roomOf valid inserted, rfl,
            ⟨rfl, rfl, rfl, rfl⟩⟩
  | findingMembers name memberIds resolved =>
      rcases follows with ⟨group, length, looked⟩
      simp only [answerQuery]
      split
      · exact ⟨group, length, looked⟩
      · rename_i identifier named
        refine afterMembers_follows group (by simpa using length) ?_
        intro index other otherAnswer isOther answered
        by_cases here : answer.position = index
        · subst here
          rw [named] at isOther
          rcases Option.some.inj isOther with rfl
          have inRange : answer.position < resolved.length := by
            rw [length]
            exact (List.getElem?_eq_some_iff.mp named).1
          rw [List.getElem?_set_self inRange, Option.some.injEq,
            Option.some.injEq] at answered
          exact
            answered ▸ firstUser_looked answer identifier
              (unknown identifier)
        · rw [List.getElem?_set_ne here] at answered
          exact looked index other otherAnswer isOther answered
  | creatingGroup name allIds =>
      rcases follows with ⟨memberIds, group, members⟩
      simp only [answerQuery]
      split
      · trivial
      · rename_i created inserted
        exact
          ⟨name, memberIds, group,
            members.grow (createRoom_grown inserted), _,
            createRoom_roomOf valid inserted, rfl, rfl,
            ⟨rfl, rfl, rfl, rfl⟩⟩
  | returnedDirect targetUser status chat => exact follows
  | returnedGroup status chat => exact follows
  | failed failure => exact follows

/-- A query and the failures of its connection keep the tables valid. -/
theorem runQuery_kept
    {db : Database} (valid : db.Valid) (call : Call) (answer : Answer) :
    (runQuery db call answer).1.Valid ∧
      Grown db (runQuery db call answer).1 := by
  have kept := answerQuery_kept valid call.userId answer call.stage
  unfold runQuery
  split
  · exact ⟨valid, Grown.refl db⟩
  · split
    · exact kept
    · exact ⟨valid, Grown.refl db⟩
    · exact kept

theorem runQuery_follows
    {db : Database} (valid : db.Valid) {seen : String → Prop}
    (unknown :
      ∀ identifier, usersForChatMember db identifier = [] →
        seen identifier)
    {call : Call} {body : CreateChatRequest} (answer : Answer)
    (follows : Follows db seen call.userId body call.stage) :
    Follows (runQuery db call answer).1 seen call.userId body
      (runQuery db call answer).2 := by
  unfold runQuery
  split
  · exact follows
  · split
    · exact answerQuery_follows valid unknown answer follows
    · trivial
    · trivial

/-! ## Runs -/

/-- The requests behind the calls, in the order of the calls. -/
def requests (events : List Event) : List (UserId × CreateChatRequest) :=
  events.filterMap fun event =>
    match event with
    | .call userId body => some (userId, body)
    | _ => none

/-- At some time of the run nobody had this id or name. -/
def Unknown (events : List Event) (identifier : String) : Prop :=
  ∃ before, before <+: events ∧
    usersForChatMember (run step {} before).db identifier = []

theorem Unknown.later
    {events : List Event} {identifier : String}
    (unknown : Unknown events identifier) (event : Event) :
    Unknown (events ++ [event]) identifier := by
  rcases unknown with ⟨before, isPrefix, nobody⟩
  exact ⟨before, isPrefix.trans (List.prefix_append _ _), nobody⟩

/-- What holds of the tables and of the calls at all times. -/
structure Answered (events : List Event) : Prop where
  valid : (run step {} events).db.Valid
  calls :
    (run step {} events).calls.length = (requests events).length
  follows :
    ∀ (index : Nat) (call : Call) (userId : UserId)
      (body : CreateChatRequest),
      (run step {} events).calls[index]? = some call →
        (requests events)[index]? = some (userId, body) →
          call.userId = userId ∧
            Follows (run step {} events).db (Unknown events) userId body
              call.stage

theorem nodup_column
    {Column : Type} {column : User → Column} {users : List User}
    {user : User} (distinct : (users.map column).Nodup)
    (fresh : ∀ old ∈ users, column old ≠ column user) :
    ((users ++ [user]).map column).Nodup := by
  rw [List.map_append, List.nodup_append]
  refine ⟨distinct, by simp, ?_⟩
  intro first listed second single same
  rcases List.mem_map.mp listed with ⟨old, inTable, rfl⟩
  rw [List.map_singleton, List.mem_singleton] at single
  exact fresh old inTable (same.trans single)

theorem register_valid
    {db : Database} (valid : db.Valid) {user : User}
    (fresh : registers db user = true) :
    ({ db with users := db.users ++ [user] } : Database).Valid := by
  have new :
      ∀ old ∈ db.users,
        old.id ≠ user.id ∧ old.username ≠ user.username ∧
          old.email ≠ user.email := by
    simpa [registers, and_assoc] using fresh
  have grows :
      ∀ id, db.hasUser id = true →
        (db.users ++ [user]).any (fun row => row.id == id) = true := by
    intro id present
    rw [List.any_append]
    exact Bool.or_eq_true_iff.mpr (.inl present)
  exact
    { valid with
      users := nodup_column valid.users fun old member => (new old member).1
      usernames :=
        nodup_column valid.usernames fun old member => (new old member).2.1
      emails :=
        nodup_column valid.emails fun old member => (new old member).2.2
      memberUser := fun member listed =>
        grows _ (valid.memberUser member listed)
      messageSender := fun message listed =>
        grows _ (valid.messageSender message listed)
      writeSender := fun write listed =>
        grows _ (valid.writeSender write listed) }

/-- A step without a new call keeps what every call relies on. -/
theorem Answered.extend
    {events : List Event} (answered : Answered events) {event : Event}
    {after : State} (next : step (run step {} events) event = after)
    (sameRequests : requests (events ++ [event]) = requests events)
    (valid : after.db.Valid)
    (length :
      after.calls.length = (run step {} events).calls.length)
    (stages :
      ∀ (index : Nat) (later : Call),
        after.calls[index]? = some later →
          ∃ call,
            (run step {} events).calls[index]? = some call ∧
              later.userId = call.userId ∧
                ∀ body,
                  Follows (run step {} events).db
                      (Unknown (events ++ [event])) call.userId body
                      call.stage →
                    Follows after.db (Unknown (events ++ [event]))
                      call.userId body later.stage) :
    Answered (events ++ [event]) := by
  have reached : run step {} (events ++ [event]) = after := by
    rw [run_append, run_cons, run_nil, next]
  constructor
  · rw [reached]
    exact valid
  · rw [reached, sameRequests, length]
    exact answered.calls
  · intro index later userId body isCall isRequest
    rw [reached] at isCall ⊢
    rw [sameRequests] at isRequest
    rcases stages index later isCall with
      ⟨call, wasCall, sameUser, advances⟩
    rcases answered.follows index call userId body wasCall isRequest with
      ⟨same, follows⟩
    subst same
    exact
      ⟨sameUser,
        advances body
          (follows.grow (Grown.refl _) fun _ unknown =>
            unknown.later event)⟩

theorem register_answered
    {events : List Event} (answered : Answered events) (user : User) :
    Answered (events ++ [.register user]) := by
  have sameRequests :
      requests (events ++ [.register user]) = requests events := by
    simp [requests]
  by_cases fresh : registers (run step {} events).db user = true
  · have grown :
        Grown (run step {} events).db
          { (run step {} events).db with
            users := (run step {} events).db.users ++ [user] } :=
      { users := fun _ member => List.mem_append_left _ member
        rooms := fun _ member => ⟨member, rfl⟩ }
    exact
      answered.extend (if_pos fresh) sameRequests
        (register_valid answered.valid fresh) rfl
        fun index call isCall =>
          ⟨call, isCall, rfl, fun body follows =>
            follows.grow grown fun _ unknown => unknown⟩
  · exact
      answered.extend (if_neg fresh) sameRequests answered.valid rfl
        fun index call isCall => ⟨call, isCall, rfl, fun _ follows =>
          follows⟩

theorem call_answered
    {events : List Event} (answered : Answered events) (userId : UserId)
    (body : CreateChatRequest) :
    Answered (events ++ [.call userId body]) := by
  have next :
      run step {} (events ++ [.call userId body]) =
        { run step {} events with
          calls :=
            (run step {} events).calls ++
              [{ userId := userId, stage := firstStage body }] } := by
    rw [run_append, run_cons, run_nil, step]
  have sameRequests :
      requests (events ++ [.call userId body]) =
        requests events ++ [(userId, body)] := by
    simp [requests]
  constructor
  · rw [next]
    exact answered.valid
  · rw [next, sameRequests, List.length_append, List.length_append,
      answered.calls]
    rfl
  · intro index call caller asked isCall isRequest
    rw [next] at isCall ⊢
    rw [sameRequests] at isRequest
    by_cases old : index < (requests events).length
    · rw [List.getElem?_append_left old] at isRequest
      rw [List.getElem?_append_left (answered.calls ▸ old)] at isCall
      rcases answered.follows index call caller asked isCall isRequest with
        ⟨same, follows⟩
      exact
        ⟨same,
          follows.grow (Grown.refl _) fun _ unknown => unknown.later _⟩
    · have sameIndex : index = (requests events).length := by
        have below := (List.getElem?_eq_some_iff.mp isRequest).1
        rw [List.length_append] at below
        change index < (requests events).length + 1 at below
        omega
      subst sameIndex
      rw [List.getElem?_concat_length, Option.some.injEq] at isRequest
      rw [← answered.calls, List.getElem?_concat_length,
        Option.some.injEq] at isCall
      rcases Prod.mk.inj isRequest with ⟨rfl, rfl⟩
      subst isCall
      exact ⟨rfl, firstStage_follows body⟩

theorem query_answered
    {events : List Event} (answered : Answered events) (position : Nat)
    (answer : Answer) :
    Answered (events ++ [.query position answer]) := by
  have sameRequests :
      requests (events ++ [.query position answer]) = requests events := by
    simp [requests]
  have nobody :
      ∀ identifier,
        usersForChatMember (run step {} events).db identifier = [] →
          Unknown (events ++ [.query position answer]) identifier :=
    fun _ none => ⟨events, List.prefix_append _ _, none⟩
  cases found : (run step {} events).calls[position]? with
  | none =>
      have next :
          step (run step {} events) (.query position answer) =
            run step {} events := by
        rw [step, found]
      exact
        answered.extend next sameRequests answered.valid rfl
          fun index call isCall => ⟨call, isCall, rfl, fun _ follows =>
            follows⟩
  | some call =>
      let outcome := runQuery (run step {} events).db call answer
      have next :
          step (run step {} events) (.query position answer) =
            { db := outcome.1
              calls :=
                (run step {} events).calls.set position
                  { call with stage := outcome.2 } } := by
        rw [step, found]
      rcases runQuery_kept answered.valid call answer with ⟨valid, grown⟩
      refine
        answered.extend next sameRequests valid (List.length_set ..) ?_
      intro index later isLater
      by_cases here : position = index
      · subst here
        have inRange := (List.getElem?_eq_some_iff.mp found).1
        rw [List.getElem?_set_self inRange, Option.some.injEq] at isLater
        subst isLater
        exact
          ⟨call, found, rfl, fun body follows =>
            runQuery_follows answered.valid nobody answer follows⟩
      · rw [List.getElem?_set_ne here] at isLater
        exact
          ⟨later, isLater, rfl, fun body follows =>
            follows.grow grown fun _ unknown => unknown⟩

theorem answered_run (events : List Event) : Answered events := by
  induction events using List.reverseRecOn with
  | nil =>
      exact
        { valid := empty_consistent.valid
          calls := rfl
          follows := by simp }
  | append_singleton events event induction =>
      cases event with
      | register user => exact register_answered induction user
      | call userId body => exact call_answered induction userId body
      | query position answer =>
          exact query_answered induction position answer

/-! ## What clients can rely on -/

/-- The chat of an answer, read again by the caller and by everybody. -/
structure ReadsBack
    (db : Database) (userId : UserId) (chat : Chat) : Prop where
  again :
    ∃ again,
      getChat db userId chat.id = .ok (some again) ∧
        again.id = chat.id ∧ again.type = chat.type ∧
          again.name = chat.name ∧
            again.memberIds.Perm chat.memberIds ∧
              again.createdAt = chat.createdAt
  members :
    ∀ reader ∈ chat.memberIds, ∃ members,
      getChatMembers db reader chat.id = .ok members ∧
        (members.map UserDto.id).Perm chat.memberIds
  listed :
    ∀ reader,
      chat.id ∈ (listChats db reader).map Chat.id ↔
        reader ∈ chat.memberIds
  strangers :
    ∀ reader, reader ∉ chat.memberIds →
      getChat db reader chat.id = .error chatNotFound

/-- A room is read back as the chat that describes it. -/
theorem readsBack_of_room
    {db : Database} (valid : db.Valid) {userId : UserId} {chat : Chat}
    {room : Room} (roomOf : RoomOf db room chat.memberIds)
    (caller : userId ∈ chat.memberIds)
    (sameId : chat.id = room.id)
    (sameTime : chat.createdAt = room.createdAt)
    (sameType : (toChatDto (roomView db room) userId).type = chat.type)
    (sameName : (toChatDto (roomView db room) userId).name = chat.name) :
    ReadsBack db userId chat := by
  have members := roomOf.members
  have isMember :
      ∀ reader, reader ∈ memberIdsOf db room.id ↔
        reader ∈ chat.memberIds :=
    fun reader => members.mem_iff
  have viewIds :
      (toChatDto (roomView db room) userId).memberIds =
        memberIdsOf db room.id := by
    rw [memberIdsOf, ← memberViews_members valid room.id, List.map_map]
    rfl
  constructor
  · rcases getChat_of_member valid roomOf.listed
        ((isMember userId).mpr caller) with
      ⟨lastMessage, found⟩
    exact
      ⟨{ toChatDto (roomView db room) userId with
          lastMessage := lastMessage },
        sameId ▸ found, sameId.symm, sameType, sameName,
        .trans (.of_eq viewIds) members, sameTime.symm⟩
  · intro reader listed
    rcases getChatMembers_of_member valid roomOf.listed
        ((isMember reader).mpr listed) with
      ⟨dtos, found, ids, _⟩
    exact ⟨dtos, sameId ▸ found, ids ▸ members⟩
  · intro reader
    rw [mem_listChats_iff valid reader chat.id, sameId, isMember]
  · intro reader stranger
    rw [sameId]
    exact
      getChat_of_stranger valid roomOf.listed fun isListed =>
        stranger ((isMember reader).mp isListed)

/-- The caller reads the name of the other member. -/
theorem toChatDto_direct
    {db : Database} (valid : db.Valid) {room : Room} {userId : UserId}
    {targetUser : User} (isUser : targetUser ∈ db.users)
    (different : targetUser.id ≠ userId)
    (members :
      (memberIdsOf db room.id).Perm [userId, targetUser.id])
    (direct : room.isGroup = false) :
    (toChatDto (roomView db room) userId).name =
      targetUser.displayName := by
  have other := direct_name valid isUser different members
  simp only [toChatDto, roomView, direct, Bool.false_eq_true, if_false,
    other, Option.getD_some]

/--
In every interleaving of registrations and calls: when a call has returned a
chat, the chat is what the body asked for, with the caller and the users that
the identifiers stand for as its members, and it reads back: the caller gets
the same chat again, it is in the lists of its members only, and everybody
else is told that there is no such chat.
-/
theorem created_chats_read_back
    (events : List Event) {index : Nat} {call : Call} {userId : UserId}
    {body : CreateChatRequest}
    (isCall : (run step {} events).calls[index]? = some call)
    (isRequest : (requests events)[index]? = some (userId, body)) :
    let db := (run step {} events).db
    (∀ targetUser status chat,
        call.stage = .returnedDirect targetUser status chat →
          IsTarget db userId body targetUser ∧ chat.type = "direct" ∧
            chat.name = targetUser.displayName ∧
              chat.memberIds.Perm [userId, targetUser.id] ∧
                ReadsBack db userId chat) ∧
      ∀ status chat, call.stage = .returnedGroup status chat →
        ∃ name memberIds,
          IsGroup body name memberIds ∧ chat.type = "group" ∧
            chat.name = name ∧
              Members db userId memberIds chat.memberIds ∧
                ReadsBack db userId chat := by
  intro db
  have answered := answered_run events
  have follows :=
    (answered.follows index call userId body isCall isRequest).2
  constructor
  · intro targetUser status chat returned
    rw [returned] at follows
    rcases follows with ⟨target, pair, room, roomOf, direct, describes⟩
    refine ⟨target, describes.type, describes.name, pair, ?_⟩
    rcases target with ⟨_, _, resolves, different⟩
    refine
      readsBack_of_room answered.valid roomOf
        (pair.mem_iff.mpr (by simp)) describes.id describes.createdAt ?_ ?_
    · rw [describes.type]
      simp [toChatDto, roomView, direct]
    · rw [describes.name]
      exact
        toChatDto_direct answered.valid (List.mem_filter.mp resolves).1
          different (roomOf.members.trans pair) direct
  · intro status chat returned
    rw [returned] at follows
    rcases follows with
      ⟨name, memberIds, group, members, room, roomOf, isGroup, isName,
        describes⟩
    refine
      ⟨name, memberIds, group, describes.type, describes.name, members,
        ?_⟩
    refine
      readsBack_of_room answered.valid roomOf members.creator
        describes.id describes.createdAt ?_ ?_
    · rw [describes.type]
      simp [toChatDto, roomView, isGroup]
    · rw [describes.name]
      simp [toChatDto, roomView, isGroup, isName]

/--
In every interleaving, a call is refused for its body alone, because nobody
had an identifier of it when it was looked up, the first such in a group, or
because a direct chat would be with the caller.
-/
theorem refusals_truthful
    (events : List Event) {index : Nat} {call : Call} {userId : UserId}
    {body : CreateChatRequest}
    (isCall : (run step {} events).calls[index]? = some call)
    (isRequest : (requests events)[index]? = some (userId, body))
    {error : AppError} (refused : call.stage = .failed (.app error)) :
    Refusal (run step {} events).db (Unknown events) userId body
      call.stage := by
  have follows :=
    ((answered_run events).follows index call userId body isCall
      isRequest).2
  rw [refused] at follows ⊢
  exact follows

/-! ## Example -/

def exampleBody (memberIds : List String) : CreateChatRequest where
  type := some "group"
  name := some "team"
  memberIds := some memberIds

/-- One group is created; a member of the other registers too late. -/
def exampleEvents : List Event :=
  [.register (exampleUser "ana"), .register (exampleUser "ben"),
    .call "ana" (exampleBody ["ben"]), .query 0 {},
    .query 0 { id := "r1", now := 7 },
    .call "ben" (exampleBody ["ana", "cat"]), .query 1 {},
    .query 1 { position := 1 }, .register (exampleUser "cat")]

def exampleChat : Chat where
  id := "r1"
  type := "group"
  name := "team"
  memberIds := ["ana", "ben"]
  createdAt := 7

theorem created_chats_read_back_group :
    ReadsBack (run step {} exampleEvents).db "ana" exampleChat := by
  have answered :=
    (created_chats_read_back exampleEvents
        (show
          (run step {} exampleEvents).calls[0]? =
            some
              { userId := "ana"
                stage := .returnedGroup 201 exampleChat }
          by decide)
        (show
          (requests exampleEvents)[0]? =
            some ("ana", exampleBody ["ben"])
          by decide)).2
      201 exampleChat rfl
  rcases answered with ⟨_, _, _, _, _, _, readsBack⟩
  exact readsBack

def exampleError : AppError where
  statusCode := 422
  code := "VALIDATION_FAILED"
  message := "member_ids[1]: user \"cat\" not found"

theorem refusals_truthful_unknown :
    Refusal (run step {} exampleEvents).db (Unknown exampleEvents) "ben"
      (exampleBody ["ana", "cat"]) (.failed (.app exampleError)) :=
  refusals_truthful exampleEvents
    (show
      (run step {} exampleEvents).calls[1]? =
        some { userId := "ben", stage := .failed (.app exampleError) }
      by decide)
    (show
      (requests exampleEvents)[1]? =
        some ("ben", exampleBody ["ana", "cat"])
      by decide)
    rfl

end ChatBackend.Chats.ChatAnswers
