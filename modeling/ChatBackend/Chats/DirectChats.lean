import ChatBackend.Chats.ChatCreation
import ChatBackend.Foundation.EventRuns
import Mathlib.Data.List.Perm.Subperm
import Mathlib.Data.List.Rotate

/-!
# One direct chat for two users

A direct call looks for the room of its two users, and inserts one if it
finds none.  Nothing holds the answer of the lookup until the insert: a
second call of the same two users can look, from either side, before the
first one inserts.  `direct_chats_unique_iff` says that two users never get a
second room in exactly those runs in which every insert comes while the
lookup would still find nothing.
-/

namespace ChatBackend.Chats.DirectChats

open ChatBackend.Foundation.EventRuns
open ChatBackend.Storage.Schema
open ChatBackend.Chats.ChatQueries
open ChatBackend.Chats.ChatReads
open ChatBackend.Chats.ChatCreation

/-! ## Direct rooms -/

/-- The room is no group, and its members are exactly the two users. -/
def IsDirectRoom
    (db : Database) (room : Room) (userId targetUserId : UserId) : Prop :=
  room.isGroup = false ∧
    ∀ memberId,
      (∃ member ∈ db.roomMembers,
          member.roomId = room.id ∧ member.userId = memberId) ↔
        memberId = userId ∨ memberId = targetUserId

/-- Two users have one direct room, and their calls return its id. -/
structure Unique (state : State) : Prop where
  oneRoom :
    ∀ userId targetUserId, userId ≠ targetUserId →
      ∀ first ∈ state.db.rooms, ∀ second ∈ state.db.rooms,
        IsDirectRoom state.db first userId targetUserId →
          IsDirectRoom state.db second userId targetUserId →
            first = second
  sameRoom :
    ∀ call ∈ state.calls, ∀ targetUser status chat,
      call.stage = .returnedDirect targetUser status chat →
        ∃ room ∈ state.db.rooms,
          IsDirectRoom state.db room call.userId targetUser.id ∧
            chat.id = room.id

/-- Where a direct room is inserted, the lookup still finds none. -/
def LookupStillHolds (state : State) : Event → Prop
  | .query index answer =>
      ∀ call, state.calls[index]? = some call →
        ∀ targetUser, call.stage = .creatingDirect targetUser →
          answer.connection ≠ .lostBefore →
            (createDirectRoom state.db answer.id answer.now call.userId
                targetUser.id).isSome →
              existingDirect
                  (findDirectRoomCandidates state.db call.userId
                    targetUser.id) =
                none
  | _ => True

/-! ## The lookup -/

/-- The primary key of the memberships, in one room. -/
theorem memberIds_nodup
    {db : Database} (valid : db.Valid) (roomId : RoomId) :
    ((membersOf db roomId).map RoomMember.userId).Nodup := by
  have inRoom :
      ((membersOf db roomId).map fun member =>
          (member.userId, member.roomId)).Nodup :=
    valid.roomMembers.sublist (List.filter_sublist.map _)
  have pairs :
      ((membersOf db roomId).map fun member =>
          (member.userId, member.roomId)) =
        ((membersOf db roomId).map RoomMember.userId).map
          fun userId => (userId, roomId) := by
    rw [List.map_map]
    apply List.map_congr_left
    intro member listed
    simp [(mem_membersOf.mp listed).2]
  rw [pairs] at inRoom
  exact List.Nodup.of_map _ inRoom

/-- What the candidates and the count of their members say together. -/
theorem isDirectRoom_iff
    {db : Database} (valid : db.Valid) {room : Room}
    {userId targetUserId : UserId} (distinct : userId ≠ targetUserId) :
    IsDirectRoom db room userId targetUserId ↔
      room.isGroup = false ∧
        (findRoomMembership db userId room.id).isSome = true ∧
          (findRoomMembership db targetUserId room.id).isSome = true ∧
            (membersOf db room.id).length = 2 := by
  have nodup := memberIds_nodup valid room.id
  have members :
      ∀ memberId,
        (∃ member ∈ db.roomMembers,
            member.roomId = room.id ∧ member.userId = memberId) ↔
          memberId ∈ (membersOf db room.id).map RoomMember.userId := by
    intro memberId
    simp only [List.mem_map, mem_membersOf, and_assoc]
  have pair : [userId, targetUserId].Nodup := by simpa using distinct
  simp only [IsDirectRoom, members, findRoomMembership_isSome_iff]
  apply and_congr_right
  intro _
  constructor
  · intro exactly
    have perm :
        ((membersOf db room.id).map RoomMember.userId).Perm
          [userId, targetUserId] := by
      rw [List.perm_ext_iff_of_nodup nodup pair]
      simpa using exactly
    refine ⟨(exactly userId).mpr (.inl rfl),
      (exactly targetUserId).mpr (.inr rfl), ?_⟩
    simpa using perm.length_eq
  · rintro ⟨first, second, two⟩
    have subset :
        [userId, targetUserId] ⊆
          (membersOf db room.id).map RoomMember.userId := by
      simp [first, second]
    have perm :
        [userId, targetUserId].Perm
          ((membersOf db room.id).map RoomMember.userId) :=
      (List.subperm_of_subset pair subset).perm_of_length_le (by simp [two])
    intro memberId
    rw [← perm.mem_iff]
    simp

theorem mem_findDirectRoomCandidates
    {db : Database} {userId targetUserId : UserId}
    {view : CandidateView} :
    view ∈ findDirectRoomCandidates db userId targetUserId ↔
      ∃ room ∈ db.rooms,
        (room.isGroup = false ∧
          (findRoomMembership db userId room.id).isSome = true ∧
            (findRoomMembership db targetUserId room.id).isSome = true) ∧
          { room := room
            members := membersOf db room.id
            messages := (roomMessages db room.id).take 1 } = view := by
  simp only [findDirectRoomCandidates, List.mem_map, List.mem_filter,
    Bool.and_eq_true, Bool.not_eq_true', and_assoc]

theorem existing_isDirectRoom
    {db : Database} (valid : db.Valid) {userId targetUserId : UserId}
    (distinct : userId ≠ targetUserId) {order : Nat}
    {view : CandidateView}
    (found :
      existingDirect
          ((findDirectRoomCandidates db userId targetUserId).rotate
            order) =
        some view) :
    view.room ∈ db.rooms ∧
      IsDirectRoom db view.room userId targetUserId := by
  have two := List.find?_some found
  have listed := List.mem_of_find?_eq_some found
  rw [List.mem_rotate, mem_findDirectRoomCandidates] at listed
  rcases listed with ⟨room, inTable, ⟨direct, first, second⟩, rfl⟩
  refine ⟨inTable, (isDirectRoom_iff valid distinct).mpr ?_⟩
  exact ⟨direct, first, second, by simpa using two⟩

theorem existingDirect_eq_none_iff
    {db : Database} (valid : db.Valid) {userId targetUserId : UserId}
    (distinct : userId ≠ targetUserId) :
    existingDirect (findDirectRoomCandidates db userId targetUserId) =
        none ↔
      ∀ room ∈ db.rooms, ¬ IsDirectRoom db room userId targetUserId := by
  simp only [existingDirect, List.find?_eq_none,
    mem_findDirectRoomCandidates, beq_iff_eq]
  constructor
  · intro absent room inTable direct
    have parts := (isDirectRoom_iff valid distinct).mp direct
    exact
      absent _
        ⟨room, inTable, ⟨parts.1, parts.2.1, parts.2.2.1⟩, rfl⟩
        parts.2.2.2
  · rintro absent _ ⟨room, inTable, ⟨direct, first, second⟩, rfl⟩ two
    exact
      absent room inTable
        ((isDirectRoom_iff valid distinct).mpr
          ⟨direct, first, second, two⟩)

/-! ## The insert -/

section Insert

variable {db created : Database} {room : Room} {memberIds : List UserId}

theorem createRoom_eq_some_iff :
    createRoom db room memberIds = some created ↔
      (db.hasRoom room.id = false ∧ memberIds.Nodup ∧
          ∀ userId ∈ memberIds, db.hasUser userId = true) ∧
        { db with
          rooms := db.rooms ++ [room]
          roomMembers :=
            db.roomMembers ++
              memberIds.map fun userId =>
                { userId := userId
                  roomId := room.id
                  joinedAt := room.createdAt } } = created := by
  unfold createRoom
  split
  case isTrue accepted =>
      rw [Option.some.injEq]
      exact ⟨fun same => ⟨accepted, same⟩, And.right⟩
  case isFalse refused =>
      constructor
      · intro impossible
        cases impossible
      · rintro ⟨accepted, _⟩
        exact (refused accepted).elim

theorem ne_of_hasRoom_eq_false
    (fresh : db.hasRoom room.id = false) {old : Room}
    (inTable : old ∈ db.rooms) : old.id ≠ room.id := by
  intro same
  have present := (db.hasRoom_iff room.id).mpr ⟨old, inTable, same⟩
  rw [fresh] at present
  cases present

theorem createRoom_valid
    (valid : db.Valid)
    (inserted : createRoom db room memberIds = some created) :
    created.Valid := by
  rcases createRoom_eq_some_iff.mp inserted with
    ⟨⟨fresh, nodup, users⟩, rfl⟩
  have grows :
      ∀ id, db.hasRoom id = true →
        (db.rooms ++ [room]).any (fun row => row.id == id) = true := by
    intro id present
    rw [List.any_append]
    exact Bool.or_eq_true_iff.mpr (.inl present)
  exact
    { valid with
      rooms := by
        rw [List.map_append, List.nodup_append]
        refine ⟨valid.rooms, by simp, ?_⟩
        intro id listed other single same
        rcases List.mem_map.mp listed with ⟨old, inTable, rfl⟩
        simp only [List.map_cons, List.map_nil,
          List.mem_singleton] at single
        exact
          ne_of_hasRoom_eq_false fresh inTable (same.trans single)
      roomMembers := by
        rw [List.map_append, List.nodup_append]
        refine ⟨valid.roomMembers, ?_, ?_⟩
        · rw [List.map_map]
          exact
            nodup.map_on fun first _ second _ same =>
              congrArg Prod.fst same
        · intro key listed other added same
          rcases List.mem_map.mp listed with ⟨old, inTable, rfl⟩
          rw [List.map_map, List.mem_map] at added
          rcases added with ⟨userId, _, rfl⟩
          have present := valid.memberRoom old inTable
          have inRoom : old.roomId = room.id := congrArg Prod.snd same
          rw [inRoom, fresh] at present
          cases present
      memberUser := by
        intro member listed
        rcases List.mem_append.mp listed with old | new
        · exact valid.memberUser member old
        · rcases List.mem_map.mp new with ⟨userId, chosen, rfl⟩
          exact users userId chosen
      memberRoom := by
        intro member listed
        rcases List.mem_append.mp listed with old | new
        · exact grows _ (valid.memberRoom member old)
        · rcases List.mem_map.mp new with ⟨userId, _, rfl⟩
          simp [Database.hasRoom]
      messageRoom := fun message inTable =>
        grows _ (valid.messageRoom message inTable)
      writeRoom := fun write inTable =>
        grows _ (valid.writeRoom write inTable) }

/-- The members of the rooms there were stay as they are. -/
theorem isDirectRoom_old_iff
    (inserted : createRoom db room memberIds = some created)
    {old : Room} (inTable : old ∈ db.rooms)
    (userId targetUserId : UserId) :
    IsDirectRoom created old userId targetUserId ↔
      IsDirectRoom db old userId targetUserId := by
  rcases createRoom_eq_some_iff.mp inserted with ⟨⟨fresh, _, _⟩, rfl⟩
  have different := ne_of_hasRoom_eq_false fresh inTable
  simp only [IsDirectRoom, List.mem_append, or_and_right, exists_or,
    List.mem_map]
  have none :
      ∀ memberId,
        ¬ ∃ member : RoomMember,
            (∃ userId ∈ memberIds,
                { userId := userId
                  roomId := room.id
                  joinedAt := room.createdAt } = member) ∧
              member.roomId = old.id ∧ member.userId = memberId := by
    rintro memberId ⟨_, ⟨userId, _, rfl⟩, inRoom, _⟩
    exact different inRoom.symm
  simp only [none, or_false]

/-- The members of the new room are those it was created with. -/
theorem isDirectRoom_new_iff
    (valid : db.Valid)
    (inserted : createRoom db room memberIds = some created)
    (userId targetUserId : UserId) :
    IsDirectRoom created room userId targetUserId ↔
      room.isGroup = false ∧
        ∀ memberId,
          memberId ∈ memberIds ↔
            memberId = userId ∨ memberId = targetUserId := by
  rcases createRoom_eq_some_iff.mp inserted with ⟨⟨fresh, _, _⟩, rfl⟩
  have members :
      ∀ memberId,
        (∃ member ∈
            db.roomMembers ++
              memberIds.map fun userId =>
                { userId := userId
                  roomId := room.id
                  joinedAt := room.createdAt },
            member.roomId = room.id ∧ member.userId = memberId) ↔
          memberId ∈ memberIds := by
    intro memberId
    constructor
    · rintro ⟨member, listed, inRoom, rfl⟩
      rcases List.mem_append.mp listed with old | new
      · have present := valid.memberRoom member old
        rw [inRoom, fresh] at present
        cases present
      · rcases List.mem_map.mp new with ⟨userId, chosen, rfl⟩
        exact chosen
    · intro chosen
      exact
        ⟨_, List.mem_append_right _ (List.mem_map_of_mem chosen), rfl,
          rfl⟩
  simp only [IsDirectRoom, members]

end Insert

/-! ## Calls -/

/-- What the stage of a call says about the database. -/
def Sensible (db : Database) (userId : UserId) : Stage → Prop
  | .findingCandidates targetUser | .creatingDirect targetUser =>
      userId ≠ targetUser.id
  | .returnedDirect targetUser _ chat =>
      ∃ room ∈ db.rooms,
        IsDirectRoom db room userId targetUser.id ∧ chat.id = room.id
  | _ => True

/-- What every step keeps while the lookups still hold. -/
structure Consistent (state : State) : Prop where
  valid : state.db.Valid
  oneRoom :
    ∀ userId targetUserId, userId ≠ targetUserId →
      ∀ first ∈ state.db.rooms, ∀ second ∈ state.db.rooms,
        IsDirectRoom state.db first userId targetUserId →
          IsDirectRoom state.db second userId targetUserId →
            first = second
  sensible :
    ∀ call ∈ state.calls, Sensible state.db call.userId call.stage

theorem Consistent.unique {state : State} (consistent : Consistent state) :
    Unique state where
  oneRoom := consistent.oneRoom
  sameRoom := by
    intro call member targetUser status chat returned
    have sensible := consistent.sensible call member
    rw [returned] at sensible
    exact sensible

theorem firstStage_sensible
    (db : Database) (userId : UserId) (body : CreateChatRequest) :
    Sensible db userId (firstStage body) := by
  unfold firstStage validationFailed
  split
  · split
    · split <;> trivial
    · split
      · split
        · trivial
        · split <;> trivial
      · trivial
  · trivial

theorem afterTarget_sensible
    (db : Database) (userId : UserId) (rawTarget : String)
    (targetUser : Option User) :
    Sensible db userId (afterTarget userId rawTarget targetUser) := by
  unfold afterTarget validationFailed
  split
  · trivial
  · split
    case isTrue => trivial
    case isFalse different => exact fun same => different same.symm

theorem afterMembers_sensible
    (db : Database) (userId : UserId) (name : String)
    (memberIds : List String) (resolved : List (Option (Option User))) :
    Sensible db userId
      (afterMembers userId name memberIds resolved) := by
  unfold afterMembers validationFailed
  split
  · dsimp only
    split <;> trivial
  · trivial

theorem afterCandidates_sensible
    {db : Database} (valid : db.Valid) {userId : UserId}
    {targetUser : User} (distinct : userId ≠ targetUser.id)
    (order : Nat) :
    Sensible db userId
      (afterCandidates targetUser
        ((findDirectRoomCandidates db userId targetUser.id).rotate
          order)) := by
  unfold afterCandidates
  split
  case h_1 existing found =>
      have direct := existing_isDirectRoom valid distinct found
      exact ⟨existing.room, direct.1, direct.2, rfl⟩
  case h_2 => exact distinct

/-- A room that is inserted takes no other call's room away. -/
theorem Sensible.grow
    {db created : Database} {room : Room} {memberIds : List UserId}
    (inserted : createRoom db room memberIds = some created)
    {userId : UserId} {stage : Stage}
    (sensible : Sensible db userId stage) :
    Sensible created userId stage := by
  cases stage with
  | returnedDirect targetUser status chat =>
      rcases sensible with ⟨old, inTable, direct, same⟩
      refine ⟨old, ?_, ?_, same⟩
      · rcases createRoom_eq_some_iff.mp inserted with ⟨_, rfl⟩
        exact List.mem_append_left _ inTable
      · exact (isDirectRoom_old_iff inserted inTable _ _).mpr direct
  | findingCandidates | creatingDirect => exact sensible
  | _ => trivial

/-- What one query can do: nothing to the rooms, or insert one. -/
inductive Effect
    (db : Database) (call : Call) (answer : Answer) :
    Database → Prop where
  | unchanged : Effect db call answer db
  | group {created : Database} {name : String} {allIds : List UserId} :
      createGroupRoom db answer.id answer.now name allIds =
          some created →
        Effect db call answer created
  | direct {created : Database} (targetUser : User) :
      call.stage = .creatingDirect targetUser →
        answer.connection ≠ .lostBefore →
          createDirectRoom db answer.id answer.now call.userId
              targetUser.id =
            some created →
          Effect db call answer created

theorem answerQuery_spec
    {db : Database} (valid : db.Valid) {call : Call} {answer : Answer}
    (sent : answer.connection ≠ .lostBefore)
    (sensible : Sensible db call.userId call.stage) :
    Effect db call answer
        (answerQuery db call.userId answer call.stage).1 ∧
      Sensible (answerQuery db call.userId answer call.stage).1
        call.userId
        (answerQuery db call.userId answer call.stage).2 := by
  rcases call with ⟨userId, stage⟩
  cases stage with
  | findingUser rawTarget =>
      exact ⟨.unchanged, afterTarget_sensible db userId rawTarget _⟩
  | findingCandidates targetUser =>
      exact ⟨.unchanged, afterCandidates_sensible valid sensible _⟩
  | creatingDirect targetUser =>
      change userId ≠ targetUser.id at sensible
      simp only [answerQuery]
      split
      case h_1 => exact ⟨.unchanged, trivial⟩
      case h_2 created inserted =>
          refine ⟨.direct targetUser rfl sent inserted, ?_⟩
          have direct :=
            (isDirectRoom_new_iff valid inserted userId
                targetUser.id).mpr
              ⟨rfl, by simp⟩
          refine ⟨directRoom answer.id answer.now, ?_, direct, rfl⟩
          rcases createRoom_eq_some_iff.mp inserted with ⟨_, rfl⟩
          exact List.mem_append_right _ (List.mem_singleton_self _)
  | findingMembers name memberIds resolved =>
      simp only [answerQuery]
      split
      case h_1 => exact ⟨.unchanged, trivial⟩
      case h_2 =>
          exact
            ⟨.unchanged, afterMembers_sensible db userId name memberIds _⟩
  | creatingGroup name allIds =>
      simp only [answerQuery]
      split
      case h_1 => exact ⟨.unchanged, trivial⟩
      case h_2 created inserted => exact ⟨.group inserted, trivial⟩
  | returnedDirect | returnedGroup | failed => exact ⟨.unchanged, sensible⟩

theorem runQuery_spec
    {db : Database} (valid : db.Valid) {call : Call} (answer : Answer)
    (sensible : Sensible db call.userId call.stage) :
    Effect db call answer (runQuery db call answer).1 ∧
      Sensible (runQuery db call answer).1 call.userId
        (runQuery db call answer).2 := by
  unfold runQuery
  split
  case isTrue => exact ⟨.unchanged, sensible⟩
  case isFalse =>
      cases connection : answer.connection with
      | kept =>
          exact answerQuery_spec valid (by simp [connection]) sensible
      | lostBefore => exact ⟨.unchanged, trivial⟩
      | lostAfter =>
          exact
            ⟨(answerQuery_spec valid (by simp [connection])
                sensible).1, trivial⟩

theorem Effect.valid
    {db created : Database} {call : Call} {answer : Answer}
    (effect : Effect db call answer created) (valid : db.Valid) :
    created.Valid := by
  cases effect with
  | unchanged => exact valid
  | group inserted => exact createRoom_valid valid inserted
  | direct _ _ _ inserted => exact createRoom_valid valid inserted

theorem Effect.sensible
    {db created : Database} {call : Call} {answer : Answer}
    (effect : Effect db call answer created)
    {userId : UserId} {stage : Stage}
    (sensible : Sensible db userId stage) :
    Sensible created userId stage := by
  cases effect with
  | unchanged => exact sensible
  | group inserted => exact sensible.grow inserted
  | direct _ _ _ inserted => exact sensible.grow inserted

/-! ## Steps -/

/-- An insert gives no two users a second room unless they have one. -/
theorem oneRoom_insert
    {db created : Database} {room : Room} {memberIds : List UserId}
    (inserted : createRoom db room memberIds = some created)
    {userId targetUserId : UserId}
    (oneRoom :
      ∀ first ∈ db.rooms, ∀ second ∈ db.rooms,
        IsDirectRoom db first userId targetUserId →
          IsDirectRoom db second userId targetUserId →
            first = second)
    (absent :
      IsDirectRoom created room userId targetUserId →
        ∀ old ∈ db.rooms, ¬ IsDirectRoom db old userId targetUserId) :
    ∀ first ∈ created.rooms, ∀ second ∈ created.rooms,
      IsDirectRoom created first userId targetUserId →
        IsDirectRoom created second userId targetUserId →
          first = second := by
  have listed :
      ∀ row ∈ created.rooms, row ∈ db.rooms ∨ row = room := by
    rcases createRoom_eq_some_iff.mp inserted with ⟨_, rfl⟩
    simp
  intro first firstListed second secondListed firstDirect secondDirect
  rcases listed first firstListed with firstOld | rfl <;>
    rcases listed second secondListed with secondOld | rfl
  · exact
      oneRoom first firstOld second secondOld
        ((isDirectRoom_old_iff inserted firstOld _ _).mp firstDirect)
        ((isDirectRoom_old_iff inserted secondOld _ _).mp secondDirect)
  · exact
      (absent secondDirect first firstOld
        ((isDirectRoom_old_iff inserted firstOld _ _).mp
          firstDirect)).elim
  · exact
      (absent firstDirect second secondOld
        ((isDirectRoom_old_iff inserted secondOld _ _).mp
          secondDirect)).elim
  · rfl

/-- Rooms with the same two users, in either order. -/
theorem IsDirectRoom.of_pair
    {db : Database} {room : Room}
    {userId targetUserId firstId secondId : UserId}
    (direct : IsDirectRoom db room userId targetUserId)
    (samePair :
      ∀ memberId,
        memberId ∈ [firstId, secondId] ↔
          memberId = userId ∨ memberId = targetUserId) :
    IsDirectRoom db room firstId secondId := by
  refine ⟨direct.1, ?_⟩
  intro memberId
  rw [direct.2 memberId, ← samePair memberId]
  simp

theorem Effect.oneRoom
    {db created : Database} {call : Call} {answer : Answer}
    (effect : Effect db call answer created) (valid : db.Valid)
    (sensible : Sensible db call.userId call.stage)
    (holds :
      ∀ targetUser, call.stage = .creatingDirect targetUser →
        answer.connection ≠ .lostBefore →
          (createDirectRoom db answer.id answer.now call.userId
              targetUser.id).isSome →
            existingDirect
                (findDirectRoomCandidates db call.userId
                  targetUser.id) =
              none)
    {userId targetUserId : UserId}
    (oneRoom :
      ∀ first ∈ db.rooms, ∀ second ∈ db.rooms,
        IsDirectRoom db first userId targetUserId →
          IsDirectRoom db second userId targetUserId →
            first = second) :
    ∀ first ∈ created.rooms, ∀ second ∈ created.rooms,
      IsDirectRoom created first userId targetUserId →
        IsDirectRoom created second userId targetUserId →
          first = second := by
  cases effect with
  | unchanged => exact oneRoom
  | group inserted =>
      apply oneRoom_insert inserted oneRoom
      intro direct
      cases direct.1
  | direct targetUser stage sent inserted =>
      apply oneRoom_insert inserted oneRoom
      intro direct old inTable oldDirect
      have samePair :=
        ((isDirectRoom_new_iff valid inserted _ _).mp direct).2
      rw [stage] at sensible
      have absent :=
        (existingDirect_eq_none_iff valid sensible).mp
          (holds targetUser stage sent (by
            rw [inserted]
            rfl))
      exact absent old inTable (oldDirect.of_pair samePair)

theorem register_consistent
    {state : State} (consistent : Consistent state) (user : User) :
    Consistent (step state (.register user)) := by
  simp only [step]
  split
  case isFalse => exact consistent
  case isTrue fresh =>
      have new :
          ∀ old ∈ state.db.users,
            old.id ≠ user.id ∧ old.username ≠ user.username ∧
              old.email ≠ user.email := by
        simpa [registers, and_assoc] using fresh
      have keys :
          ∀ {Key : Type} (key : User → Key),
            (state.db.users.map key).Nodup →
              (∀ old ∈ state.db.users, key old ≠ key user) →
                ((state.db.users ++ [user]).map key).Nodup := by
        intro Key key nodup different
        rw [List.map_append, List.nodup_append]
        refine ⟨nodup, by simp, ?_⟩
        intro first listed second single same
        rcases List.mem_map.mp listed with ⟨old, inTable, rfl⟩
        simp only [List.map_cons, List.map_nil,
          List.mem_singleton] at single
        exact different old inTable (same.trans single)
      have grows :
          ∀ id, state.db.hasUser id = true →
            (state.db.users ++ [user]).any (fun row => row.id == id) =
              true := by
        intro id present
        rw [List.any_append]
        exact Bool.or_eq_true_iff.mpr (.inl present)
      exact
        { valid :=
            { consistent.valid with
              users :=
                keys User.id consistent.valid.users fun old inTable =>
                  (new old inTable).1
              usernames :=
                keys User.username consistent.valid.usernames
                  fun old inTable => (new old inTable).2.1
              emails :=
                keys User.email consistent.valid.emails
                  fun old inTable => (new old inTable).2.2
              memberUser := fun member inTable =>
                grows _ (consistent.valid.memberUser member inTable)
              messageSender := fun message inTable =>
                grows _ (consistent.valid.messageSender message inTable)
              writeSender := fun write inTable =>
                grows _ (consistent.valid.writeSender write inTable) }
          oneRoom := consistent.oneRoom
          sensible := fun call member => by
            have sensible := consistent.sensible call member
            cases stage : call.stage <;> rw [stage] at sensible <;>
              exact sensible }

theorem call_consistent
    {state : State} (consistent : Consistent state)
    (userId : UserId) (body : CreateChatRequest) :
    Consistent (step state (.call userId body)) where
  valid := consistent.valid
  oneRoom := consistent.oneRoom
  sensible := by
    intro call member
    rcases List.mem_append.mp member with old | new
    · exact consistent.sensible call old
    · rw [List.mem_singleton] at new
      subst new
      exact firstStage_sensible state.db userId body

theorem query_consistent
    {state : State} (consistent : Consistent state)
    {index : Nat} {answer : Answer}
    (holds : LookupStillHolds state (.query index answer)) :
    Consistent (step state (.query index answer)) := by
  simp only [step]
  split
  case h_1 => exact consistent
  case h_2 call found =>
      have listed := List.mem_of_getElem? found
      have sensible := consistent.sensible call listed
      have spec :=
        runQuery_spec consistent.valid answer sensible
      exact
        { valid := spec.1.valid consistent.valid
          oneRoom := fun userId targetUserId distinct =>
            spec.1.oneRoom consistent.valid sensible
              (holds call found)
              (consistent.oneRoom userId targetUserId distinct)
          sensible := by
            intro other member
            rcases List.mem_or_eq_of_mem_set member with old | rfl
            · exact spec.1.sensible (consistent.sensible other old)
            · exact spec.2 }

theorem step_consistent
    (state : State) (event : Event) (consistent : Consistent state)
    (holds : LookupStillHolds state event) :
    Consistent (step state event) := by
  cases event with
  | register user => exact register_consistent consistent user
  | call userId body => exact call_consistent consistent userId body
  | query index answer => exact query_consistent consistent holds

/-- A late insert gives the two users their second room at once. -/
theorem lookupStillHolds_of_unique
    {state : State} (consistent : Consistent state)
    {index : Nat} {answer : Answer}
    (unique : Unique (step state (.query index answer))) :
    LookupStillHolds state (.query index answer) := by
  intro call found targetUser stage sent inserts
  rcases Option.isSome_iff_exists.mp inserts with ⟨created, inserted⟩
  have sensible :=
    consistent.sensible call (List.mem_of_getElem? found)
  rw [stage] at sensible
  change call.userId ≠ targetUser.id at sensible
  rw [existingDirect_eq_none_iff consistent.valid sensible]
  intro old inTable direct
  have database :
      (step state (.query index answer)).db = created := by
    simp only [step, found, runQuery, stage, Stage.isOver]
    cases connection : answer.connection with
    | lostBefore => exact (sent connection).elim
    | kept => simp [answerQuery, inserted]
    | lostAfter => simp [answerQuery, inserted]
  have oneRoom := unique.oneRoom call.userId targetUser.id sensible
  rw [database] at oneRoom
  have newDirect :
      IsDirectRoom created (directRoom answer.id answer.now) call.userId
        targetUser.id :=
    (isDirectRoom_new_iff consistent.valid inserted _ _).mpr
      ⟨rfl, by simp⟩
  have oldDirect := (isDirectRoom_old_iff inserted inTable _ _).mpr direct
  rcases createRoom_eq_some_iff.mp inserted with ⟨⟨fresh, _, _⟩, rfl⟩
  have same :=
    oneRoom old (List.mem_append_left _ inTable)
      (directRoom answer.id answer.now)
      (List.mem_append_right _ (List.mem_singleton_self _))
      oldDirect newDirect
  exact ne_of_hasRoom_eq_false fresh inTable (congrArg Room.id same)

theorem empty_consistent : Consistent {} where
  valid := by constructor <;> simp
  oneRoom := by simp
  sensible := by simp

/-! ## Runs -/

/--
From an empty database, two users have one direct room after every step, and
the direct calls for them return its id, in exactly those runs in which every
insert comes while the lookup would still find nothing.
-/
theorem direct_chats_unique_iff (events : List Event) :
    EveryStep step (fun state event => Unique (step state event)) {}
        events ↔
      EveryStep step LookupStillHolds {} events := by
  apply everyStep_iff_guarded step_consistent ?_ empty_consistent
  intro state event consistent
  constructor
  · intro unique
    cases event with
    | register | call => trivial
    | query index answer =>
        exact lookupStillHolds_of_unique consistent unique
  · intro holds
    exact (step_consistent state event consistent holds).unique

def exampleUser (id : UserId) : User where
  id := id
  username := id
  displayName := id
  email := id
  password := ""
  createdAt := 0

/-- Alice and Bob ask for their chat at the same time. -/
def bothAsk : List Event :=
  [.register (exampleUser "alice"),
    .register (exampleUser "bob"),
    .call "alice"
      { type := some "direct", memberIds := some ["bob"] },
    .call "bob"
      { type := some "direct", memberIds := some ["alice"] },
    .query 0 {}, .query 1 {}, .query 0 {}, .query 1 {},
    .query 0 { id := "first" }, .query 1 { id := "second" }]

/-- Both lookups find nothing, and both calls insert a room. -/
theorem both_calls_insert : ¬ Unique (run step {} bothAsk) := by
  intro unique
  have rooms :
      (run step {} bothAsk).db.rooms =
        [directRoom "first" 0, directRoom "second" 0] := by
    decide
  have members :
      (run step {} bothAsk).db.roomMembers =
        [{ userId := "alice", roomId := "first", joinedAt := 0 },
          { userId := "bob", roomId := "first", joinedAt := 0 },
          { userId := "bob", roomId := "second", joinedAt := 0 },
          { userId := "alice", roomId := "second", joinedAt := 0 }] := by
    decide
  have same :=
    unique.oneRoom "alice" "bob" (by decide) (directRoom "first" 0)
      (by simp [rooms]) (directRoom "second" 0) (by simp [rooms])
      ⟨rfl, by simp [members, directRoom, eq_comm]⟩
      ⟨rfl, by simp [members, directRoom, eq_comm, or_comm]⟩
  exact absurd same (by decide)

end ChatBackend.Chats.DirectChats
