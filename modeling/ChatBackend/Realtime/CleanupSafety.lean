import ChatBackend.Realtime.PresenceCleanup

/-!
# The clean-up removes dead connections only

The invariant `Safe` says that every member of a set, and every connection
that a clean-up looks at, has had its key set.  `registerPresence` sets a key
only once, so what is missing stays missing: `State.KeepsGone`.
-/

namespace ChatBackend.Realtime.CleanupSafety

open ChatBackend.Foundation.EventRuns
open ChatBackend.Storage.Schema
open ChatBackend.Realtime.PresenceCommands (Lookup)
open ChatBackend.Realtime.PresenceCleanup

/-! ## The invariant -/

/-- `registerPresence` has set its key. -/
def hasSet : Stage → Bool
  | .adding _ => true
  | .publishing => true
  | .returned _ => true
  | _ => false

/-- A call for the user has set the key of the connection. -/
def WasSet
    (calls : List Call) (userId : UserId) (id : ConnectionId) : Prop :=
  ∃ call ∈ calls,
    call.request = .registerPresence userId id ∧
      hasSet call.stage = true

/-- What a clean-up looks at was set, and what it will remove is gone. -/
structure LookupSafe
    (redis : Redis) (calls : List Call) (userId : UserId)
    (lookup : Lookup ConnectionId) : Prop where
  wasSet :
    ∀ id, id ∈ lookup.gets ∨ id ∈ lookup.removals →
      WasSet calls userId id
  gone : ∀ id ∈ lookup.removals, redis.keys id = none

structure Safe (state : State) : Prop where
  keys :
    ∀ id key, state.redis.keys id = some key →
      WasSet state.calls key.userId id
  members :
    ∀ userId, ∀ id ∈ state.redis.connections userId,
      WasSet state.calls userId id
  lookups :
    ∀ call ∈ state.calls, ∀ lookup userId,
      call.stage = .looking lookup →
        call.request.askedUser = some userId →
          LookupSafe state.redis state.calls userId lookup

/-- A key that was set and is missing does not come back. -/
def KeepsGone (before after : State) : Prop :=
  ∀ userId id, WasSet before.calls userId id →
    before.redis.keys id = none → after.redis.keys id = none

/-! ## Registrations -/

/-- With distinct registrations a connection has one call. -/
theorem eq_of_registered
    {calls : List Call}
    (once : RegisteredOnce (calls.map Call.request))
    {first second : Call} (firstMember : first ∈ calls)
    (secondMember : second ∈ calls) {id : ConnectionId}
    (firstRegisters : first.request.registered = some id)
    (secondRegisters : second.request.registered = some id) :
    first = second := by
  have distinct := once.once
  rw [List.filterMap_map, List.Nodup, List.pairwise_filterMap]
    at distinct
  exact
    List.Pairwise.forall_of_forall_of_flip
      (R := fun left right =>
        left.request.registered = some id →
          right.request.registered = some id → left = right)
      (fun _ _ _ _ => rfl)
      (distinct.imp fun apart left right =>
        absurd rfl (apart id left id right))
      (distinct.imp fun apart right left =>
        absurd rfl (apart id left id right))
      firstMember secondMember firstRegisters secondRegisters

/-- The register that is about to set a key has not set it. -/
theorem not_wasSet
    {calls : List Call}
    (once : RegisteredOnce (calls.map Call.request))
    {call : Call} (member : call ∈ calls) {userId : UserId}
    {id : ConnectionId}
    (registers : call.request = .registerPresence userId id)
    (unset : hasSet call.stage = false) (other : UserId) :
    ¬ WasSet calls other id := by
  rintro ⟨setter, setterMember, setterRegisters, isSet⟩
  have same : call = setter :=
    eq_of_registered once member setterMember
      (by rw [registers]; rfl) (by rw [setterRegisters]; rfl)
  rw [same, isSet] at unset
  cases unset

theorem WasSet.named
    {calls : List Call}
    (once : RegisteredOnce (calls.map Call.request))
    {userId : UserId} {id : ConnectionId}
    (wasSet : WasSet calls userId id) : userId ≠ "" := by
  rcases wasSet with ⟨call, member, registers, _⟩
  apply once.named userId id
  rw [← registers]
  exact List.mem_map_of_mem member

theorem WasSet.unique
    {calls : List Call}
    (once : RegisteredOnce (calls.map Call.request))
    {first second : UserId} {id : ConnectionId}
    (firstSet : WasSet calls first id)
    (secondSet : WasSet calls second id) : first = second := by
  rcases firstSet with ⟨left, leftMember, leftRegisters, _⟩
  rcases secondSet with ⟨right, rightMember, rightRegisters, _⟩
  have same : left = right :=
    eq_of_registered once leftMember rightMember
      (by rw [leftRegisters]; rfl) (by rw [rightRegisters]; rfl)
  rw [same, rightRegisters] at leftRegisters
  cases leftRegisters
  rfl

/-! ## One command of a call -/

/-- What a command of a call can do, as far as the invariant goes. -/
structure Proceeds
    (redis : Redis) (calls : List Call) (call : Call)
    (outcome : Redis × Stage) : Prop where
  stage : hasSet call.stage = true → hasSet outcome.2 = true
  keys :
    ∀ id key, outcome.1.keys id = some key →
      (∃ old, redis.keys id = some old ∧ old.userId = key.userId) ∨
        call.request = .registerPresence key.userId id ∧
          hasSet call.stage = false ∧ hasSet outcome.2 = true
  members :
    ∀ userId, ∀ id ∈ outcome.1.connections userId,
      id ∈ redis.connections userId ∨
        call.request = .registerPresence userId id ∧
          hasSet call.stage = true
  lookup :
    ∀ lookup userId, outcome.2 = .looking lookup →
      call.request.askedUser = some userId →
        LookupSafe outcome.1 calls userId lookup

section Proceeding

variable {state : State} {index : Nat} {call : Call}
  {outcome : Redis × Stage}

theorem requests_proceed
    (found : state.calls[index]? = some call) :
    (state.proceed index call outcome).calls.map Call.request =
      state.calls.map Call.request := by
  apply List.ext_getElem?
  intro position
  simp only [State.proceed, List.getElem?_map, List.getElem?_set]
  split
  · rename_i same
    subst same
    rcases List.getElem?_eq_some_iff.mp found with ⟨inside, _⟩
    rw [if_pos inside, found]
    rfl
  · rfl

variable (found : state.calls[index]? = some call)
  (proceeds : Proceeds state.redis state.calls call outcome)

include found proceeds

theorem WasSet.proceed
    {userId : UserId} {id : ConnectionId}
    (wasSet : WasSet state.calls userId id) :
    WasSet (state.proceed index call outcome).calls userId id := by
  rcases wasSet with ⟨setter, member, registers, isSet⟩
  rcases List.getElem?_of_mem member with ⟨position, atPosition⟩
  by_cases same : index = position
  · subst same
    rw [found, Option.some.injEq] at atPosition
    subst atPosition
    rcases List.getElem?_eq_some_iff.mp found with ⟨inside, _⟩
    exact
      ⟨_, List.mem_set inside _, registers, proceeds.stage isSet⟩
  · refine ⟨setter, ?_, registers, isSet⟩
    apply List.mem_of_getElem? (i := position)
    simp only [State.proceed, List.getElem?_set, if_neg same]
    exact atPosition

variable (once : RegisteredOnce (state.calls.map Call.request))

include once

theorem proceed_keepsGone :
    KeepsGone state (state.proceed index call outcome) := by
  intro userId id wasSet gone
  by_contra present
  rcases Option.ne_none_iff_exists'.mp present with ⟨key, found'⟩
  rcases proceeds.keys id key found' with
    ⟨old, oldFound, _⟩ | ⟨registers, unset, _⟩
  · rw [gone] at oldFound
    cases oldFound
  · exact
      not_wasSet once (List.mem_of_getElem? found) registers unset userId
        wasSet

theorem Safe.proceed (safe : Safe state) :
    Safe (state.proceed index call outcome) := by
  have keepsGone := proceed_keepsGone found proceeds once
  rcases List.getElem?_eq_some_iff.mp found with ⟨inside, _⟩
  refine { keys := ?_, members := ?_, lookups := ?_ }
  · intro id key present
    rcases proceeds.keys id key present with
      ⟨old, oldFound, sameUser⟩ | ⟨registers, _, isSet⟩
    · rw [← sameUser]
      exact (safe.keys id old oldFound).proceed found proceeds
    · exact ⟨_, List.mem_set inside _, registers, isSet⟩
  · intro userId id member
    rcases proceeds.members userId id member with
      old | ⟨registers, isSet⟩
    · exact (safe.members userId id old).proceed found proceeds
    · have wasSet : WasSet state.calls userId id :=
        ⟨call, List.mem_of_getElem? found, registers, isSet⟩
      exact wasSet.proceed found proceeds
  · intro other member lookup userId looking asks
    rcases List.mem_or_eq_of_mem_set member with old | rfl
    · have before := safe.lookups other old lookup userId looking asks
      exact
        { wasSet := fun id looked =>
            (before.wasSet id looked).proceed found proceeds
          gone := fun id removed =>
            keepsGone userId id (before.wasSet id (.inr removed))
              (before.gone id removed) }
    · have now := proceeds.lookup lookup userId looking asks
      exact
        { wasSet := fun id looked =>
            (now.wasSet id looked).proceed found proceeds
          gone := now.gone }

end Proceeding

/-! ## All commands -/

section Commands

variable {state : State} {call : Call}

/-- A command that does not ask, set a key or add a member. -/
theorem Proceeds.quiet
    {after : Redis} {next : Stage}
    (keys :
      ∀ id key, after.keys id = some key →
        ∃ old, state.redis.keys id = some old ∧
          old.userId = key.userId)
    (members :
      ∀ userId, after.connections userId ⊆
        state.redis.connections userId)
    (notUnset : hasSet call.stage = true → hasSet next = true)
    (notLooking : ∀ lookup, next ≠ .looking lookup) :
    Proceeds state.redis state.calls call (after, next) where
  stage := notUnset
  keys := fun id key present => .inl (keys id key present)
  members := fun userId _ inSet => .inl (members userId inSet)
  lookup := fun lookup _ looking => absurd looking (notLooking lookup)

/-- A command that leaves the keys and the sets alone. -/
theorem Proceeds.silent
    {after : Redis} {next : Stage}
    (sameKeys : after.keys = state.redis.keys)
    (sameMembers : after.connections = state.redis.connections)
    (notUnset : hasSet call.stage = true → hasSet next = true)
    (notLooking : ∀ lookup, next ≠ .looking lookup) :
    Proceeds state.redis state.calls call (after, next) :=
  .quiet
    (fun _ key present => ⟨key, sameKeys ▸ present, rfl⟩)
    (fun _ _ member => sameMembers ▸ member) notUnset notLooking

theorem Proceeds.del
    (connectionId : ConnectionId) {next : Stage}
    (notUnset : hasSet call.stage = true → hasSet next = true)
    (notLooking : ∀ lookup, next ≠ .looking lookup) :
    Proceeds state.redis state.calls call
      (state.redis.del connectionId, next) := by
  refine .quiet ?_ (fun _ _ member => member) notUnset notLooking
  intro id key present
  simp only [Redis.del, Function.update_apply] at present
  split at present
  · cases present
  · exact ⟨key, present, rfl⟩

theorem Proceeds.expire
    (connectionId : ConnectionId) {next : Stage}
    (notUnset : hasSet call.stage = true → hasSet next = true)
    (notLooking : ∀ lookup, next ≠ .looking lookup) :
    Proceeds state.redis state.calls call
      (state.redis.expire connectionId, next) := by
  refine .quiet ?_ (fun _ _ member => member) notUnset notLooking
  intro id key present
  simp only [Redis.expire, Function.update_apply] at present
  split at present
  · rename_i same
    rcases Option.map_eq_some_iff.mp present with ⟨old, found, rfl⟩
    exact ⟨old, same ▸ found, rfl⟩
  · exact ⟨key, present, rfl⟩

theorem sRem_subset
    (redis : Redis) (userId other : UserId) (id : ConnectionId) :
    (redis.sRem userId id).connections other ⊆
      redis.connections other := by
  simp only [Redis.sRem, Function.update_apply]
  split
  · rename_i same
    rw [same]
    exact Finset.erase_subset _ _
  · exact Finset.Subset.refl _

theorem Proceeds.sRem
    (userId : UserId) (connectionId : ConnectionId) {next : Stage}
    (notUnset : hasSet call.stage = true → hasSet next = true)
    (notLooking : ∀ lookup, next ≠ .looking lookup) :
    Proceeds state.redis state.calls call
      (state.redis.sRem userId connectionId, next) :=
  .quiet (fun _ key present => ⟨key, present, rfl⟩)
    (fun other => sRem_subset state.redis userId other connectionId)
    notUnset notLooking

/-- `GET` of a key that exists takes the connection off the list. -/
theorem LookupSafe.read
    {userId : UserId} {lookup : Lookup ConnectionId}
    (before : LookupSafe state.redis state.calls userId lookup)
    (target : ConnectionId) :
    LookupSafe state.redis state.calls userId
      { lookup with
        gets := lookup.gets.erase target
        online := true } where
  wasSet := by
    rintro id (unread | removed)
    · exact before.wasSet id (.inl (Finset.mem_of_mem_erase unread))
    · exact before.wasSet id (.inr removed)
  gone := before.gone

/-- `GET` of a missing key puts the connection up for removal. -/
theorem LookupSafe.missed
    {userId : UserId} {lookup : Lookup ConnectionId}
    (before : LookupSafe state.redis state.calls userId lookup)
    {target : ConnectionId} (unread : target ∈ lookup.gets)
    (missing : state.redis.keys target = none) :
    LookupSafe state.redis state.calls userId
      { lookup with
        gets := lookup.gets.erase target
        removals := insert target lookup.removals } where
  wasSet := by
    rintro id (stillUnread | removed)
    · exact before.wasSet id (.inl (Finset.mem_of_mem_erase stillUnread))
    · rcases Finset.mem_insert.mp removed with rfl | old
      · exact before.wasSet id (.inl unread)
      · exact before.wasSet id (.inr old)
  gone := by
    intro id removed
    rcases Finset.mem_insert.mp removed with rfl | old
    · exact missing
    · exact before.gone id old

theorem LookupSafe.removed
    {userId : UserId} {lookup : Lookup ConnectionId}
    (before : LookupSafe state.redis state.calls userId lookup)
    (target : ConnectionId) :
    LookupSafe state.redis state.calls userId
      { lookup with removals := lookup.removals.erase target } where
  wasSet := by
    rintro id (unread | removed)
    · exact before.wasSet id (.inl unread)
    · exact before.wasSet id (.inr (Finset.mem_of_mem_erase removed))
  gone := fun id removed =>
    before.gone id (Finset.mem_of_mem_erase removed)

/-- A command of a clean-up sets no key and adds no member. -/
theorem Proceeds.looking
    {userId : UserId} (asks : call.request.askedUser = some userId)
    {lookup : Lookup ConnectionId} (looking : call.stage = .looking lookup)
    {after : Redis} {next : Lookup ConnectionId}
    (sameKeys : after.keys = state.redis.keys)
    (fewer :
      ∀ other, after.connections other ⊆ state.redis.connections other)
    (nextSafe : LookupSafe state.redis state.calls userId next) :
    Proceeds state.redis state.calls call (after, .looking next) where
  stage := by
    rw [looking]
    exact fun isSet => isSet
  keys := fun _ key present => .inl ⟨key, sameKeys ▸ present, rfl⟩
  members := fun other _ inSet => .inl (fewer other inSet)
  lookup := by
    rintro _ other ⟨⟩ asksOther
    rw [asks] at asksOther
    cases asksOther
    exact
      { wasSet := nextSafe.wasSet
        gone := fun id removed =>
          (congrFun sameKeys id).trans (nextSafe.gone id removed) }

variable (safe : Safe state) (member : call ∈ state.calls)

include safe

/-- `SMEMBERS` finds connections whose keys were set. -/
theorem Proceeds.sMembers
    {userId : UserId} (asks : call.request.askedUser = some userId)
    (unset : hasSet call.stage = false) :
    Proceeds state.redis state.calls call
      (state.redis, .looking (state.redis.sMembers userId)) where
  stage := by
    intro isSet
    rw [unset] at isSet
    cases isSet
  keys := fun _ key present => .inl ⟨key, present, rfl⟩
  members := fun _ _ inSet => .inl inSet
  lookup := by
    rintro _ other ⟨⟩ asksOther
    rw [asks] at asksOther
    cases asksOther
    refine { wasSet := ?_, gone := by simp [Redis.sMembers] }
    intro id looked
    simp only [Redis.sMembers, Finset.notMem_empty, or_false] at looked
    exact safe.members userId id looked

include member

/-- A call that is waiting, or has ended. -/
theorem Proceeds.stays :
    Proceeds state.redis state.calls call (state.redis, call.stage) where
  stage := fun isSet => isSet
  keys := fun _ key present => .inl ⟨key, present, rfl⟩
  members := fun _ _ inSet => .inl inSet
  lookup := safe.lookups call member

theorem registerPresence_proceeds
    {userId : UserId} {connectionId : ConnectionId}
    (registers :
      call.request = .registerPresence userId connectionId) :
    Proceeds state.redis state.calls call
      (registerPresence state.redis userId connectionId call.stage) := by
  have stays := Proceeds.stays safe member
  have asks : call.request.askedUser = some userId := by
    rw [registers]
    rfl
  cases stage : call.stage with
  | asking => exact .sMembers safe asks (by rw [stage]; rfl)
  | looking lookup =>
      simp only [registerPresence]
      split
      · refine
          { stage := fun _ => rfl
            keys := ?_
            members := fun _ _ inSet => .inl inSet
            lookup := fun _ _ looking => by cases looking }
        intro id key present
        simp only [Redis.set, Function.update_apply] at present
        split at present
        · rename_i same
          cases present
          refine .inr ⟨?_, by rw [stage]; rfl, rfl⟩
          rw [registers, same]
        · exact .inl ⟨key, present, rfl⟩
      · rw [stage] at stays
        exact stays
  | adding wasOnline =>
      refine
        { stage := fun _ => ?_
          keys := fun _ key present => .inl ⟨key, present, rfl⟩
          members := ?_
          lookup := fun _ _ looking => ?_ }
      · simp only [registerPresence]
        split <;> rfl
      · intro other id inSet
        simp only [registerPresence, Redis.sAdd,
          Function.update_apply] at inSet
        split at inSet
        · rename_i same
          rcases Finset.mem_insert.mp inSet with rfl | old
          · refine .inr ⟨?_, by rw [stage]; rfl⟩
            rw [registers, same]
          · exact .inl (same ▸ old)
        · exact .inl inSet
      · simp only [registerPresence] at looking
        split at looking <;> cases looking
  | publishing =>
      exact
        .silent rfl rfl (fun _ => rfl) (fun _ looking => by cases looking)
  | _ =>
      rw [stage] at stays
      exact stays

theorem unregisterPresence_proceeds
    {userId : UserId} {connectionId : ConnectionId}
    (unregisters :
      call.request = .unregisterPresence userId connectionId) :
    Proceeds state.redis state.calls call
      (unregisterPresence state.redis userId connectionId
        call.stage) := by
  have stays := Proceeds.stays safe member
  have asks : call.request.askedUser = some userId := by
    rw [unregisters]
    rfl
  cases stage : call.stage with
  | deleting =>
      exact
        .del connectionId (by rw [stage]; exact fun isSet => isSet)
          (fun _ looking => by cases looking)
  | removing =>
      exact
        .sRem userId connectionId (by rw [stage]; exact fun isSet => isSet)
          (fun _ looking => by cases looking)
  | asking => exact .sMembers safe asks (by rw [stage]; rfl)
  | looking lookup =>
      simp only [unregisterPresence]
      split
      · split
        · exact
            .silent rfl rfl (fun _ => rfl)
              (fun _ looking => by cases looking)
        · exact
            .silent rfl rfl (fun _ => rfl)
              (fun _ looking => by cases looking)
      · rw [stage] at stays
        exact stays
  | publishing =>
      exact
        .silent rfl rfl (fun _ => rfl) (fun _ looking => by cases looking)
  | _ =>
      rw [stage] at stays
      exact stays

theorem isUserOnline_proceeds
    {userId : UserId} (asksOnline : call.request = .isUserOnline userId) :
    Proceeds state.redis state.calls call
      (isUserOnline state.redis userId call.stage) := by
  have stays := Proceeds.stays safe member
  have asks : call.request.askedUser = some userId := by
    rw [asksOnline]
    rfl
  cases stage : call.stage with
  | asking => exact .sMembers safe asks (by rw [stage]; rfl)
  | looking lookup =>
      simp only [isUserOnline]
      split
      · exact
          .silent rfl rfl (fun _ => rfl)
            (fun _ looking => by cases looking)
      · rw [stage] at stays
        exact stays
  | _ =>
      rw [stage] at stays
      exact stays

theorem refreshPresence_proceeds (connectionId : ConnectionId) :
    Proceeds state.redis state.calls call
      (refreshPresence state.redis connectionId call.stage) := by
  have stays := Proceeds.stays safe member
  cases stage : call.stage with
  | refreshing =>
      exact
        .expire connectionId (fun _ => rfl)
          (fun _ looking => by cases looking)
  | _ =>
      rw [stage] at stays
      exact stays

theorem runCommand_proceeds :
    Proceeds state.redis state.calls call
      (runCommand state.redis call) := by
  unfold runCommand
  split
  case h_1 registers =>
      exact registerPresence_proceeds safe member registers
  case h_2 connectionId _ =>
      exact refreshPresence_proceeds safe member connectionId
  case h_3 unregisters =>
      exact unregisterPresence_proceeds safe member unregisters
  case h_4 asksOnline => exact isUserOnline_proceeds safe member asksOnline

omit member in
/-- A key whose value is falsy does not exist. -/
theorem keys_eq_none
    (once : RegisteredOnce (state.calls.map Call.request))
    {id : ConnectionId} (falsy : state.redis.hasKey id ≠ true) :
    state.redis.keys id = none := by
  cases found : state.redis.keys id with
  | none => rfl
  | some key =>
      have named := (safe.keys id key found).named once
      simp [Redis.hasKey, found, named] at falsy

theorem runLookup_proceeds
    (once : RegisteredOnce (state.calls.map Call.request))
    (target : ConnectionId) :
    Proceeds state.redis state.calls call
      (runLookup state.redis call target) := by
  unfold runLookup
  split
  case h_2 => exact .stays safe member
  case h_1 userId lookup asks looking =>
      have before :=
        safe.lookups call member lookup userId looking asks
      have sameSets :
          ∀ other, state.redis.connections other ⊆
            state.redis.connections other :=
        fun _ => Finset.Subset.refl _
      unfold ask
      split
      · rename_i unread
        split
        · exact .looking asks looking rfl sameSets (before.read target)
        · rename_i falsy
          have missing := keys_eq_none safe once falsy
          exact
            .looking asks looking rfl sameSets
              (before.missed unread missing)
      · split
        · exact
            .looking asks looking rfl
              (fun other => sRem_subset state.redis userId other target)
              (before.removed target)
        · exact .looking asks looking rfl sameSets before

end Commands

/-! ## Steps and runs -/

theorem WasSet.append
    {calls added : List Call} {userId : UserId} {id : ConnectionId}
    (wasSet : WasSet calls userId id) :
    WasSet (calls ++ added) userId id := by
  rcases wasSet with ⟨setter, member, registers, isSet⟩
  exact ⟨setter, List.mem_append_left _ member, registers, isSet⟩

/-- A new call has asked nothing yet. -/
theorem Safe.call
    {state : State} (safe : Safe state) (request : Request) :
    Safe (step state (.call request)) where
  keys := fun id key present => (safe.keys id key present).append
  members := fun userId id inSet => (safe.members userId id inSet).append
  lookups := by
    intro other member lookup userId looking asks
    rcases List.mem_append.mp member with old | new
    · have before := safe.lookups other old lookup userId looking asks
      exact
        { wasSet := fun id looked => (before.wasSet id looked).append
          gone := before.gone }
    · rw [List.mem_singleton] at new
      subst new
      cases request <;> cases looking

/-- Keys that go by themselves. -/
theorem Safe.fewerKeys
    {state : State} (safe : Safe state) {after : Redis}
    (fewer :
      ∀ id key, after.keys id = some key →
        state.redis.keys id = some key)
    (sameMembers : after.connections = state.redis.connections) :
    Safe { state with redis := after } ∧
      KeepsGone state { state with redis := after } := by
  have stillGone :
      ∀ id, state.redis.keys id = none → after.keys id = none := by
    intro id gone
    by_contra present
    rcases Option.ne_none_iff_exists'.mp present with ⟨key, found⟩
    rw [fewer id key found] at gone
    cases gone
  refine ⟨{ keys := ?_, members := ?_, lookups := ?_ }, ?_⟩
  · exact fun id key present => safe.keys id key (fewer id key present)
  · intro userId id inSet
    exact safe.members userId id (sameMembers ▸ inSet)
  · intro other member lookup userId looking asks
    have before := safe.lookups other member lookup userId looking asks
    exact
      { wasSet := before.wasSet
        gone := fun id removed => stillGone id (before.gone id removed) }
  · exact fun _ id _ gone => stillGone id gone

theorem step_safe
    {state : State} (safe : Safe state)
    (once : RegisteredOnce (state.calls.map Call.request))
    (event : Event) :
    Safe (step state event) ∧ KeepsGone state (step state event) := by
  cases event with
  | call request => exact ⟨safe.call request, fun _ _ _ gone => gone⟩
  | command index =>
      simp only [step]
      split
      case h_1 => exact ⟨safe, fun _ _ _ gone => gone⟩
      case h_2 call found =>
          have proceeds :=
            runCommand_proceeds safe (List.mem_of_getElem? found)
          exact
            ⟨safe.proceed found proceeds once,
              proceed_keepsGone found proceeds once⟩
  | lookup index member =>
      simp only [step]
      split
      case h_1 => exact ⟨safe, fun _ _ _ gone => gone⟩
      case h_2 call found =>
          have proceeds :=
            runLookup_proceeds safe (List.mem_of_getElem? found) once
              member
          exact
            ⟨safe.proceed found proceeds once,
              proceed_keepsGone found proceeds once⟩
  | expire connectionId =>
      refine safe.fewerKeys ?_ rfl
      intro id key present
      simp only [Redis.del, Function.update_apply] at present
      split at present
      · cases present
      · exact present
  | elapse seconds =>
      refine safe.fewerKeys ?_ rfl
      intro id key present
      exact (Option.filter_eq_some_iff.mp present).1

theorem requests_step (state : State) (event : Event) :
    (step state event).calls.map Call.request =
      state.calls.map Call.request ++ event.request.toList := by
  cases event with
  | call request => simp [step, Event.request]
  | command index =>
      simp only [step]
      split
      · simp [Event.request]
      · rename_i call found
        rw [requests_proceed found]
        simp [Event.request]
  | lookup index member =>
      simp only [step]
      split
      · simp [Event.request]
      · rename_i call found
        rw [requests_proceed found]
        simp [Event.request]
  | expire _ => simp [step, Event.request]
  | elapse _ => simp [step, Event.request]

theorem reached_append (events : List Event) (event : Event) :
    reached (events ++ [event]) = step (reached events) event := by
  unfold reached
  rw [run_append]
  rfl

/-- The calls are the calls of the events. -/
theorem requests_reached (events : List Event) :
    (reached events).calls.map Call.request =
      events.filterMap Event.request := by
  induction events using List.reverseRecOn with
  | nil => rfl
  | append_singleton events event induction =>
      rw [reached_append, requests_step, induction,
        List.filterMap_append]
      cases event <;> rfl

theorem once_left
    {first second : List Request}
    (once : RegisteredOnce (first ++ second)) : RegisteredOnce first where
  once := by
    have both := once.once
    rw [List.filterMap_append] at both
    exact (List.nodup_append.mp both).1
  named := fun userId id member =>
    once.named userId id (List.mem_append_left _ member)

/-- The requests of a run, before its last event. -/
theorem once_init
    {events : List Event} {event : Event}
    (once :
      RegisteredOnce ((events ++ [event]).filterMap Event.request)) :
    RegisteredOnce (events.filterMap Event.request) := by
  rw [List.filterMap_append] at once
  exact once_left once

theorem reached_once
    {events : List Event}
    (once : RegisteredOnce (events.filterMap Event.request)) :
    RegisteredOnce ((reached events).calls.map Call.request) := by
  rw [requests_reached]
  exact once

theorem reached_safe
    {events : List Event}
    (once : RegisteredOnce (events.filterMap Event.request)) :
    Safe (reached events) := by
  induction events using List.reverseRecOn with
  | nil =>
      exact
        { keys := fun _ _ present => by cases present
          members := fun _ _ inSet => by cases inSet
          lookups := fun _ member => by cases member }
  | append_singleton events event induction =>
      rw [reached_append]
      exact
        (step_safe (induction (once_init once)) (reached_once (once_init once))
          event).1

/-! ## Removals -/

/-- What a clean-up removes was set, and its key is gone. -/
theorem gone_of_removes
    {state : State} (safe : Safe state) {event : Event}
    {userId : UserId} {member : ConnectionId}
    (removes : Removes state event userId member) :
    WasSet state.calls userId member ∧
      state.redis.keys member = none := by
  rcases removes with
    ⟨index, call, lookup, _, found, asks, looking, _, removed⟩
  have before :=
    safe.lookups call (List.mem_of_getElem? found) lookup userId looking
      asks
  exact ⟨before.wasSet member (.inr removed), before.gone member removed⟩

theorem step_wasSet
    {state : State} (safe : Safe state)
    (once : RegisteredOnce (state.calls.map Call.request))
    (event : Event) {userId : UserId} {id : ConnectionId}
    (wasSet : WasSet state.calls userId id) :
    WasSet (step state event).calls userId id := by
  cases event with
  | call request => exact wasSet.append
  | command index =>
      simp only [step]
      split
      case h_1 => exact wasSet
      case h_2 call found =>
          exact
            wasSet.proceed found
              (runCommand_proceeds safe (List.mem_of_getElem? found))
  | lookup index member =>
      simp only [step]
      split
      case h_1 => exact wasSet
      case h_2 call found =>
          exact
            wasSet.proceed found
              (runLookup_proceeds safe (List.mem_of_getElem? found) once
                member)
  | expire _ => exact wasSet
  | elapse _ => exact wasSet

/-- A missing key that was set stays missing for the rest of a run. -/
theorem reached_keepsGone
    {before later : List Event}
    (once :
      RegisteredOnce ((before ++ later).filterMap Event.request))
    {userId : UserId} {id : ConnectionId}
    (wasSet : WasSet (reached before).calls userId id)
    (gone : (reached before).redis.keys id = none) :
    WasSet (reached (before ++ later)).calls userId id ∧
      (reached (before ++ later)).redis.keys id = none := by
  induction later using List.reverseRecOn with
  | nil =>
      rw [List.append_nil]
      exact ⟨wasSet, gone⟩
  | append_singleton later event induction =>
      rw [← List.append_assoc] at once ⊢
      rcases induction (once_init once) with ⟨stillSet, stillGone⟩
      have safe := reached_safe (once_init once)
      have onceBefore := reached_once (once_init once)
      rw [reached_append]
      exact
        ⟨step_wasSet safe onceBefore event stillSet,
          (step_safe safe onceBefore event).2 userId id stillSet
            stillGone⟩

/-! ## Answers -/

/-- The command that finds a key sets `online`; no other command does. -/
theorem saysOnline_runCommand
    {redis : Redis} {call : Call} {userId : UserId}
    (online :
      SaysOnline { call with stage := (runCommand redis call).2 }
        userId) :
    SaysOnline call userId := by
  rcases online with ⟨asks, answer⟩
  refine ⟨asks, ?_⟩
  rcases call with ⟨request, stage⟩
  cases request with
  | registerPresence user connectionId =>
      rcases answer with ⟨lookup, looking, found⟩ | ⟨isQuery, _⟩
      · cases stage <;>
          simp only [runCommand, registerPresence] at looking <;>
          try split at looking
        all_goals cases looking
        · cases found
        · exact .inl ⟨_, rfl, found⟩
      · cases isQuery
  | refreshPresence connectionId => cases asks
  | unregisterPresence user connectionId =>
      rcases answer with ⟨lookup, looking, found⟩ | ⟨isQuery, _⟩
      · cases stage <;>
          simp only [runCommand, unregisterPresence] at looking <;>
          try split at looking
        all_goals try split at looking
        all_goals cases looking
        · cases found
        · exact .inl ⟨_, rfl, found⟩
      · cases isQuery
  | isUserOnline user =>
      rcases answer with ⟨lookup, looking, found⟩ | ⟨isQuery, isTrue⟩
      · cases stage <;>
          simp only [runCommand, isUserOnline] at looking <;>
          try split at looking
        all_goals cases looking
        · cases found
        · exact .inl ⟨_, rfl, found⟩
      · cases stage <;>
          simp only [runCommand, isUserOnline] at isTrue <;>
          try split at isTrue
        all_goals
          try cases isTrue
        · rename_i lookup _
          have found : lookup.online = true := by
            simpa using isTrue
          exact .inl ⟨lookup, rfl, found⟩
        · exact .inr ⟨isQuery, rfl⟩

/-- A `GET` that sets `online` has found a key of the user. -/
theorem saysOnline_runLookup
    {state : State} (safe : Safe state)
    (once : RegisteredOnce (state.calls.map Call.request))
    {call : Call} (member : call ∈ state.calls) {target : ConnectionId}
    {userId : UserId}
    (online :
      SaysOnline
        { call with stage := (runLookup state.redis call target).2 }
        userId) :
    SaysOnline call userId ∨ KeyDuring state.redis call userId := by
  rcases online with ⟨asks, answer⟩
  unfold runLookup at answer
  split at answer
  case h_2 => exact .inl ⟨asks, answer⟩
  case h_1 user lookup asksUser looking =>
      have sameUser : user = userId :=
        Option.some.inj (asksUser.symm.trans asks)
      subst sameUser
      by_cases already : lookup.online = true
      · exact .inl ⟨asks, .inl ⟨lookup, looking, already⟩⟩
      · right
        refine ⟨⟨lookup, looking⟩, ?_⟩
        have before :=
          safe.lookups call member lookup user looking asks
        rcases answer with ⟨next, isNext, found⟩ | ⟨_, returned⟩
        · cases isNext
          simp only [ask] at found
          split at found
          · rename_i unread
            split at found
            · rename_i truthy
              cases present : state.redis.keys target with
              | none => simp [Redis.hasKey, present] at truthy
              | some key =>
                  have sameUser : key.userId = user :=
                    (safe.keys target key present).unique once
                      (before.wasSet target (.inl unread))
                  exact ⟨target, key, present, sameUser⟩
            · exact absurd found already
          · split at found
            · exact absurd found already
            · exact absurd found already
        · cases returned

theorem found_proceed
    {state : State} {index position : Nat} {running call : Call}
    {outcome : Redis × Stage}
    (isRunning : state.calls[index]? = some running)
    (found :
      (state.proceed index running outcome).calls[position]? =
        some call) :
    index = position ∧ call = { running with stage := outcome.2 } ∨
      state.calls[position]? = some call := by
  rcases List.getElem?_eq_some_iff.mp isRunning with ⟨inside, _⟩
  simp only [State.proceed, List.getElem?_set] at found
  split at found
  · rename_i same
    exact .inl ⟨same, by simpa [same ▸ inside] using found.symm⟩
  · exact .inr found

/-- One event back, the call knew already or a key exists. -/
theorem saysOnline_step
    {state : State} (safe : Safe state)
    (once : RegisteredOnce (state.calls.map Call.request))
    (event : Event) {index : Nat} {call : Call} {userId : UserId}
    (found : (step state event).calls[index]? = some call)
    (online : SaysOnline call userId) :
    ∃ before, state.calls[index]? = some before ∧
      before.request = call.request ∧
        (SaysOnline before userId ∨
          KeyDuring state.redis before userId) := by
  cases event with
  | call request =>
      by_cases old : index < state.calls.length
      · simp only [step, List.getElem?_append_left old] at found
        exact ⟨call, found, rfl, .inl online⟩
      · simp only [step, List.getElem?_append_right (not_lt.mp old),
          List.getElem?_singleton] at found
        split at found
        · cases found
          rcases online with ⟨_, ⟨_, looking, _⟩ | ⟨_, returned⟩⟩
          · cases request <;> cases looking
          · cases request <;> cases returned
        · cases found
  | command position =>
      simp only [step] at found
      split at found
      case h_1 => exact ⟨call, found, rfl, .inl online⟩
      case h_2 running isRunning =>
          rcases found_proceed isRunning found with ⟨rfl, rfl⟩ | other
          · exact
              ⟨running, isRunning, rfl,
                .inl (saysOnline_runCommand online)⟩
          · exact ⟨call, other, rfl, .inl online⟩
  | lookup position target =>
      simp only [step] at found
      split at found
      case h_1 => exact ⟨call, found, rfl, .inl online⟩
      case h_2 running isRunning =>
          rcases found_proceed isRunning found with ⟨rfl, rfl⟩ | other
          · exact
              ⟨running, isRunning, rfl,
                saysOnline_runLookup safe once
                  (List.mem_of_getElem? isRunning) online⟩
          · exact ⟨call, other, rfl, .inl online⟩
  | expire connectionId => exact ⟨call, found, rfl, .inl online⟩
  | elapse seconds => exact ⟨call, found, rfl, .inl online⟩

theorem keyDuring_of_saysOnline
    {events : List Event}
    (once : RegisteredOnce (events.filterMap Event.request))
    {index : Nat} {call : Call} {userId : UserId}
    (found : (reached events).calls[index]? = some call)
    (online : SaysOnline call userId) :
    ∃ earlier, earlier <+: events ∧
      ∃ asking, (reached earlier).calls[index]? = some asking ∧
        asking.request = call.request ∧
          KeyDuring (reached earlier).redis asking userId := by
  induction events using List.reverseRecOn generalizing call with
  | nil => cases found
  | append_singleton events event induction =>
      have onceBefore := once_init once
      have initial : events <+: events ++ [event] :=
        List.prefix_append events [event]
      rw [reached_append] at found
      rcases saysOnline_step (reached_safe onceBefore)
          (reached_once onceBefore) event found online with
        ⟨before, foundBefore, sameRequest, knew | present⟩
      · rcases induction onceBefore foundBefore knew with
          ⟨earlier, isEarlier, asking, foundAsking, same, present⟩
        exact
          ⟨earlier, isEarlier.trans initial, asking, foundAsking,
            same.trans sameRequest, present⟩
      · exact
          ⟨events, initial, before, foundBefore, sameRequest, present⟩

/-- The clean-up removes connections whose key is gone for good, and
`isUserOnline` answers yes only after it saw a key of the user. -/
theorem cleanup_removes_dead_connections
    (events : List Event)
    (once : RegisteredOnce (events.filterMap Event.request)) :
    (∀ before event rest, events = before ++ event :: rest →
      ∀ userId member, Removes (reached before) event userId member →
        ∀ later, later <+: event :: rest →
          (reached (before ++ later)).redis.keys member = none) ∧
      ∀ (index : Nat) (call : Call) (userId : UserId),
        (reached events).calls[index]? = some call →
          SaysOnline call userId →
            ∃ earlier, earlier <+: events ∧
              ∃ asking,
                (reached earlier).calls[index]? = some asking ∧
                  asking.request = call.request ∧
                    KeyDuring (reached earlier).redis asking
                      userId := by
  constructor
  · rintro before event rest rfl userId member removes later
      ⟨tail, isTail⟩
    rw [← isTail, ← List.append_assoc, List.filterMap_append] at once
    have onceLater := once_left once
    have onceBefore :
        RegisteredOnce (before.filterMap Event.request) := by
      rw [List.filterMap_append] at onceLater
      exact once_left onceLater
    rcases gone_of_removes (reached_safe onceBefore) removes with ⟨wasSet, gone⟩
    exact (reached_keepsGone onceLater wasSet gone).2
  · intro index call userId found online
    exact keyDuring_of_saysOnline once found online

/-- The first connection is lost, and the key expires. -/
def lost : List Event :=
  [.call (.registerPresence "ada" "first"), .command 0, .command 0,
    .command 0, .elapse 30,
    .call (.registerPresence "ada" "second"), .command 1,
    .lookup 1 "first"]

/-- The second one cleans up, and the user is found online. -/
def rejoined : List Event :=
  [.command 1, .command 1, .call (.isUserOnline "ada"), .command 2,
    .lookup 2 "second", .command 2]

theorem cleanup_removes_dead_connections_example :
    RegisteredOnce
        ((lost ++ .lookup 1 "first" :: rejoined).filterMap
          Event.request) ∧
      Removes (reached lost) (.lookup 1 "first") "ada" "first" ∧
      (reached (lost ++ .lookup 1 "first" :: rejoined)).redis.keys
          "first" = none ∧
      SaysOnline
          { request := .isUserOnline "ada", stage := .returned true }
          "ada" ∧
      ∃ earlier, earlier <+: lost ++ .lookup 1 "first" :: rejoined ∧
        ∃ asking,
          (reached earlier).calls[2]? = some asking ∧
            asking.request = .isUserOnline "ada" ∧
              KeyDuring (reached earlier).redis asking "ada" := by
  have once :
      RegisteredOnce
        ((lost ++ .lookup 1 "first" :: rejoined).filterMap
          Event.request) := by
    refine { once := by decide, named := ?_ }
    intro userId connectionId member
    have isAda :
        userId = "ada" ∧ connectionId = "first" ∨
          "ada" = userId ∧ "second" = connectionId := by
      simpa [lost, rejoined, Event.request] using member
    rcases isAda with ⟨rfl, _⟩ | ⟨rfl, _⟩ <;> decide
  have removes :
      Removes (reached lost) (.lookup 1 "first") "ada" "first" := by
    refine
      ⟨1,
        { request := .registerPresence "ada" "second"
          stage :=
            .looking
              { gets := ∅, removals := {"first"}, online := false } },
        _, rfl, ?_, rfl, rfl, ?_, ?_⟩ <;> decide +kernel
  have online :
      SaysOnline
        { request := .isUserOnline "ada", stage := .returned true }
        "ada" := ⟨rfl, .inr ⟨rfl, rfl⟩⟩
  rcases cleanup_removes_dead_connections _ once with
    ⟨removed, answered⟩
  refine ⟨once, removes, ?_, online, ?_⟩
  · exact
      removed lost _ rejoined rfl "ada" "first" removes _
        (List.prefix_refl _)
  · exact answered 2 _ "ada" (by decide +kernel) online

end ChatBackend.Realtime.CleanupSafety
