import ChatBackend.Realtime.PresenceCommands

/-!
# The last presence event

A check of `unregisterPresence` and the joining part of a `registerPresence`,
from its `sMembers` to its `sAdd`, must not overlap, and a connection must
not be unregistered before its setup has ended.  In runs that keep to this,
`last_event_truthful_when` says that the last presence event is right
whenever all calls have finished.

The invariant `Tracked` has two sides.  While `isUserOnline` finds a
connection, the user is announced as online or will be.  While the user is
announced as online, some connection is not unregistered, or some unregister
has yet to decide.
-/

namespace ChatBackend.Realtime.PresenceTruth

open ChatBackend.Foundation.EventRuns
open ChatBackend.Realtime.PresenceCommands

variable {Id : Type} [DecidableEq Id]

/-! ## Undisturbed calls -/

/-- Between the `sMembers` and the `sAdd` of `registerPresence`. -/
def Setup.joining : Setup Id → Bool
  | .checking _ => true
  | .adding _ => true
  | _ => false

/-- Between the guard of the setup and the end of `registerPresence`. -/
def Setup.underWay : Setup Id → Bool
  | .loading => true
  | .checking _ => true
  | .adding _ => true
  | .publishing => true
  | _ => false

/-- Between the `sMembers` and the end of `unregisterPresence`. -/
def Closing.checks : Closing Id → Bool
  | .checking _ => true
  | _ => false

/--
No unregister checks while a register is joining, and none begins before the
setup of its own connection has ended.
-/
def Undisturbed (state : State Id) : Event Id → Prop
  | .setup id =>
      state.setup id = .loading →
        ∀ other, Closing.checks (state.closing other) = false
  | .unregister id =>
      (state.closing id = .deleting →
          Setup.underWay (state.setup id) = false) ∧
        (state.closing id = .asking →
          ∀ other, Setup.joining (state.setup other) = false)
  | _ => True

instance [Fintype Id] (state : State Id) :
    (event : Event Id) → Decidable (Undisturbed state event)
  | .setup id =>
      inferInstanceAs
        (Decidable
          (state.setup id = .loading →
            ∀ other, Closing.checks (state.closing other) = false))
  | .unregister id =>
      inferInstanceAs
        (Decidable
          ((state.closing id = .deleting →
              Setup.underWay (state.setup id) = false) ∧
            (state.closing id = .asking →
              ∀ other, Setup.joining (state.setup other) = false)))
  | .connect _ _ => isTrue trivial
  | .setupLookup _ _ => isTrue trivial
  | .close _ => isTrue trivial
  | .unregisterLookup _ _ => isTrue trivial
  | .expire _ => isTrue trivial

/-! ## The invariant -/

/-- The key of the connection has been set. -/
def Setup.keyed : Setup Id → Bool
  | .adding _ => true
  | .publishing => true
  | .registered => true
  | _ => false

/-- The connection has been added to the set. -/
def Setup.added : Setup Id → Bool
  | .publishing => true
  | .registered => true
  | _ => false

/-- The register has found the user online. -/
def Setup.foundOnline : Setup Id → Bool
  | .checking lookup => lookup.online
  | .adding wasOnline => wasOnline
  | _ => false

/-- `unregisterPresence` has not deleted the key. -/
def Closing.kept : Closing Id → Bool
  | .opened => true
  | .deleting => true
  | _ => false

/-- The unregister may still publish that the user is offline. -/
def Closing.undecided : Closing Id → Bool
  | .removing => true
  | .asking => true
  | .checking lookup => !lookup.online
  | _ => false

/-- The last event says that the user is online. -/
def Redis.online (redis : Redis Id) : Prop :=
  redis.published.getLast? = some true

/-- `isUserOnline` finds the connection. -/
def Redis.visible (redis : Redis Id) (id : Id) : Prop :=
  id ∈ redis.connectionKeys ∧ id ∈ redis.userConnections

/-- The user is announced as online, or is about to be. -/
def State.announced (state : State Id) : Prop :=
  Redis.online state.redis ∨ ∃ id, state.setup id = .publishing

/-- The connection is not unregistered, or its unregister is undecided. -/
def State.holds (state : State Id) (id : Id) : Prop :=
  (Setup.added (state.setup id) = true ∧
      Closing.kept (state.closing id) = true) ∨
    Closing.undecided (state.closing id) = true

/-- What Redis holds about one connection fits to its calls. -/
structure Placed
    (redis : Redis Id) (id : Id) (setup : Setup Id)
    (closing : Closing Id) : Prop where
  keyed :
    id ∈ redis.connectionKeys →
      Setup.keyed setup = true ∧ Closing.kept closing = true
  openKey :
    Setup.keyed setup = true → closing = .opened →
      id ∈ redis.connectionKeys
  added : id ∈ redis.userConnections → Setup.added setup = true
  member :
    id ∈ redis.connectionKeys → Setup.added setup = true →
      id ∈ redis.userConnections
  absent : setup = .absent → closing = .opened
  skipped : setup = .skipped → closing ≠ .opened
  underWay : Setup.underWay setup = true → Closing.kept closing = true

/-- A lookup asks about added connections, and removes keyless ones. -/
structure Faithful (state : State Id) (lookup : Lookup Id) : Prop where
  gets : ∀ id ∈ lookup.gets, Setup.added (state.setup id) = true
  removals :
    ∀ id ∈ lookup.removals,
      Setup.added (state.setup id) = true ∧
        id ∉ state.redis.connectionKeys

structure Tracked (state : State Id) : Prop where
  placed :
    ∀ id, Placed state.redis id (state.setup id) (state.closing id)
  registering :
    ∀ id lookup, state.setup id = .checking lookup →
      Faithful state lookup
  unregistering :
    ∀ id lookup, state.closing id = .checking lookup →
      Faithful state lookup
  alone :
    ∀ id other, Closing.checks (state.closing id) = true →
      Setup.joining (state.setup other) = false
  sees :
    ∀ id lookup other, state.closing id = .checking lookup →
      lookup.online = false → Redis.visible state.redis other →
        other ∈ lookup.gets
  visible :
    ∀ id, Redis.visible state.redis id → State.announced state
  found :
    ∀ id, Setup.foundOnline (state.setup id) = true →
      State.announced state
  holder : Redis.online state.redis → ∃ id, State.holds state id

omit [DecidableEq Id] in
theorem Tracked.start : Tracked (State.start : State Id) := by
  constructor <;>
    simp [State.start, Closing.checks, Setup.foundOnline, Redis.visible,
      Redis.online]
  intro id
  constructor <;> simp [Setup.keyed, Setup.underWay]

/-! ## Moves -/

section Moves

variable {state : State Id} {redis : Redis Id} {id : Id}

/-- What Redis holds about the other connections stays as it is. -/
def SameElsewhere (redis other : Redis Id) (id : Id) : Prop :=
  ∀ connection, connection ≠ id →
    (connection ∈ other.connectionKeys ↔
        connection ∈ redis.connectionKeys) ∧
      (connection ∈ other.userConnections ↔
        connection ∈ redis.userConnections)

omit [DecidableEq Id] in
theorem Placed.elsewhere
    {other : Redis Id} {setup : Setup Id} {closing : Closing Id}
    {connection : Id}
    (placed : Placed redis connection setup closing)
    (keys :
      connection ∈ other.connectionKeys ↔
        connection ∈ redis.connectionKeys)
    (members :
      connection ∈ other.userConnections ↔
        connection ∈ redis.userConnections) :
    Placed other connection setup closing where
  keyed := fun member => placed.keyed (keys.mp member)
  openKey := fun keyed opened => keys.mpr (placed.openKey keyed opened)
  added := fun member => placed.added (members.mp member)
  member := fun member added =>
    members.mpr (placed.member (keys.mp member) added)
  absent := placed.absent
  skipped := placed.skipped
  underWay := placed.underWay

/-- A step of a setup.  The hypotheses say what the other calls rely on. -/
theorem Tracked.withSetup
    (tracked : Tracked state) {new : Setup Id}
    (same : SameElsewhere state.redis redis id)
    (placed : Placed redis id new (state.closing id))
    (grows :
      Setup.added (state.setup id) = true → Setup.added new = true)
    (keysKept :
      ∀ connection, Setup.added (state.setup connection) = true →
        connection ∈ redis.connectionKeys →
          connection ∈ state.redis.connectionKeys)
    (checking :
      ∀ lookup, new = .checking lookup →
        Faithful (state.withSetup redis id new) lookup)
    (alone :
      Setup.joining new = true →
        ∀ other, Closing.checks (state.closing other) = false)
    (visible :
      ∀ connection, Redis.visible redis connection →
        Redis.visible state.redis connection ∨
          (Setup.joining (state.setup id) = true ∧
            (State.announced state ∨ new = .publishing)))
    (announced :
      State.announced state →
        State.announced (state.withSetup redis id new))
    (found :
      Setup.foundOnline new = true → State.announced state)
    (holder :
      Redis.online redis →
        Redis.online state.redis ∨
          (Setup.added new = true ∧
            Closing.kept (state.closing id) = true)) :
    Tracked (state.withSetup redis id new) := by
  have faithful :
      ∀ lookup, Faithful state lookup →
        Faithful (state.withSetup redis id new) lookup := by
    intro lookup before
    have added :
        ∀ connection, Setup.added (state.setup connection) = true →
          Setup.added
            ((state.withSetup redis id new).setup connection) = true := by
      intro connection was
      by_cases same : connection = id
      · subst same
        simpa using grows was
      · simpa [same] using was
    constructor
    · exact fun connection member =>
        added connection (before.gets connection member)
    · intro connection member
      rcases before.removals connection member with ⟨was, keyless⟩
      exact
        ⟨added connection was, fun key =>
          keyless (keysKept connection was key)⟩
  constructor
  · intro connection
    by_cases isId : connection = id
    · subst isId
      simpa using placed
    · simpa [isId] using
        (tracked.placed connection).elsewhere (same connection isId).1
          (same connection isId).2
  · intro connection lookup isChecking
    by_cases isId : connection = id
    · subst isId
      exact checking lookup (by simpa using isChecking)
    · exact
        faithful lookup
          (tracked.registering connection lookup
            (by simpa [isId] using isChecking))
  · exact fun connection lookup isChecking =>
      faithful lookup (tracked.unregistering connection lookup isChecking)
  · intro connection other checks
    rw [State.withSetup_closing] at checks
    by_cases isId : other = id
    · subst isId
      rw [State.withSetup_setup, if_pos rfl]
      by_contra joins
      rw [alone (by simpa using joins) connection] at checks
      cases checks
    · simpa [isId] using tracked.alone connection other checks
  · intro connection lookup other isChecking offline isVisible
    rw [State.withSetup_closing] at isChecking
    rcases visible other isVisible with before | ⟨joins, _⟩
    · exact
        tracked.sees connection lookup other isChecking offline before
    · rw [tracked.alone connection id (by rw [isChecking]; rfl)] at joins
      cases joins
  · intro connection isVisible
    rcases visible connection isVisible with before | ⟨_, later⟩
    · exact announced (tracked.visible connection before)
    · rcases later with already | publishing
      · exact announced already
      · exact Or.inr ⟨id, by simp [publishing]⟩
  · intro connection isFound
    by_cases isId : connection = id
    · subst isId
      exact announced (found (by simpa using isFound))
    · exact
        announced
          (tracked.found connection (by simpa [isId] using isFound))
  · intro online
    rcases holder online with before | here
    · rcases tracked.holder before with ⟨connection, holds⟩
      refine ⟨connection, ?_⟩
      by_cases isId : connection = id
      · subst isId
        rcases holds with ⟨added, kept⟩ | undecided
        · exact Or.inl ⟨by simpa using grows added, kept⟩
        · exact Or.inr undecided
      · simpa [State.holds, isId] using holds
    · exact ⟨id, Or.inl (by simpa using here)⟩

/-- A step of a close. -/
theorem Tracked.withClosing
    (tracked : Tracked state) {new : Closing Id}
    (same : SameElsewhere state.redis redis id)
    (placed : Placed redis id (state.setup id) new)
    (keysKept :
      ∀ connection, connection ∈ redis.connectionKeys →
        connection ∈ state.redis.connectionKeys)
    (checking :
      ∀ lookup, new = .checking lookup →
        Faithful (state.withClosing redis id new) lookup)
    (alone :
      Closing.checks new = true →
        ∀ other, Setup.joining (state.setup other) = false)
    (sees :
      ∀ lookup other, new = .checking lookup → lookup.online = false →
        Redis.visible redis other → other ∈ lookup.gets)
    (visible :
      ∀ connection, Redis.visible redis connection →
        Redis.visible state.redis connection)
    (announced :
      (Redis.online state.redis → Redis.online redis) ∨
        ((∀ connection, ¬Redis.visible redis connection) ∧
          ∀ other, Setup.joining (state.setup other) = false))
    (holder :
      Redis.online redis →
        Redis.online state.redis ∧
          (State.holds state id →
            ∃ other,
              State.holds (state.withClosing redis id new) other)) :
    Tracked (state.withClosing redis id new) := by
  have faithful :
      ∀ lookup, Faithful state lookup →
        Faithful (state.withClosing redis id new) lookup := by
    intro lookup before
    refine ⟨before.gets, fun connection member => ?_⟩
    rcases before.removals connection member with ⟨was, keyless⟩
    exact ⟨was, fun key => keyless (keysKept connection key)⟩
  constructor
  · intro connection
    by_cases isId : connection = id
    · subst isId
      simpa using placed
    · simpa [isId] using
        (tracked.placed connection).elsewhere (same connection isId).1
          (same connection isId).2
  · exact fun connection lookup isChecking =>
      faithful lookup (tracked.registering connection lookup isChecking)
  · intro connection lookup isChecking
    by_cases isId : connection = id
    · subst isId
      exact checking lookup (by simpa using isChecking)
    · exact
        faithful lookup
          (tracked.unregistering connection lookup
            (by simpa [isId] using isChecking))
  · intro connection other checks
    by_cases isId : connection = id
    · subst isId
      exact alone (by simpa using checks) other
    · exact tracked.alone connection other (by simpa [isId] using checks)
  · intro connection lookup other isChecking offline isVisible
    by_cases isId : connection = id
    · subst isId
      exact sees lookup other (by simpa using isChecking) offline isVisible
    · exact
        tracked.sees connection lookup other
          (by simpa [isId] using isChecking) offline
          (visible other isVisible)
  · intro connection isVisible
    rcases announced with kept | ⟨invisible, _⟩
    · rcases tracked.visible connection (visible connection isVisible) with
        online | publishing
      · exact Or.inl (kept online)
      · exact Or.inr publishing
    · exact absurd isVisible (invisible connection)
  · intro connection isFound
    rcases announced with kept | ⟨_, nobody⟩
    · rcases tracked.found connection isFound with online | publishing
      · exact Or.inl (kept online)
      · exact Or.inr publishing
    · have joins := nobody connection
      rw [State.withClosing_setup] at isFound
      cases isSetup : state.setup connection <;>
        simp [isSetup, Setup.foundOnline, Setup.joining]
          at isFound joins
  · intro online
    rcases holder online with ⟨before, lost⟩
    rcases tracked.holder before with ⟨connection, holds⟩
    by_cases isId : connection = id
    · exact lost (isId ▸ holds)
    · exact ⟨connection, by simpa [State.holds, isId] using holds⟩

omit [DecidableEq Id] in
/-- A command that removes what no lookup can find. -/
theorem Tracked.withRedis
    (tracked : Tracked state)
    (placed :
      ∀ connection,
        Placed redis connection (state.setup connection)
          (state.closing connection))
    (keysKept :
      ∀ connection, connection ∈ redis.connectionKeys →
        connection ∈ state.redis.connectionKeys)
    (visible :
      ∀ connection, Redis.visible redis connection →
        Redis.visible state.redis connection)
    (published : redis.published = state.redis.published) :
    Tracked { state with redis := redis } := by
  have online : Redis.online redis ↔ Redis.online state.redis := by
    rw [Redis.online, published, Redis.online]
  have announced :
      State.announced state →
        State.announced { state with redis := redis } :=
    Or.imp online.mpr id
  have faithful :
      ∀ lookup, Faithful state lookup →
        Faithful { state with redis := redis } lookup := by
    intro lookup before
    refine ⟨before.gets, fun connection member => ?_⟩
    rcases before.removals connection member with ⟨was, keyless⟩
    exact ⟨was, fun key => keyless (keysKept connection key)⟩
  exact
    { placed := placed
      registering := fun connection lookup isChecking =>
        faithful lookup (tracked.registering connection lookup isChecking)
      unregistering := fun connection lookup isChecking =>
        faithful lookup
          (tracked.unregistering connection lookup isChecking)
      alone := tracked.alone
      sees := fun connection lookup other isChecking offline isVisible =>
        tracked.sees connection lookup other isChecking offline
          (visible other isVisible)
      visible := fun connection isVisible =>
        announced (tracked.visible connection (visible connection isVisible))
      found := fun connection isFound =>
        announced (tracked.found connection isFound)
      holder := fun isOnline => tracked.holder (online.mp isOnline) }

end Moves

/-! ## Lookups -/

section Lookups

variable {state : State Id} {redis : Redis Id} {lookup : Lookup Id}
  {id member : Id}

theorem Tracked.sRem
    (tracked : Tracked state)
    (keyless : member ∉ state.redis.connectionKeys) :
    Tracked { state with redis := state.redis.sRem member } := by
  apply tracked.withRedis
  · intro connection
    have before := tracked.placed connection
    by_cases same : connection = member
    · subst same
      exact
        { keyed := before.keyed
          openKey := before.openKey
          added := fun inSet =>
            before.added (Finset.mem_of_mem_erase inSet)
          member := fun key => absurd key keyless
          absent := before.absent
          skipped := before.skipped
          underWay := before.underWay }
    · exact
        before.elsewhere Iff.rfl
          (by simp [PresenceCommands.Redis.sRem, same])
  · exact fun connection key => key
  · exact fun connection isVisible =>
      ⟨isVisible.1, Finset.mem_of_mem_erase isVisible.2⟩
  · rfl

theorem Tracked.expire
    (tracked : Tracked state) (closed : state.closing id ≠ .opened) :
    Tracked { state with redis := state.redis.del id } := by
  apply tracked.withRedis
  · intro connection
    have before := tracked.placed connection
    by_cases same : connection = id
    · subst same
      exact
        { keyed := fun key =>
            absurd key (Finset.notMem_erase connection _)
          openKey := fun _ opened => absurd opened closed
          added := before.added
          member := fun key =>
            absurd key (Finset.notMem_erase connection _)
          absent := before.absent
          skipped := before.skipped
          underWay := before.underWay }
    · exact
        before.elsewhere (by simp [PresenceCommands.Redis.del, same])
          Iff.rfl
  · exact fun connection key => Finset.mem_of_mem_erase key
  · exact fun connection isVisible =>
      ⟨Finset.mem_of_mem_erase isVisible.1, isVisible.2⟩
  · rfl

/-- The answer to one command of a lookup. -/
inductive Asked
    (redis : Redis Id) (lookup : Lookup Id) (member : Id) :
    Redis Id → Lookup Id → Prop where
  | alive :
      member ∈ lookup.gets → member ∈ redis.connectionKeys →
        Asked redis lookup member redis
          { lookup with
            gets := lookup.gets.erase member
            online := true }
  | keyless :
      member ∈ lookup.gets → member ∉ redis.connectionKeys →
        Asked redis lookup member redis
          { lookup with
            gets := lookup.gets.erase member
            removals := insert member lookup.removals }
  | removed :
      member ∈ lookup.removals →
        Asked redis lookup member (redis.sRem member)
          { lookup with removals := lookup.removals.erase member }
  | nothing : Asked redis lookup member redis lookup

theorem ask_cases (redis : Redis Id) (lookup : Lookup Id) (member : Id) :
    Asked redis lookup member (lookup.ask redis member).1
      (lookup.ask redis member).2 := by
  unfold Lookup.ask
  split_ifs with asked key removal
  · exact .alive asked key
  · exact .keyless asked key
  · exact .removed removal
  · exact .nothing

end Lookups

/-! ## Steps of registerPresence -/

section Register

variable {state : State Id} {id : Id}

omit [DecidableEq Id] in
theorem SameElsewhere.refl (redis : Redis Id) (id : Id) :
    SameElsewhere redis redis id :=
  fun _ _ => ⟨Iff.rfl, Iff.rfl⟩

/-- A setup that has sent no command goes on without sending one. -/
theorem Tracked.waits
    (tracked : Tracked state) {new : Setup Id}
    (before :
      state.setup id = .absent ∨ state.setup id = .querying)
    (after :
      new = .querying ∨ (new = .loading ∧ state.closing id = .opened) ∨
        (new = .skipped ∧ state.closing id ≠ .opened)) :
    Tracked (state.withSetup state.redis id new) := by
  have placed := tracked.placed id
  have notAdded : Setup.added (state.setup id) = false := by
    rcases before with same | same <;> rw [same] <;> rfl
  have notKeyed : Setup.keyed (state.setup id) = false := by
    rcases before with same | same <;> rw [same] <;> rfl
  have noKey : id ∉ state.redis.connectionKeys := by
    intro key
    have keyed := (placed.keyed key).1
    rw [notKeyed] at keyed
    cases keyed
  have noMember : id ∉ state.redis.userConnections := by
    intro member
    have added := placed.added member
    rw [notAdded] at added
    cases added
  have quiet :
      Setup.keyed new = false ∧ Setup.foundOnline new = false ∧
        Setup.joining new = false ∧ new ≠ .absent ∧
          ∀ lookup, new ≠ .checking lookup := by
    rcases after with rfl | ⟨rfl, _⟩ | ⟨rfl, _⟩ <;>
      simp [Setup.keyed, Setup.foundOnline, Setup.joining]
  rcases quiet with ⟨keyless, unfound, apart, present, unchecking⟩
  apply tracked.withSetup (SameElsewhere.refl _ _)
  · exact
      { keyed := fun key => absurd key noKey
        openKey := by simp [keyless]
        added := fun member => absurd member noMember
        member := fun key => absurd key noKey
        absent := fun absent => absurd absent present
        skipped := by
          rcases after with rfl | ⟨rfl, _⟩ | ⟨rfl, closed⟩
          · simp
          · simp
          · exact fun _ => closed
        underWay := by
          rcases after with rfl | ⟨rfl, opened⟩ | ⟨rfl, _⟩
          · simp [Setup.underWay]
          · simp [opened, Closing.kept]
          · simp [Setup.underWay] }
  · simp [notAdded]
  · exact fun _ _ key => key
  · exact fun lookup same => absurd same (unchecking lookup)
  · simp [apart]
  · exact fun _ isVisible => Or.inl isVisible
  · rintro (online | ⟨other, publishing⟩)
    · exact Or.inl online
    · refine Or.inr ⟨other, ?_⟩
      have different : other ≠ id := by
        rintro rfl
        rcases before with same | same <;> simp [same] at publishing
      simpa [different] using publishing
  · simp [unfound]
  · exact Or.inl

theorem Tracked.connect
    (tracked : Tracked state) (id : Id) (preload : Bool) :
    Tracked (PresenceCommands.connect state id preload) := by
  unfold PresenceCommands.connect
  split
  · rename_i absent
    apply tracked.waits (Or.inl absent)
    cases preload with
    | false =>
        exact Or.inr (Or.inl ⟨rfl, (tracked.placed id).absent absent⟩)
    | true => exact Or.inl rfl
  · exact tracked

/-- A publishing setup stays announced while others move. -/
theorem announced_withSetup
    {redis : Redis Id} {new : Setup Id}
    (online : Redis.online state.redis → Redis.online redis)
    (before : state.setup id ≠ .publishing) :
    State.announced state →
      State.announced (state.withSetup redis id new) := by
  rintro (isOnline | ⟨other, publishing⟩)
  · exact Or.inl (online isOnline)
  · refine Or.inr ⟨other, ?_⟩
    have different : other ≠ id := by
      rintro rfl
      exact before publishing
    simpa [different] using publishing

/-- `sMembers` of a register, while no unregister checks. -/
theorem Tracked.registerSMembers
    (tracked : Tracked state) (loading : state.setup id = .loading)
    (unchecked : ∀ other, Closing.checks (state.closing other) = false) :
    Tracked
      (state.withSetup state.redis id
        (.checking state.redis.sMembers)) := by
  have placed := tracked.placed id
  rw [loading] at placed
  have noKey : id ∉ state.redis.connectionKeys := by
    intro key
    cases (placed.keyed key).1
  have noMember : id ∉ state.redis.userConnections := by
    intro member
    cases placed.added member
  apply tracked.withSetup (SameElsewhere.refl _ _)
  · exact
      { keyed := fun key => absurd key noKey
        openKey := by simp [Setup.keyed]
        added := fun member => absurd member noMember
        member := fun key => absurd key noKey
        absent := by simp
        skipped := by simp
        underWay := fun _ => placed.underWay rfl }
  · simp [loading, Setup.added]
  · exact fun _ _ key => key
  · rintro lookup same
    cases same
    constructor
    · intro other member
      have different : other ≠ id := by
        rintro rfl
        exact noMember member
      simpa [different] using (tracked.placed other).added member
    · simp [PresenceCommands.Redis.sMembers]
  · exact fun _ => unchecked
  · exact fun _ isVisible => Or.inl isVisible
  · exact announced_withSetup (fun online => online) (by simp [loading])
  · simp [Setup.foundOnline, PresenceCommands.Redis.sMembers]
  · exact Or.inl

/-- `set` of a register. -/
theorem Tracked.registerSet
    (tracked : Tracked state) {lookup : Lookup Id}
    (checking : state.setup id = .checking lookup) :
    Tracked
      (state.withSetup (state.redis.set id) id
        (.adding lookup.online)) := by
  have placed := tracked.placed id
  rw [checking] at placed
  have noMember : id ∉ state.redis.userConnections := by
    intro member
    cases placed.added member
  have joins : Setup.joining (state.setup id) = true := by
    rw [checking]
    rfl
  apply tracked.withSetup
  · intro connection different
    simp [PresenceCommands.Redis.set, different]
  · exact
      { keyed := fun _ => ⟨rfl, placed.underWay rfl⟩
        openKey := fun _ _ => Finset.mem_insert_self id _
        added := fun member => absurd member noMember
        member := by simp [Setup.added]
        absent := by simp
        skipped := by simp
        underWay := fun _ => placed.underWay rfl }
  · simp [checking, Setup.added]
  · intro connection added key
    rcases Finset.mem_insert.mp key with rfl | before
    · simp [checking, Setup.added] at added
    · exact before
  · simp
  · intro _ other
    by_contra checks
    have apart := tracked.alone other id (by simpa using checks)
    rw [joins] at apart
    cases apart
  · rintro connection ⟨key, member⟩
    rcases Finset.mem_insert.mp key with rfl | before
    · exact absurd member noMember
    · exact Or.inl ⟨before, member⟩
  · exact
      announced_withSetup (fun online => online) (by simp [checking])
  · intro foundOnline
    exact tracked.found id (by rw [checking]; exact foundOnline)
  · exact Or.inl

/-- `sAdd` of a register. -/
theorem Tracked.registerSAdd
    (tracked : Tracked state) {wasOnline : Bool}
    (adding : state.setup id = .adding wasOnline) :
    Tracked
      (state.withSetup (state.redis.sAdd id) id
        (if wasOnline then .registered else .publishing)) := by
  have placed := tracked.placed id
  rw [adding] at placed
  have kept := placed.underWay rfl
  have stage :
      ∀ new : Setup Id,
        new = (if wasOnline then .registered else .publishing) →
          Setup.added new = true ∧ Setup.keyed new = true ∧
            Setup.joining new = false ∧ Setup.foundOnline new = false ∧
              new ≠ .absent ∧ new ≠ .skipped ∧
                ∀ lookup, new ≠ .checking lookup := by
    rintro new rfl
    cases wasOnline <;>
      simp [Setup.added, Setup.keyed, Setup.joining, Setup.foundOnline]
  rcases stage _ rfl with
    ⟨added, keyed, apart, unfound, present, unskipped, unchecking⟩
  apply tracked.withSetup
  · intro connection different
    simp [PresenceCommands.Redis.sAdd, different]
  · exact
      { keyed := fun _ => ⟨keyed, kept⟩
        openKey := fun _ opened => placed.openKey rfl opened
        added := fun _ => added
        member := fun _ _ => Finset.mem_insert_self id _
        absent := fun absent => absurd absent present
        skipped := fun skipped => absurd skipped unskipped
        underWay := fun _ => kept }
  · exact fun _ => added
  · exact fun _ _ key => key
  · exact fun lookup same => absurd same (unchecking lookup)
  · simp [apart]
  · rintro connection ⟨key, member⟩
    rcases Finset.mem_insert.mp member with rfl | before
    · right
      constructor
      · rw [adding]
        rfl
      · cases wasOnline with
        | false => exact Or.inr rfl
        | true =>
            exact
              Or.inl (tracked.found connection (by rw [adding]; rfl))
    · exact Or.inl ⟨key, before⟩
  · exact announced_withSetup (fun online => online) (by simp [adding])
  · simp [unfound]
  · exact Or.inl

/-- `publish` of a register. -/
theorem Tracked.registerPublish
    (tracked : Tracked state)
    (publishing : state.setup id = .publishing) :
    Tracked
      (state.withSetup (state.redis.publish true) id .registered) := by
  have placed := tracked.placed id
  rw [publishing] at placed
  have kept := placed.underWay rfl
  have online : Redis.online (state.redis.publish true) := by
    simp [Redis.online, PresenceCommands.Redis.publish]
  apply tracked.withSetup
  · exact fun _ _ => ⟨Iff.rfl, Iff.rfl⟩
  · exact
      { keyed := fun _ => ⟨rfl, kept⟩
        openKey := fun _ opened => placed.openKey rfl opened
        added := fun _ => rfl
        member := fun key _ => placed.member key rfl
        absent := by simp
        skipped := by simp
        underWay := fun _ => kept }
  · exact fun _ => rfl
  · exact fun _ _ key => key
  · simp
  · simp [Setup.joining]
  · exact fun _ isVisible => Or.inl isVisible
  · exact fun _ => Or.inl online
  · simp [Setup.foundOnline]
  · exact fun _ => Or.inr ⟨rfl, kept⟩

/-- The next lookup is faithful, and finds whom Redis shows. -/
theorem Asked.faithful
    {redis : Redis Id} {lookup next : Lookup Id} {member : Id}
    (tracked : Tracked state) (before : Faithful state lookup)
    (asked : Asked state.redis lookup member redis next) :
    Faithful state next ∧
      (next.online = true →
        lookup.online = true ∨
          ∃ other, Redis.visible state.redis other ∧
            Setup.added (state.setup other) = true) := by
  cases asked with
  | alive isAsked key =>
      have added := before.gets member isAsked
      refine ⟨⟨?_, before.removals⟩, fun _ => Or.inr ?_⟩
      · exact fun other later =>
          before.gets other (Finset.mem_of_mem_erase later)
      · exact
          ⟨member, ⟨key, (tracked.placed member).member key added⟩, added⟩
  | keyless isAsked keyless =>
      refine ⟨⟨?_, ?_⟩, Or.inl⟩
      · exact fun other later =>
          before.gets other (Finset.mem_of_mem_erase later)
      · intro other removal
        rcases Finset.mem_insert.mp removal with rfl | earlier
        · exact ⟨before.gets other isAsked, keyless⟩
        · exact before.removals other earlier
  | removed removal =>
      refine ⟨⟨before.gets, ?_⟩, Or.inl⟩
      exact fun other later =>
        before.removals other (Finset.mem_of_mem_erase later)
  | nothing => exact ⟨before, Or.inl⟩

/-- The command of a lookup changes nothing that a lookup can find. -/
theorem Asked.tracked
    {redis : Redis Id} {lookup next : Lookup Id} {member : Id}
    (tracked : Tracked state) (before : Faithful state lookup)
    (asked : Asked state.redis lookup member redis next) :
    Tracked { state with redis := redis } ∧
      redis.connectionKeys = state.redis.connectionKeys ∧
        redis.published = state.redis.published := by
  cases asked with
  | removed removal =>
      exact
        ⟨tracked.sRem (before.removals member removal).2, rfl, rfl⟩
  | alive _ _ => exact ⟨tracked, rfl, rfl⟩
  | keyless _ _ => exact ⟨tracked, rfl, rfl⟩
  | nothing => exact ⟨tracked, rfl, rfl⟩

theorem Tracked.registerLookup
    (tracked : Tracked state) {lookup next : Lookup Id} {member : Id}
    {redis : Redis Id} (checking : state.setup id = .checking lookup)
    (asked : Asked state.redis lookup member redis next) :
    Tracked (state.withSetup redis id (.checking next)) := by
  have before := tracked.registering id lookup checking
  rcases asked.faithful tracked before with ⟨faithful, found⟩
  rcases asked.tracked tracked before with ⟨after, sameKeys, samePublished⟩
  have placed := after.placed id
  simp only [checking] at placed
  have general :
      Tracked
        (State.withSetup { state with redis := redis } redis id
          (.checking next)) := by
    apply after.withSetup (SameElsewhere.refl _ _)
    · exact
        { keyed := fun key => by cases (placed.keyed key).1
          openKey := by simp [Setup.keyed]
          added := fun member => by cases placed.added member
          member := by simp [Setup.added]
          absent := by simp
          skipped := by simp
          underWay := fun _ => placed.underWay rfl }
    · simp [checking, Setup.added]
    · exact fun _ _ key => key
    · rintro later same
      cases same
      constructor
      · intro other isAsked
        have added := faithful.gets other isAsked
        by_cases isId : other = id
        · rw [isId, checking] at added
          cases added
        · simpa [isId] using added
      · intro other removal
        rcases faithful.removals other removal with ⟨added, keyless⟩
        by_cases isId : other = id
        · rw [isId, checking] at added
          cases added
        · simpa [isId, sameKeys] using And.intro added keyless
    · intro _ other
      by_contra checks
      have apart := tracked.alone other id (by simpa using checks)
      rw [checking] at apart
      cases apart
    · exact fun _ isVisible => Or.inl isVisible
    · exact
        announced_withSetup (fun online => online) (by simp [checking])
    · intro isFound
      have announced : State.announced state := by
        rcases found isFound with already | ⟨other, isVisible, _⟩
        · exact tracked.found id (by rw [checking]; exact already)
        · exact tracked.visible other isVisible
      rcases announced with online | publishing
      · left
        rw [Redis.online, samePublished]
        exact online
      · exact Or.inr publishing
    · exact Or.inl
  exact general

end Register

/-! ## Steps of unregisterPresence -/

section Unregister

variable {state : State Id} {id : Id}

theorem Tracked.close
    (tracked : Tracked state) (id : Id) :
    Tracked (PresenceCommands.close state id) := by
  have closes :
      state.setup id ≠ .absent → state.closing id = .opened →
        Tracked (state.withClosing state.redis id .deleting) := by
    intro present opened
    have placed := tracked.placed id
    rw [opened] at placed
    apply tracked.withClosing (SameElsewhere.refl _ _)
    · exact
        { keyed := fun key => ⟨(placed.keyed key).1, rfl⟩
          openKey := by simp
          added := placed.added
          member := placed.member
          absent := fun absent => absurd absent present
          skipped := by simp
          underWay := fun _ => rfl }
    · exact fun _ key => key
    · simp
    · simp [Closing.checks]
    · simp
    · exact fun _ isVisible => isVisible
    · exact Or.inl fun online => online
    · refine fun online => ⟨online, fun holds => ⟨id, Or.inl ?_⟩⟩
      rcases holds with ⟨added, _⟩ | undecided
      · exact ⟨added, by simp [Closing.kept]⟩
      · rw [opened] at undecided
        cases undecided
  unfold PresenceCommands.close
  split
  · exact tracked
  · rename_i opened present
    exact closes present opened
  · exact tracked

/-- `del` of an unregister, after the setup of its connection. -/
theorem Tracked.unregisterDel
    (tracked : Tracked state) (deleting : state.closing id = .deleting)
    (ended : Setup.underWay (state.setup id) = false) :
    Tracked (state.withClosing (state.redis.del id) id .removing) := by
  have placed := tracked.placed id
  rw [deleting] at placed
  apply tracked.withClosing
  · intro connection different
    simp [PresenceCommands.Redis.del, different]
  · exact
      { keyed := fun key =>
          absurd key (Finset.notMem_erase id _)
        openKey := by simp
        added := placed.added
        member := fun key => absurd key (Finset.notMem_erase id _)
        absent := fun absent => by cases placed.absent absent
        skipped := by simp
        underWay := by simp [ended] }
  · exact fun _ key => Finset.mem_of_mem_erase key
  · simp
  · simp [Closing.checks]
  · simp
  · exact fun _ isVisible =>
      ⟨Finset.mem_of_mem_erase isVisible.1, isVisible.2⟩
  · exact Or.inl fun online => online
  · exact fun online =>
      ⟨online, fun _ => ⟨id, Or.inr (by simp [Closing.undecided])⟩⟩

/-- `sRem` of an unregister. -/
theorem Tracked.unregisterSRem
    (tracked : Tracked state) (removing : state.closing id = .removing) :
    Tracked (state.withClosing (state.redis.sRem id) id .asking) := by
  have placed := tracked.placed id
  rw [removing] at placed
  have noKey : id ∉ state.redis.connectionKeys := by
    intro key
    cases (placed.keyed key).2
  apply tracked.withClosing
  · intro connection different
    simp [PresenceCommands.Redis.sRem, different]
  · exact
      { keyed := fun key => absurd key noKey
        openKey := by simp
        added := fun member =>
          absurd member (Finset.notMem_erase id _)
        member := fun key => absurd key noKey
        absent := fun absent => by cases placed.absent absent
        skipped := by simp
        underWay := fun underWay => by cases placed.underWay underWay }
  · exact fun _ key => key
  · simp
  · simp [Closing.checks]
  · simp
  · exact fun _ isVisible =>
      ⟨isVisible.1, Finset.mem_of_mem_erase isVisible.2⟩
  · exact Or.inl fun online => online
  · exact fun online =>
      ⟨online, fun _ => ⟨id, Or.inr (by simp [Closing.undecided])⟩⟩

/-- `sMembers` of an unregister, while no register is joining. -/
theorem Tracked.unregisterSMembers
    (tracked : Tracked state) (asking : state.closing id = .asking)
    (apart : ∀ other, Setup.joining (state.setup other) = false) :
    Tracked
      (state.withClosing state.redis id
        (.checking state.redis.sMembers)) := by
  have placed := tracked.placed id
  rw [asking] at placed
  apply tracked.withClosing (SameElsewhere.refl _ _)
  · exact
      { keyed := fun key => by cases (placed.keyed key).2
        openKey := by simp
        added := placed.added
        member := placed.member
        absent := fun absent => by cases placed.absent absent
        skipped := by simp
        underWay := fun underWay => by cases placed.underWay underWay }
  · exact fun _ key => key
  · rintro lookup same
    cases same
    refine ⟨fun other member => (tracked.placed other).added member, ?_⟩
    simp [PresenceCommands.Redis.sMembers]
  · exact fun _ => apart
  · rintro lookup other same _ isVisible
    cases same
    exact isVisible.2
  · exact fun _ isVisible => isVisible
  · exact Or.inl fun online => online
  · exact fun online =>
      ⟨online, fun _ =>
        ⟨id, Or.inr
          (by simp [Closing.undecided,
            PresenceCommands.Redis.sMembers])⟩⟩

theorem Tracked.unregisterLookup
    (tracked : Tracked state) {lookup next : Lookup Id} {member : Id}
    {redis : Redis Id} (checking : state.closing id = .checking lookup)
    (asked : Asked state.redis lookup member redis next) :
    Tracked (state.withClosing redis id (.checking next)) := by
  have before := tracked.unregistering id lookup checking
  rcases asked.faithful tracked before with ⟨faithful, found⟩
  rcases asked.tracked tracked before with ⟨after, sameKeys, samePublished⟩
  have placed := after.placed id
  simp only [checking] at placed
  have stillSees :
      ∀ other, next.online = false → Redis.visible redis other →
        other ∈ next.gets := by
    intro other offline isVisible
    have earlier : lookup.online = false → other ∈ lookup.gets :=
      fun wasOffline =>
        after.sees id lookup other checking wasOffline isVisible
    cases asked with
    | alive _ _ => cases offline
    | keyless _ keyless =>
        refine Finset.mem_erase.mpr ⟨?_, earlier offline⟩
        rintro rfl
        exact keyless isVisible.1
    | removed _ => exact earlier offline
    | nothing => exact earlier offline
  have general :
      Tracked
        (State.withClosing { state with redis := redis } redis id
          (.checking next)) := by
    apply after.withClosing (SameElsewhere.refl _ _)
    · exact
        { keyed := fun key => by cases (placed.keyed key).2
          openKey := by simp
          added := placed.added
          member := placed.member
          absent := fun absent => by cases placed.absent absent
          skipped := by simp
          underWay := fun underWay => by
            cases placed.underWay underWay }
    · exact fun _ key => key
    · rintro later same
      cases same
      refine ⟨faithful.gets, fun other removal => ?_⟩
      rcases faithful.removals other removal with ⟨added, keyless⟩
      exact ⟨added, by simpa [sameKeys] using keyless⟩
    · intro _ other
      exact tracked.alone id other (by rw [checking]; rfl)
    · rintro later other same offline isVisible
      cases same
      exact stillSees other offline isVisible
    · exact fun _ isVisible => isVisible
    · exact Or.inl fun online => online
    · refine fun online => ⟨online, fun holds => ?_⟩
      cases offline : next.online with
      | false =>
          exact
            ⟨id, Or.inr (by simp [Closing.undecided, offline])⟩
      | true =>
          rcases found offline with already | ⟨other, isVisible, added⟩
          · rcases holds with ⟨_, kept⟩ | undecided
            · rw [checking] at kept
              cases kept
            · simp [checking, Closing.undecided, already] at undecided
          · have kept := ((tracked.placed other).keyed isVisible.1).2
            have different : other ≠ id := by
              rintro rfl
              rw [checking] at kept
              cases kept
            exact ⟨other, Or.inl ⟨added, by simpa [different] using kept⟩⟩
  exact general

/-- The end of an unregister: it publishes when it found nobody. -/
theorem Tracked.unregisterEnds
    (tracked : Tracked state) {lookup : Lookup Id}
    (checking : state.closing id = .checking lookup)
    (finished : lookup.finished = true) :
    Tracked
      (state.withClosing
        (if lookup.online then state.redis
          else state.redis.publish false)
        id .finished) := by
  have placed := tracked.placed id
  rw [checking] at placed
  have ended :
      ∀ redis : Redis Id,
        redis.connectionKeys = state.redis.connectionKeys →
        redis.userConnections = state.redis.userConnections →
          SameElsewhere state.redis redis id ∧
            Placed redis id (state.setup id) .finished := by
    intro redis keys members
    refine ⟨fun _ _ => by rw [keys, members]; exact ⟨Iff.rfl, Iff.rfl⟩, ?_⟩
    exact
      { keyed := fun key => by cases (placed.keyed (keys ▸ key)).2
        openKey := by simp
        added := fun member => placed.added (members ▸ member)
        member := fun key => by cases (placed.keyed (keys ▸ key)).2
        absent := fun absent => by cases placed.absent absent
        skipped := by simp
        underWay := fun underWay => by cases placed.underWay underWay }
  cases isOnline : lookup.online with
  | true =>
      rcases ended state.redis rfl rfl with ⟨same, placedAfter⟩
      apply tracked.withClosing same placedAfter
      · exact fun _ key => key
      · simp
      · simp [Closing.checks]
      · simp
      · exact fun _ isVisible => isVisible
      · exact Or.inl fun online => online
      · refine fun online => ⟨online, fun holds => ?_⟩
        rcases holds with ⟨_, kept⟩ | undecided
        · rw [checking] at kept
          cases kept
        · simp [checking, Closing.undecided, isOnline] at undecided
  | false =>
      rcases ended (state.redis.publish false) rfl rfl with
        ⟨same, placedAfter⟩
      apply tracked.withClosing same placedAfter
      · exact fun _ key => key
      · simp
      · simp [Closing.checks]
      · simp
      · exact fun _ isVisible => isVisible
      · refine Or.inr ⟨fun other isVisible => ?_, fun other => ?_⟩
        · have pending :=
            tracked.sees id lookup other checking isOnline isVisible
          simp only [Lookup.finished, decide_eq_true_eq] at finished
          rw [finished.1] at pending
          cases pending
        · exact tracked.alone id other (by rw [checking]; rfl)
      · intro online
        simp [Redis.online, PresenceCommands.Redis.publish] at online

end Unregister

/-! ## Runs -/

section Runs

variable {state : State Id}

theorem Tracked.setup
    (tracked : Tracked state) (id : Id)
    (undisturbed : Undisturbed state (.setup id)) :
    Tracked (PresenceCommands.setup state id) := by
  unfold PresenceCommands.setup
  split
  · rename_i querying
    split
    · rename_i opened
      exact
        tracked.waits (Or.inr querying)
          (Or.inr (Or.inl ⟨rfl, opened⟩))
    · rename_i closed
      exact
        tracked.waits (Or.inr querying)
          (Or.inr (Or.inr ⟨rfl, closed⟩))
  · rename_i loading
    exact tracked.registerSMembers loading (undisturbed loading)
  · rename_i lookup checking
    split
    · exact tracked.registerSet checking
    · exact tracked
  · rename_i wasOnline adding
    exact tracked.registerSAdd adding
  · rename_i publishing
    exact tracked.registerPublish publishing
  · exact tracked
  · exact tracked
  · exact tracked

theorem Tracked.unregister
    (tracked : Tracked state) (id : Id)
    (undisturbed : Undisturbed state (.unregister id)) :
    Tracked (PresenceCommands.unregister state id) := by
  unfold PresenceCommands.unregister
  split
  · rename_i deleting
    exact tracked.unregisterDel deleting (undisturbed.1 deleting)
  · rename_i removing
    exact tracked.unregisterSRem removing
  · rename_i asking
    exact tracked.unregisterSMembers asking (undisturbed.2 asking)
  · rename_i lookup checking
    split
    · rename_i finished
      exact tracked.unregisterEnds checking finished
    · exact tracked
  · exact tracked
  · exact tracked

theorem Tracked.step
    (tracked : Tracked state) (event : Event Id)
    (undisturbed : Undisturbed state event) :
    Tracked (step state event) := by
  cases event with
  | connect id preload => exact tracked.connect id preload
  | setup id => exact tracked.setup id undisturbed
  | setupLookup id member =>
      change Tracked (PresenceCommands.setupLookup state id member)
      unfold PresenceCommands.setupLookup
      split
      · rename_i lookup checking
        exact
          tracked.registerLookup checking
            (ask_cases state.redis lookup member)
      · exact tracked
  | close id => exact tracked.close id
  | unregister id => exact tracked.unregister id undisturbed
  | unregisterLookup id member =>
      change Tracked (PresenceCommands.unregisterLookup state id member)
      unfold PresenceCommands.unregisterLookup
      split
      · rename_i lookup checking
        exact
          tracked.unregisterLookup checking
            (ask_cases state.redis lookup member)
      · exact tracked
  | expire id =>
      change Tracked (PresenceCommands.expire state id)
      unfold PresenceCommands.expire
      split
      · exact tracked
      · rename_i closed
        exact tracked.expire closed

omit [DecidableEq Id] in
/-- When nothing is under way, the invariant is the truth. -/
theorem Tracked.truthful (tracked : Tracked state) : state.truthful := by
  intro settled
  constructor
  · intro online
    rcases tracked.holder online with ⟨id, ⟨added, kept⟩ | undecided⟩
    · refine ⟨id, ?_, ?_⟩
      · intro absent
        simp [absent, Setup.added] at added
      · rcases (settled id).2 with opened | finished
        · exact opened
        · simp [finished, Closing.kept] at kept
    · rcases (settled id).2 with opened | finished
      · simp [opened, Closing.undecided] at undecided
      · simp [finished, Closing.undecided] at undecided
  · rintro ⟨id, present, opened⟩
    have placed := tracked.placed id
    have registered : state.setup id = .registered := by
      rcases (settled id).1 with absent | registered | skipped
      · exact absurd absent present
      · exact registered
      · exact absurd opened (placed.skipped skipped)
    have key : id ∈ state.redis.connectionKeys :=
      placed.openKey (by rw [registered]; rfl) opened
    have isVisible : Redis.visible state.redis id :=
      ⟨key, placed.member key (by rw [registered]; rfl)⟩
    rcases tracked.visible id isVisible with online | ⟨other, publishing⟩
    · exact online
    · rcases (settled other).1 with same | same | same <;>
        simp [same] at publishing

/--
Any number of connections: in undisturbed runs the last event tells the
truth whenever all calls have finished.
-/
theorem last_event_truthful_when
    {Id : Type} [DecidableEq Id] (events : List (Event Id))
    (undisturbed :
      EveryStep PresenceCommands.step Undisturbed State.start events) :
    (run PresenceCommands.step State.start events).truthful :=
  (run_guarded (fun _ event tracked => tracked.step event)
    Tracked.start undisturbed).truthful

end Runs

/-- A second connection joins the first one, which then closes. -/
def exampleConnections : List (Event Bool) :=
  [.connect false true, .setup false, .setup false, .setup false,
    .setup false, .setup false, .connect true false, .setup true,
    .setupLookup true false, .setup true, .setup true, .close false,
    .unregister false, .unregister false, .unregister false,
    .unregisterLookup false true, .unregister false]

theorem exampleConnections_undisturbed :
    EveryStep PresenceCommands.step Undisturbed State.start
      exampleConnections := by
  simp only [exampleConnections, EveryStep]
  decide

theorem last_event_truthful_when_example :
    (run PresenceCommands.step State.start exampleConnections).settled ∧
      (run PresenceCommands.step State.start
        exampleConnections).truthful :=
  ⟨by decide,
    last_event_truthful_when exampleConnections
      exampleConnections_undisturbed⟩

/-! ## Disturbed calls -/

/-- The socket closes while its register runs: the register comes last. -/
def fastDisconnect : List (Event Unit) :=
  [.connect () false, .setup (), .close (), .unregister (),
    .unregister (), .unregister (), .setup (), .setup (),
    .unregister (), .setup ()]

theorem fast_disconnect_untruthful :
    ¬(run PresenceCommands.step State.start fastDisconnect).truthful := by
  decide

/-- A new connection finds the old one, which does not find it. -/
example :
    ¬(run PresenceCommands.step (State.start : State Bool)
        [.connect false false, .setup false, .setup false, .setup false,
          .setup false, .connect true false, .setup true,
          .setupLookup true false, .close false, .unregister false,
          .unregister false, .unregister false, .setup true, .setup true,
          .unregister false]).truthful := by
  decide

/-- A new connection is announced before the old one is reported gone. -/
example :
    ¬(run PresenceCommands.step (State.start : State Bool)
        [.connect false false, .setup false, .setup false, .setup false,
          .setup false, .close false, .unregister false,
          .unregister false, .unregister false, .connect true false,
          .setup true, .setup true, .setup true, .setup true,
          .unregister false]).truthful := by
  decide

end ChatBackend.Realtime.PresenceTruth
