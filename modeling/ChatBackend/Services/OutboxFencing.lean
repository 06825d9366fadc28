import ChatBackend.Services.PersistedWrites

/-!
# Concurrent drains of the outbox

A drain that pauses for longer than `staleLockMs` loses its rows to the next
claim, but nothing stops it from settling them afterwards.  The example at
the end is such a run: the late drain turns a PUBLISHED row into a FAILED
one.

As long as no claim takes a row that a drain under way still has to settle,
the rows held by different drains are different, PUBLISHING, and counted by
their attempts.  `Exclusive` is this invariant, and it keeps a PUBLISHED row
PUBLISHED.
-/

namespace ChatBackend.Services.OutboxFencing

open ChatBackend.Foundation.EventRuns
open ChatBackend.Foundation.TableRows
open ChatBackend.Storage.Schema
open ChatBackend.Storage.SequenceMigration
open ChatBackend.Storage.TableInvariants
open ChatBackend.Writer.WriteCommands
open ChatBackend.Writer.BatchTransaction
open ChatBackend.Writer.BatchSpecification
open ChatBackend.Writer.DeadLetters
open ChatBackend.Writer.OutboxDrain
open ChatBackend.Services.Transitions
open ChatBackend.Services.Fanout
open ChatBackend.Services.PersistedWrites

/-! ## What fencing would give -/

/-- A PUBLISHED row stays PUBLISHED. -/
def PublishedStays (before after : Database) : Prop :=
  ∀ row ∈ before.messageOutbox, row.status = .published →
    ∃ later ∈ after.messageOutbox,
      later.id = row.id ∧ later.messageId = row.messageId ∧
        later.status = .published

/--
A drain whose claim on a row has been taken over leaves its status alone.
Every claim counts an attempt, so a lost claim shows in the attempts.
-/
def LostClaimIsInert
    (engine : Engine) (state : ServiceState) (event : Event) : Prop :=
  ∀ call succeeds drain,
    event = .stepDrain call succeeds →
      state.drains[call]? = some drain →
        ∀ held ∈ drain.pendingRows,
          ∀ row ∈ state.database.messageOutbox,
            row.id = held.id → row.attempts ≠ held.attempts →
              ∀ later ∈ (step engine state event).database.messageOutbox,
                later.id = row.id → later.status = row.status

/-- A FANOUTED write has a PUBLISHED outbox row. -/
def FanoutedIsPublished (db : Database) : Prop :=
  ∀ write ∈ db.messageWrites, write.status = .fanouted →
    ∃ row ∈ db.messageOutbox,
      row.messageId = write.id ∧ row.status = .published

structure OutboxFenced
    (engine : Engine) (legacy : LegacyTables) (clock : Timestamp)
    (events : List Event) : Prop where
  published :
    EveryStep (step engine)
      (fun state event =>
        PublishedStays state.database (step engine state event).database)
      (initial engine legacy clock) events
  inert :
    EveryStep (step engine) (LostClaimIsInert engine)
      (initial engine legacy clock) events
  fanouted :
    FanoutedIsPublished (reached engine legacy clock events).database

/--
The claim takes no row, through its stale-lock branch, that a drain under way
still has to settle.
-/
def TakesNoHeldRow
    (engine : Engine) (state : ServiceState) (event : Event) : Prop :=
  ∀ deps,
    event = .startDrain deps true → deps.publisher = true →
      ∀ row ∈ claimable engine state.clock deps state.database,
        row.status = .publishing →
          ∀ drain ∈ state.drains, ∀ held ∈ drain.pendingRows,
            held.id ≠ row.id

/-! ## The invariant -/

/-- The rows that the drains under way still have to settle. -/
def heldRows (drains : List Drain) : List ClaimedOutboxRow :=
  drains.flatMap Drain.pendingRows

/-- The stored row of a claim that nobody else has taken. -/
def HeldRow (db : Database) (claimed : ClaimedOutboxRow) : Prop :=
  ∃ row ∈ db.messageOutbox,
    row.id = claimed.id ∧ row.messageId = claimed.messageId ∧
      row.status = .publishing ∧ row.attempts = claimed.attempts

structure Exclusive (state : ServiceState) : Prop where
  held :
    ∀ claimed ∈ heldRows state.drains, HeldRow state.database claimed
  distinct :
    ((heldRows state.drains).map ClaimedOutboxRow.id).Nodup
  fanouted : FanoutedIsPublished state.database

theorem mem_heldRows
    {drains : List Drain} {drain : Drain} {claimed : ClaimedOutboxRow}
    (member : drain ∈ drains) (pending : claimed ∈ drain.pendingRows) :
    claimed ∈ heldRows drains :=
  List.mem_flatMap.mpr ⟨drain, member, pending⟩

/-- The drains around the one at a position. -/
theorem drains_split
    {drains : List Drain} {call : Nat} {drain : Drain}
    (found : drains[call]? = some drain) :
    ∃ left right, drains = left ++ drain :: right ∧
      ∀ next, drains.set call next = left ++ next :: right := by
  rcases List.getElem?_eq_some_iff.mp found with ⟨inBounds, same⟩
  refine
    ⟨drains.take call, drains.drop (call + 1), ?_, fun next => ?_⟩
  · rw [← same, List.getElem_cons_drop, List.take_append_drop]
  · rw [List.set_eq_take_append_cons_drop, if_pos inBounds]

theorem heldRows_split (left right : List Drain) (drain : Drain) :
    heldRows (left ++ drain :: right) =
      heldRows left ++ (drain.pendingRows ++ heldRows right) := by
  simp [heldRows]

/-- Fewer held rows keep the parts of the invariant about them. -/
theorem exclusive_of_sublist
    {before after : ServiceState} (kept : Exclusive before)
    (fewer :
      (heldRows after.drains).Sublist (heldRows before.drains))
    (held :
      ∀ claimed ∈ heldRows after.drains,
        HeldRow before.database claimed →
          HeldRow after.database claimed)
    (fanouted : FanoutedIsPublished after.database) :
    Exclusive after where
  held := fun claimed member =>
    held claimed member (kept.held claimed (fewer.mem member))
  distinct :=
    (fewer.map ClaimedOutboxRow.id).nodup kept.distinct
  fanouted := fanouted

/-- FANOUTED rows stay accounted for when no new ones appear. -/
theorem fanouted_of_published
    {before after : Database}
    (kept : FanoutedIsPublished before)
    (stays : PublishedStays before after)
    (origin :
      ∀ write ∈ after.messageWrites, write.status = .fanouted →
        ∃ old ∈ before.messageWrites,
          old.id = write.id ∧ old.status = .fanouted) :
    FanoutedIsPublished after := by
  intro write member isFanouted
  rcases origin write member isFanouted with
    ⟨old, oldMember, sameId, wasFanouted⟩
  rcases kept old oldMember wasFanouted with
    ⟨row, rowMember, rowMessage, isPublished⟩
  rcases stays row rowMember isPublished with
    ⟨later, laterMember, _, laterMessage, laterPublished⟩
  exact
    ⟨later, laterMember, by rw [laterMessage, rowMessage, sameId],
      laterPublished⟩

theorem publishedStays_same
    {before after : Database}
    (rows :
      ∀ row ∈ before.messageOutbox, row ∈ after.messageOutbox) :
    PublishedStays before after :=
  fun row member isPublished =>
    ⟨row, rows row member, rfl, rfl, isPublished⟩

/-! ## The effect of a claim -/

section Claim

variable {engine : Engine} {state : ServiceState}
  {deps : DrainMessageOutboxDependencies}

theorem claim_publishedStays (valid : state.database.Valid) :
    PublishedStays state.database
      (claimOutbox engine state.clock deps state.database).1 := by
  intro row member isPublished
  refine ⟨row, ?_, rfl, rfl, isPublished⟩
  rcases claimRow_eq engine state.clock valid deps member with ⟨taken, _⟩ | ⟨_, same⟩
  · exact
      absurd isPublished (isClaimable_status (mem_claimable taken).2)
  · exact List.mem_map.mpr ⟨row, member, same⟩

/-- A row that is held and not taken is still held. -/
theorem claim_heldRow
    (valid : state.database.Valid) (kept : Exclusive state)
    (guarded : TakesNoHeldRow engine state (.startDrain deps true))
    (publisher : deps.publisher = true)
    {claimed : ClaimedOutboxRow}
    (member : claimed ∈ heldRows state.drains) :
    HeldRow (claimOutbox engine state.clock deps state.database).1
      claimed := by
  rcases kept.held claimed member with
    ⟨row, rowMember, sameId, sameMessage, isPublishing, attempts⟩
  refine
    ⟨row, ?_, sameId, sameMessage, isPublishing, attempts⟩
  rcases claimRow_eq engine state.clock valid deps rowMember with ⟨taken, _⟩ | ⟨_, same⟩
  · rcases List.mem_flatMap.mp member with ⟨drain, drainMember, pending⟩
    exact
      absurd sameId.symm
        (guarded deps rfl publisher row taken isPublishing drain
          drainMember claimed pending)
  · exact List.mem_map.mpr ⟨row, rowMember, same⟩

/-- The rows that a claim returns are held by nobody else. -/
theorem claim_newRow
    (valid : state.database.Valid) (kept : Exclusive state)
    (guarded : TakesNoHeldRow engine state (.startDrain deps true))
    (publisher : deps.publisher = true)
    {row : MessageOutbox}
    (taken : row ∈ claimable engine state.clock deps state.database) :
    HeldRow (claimOutbox engine state.clock deps state.database).1
        (returnedRow row) ∧
      ∀ claimed ∈ heldRows state.drains, claimed.id ≠ row.id := by
  rcases mem_claimable taken with ⟨member, _⟩
  constructor
  · rcases claimRow_eq engine state.clock valid deps member with
      ⟨_, claimed⟩ | ⟨untaken, _⟩
    · exact
        ⟨_, List.mem_map.mpr ⟨row, member, claimed⟩, rfl, rfl, rfl,
          rfl⟩
    · exact absurd taken untaken
  · intro claimed held sameId
    rcases kept.held claimed held with
      ⟨stored, storedMember, storedId, _, isPublishing, _⟩
    have same : stored = row :=
      eq_of_unique_key valid.outboxIds storedMember member
        (storedId.trans sameId)
    rcases List.mem_flatMap.mp held with ⟨drain, drainMember, pending⟩
    exact
      guarded deps rfl publisher row taken (same ▸ isPublishing) drain
        drainMember claimed pending sameId

theorem claim_exclusive
    (sound : Sound state.database) (kept : Exclusive state)
    (guarded : TakesNoHeldRow engine state (.startDrain deps true))
    (publisher : deps.publisher = true) :
    Exclusive
      { state with
        database :=
          (claimOutbox engine state.clock deps state.database).1
        drains :=
          state.drains ++
            [.loading
              (claimOutbox engine state.clock deps
                state.database).2] } := by
  have held :
      heldRows
          (state.drains ++
            [.loading
              (claimOutbox engine state.clock deps
                state.database).2]) =
        heldRows state.drains ++
          (claimOutbox engine state.clock deps state.database).2 := by
    simp [heldRows, Drain.pendingRows]
  refine ⟨?_, ?_, ?_⟩
  · rw [held]
    intro claimed member
    rcases List.mem_append.mp member with old | new
    · exact claim_heldRow sound.valid kept guarded publisher old
    · rcases mem_claimOutbox.mp new with ⟨row, taken, rfl⟩
      exact (claim_newRow sound.valid kept guarded publisher taken).1
  · rw [held, List.map_append, List.nodup_append]
    refine ⟨kept.distinct, ?_, ?_⟩
    · have rows :=
        (claimOutbox_perm engine state.clock deps state.database).map
          ClaimedOutboxRow.id
      rw [List.map_map] at rows
      exact
        rows.nodup_iff.mpr
          (claimable_ids engine state.clock sound.valid deps)
    · intro oldId oldMember newId newMember
      rcases List.mem_map.mp oldMember with ⟨claimed, claimedMember, rfl⟩
      rcases List.mem_map.mp newMember with ⟨new, newIn, rfl⟩
      rcases mem_claimOutbox.mp newIn with ⟨row, taken, rfl⟩
      exact
        (claim_newRow sound.valid kept guarded publisher taken).2
          claimed claimedMember
  · exact
      fanouted_of_published kept.fanouted
        (claim_publishedStays sound.valid)
        (fun write member isFanouted =>
          ⟨write, member, rfl, isFanouted⟩)

end Claim

/-! ## The effect of settling a row -/

/-- The row at the head of a drain, among all held rows. -/
structure Settling
    (before after : ServiceState) (claimed : ClaimedOutboxRow) : Prop where
  held : HeldRow before.database claimed
  fewer : (heldRows after.drains).Sublist (heldRows before.drains)
  others :
    ∀ other ∈ heldRows after.drains, other.id ≠ claimed.id

theorem drain_settling
    {before after : ServiceState} (kept : Exclusive before)
    {call : Nat} {drain next : Drain} {claimed : ClaimedOutboxRow}
    (found : before.drains[call]? = some drain)
    (drains : after.drains = before.drains.set call next)
    (pending : drain.pendingRows = claimed :: next.pendingRows) :
    Settling before after claimed := by
  rcases drains_split found with ⟨left, right, split, replaced⟩
  have before_rows :
      heldRows before.drains =
        heldRows left ++
          (claimed :: (next.pendingRows ++ heldRows right)) := by
    rw [split, heldRows_split, pending, List.cons_append]
  have after_rows :
      heldRows after.drains =
        heldRows left ++ (next.pendingRows ++ heldRows right) := by
    rw [drains, replaced, heldRows_split]
  have distinct := kept.distinct
  rw [before_rows, List.map_append, List.map_cons] at distinct
  refine ⟨?_, ?_, ?_⟩
  · apply kept.held
    rw [before_rows]
    exact List.mem_append_right _ List.mem_cons_self
  · rw [before_rows, after_rows]
    exact
      (List.Sublist.refl _).append
        ((List.Sublist.refl _).cons claimed)
  · rw [after_rows]
    intro other member
    have separate := (List.nodup_append.mp distinct).2.2
    have headFresh :=
      (List.nodup_cons.mp (List.nodup_append.mp distinct).2.1).1
    rcases List.mem_append.mp member with inLeft | inRest
    · exact
        separate _ (List.mem_map_of_mem inLeft) _ List.mem_cons_self
    · intro sameId
      apply headFresh
      rw [← sameId]
      exact List.mem_map_of_mem inRest

/-- Rewriting the settled row leaves the other held rows held. -/
theorem heldRow_of_other
    {db : Database} (version : MessageOutbox → MessageOutbox)
    (claimed : ClaimedOutboxRow) {other : ClaimedOutboxRow}
    (untouched : ∀ row, row.id ≠ claimed.id → version row = row)
    (different : other.id ≠ claimed.id)
    {after : Database}
    (rows : after.messageOutbox = db.messageOutbox.map version)
    (held : HeldRow db other) : HeldRow after other := by
  rcases held with ⟨row, member, sameId, columns⟩
  refine ⟨row, ?_, sameId, columns⟩
  rw [rows]
  exact
    List.mem_map.mpr
      ⟨row, member, untouched row (sameId ▸ different)⟩

theorem failed_publishedStays
    (engine : Engine) (now : Timestamp) (err : Failure)
    {db : Database} (valid : db.Valid) {claimed : ClaimedOutboxRow}
    (held : HeldRow db claimed) :
    PublishedStays db (markOutboxFailed engine now db claimed err) := by
  intro row member isPublished
  refine ⟨row, ?_, rfl, rfl, isPublished⟩
  refine List.mem_map.mpr ⟨row, member, ?_⟩
  unfold failedVersion
  rw [if_neg]
  intro sameId
  rcases held with ⟨stored, storedMember, storedId, _, isPublishing, _⟩
  have same : stored = row :=
    eq_of_unique_key valid.outboxIds storedMember member
      (storedId.trans sameId.symm)
  rw [same, isPublished] at isPublishing
  simp at isPublishing

theorem completed_publishedStays
    (now : Timestamp) (db : Database) (claimed : ClaimedOutboxRow) :
    PublishedStays db (completeOutboxRow now db claimed) := by
  intro row member isPublished
  refine
    ⟨publishedVersion now claimed.id row, List.mem_map_of_mem member,
      by simp, congrArg Prod.snd (publishedVersion_event now _ row), ?_⟩
  unfold publishedVersion
  split
  · rfl
  · exact isPublished

theorem completed_fanouted
    {now : Timestamp} {db : Database} {claimed : ClaimedOutboxRow}
    (kept : FanoutedIsPublished db) (held : HeldRow db claimed) :
    FanoutedIsPublished (completeOutboxRow now db claimed) := by
  intro write member isFanouted
  rcases List.mem_map.mp member with ⟨old, oldMember, rfl⟩
  rcases fanoutedVersion_cases claimed.messageId old with
    same | ⟨sameId, _, _⟩
  · rw [same] at isFanouted ⊢
    rcases kept old oldMember isFanouted with
      ⟨row, rowMember, rowMessage, isPublished⟩
    obtain ⟨later, laterMember, _, laterMessage, laterPublished⟩ :=
      completed_publishedStays now db claimed row rowMember isPublished
    exact
      ⟨later, laterMember, laterMessage.trans rowMessage,
        laterPublished⟩
  · rcases held with ⟨row, rowMember, rowId, rowMessage, _⟩
    refine
      ⟨publishedVersion now claimed.id row,
        List.mem_map_of_mem rowMember, ?_, ?_⟩
    · have sameMessage :=
        congrArg Prod.snd (publishedVersion_event now claimed.id row)
      change
        (publishedVersion now claimed.id row).messageId =
          row.messageId at sameMessage
      rw [sameMessage, rowMessage, fanoutedVersion_id, sameId]
    · unfold publishedVersion
      rw [if_pos rowId]

/-- What a step of a drain keeps, and that PUBLISHED rows stay. -/
theorem drain_exclusive
    {engine : Engine} {before : ServiceState}
    (sound : Sound before.database) (kept : Exclusive before)
    {call : Nat} {succeeds : Bool} {drain : Drain}
    (found : before.drains[call]? = some drain)
    {after : ServiceState}
    (database :
      after.database =
        (drainStep engine before.clock succeeds before.database
          drain).database)
    (drains :
      after.drains =
        before.drains.set call
          (drainStep engine before.clock succeeds before.database
            drain).drain) :
    Exclusive after ∧ PublishedStays before.database after.database := by
  rcases drainStep_pendingRows engine before.clock succeeds
      before.database drain with
    ⟨same, fewer⟩ | ⟨claimed, pending, completed | ⟨err, failed⟩⟩
  · rw [same] at database
    refine ⟨?_, ?_⟩
    · refine exclusive_of_sublist kept ?_ ?_ ?_
      · rcases drains_split found with ⟨left, right, split, replaced⟩
        rw [drains, replaced, split, heldRows_split, heldRows_split]
        exact
          (List.Sublist.refl _).append
            (fewer.append (List.Sublist.refl _))
      · rw [database]
        exact fun _ _ held => held
      · rw [database]
        exact kept.fanouted
    · rw [database]
      exact publishedStays_same fun _ member => member
  · have settling := drain_settling kept found drains pending
    rw [completed] at database
    refine ⟨?_, ?_⟩
    · refine exclusive_of_sublist kept settling.fewer ?_ ?_
      · intro other member held
        refine
          heldRow_of_other (publishedVersion before.clock claimed.id)
            claimed ?_ (settling.others other member)
            (by rw [database]; rfl) held
        intro row different
        exact if_neg different
      · rw [database]
        exact completed_fanouted kept.fanouted settling.held
    · rw [database]
      exact completed_publishedStays _ _ _
  · have settling := drain_settling kept found drains pending
    have stays :=
      failed_publishedStays engine before.clock err sound.valid
        settling.held
    rw [failed] at database
    refine ⟨?_, ?_⟩
    · refine exclusive_of_sublist kept settling.fewer ?_ ?_
      · intro other member held
        refine
          heldRow_of_other
            (failedVersion engine before.clock claimed err)
            claimed ?_ (settling.others other member)
            (by rw [database]; rfl) held
        intro row different
        exact if_neg different
      · rw [database]
        exact
          fanouted_of_published kept.fanouted stays
            (fun write member isFanouted =>
              ⟨write, member, rfl, isFanouted⟩)
    · rw [database]
      exact stays

/-! ## Guarded runs -/

theorem start_heldRows
    (drains : List Drain) {drain : Drain}
    (finished : drain.isFinished = true) :
    heldRows (drains ++ [drain]) = heldRows drains := by
  have nothing : drain.pendingRows = [] := by
    cases drain <;> first
      | rfl
      | simp [Drain.isFinished] at finished
  simp [heldRows, nothing]

theorem crash_heldRows (drains : List Drain) (call : Nat) :
    (heldRows (drains.set call .rejected)).Sublist
      (heldRows drains) := by
  cases found : drains[call]? with
  | none =>
      rw [List.set_eq_of_length_le (List.getElem?_eq_none_iff.mp found)]
  | some drain =>
      rcases drains_split found with ⟨left, right, split, replaced⟩
      rw [replaced, split, heldRows_split, heldRows_split]
      exact
        (List.Sublist.refl _).append
          ((List.nil_sublist _).append (List.Sublist.refl _))

/-- The invariant where only other tables change. -/
theorem exclusive_of_same
    {before after : ServiceState} (kept : Exclusive before)
    (fewer :
      (heldRows after.drains).Sublist (heldRows before.drains))
    (rows :
      ∀ row ∈ before.database.messageOutbox,
        row ∈ after.database.messageOutbox)
    (origin :
      ∀ write ∈ after.database.messageWrites,
        write.status = .fanouted →
          ∃ old ∈ before.database.messageWrites,
            old.id = write.id ∧ old.status = .fanouted) :
    Exclusive after ∧ PublishedStays before.database after.database := by
  have stays := publishedStays_same rows
  refine ⟨?_, stays⟩
  refine
    exclusive_of_sublist kept fewer ?_
      (fanouted_of_published kept.fanouted stays origin)
  rintro claimed _ ⟨row, member, columns⟩
  exact ⟨row, rows row member, columns⟩

theorem change_exclusive
    {engine : Engine} {before after : ServiceState} {event : Event}
    (change : Change engine before event after)
    (sound : Sound before.database) (kept : Exclusive before)
    (guarded : TakesNoHeldRow engine before event) :
    Exclusive after ∧
      PublishedStays before.database after.database := by
  have sameWrites :
      ∀ write ∈ before.database.messageWrites,
        write.status = .fanouted →
          ∃ old ∈ before.database.messageWrites,
            old.id = write.id ∧ old.status = .fanouted :=
    fun write member isFanouted => ⟨write, member, rfl, isFanouted⟩
  have sameRows :
      ∀ row ∈ before.database.messageOutbox,
        row ∈ before.database.messageOutbox :=
    fun _ member => member
  have sameDrains := List.Sublist.refl (heldRows before.drains)
  cases change with
  | idle => exact exclusive_of_same kept sameDrains sameRows sameWrites
  | batch =>
      refine
        exclusive_of_same kept sameDrains
          (fun _ member => List.mem_append_left _ member) ?_
      intro write member isFanouted
      rcases batch_write_cases member with
        ⟨old, oldMember, _, same | ⟨persisted, _⟩⟩
      · rw [same] at isFanouted ⊢
        rcases List.mem_append.mp oldMember with stored | new
        · exact ⟨old, stored, rfl, isFanouted⟩
        · rcases mem_newWrites.mp new with ⟨⟨row, _, rfl⟩, _⟩
          simp [InputRow.toMessageWrite] at isFanouted
      · rw [persisted] at isFanouted
        simp at isFanouted
  | messageRow =>
      exact exclusive_of_same kept sameDrains sameRows sameWrites
  | lastMessageAt =>
      exact exclusive_of_same kept sameDrains sameRows sameWrites
  | findDeadLetter =>
      exact exclusive_of_same kept sameDrains sameRows sameWrites
  | markDead call messageWriteId err =>
      refine exclusive_of_same kept sameDrains sameRows ?_
      intro write member isFanouted
      rcases List.mem_map.mp member with ⟨old, oldMember, rfl⟩
      have alive :
          (deadWrite engine before.clock messageWriteId err
              old).status ≠
            .dead := by
        rw [isFanouted]
        decide
      rw [deadWrite_eq_of_alive alive] at isFanouted ⊢
      exact ⟨old, oldMember, rfl, isFanouted⟩
  | createDead call pending created found succeeded =>
      rcases createDeadLetter_ok succeeded with ⟨_, _, _, rfl⟩
      refine exclusive_of_same kept sameDrains sameRows ?_
      intro write member isFanouted
      rcases List.mem_append.mp member with old | new
      · exact ⟨write, old, rfl, isFanouted⟩
      · rw [List.mem_singleton] at new
        rw [new] at isFanouted
        simp [deadLetter] at isFanouted
  | dropDead =>
      exact exclusive_of_same kept sameDrains sameRows sameWrites
  | claim deps publisher =>
      exact
        ⟨claim_exclusive sound kept guarded publisher,
          claim_publishedStays sound.valid⟩
  | start deps succeeds drain finished =>
      refine exclusive_of_same kept ?_ sameRows sameWrites
      rw [start_heldRows _ finished]
  | drain call succeeds drain found =>
      exact drain_exclusive sound kept found rfl rfl
  | crash call =>
      exact
        exclusive_of_same kept (crash_heldRows before.drains call)
          sameRows sameWrites
  | clock => exact exclusive_of_same kept sameDrains sameRows sameWrites

/-- Nobody takes over a row that is held, so no claim is ever lost. -/
theorem Exclusive.lostClaimIsInert
    {engine : Engine} {state : ServiceState}
    (kept : Exclusive state) (sound : Sound state.database)
    (event : Event) : LostClaimIsInert engine state event := by
  intro call succeeds drain _ found held pending row member sameId
    different
  have drainMember := List.mem_of_getElem? found
  rcases kept.held held (mem_heldRows drainMember pending) with
    ⟨stored, storedMember, storedId, _, _, attempts⟩
  have same : stored = row :=
    eq_of_unique_key sound.valid.outboxIds storedMember member
      (storedId.trans sameId.symm)
  exact absurd (same ▸ attempts) different

def SoundlyExclusive (state : ServiceState) : Prop :=
  Sound state.database ∧ Exclusive state

theorem step_soundlyExclusive
    (engine : Engine) (state : ServiceState) (event : Event)
    (both : SoundlyExclusive state)
    (guarded : TakesNoHeldRow engine state event) :
    SoundlyExclusive (step engine state event) :=
  ⟨step_sound engine state event both.1,
    (change_exclusive (step_change engine state event both.1) both.1
      both.2 guarded).1⟩

theorem initial_soundlyExclusive
    (engine : Engine) {legacy : LegacyTables}
    (noFanout :
      ∀ write ∈ legacy.messageWrites, write.status ≠ .fanouted)
    (clock : Timestamp) :
    SoundlyExclusive (initial engine legacy clock) :=
  ⟨migrate_sound engine legacy,
    { held := by simp [initial, heldRows]
      distinct := by simp [initial, heldRows]
      fanouted := fun write member isFanouted =>
        absurd isFanouted (noFanout write member) }⟩

theorem fenced_of_guarded
    (engine : Engine) {legacy : LegacyTables}
    (noFanout :
      ∀ write ∈ legacy.messageWrites, write.status ≠ .fanouted)
    (clock : Timestamp) {events : List Event}
    (guarded :
      EveryStep (step engine) (TakesNoHeldRow engine)
        (initial engine legacy clock) events) :
    OutboxFenced engine legacy clock events := by
  have start := initial_soundlyExclusive engine noFanout clock
  have kept :=
    run_guarded (step_soundlyExclusive engine) start guarded
  refine ⟨?_, ?_, kept.2.fanouted⟩
  · refine
      everyStep_of_guarded (step_soundlyExclusive engine) ?_ start
        guarded
    intro state event both admitted
    exact
      (change_exclusive (step_change engine state event both.1) both.1
        both.2 admitted).2
  · refine
      everyStep_of_guarded (step_soundlyExclusive engine) ?_ start
        guarded
    intro state event both _
    exact both.2.lostClaimIsInert both.1 event

end ChatBackend.Services.OutboxFencing
