import ChatBackend.Services.OutboxFencing

/-!
# Lost claims

The guard of the fenced runs cannot be weakened at any claim.  When a claim
takes a row from a drain that still has to settle it, the drain can go on: it
fails at every row before this one, and then at this one, whose status it
changes although its claim is lost.

The example at the end is a run in which a PUBLISHED row becomes FAILED while
its write row is FANOUTED.
-/

namespace ChatBackend.Services.LostClaims

open ChatBackend.Foundation.EventRuns
open ChatBackend.Storage.Schema
open ChatBackend.Storage.SequenceMigration
open ChatBackend.Storage.TableInvariants
open ChatBackend.Writer.WriteCommands
open ChatBackend.Writer.DeadLetters
open ChatBackend.Writer.OutboxDrain
open ChatBackend.Services.Transitions
open ChatBackend.Services.OutboxFencing

/-! ## Attempts count the claims -/

/-- Rows keep their id and never lose attempts. -/
theorem change_attempts
    {engine : Engine} {before after : ServiceState} {event : Event}
    (change : Change engine before event after) :
    ∀ row ∈ before.database.messageOutbox,
      ∃ later ∈ after.database.messageOutbox,
        later.id = row.id ∧ row.attempts ≤ later.attempts := by
  have unchanged :
      ∀ row ∈ before.database.messageOutbox,
        ∃ later ∈ before.database.messageOutbox,
          later.id = row.id ∧ row.attempts ≤ later.attempts :=
    fun row member => ⟨row, member, rfl, Nat.le_refl _⟩
  cases change with
  | batch =>
      exact fun row member =>
        ⟨row, List.mem_append_left _ member, rfl, Nat.le_refl _⟩
  | createDead call pending created found succeeded =>
      rcases createDeadLetter_ok succeeded with ⟨_, _, _, rfl⟩
      exact unchanged
  | claim deps =>
      intro row member
      refine
        ⟨_, List.mem_map_of_mem member, claimRow_id before.clock _ row,
          ?_⟩
      rcases claimRow_cases before.clock
          (claimable engine before.clock deps before.database) row with
        same | claimed
      · rw [same]
      · rw [claimed]
        exact Nat.le_succ _
  | drain call succeeds drain found =>
      intro row member
      rcases drainStep_database engine before.clock before.database
          succeeds drain
        with same | ⟨_, claimed, _, _, _, completed⟩ |
          ⟨_, claimed, err, _, _, _, failed⟩
      · rw [same]
        exact unchanged row member
      · rw [completed]
        refine
          ⟨_, List.mem_map_of_mem member,
            publishedVersion_id before.clock _ row, ?_⟩
        unfold publishedVersion
        split <;> exact Nat.le_refl _
      · rw [failed]
        refine
          ⟨_, List.mem_map_of_mem member,
            failedVersion_id engine before.clock claimed err row, ?_⟩
        unfold failedVersion
        split <;> exact Nat.le_refl _
  | _ => exact unchanged

/-- Every held row was claimed, and counted, at its last claim or before. -/
def AttemptsCounted (state : ServiceState) : Prop :=
  ∀ claimed ∈ heldRows state.drains,
    ∃ row ∈ state.database.messageOutbox,
      row.id = claimed.id ∧ claimed.attempts ≤ row.attempts

/-- The rows held after an event: rows held before it, or just claimed. -/
theorem change_heldRows
    {engine : Engine} {before after : ServiceState} {event : Event}
    (change : Change engine before event after) :
    ∀ claimed ∈ heldRows after.drains,
      claimed ∈ heldRows before.drains ∨
        ∃ deps, ∃ row ∈ claimable engine before.clock deps before.database,
          claimed = returnedRow row ∧
            after.database =
              (claimOutbox engine before.clock deps
                before.database).1 := by
  cases change with
  | claim deps publisher =>
      intro claimed member
      have split :
          heldRows
              (before.drains ++
                [.loading
                  (claimOutbox engine before.clock deps
                    before.database).2]) =
            heldRows before.drains ++
              (claimOutbox engine before.clock deps
                before.database).2 := by
        simp [heldRows, Drain.pendingRows]
      rw [split] at member
      rcases List.mem_append.mp member with old | new
      · exact Or.inl old
      · rcases mem_claimOutbox.mp new with ⟨row, taken, rfl⟩
        exact Or.inr ⟨deps, row, taken, rfl, rfl⟩
  | start deps succeeds drain finished =>
      intro claimed member
      rw [start_heldRows _ finished] at member
      exact Or.inl member
  | drain call succeeds drain found =>
      intro claimed member
      rcases drains_split found with ⟨left, right, split, replaced⟩
      have fewer :
          (drainStep engine before.clock succeeds before.database
                drain).drain.pendingRows.Sublist
            drain.pendingRows := by
        rcases drainStep_pendingRows engine before.clock succeeds
            before.database drain with
          ⟨_, fewer⟩ | ⟨row, pending, _⟩
        · exact fewer
        · rw [pending]
          exact (List.Sublist.refl _).cons row
      rw [replaced, heldRows_split] at member
      rw [split, heldRows_split]
      exact
        Or.inl
          (((List.Sublist.refl _).append
              (fewer.append (List.Sublist.refl _))).mem member)
  | crash call =>
      exact fun claimed member =>
        Or.inl ((crash_heldRows before.drains call).mem member)
  | _ => exact fun claimed member => Or.inl member

theorem change_attemptsCounted
    {engine : Engine} {before after : ServiceState} {event : Event}
    (change : Change engine before event after)
    (sound : Sound before.database) (kept : AttemptsCounted before) :
    AttemptsCounted after := by
  intro claimed member
  rcases change_heldRows change claimed member with
    old | ⟨deps, row, taken, rfl, database⟩
  · rcases kept claimed old with ⟨row, rowMember, sameId, counted⟩
    rcases change_attempts change row rowMember with
      ⟨later, laterMember, laterId, more⟩
    exact
      ⟨later, laterMember, laterId.trans sameId, counted.trans more⟩
  · have rowMember := (mem_claimable taken).1
    rcases claimRow_eq engine before.clock sound.valid deps
        rowMember with ⟨_, version⟩ | ⟨untaken, _⟩
    · rw [database]
      exact
        ⟨_, List.mem_map.mpr ⟨row, rowMember, version⟩, rfl,
          Nat.le_refl _⟩
    · exact absurd taken untaken

theorem reached_attemptsCounted
    (engine : Engine) (legacy : LegacyTables) (clock : Timestamp)
    (events : List Event) :
    AttemptsCounted (reached engine legacy clock events) := by
  have start : AttemptsCounted (initial engine legacy clock) := by
    simp [initial, AttemptsCounted, heldRows]
  have both :=
    run_invariant
      (fun state : ServiceState =>
        Sound state.database ∧ AttemptsCounted state)
      (fun state event both =>
        have change := step_change engine state event both.1
        ⟨step_sound engine state event both.1,
          change_attemptsCounted change both.1 both.2⟩)
      ⟨migrate_sound engine legacy, start⟩ events
  exact both.2

/-! ## Driving a drain to one of its rows -/

section Drive

variable (engine : Engine) {call : Nat}

theorem step_stepDrain
    {state : ServiceState} {drain : Drain}
    (found : state.drains[call]? = some drain) (succeeds : Bool) :
    (step engine state (.stepDrain call succeeds)).drains[call]? =
        some
          (drainStep engine state.clock succeeds state.database
            drain).drain ∧
      (step engine state (.stepDrain call succeeds)).database =
        (drainStep engine state.clock succeeds state.database
          drain).database := by
  have inBounds := (List.getElem?_eq_some_iff.mp found).choose
  simp only [step, found]
  exact ⟨List.getElem?_set_self inBounds, trivial⟩

/-- The drain at a position fails at a row, which is the next to settle. -/
def FailingAt
    (state : ServiceState) (call : Nat) (held : ClaimedOutboxRow)
    (rest : List ClaimedOutboxRow) : Prop :=
  ∃ messages err published,
    state.drains[call]? =
      some (.failing messages held err rest published)

/-- A drain at the head of its loop fails at its first row. -/
theorem nextRow_fails
    {state : ServiceState} {messages : List Message}
    {published : Nat} {held : ClaimedOutboxRow}
    {rest : List ClaimedOutboxRow}
    (found :
      state.drains[call]? =
        some (nextRow messages published (held :: rest))) :
    ∃ events,
      FailingAt (run (step engine) state events) call held rest ∧
        (run (step engine) state events).database = state.database := by
  simp only [nextRow] at found
  split at found
  · exact ⟨[], ⟨_, _, _, found⟩, rfl⟩
  · rcases step_stepDrain engine found false with ⟨next, database⟩
    exact ⟨[.stepDrain call false], ⟨_, _, _, next⟩, database⟩

/-- Every drain can fail at the first row it has to settle. -/
theorem drain_fails
    {state : ServiceState} {drain : Drain} {held : ClaimedOutboxRow}
    {rest : List ClaimedOutboxRow}
    (found : state.drains[call]? = some drain)
    (pending : drain.pendingRows = held :: rest) :
    ∃ events,
      FailingAt (run (step engine) state events) call held rest ∧
        (run (step engine) state events).database = state.database := by
  cases drain with
  | loading claimed =>
      change claimed = held :: rest at pending
      subst pending
      rcases step_stepDrain engine found true with ⟨next, database⟩
      rcases nextRow_fails engine next with ⟨events, failing, same⟩
      exact
        ⟨.stepDrain call true :: events, failing, same.trans database⟩
  | publishing messages row message others published =>
      rcases List.cons.inj pending with ⟨rfl, rfl⟩
      rcases step_stepDrain engine found false with ⟨next, database⟩
      exact ⟨[.stepDrain call false], ⟨_, _, _, next⟩, database⟩
  | completing messages row others published =>
      rcases List.cons.inj pending with ⟨rfl, rfl⟩
      rcases step_stepDrain engine found false with ⟨next, database⟩
      exact ⟨[.stepDrain call false], ⟨_, _, _, next⟩, database⟩
  | failing messages row err others published =>
      rcases List.cons.inj pending with ⟨rfl, rfl⟩
      exact ⟨[], ⟨_, _, _, found⟩, rfl⟩
  | returned published => simp [Drain.pendingRows] at pending
  | rejected => simp [Drain.pendingRows] at pending

/-- A drain can fail at any row, without touching rows with other ids. -/
theorem drain_fails_at
    {row : MessageOutbox} {held : ClaimedOutboxRow}
    {rest : List ClaimedOutboxRow} (sameId : row.id = held.id)
    (skipped : List ClaimedOutboxRow)
    (others : ∀ other ∈ skipped, other.id ≠ held.id)
    {state : ServiceState} {drain : Drain}
    (found : state.drains[call]? = some drain)
    (pending : drain.pendingRows = skipped ++ held :: rest)
    (member : row ∈ state.database.messageOutbox) :
    ∃ events,
      FailingAt (run (step engine) state events) call held rest ∧
        row ∈
          (run (step engine) state events).database.messageOutbox := by
  induction skipped generalizing state drain with
  | nil =>
      rcases drain_fails engine found pending with ⟨events, failing, same⟩
      exact ⟨events, failing, same ▸ member⟩
  | cons other skipped induction =>
      rcases drain_fails engine found pending with
        ⟨first, ⟨messages, err, published, failing⟩, same⟩
      rcases step_stepDrain engine failing true with ⟨next, database⟩
      have different : row.id ≠ other.id :=
        fun equal => others other List.mem_cons_self
          (equal.symm.trans sameId)
      have stillThere :
          row ∈
            (step engine (run (step engine) state first)
              (.stepDrain call true)).database.messageOutbox := by
        rw [database]
        exact
          List.mem_map.mpr
            ⟨row, same ▸ member, if_neg different⟩
      obtain ⟨last, failsAt, kept⟩ :=
        induction
          (fun later laterMember =>
            others later (List.mem_cons_of_mem _ laterMember))
          next (nextRow_pendingRows messages published _) stillThere
      refine ⟨first ++ .stepDrain call true :: last, ?_, ?_⟩
      · rw [run_append]
        exact failsAt
      · rw [run_append]
        exact kept

/-- A drain that fails at a row whose claim it has lost changes it. -/
theorem failing_breaks
    {state : ServiceState} {held : ClaimedOutboxRow}
    {rest : List ClaimedOutboxRow}
    (failing : FailingAt state call held rest)
    {row : MessageOutbox}
    (member : row ∈ state.database.messageOutbox)
    (sameId : row.id = held.id)
    (lost : row.attempts ≠ held.attempts)
    (notFailed : row.status ≠ .failed) :
    ¬ LostClaimIsInert engine state (.stepDrain call true) := by
  intro inert
  rcases failing with ⟨messages, err, published, found⟩
  rcases step_stepDrain engine found true with ⟨_, database⟩
  have later :
      failedVersion engine state.clock held err row ∈
        (step engine state
          (.stepDrain call true)).database.messageOutbox := by
    rw [database]
    exact List.mem_map_of_mem member
  have unchanged :=
    inert call true _ rfl found held List.mem_cons_self row member
      sameId lost _ later (failedVersion_id engine _ held err row)
  have failed :
      (failedVersion engine state.clock held err row).status =
        .failed := by
    unfold failedVersion
    rw [if_pos sameId]
  exact notFailed (unchanged.symm.trans failed)

end Drive

/-! ## The guard is exact at every claim -/

theorem unguarded_breaks
    (engine : Engine) (legacy : LegacyTables) (clock : Timestamp)
    {events : List Event} {event : Event}
    (unguarded :
      ¬ TakesNoHeldRow engine (reached engine legacy clock events)
          event) :
    ∃ more, ¬ OutboxFenced engine legacy clock (events ++ event :: more) := by
  have sound := reached_sound engine legacy clock events
  have counted := reached_attemptsCounted engine legacy clock events
  generalize atClaim : reached engine legacy clock events = state
    at unguarded sound counted
  simp only [TakesNoHeldRow, not_forall, not_not] at unguarded
  obtain ⟨deps, rfl, publisher, row, taken, isPublishing, drain,
    drainMember, held, pending, sameId⟩ := unguarded
  have rowMember := (mem_claimable taken).1
  -- The claim succeeds, since the row makes it non-empty.
  have claimed :
      step engine state (.startDrain deps true) =
        { state with
          database :=
            (claimOutbox engine state.clock deps state.database).1
          drains :=
            state.drains ++
              [.loading
                (claimOutbox engine state.clock deps
                  state.database).2] } := by
    have nonempty :
        (claimOutbox engine state.clock deps state.database).2 ≠ [] :=
      List.ne_nil_of_mem (mem_claimOutbox.mpr ⟨row, taken, rfl⟩)
    simp [step, startDrain, publisher, nonempty]
  have version :
      claimedVersion state.clock row ∈
        (step engine state
          (.startDrain deps true)).database.messageOutbox := by
    rw [claimed]
    rcases claimRow_eq engine state.clock sound.valid deps
        rowMember with ⟨_, isClaimed⟩ | ⟨untaken, _⟩
    · exact List.mem_map.mpr ⟨row, rowMember, isClaimed⟩
    · exact absurd taken untaken
  rcases List.mem_iff_getElem?.mp drainMember with ⟨call, found⟩
  have inBounds := (List.getElem?_eq_some_iff.mp found).choose
  have stillFound :
      (step engine state (.startDrain deps true)).drains[call]? =
        some drain := by
    rw [claimed, List.getElem?_append_left inBounds]
    exact found
  -- The first row of the drain with this id.
  obtain ⟨first, isFirst⟩ :
      ∃ first,
        drain.pendingRows.find? (fun other => other.id == row.id) =
          some first := by
    rw [← Option.isSome_iff_exists, List.find?_isSome]
    exact ⟨held, pending, by simp [sameId]⟩
  rcases List.find?_eq_some_iff_append.mp isFirst with
    ⟨firstId, skipped, rest, split, others⟩
  have firstId : first.id = row.id := by simpa using firstId
  have firstHeld : first ∈ heldRows state.drains :=
    mem_heldRows drainMember (by rw [split]; simp)
  rcases counted first firstHeld with
    ⟨stored, storedMember, storedId, atMost⟩
  have sameRow : stored = row :=
    Foundation.TableRows.eq_of_unique_key sound.valid.outboxIds
      storedMember rowMember (storedId.trans firstId)
  rw [sameRow] at atMost
  have reclaimedId : (claimedVersion state.clock row).id = first.id :=
    firstId.symm
  obtain ⟨drive, failing, kept⟩ :=
    drain_fails_at engine reclaimedId skipped
      (fun other member => by
        have different := others other member
        rw [firstId]
        simpa using different)
      stillFound split version
  refine ⟨drive ++ [.stepDrain call true], fun fenced => ?_⟩
  have inert := fenced.inert
  rw [everyStep_append] at inert
  change
    _ ∧
      EveryStep (step engine) (LostClaimIsInert engine)
        (reached engine legacy clock events) _ at inert
  rw [atClaim] at inert
  have last := inert.2.2
  rw [everyStep_append] at last
  refine
    failing_breaks engine failing kept reclaimedId ?_
      (by simp [claimedVersion]) last.2.1
  intro equal
  change row.attempts + 1 = first.attempts at equal
  omega

/--
The outbox is fenced in every run in which no claim takes a row that a drain
under way still has to settle, and from every claim that does the run can be
continued so that it is not fenced.
-/
theorem outbox_fenced_when
    (engine : Engine) (legacy : LegacyTables)
    (noFanout :
      ∀ write ∈ legacy.messageWrites, write.status ≠ .fanouted)
    (clock : Timestamp) :
    (∀ events,
        EveryStep (step engine) (TakesNoHeldRow engine)
            (initial engine legacy clock) events →
          OutboxFenced engine legacy clock events) ∧
      ∀ events event,
        ¬ TakesNoHeldRow engine (reached engine legacy clock events)
            event →
          ∃ more,
            ¬ OutboxFenced engine legacy clock
                (events ++ event :: more) :=
  ⟨fun _ guarded => fenced_of_guarded engine noFanout clock guarded,
    fun _ _ unguarded => unguarded_breaks engine legacy clock unguarded⟩

theorem outbox_fenced_when_example :
    (∀ events,
        EveryStep (step exampleEngine) (TakesNoHeldRow exampleEngine)
            (initial exampleEngine exampleTables 0) events →
          OutboxFenced exampleEngine exampleTables 0 events) ∧
      ∀ events event,
        ¬ TakesNoHeldRow exampleEngine
            (reached exampleEngine exampleTables 0 events) event →
          ∃ more,
            ¬ OutboxFenced exampleEngine exampleTables 0
                (events ++ event :: more) :=
  outbox_fenced_when exampleEngine exampleTables
    (by simp [exampleTables]) 0

/--
One drain publishes and pauses for longer than `staleLockMs`, another one
reclaims the row and completes it, and the success transaction of the first
one fails.
-/
def exampleLateDrain : List Event :=
  [.writerBatch [exampleCommand] none,
    .startDrain { publisher := true } true,
    .stepDrain 0 true,
    .stepDrain 0 true,
    .advanceClock 30001,
    .startDrain { publisher := true } true,
    .stepDrain 1 true,
    .stepDrain 1 true,
    .stepDrain 1 true,
    .stepDrain 0 false,
    .stepDrain 0 true]

theorem late_drain_breaks_fencing :
    ¬ ∀ (engine : Engine) (legacy : LegacyTables) (clock : Timestamp)
        (events : List Event),
      (∀ write ∈ legacy.messageWrites, write.status ≠ .fanouted) →
        OutboxFenced engine legacy clock events := by
  intro claimed
  have fenced :=
    claimed exampleEngine exampleTables 0 exampleLateDrain
      (by simp [exampleTables])
  have writes :
      (reached exampleEngine exampleTables 0
          exampleLateDrain).database.messageWrites.map
          MessageWrite.status =
        [.fanouted] := by
    decide
  have rows :
      (reached exampleEngine exampleTables 0
          exampleLateDrain).database.messageOutbox.map
          MessageOutbox.status =
        [.failed] := by
    decide
  obtain ⟨write, member, isFanouted⟩ :=
    List.mem_map.mp
      (writes ▸ List.mem_singleton_self MessageWriteStatus.fanouted)
  rcases fenced.fanouted write member isFanouted with
    ⟨row, rowMember, _, isPublished⟩
  have listed := List.mem_map_of_mem (f := MessageOutbox.status) rowMember
  rw [rows, List.mem_singleton, isPublished] at listed
  simp at listed

end ChatBackend.Services.LostClaims
