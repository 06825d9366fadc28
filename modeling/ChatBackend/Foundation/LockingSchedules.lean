import ChatBackend.Foundation.EventRuns
import ChatBackend.Foundation.Transactions
import Mathlib.Data.Fintype.Defs
import Mathlib.Logic.Function.Basic

/-!
# Schedules of locking transactions

Transactions run their statements against one store.  A statement sees what
is committed and what its own transaction has written.  It first takes its
locks, one by one, and holds them to the end of the transaction; a statement
whose writes clash with those of another open transaction waits for the end
of that transaction.  A failed statement rolls its transaction back.

`Separable` states what a family of transactions must satisfy: statements
that were executed would have the same results after the commit of another
transaction with other locks.  `serialisable` then says that every schedule
ends as if the committed transactions had run alone, in the order of their
commits.
-/

namespace ChatBackend.Foundation.LockingSchedules

open ChatBackend.Foundation.EventRuns
open ChatBackend.Foundation.Transactions

variable {Store Writes Locals Failure Lock Tx : Type}

/-! ## What statements write and lock -/

/-- The writes of executed statements, their locals and their locks. -/
structure Trace (Writes Locals Lock : Type) where
  writes : List Writes
  locals : Locals
  locks : List Lock

/-- Run statements and keep what each of them writes and locks. -/
def execute
    (apply : Store → Writes → Store) :
    List (Statement Store Writes Locals Failure Lock) →
      Store → Locals → Except Failure (Trace Writes Locals Lock)
  | [], _, locals => .ok { writes := [], locals := locals, locks := [] }
  | statement :: rest, view, locals =>
      match statement.run view locals with
      | .error failure => .error failure
      | .ok (writes, next) =>
          match execute apply rest (apply view writes) next with
          | .error failure => .error failure
          | .ok trace =>
              .ok
                { trace with
                  writes := writes :: trace.writes
                  locks := statement.locks view ++ trace.locks }

section Execution

variable {apply : Store → Writes → Store}
  {statement : Statement Store Writes Locals Failure Lock}
  {done rest : List (Statement Store Writes Locals Failure Lock)}
  {view : Store} {locals : Locals} {trace : Trace Writes Locals Lock}

/-- Inversion for the first statement of an execution. -/
theorem execute_cons_ok
    (executed :
      execute apply (statement :: rest) view locals = .ok trace) :
    ∃ writes next later,
      statement.run view locals = .ok (writes, next) ∧
        execute apply rest (apply view writes) next = .ok later ∧
          trace =
            { later with
              writes := writes :: later.writes
              locks := statement.locks view ++ later.locks } := by
  unfold execute at executed
  split at executed
  · cases executed
  · rename_i writes next ran
    split at executed
    · cases executed
    · rename_i later continued
      exact ⟨writes, next, later, ran, continued, (Except.ok.inj executed).symm⟩

theorem execute_cons
    {writes : Writes} {next : Locals} {later : Trace Writes Locals Lock}
    (ran : statement.run view locals = .ok (writes, next))
    (continued :
      execute apply rest (apply view writes) next = .ok later) :
    execute apply (statement :: rest) view locals =
      .ok
        { later with
          writes := writes :: later.writes
          locks := statement.locks view ++ later.locks } := by
  simp only [execute, ran, continued]

/-- One more statement, on the store changed by those before it. -/
theorem execute_concat
    {writes : Writes} {next : Locals}
    (executed : execute apply done view locals = .ok trace)
    (ran :
      statement.run (trace.writes.foldl apply view) trace.locals =
        .ok (writes, next)) :
    execute apply (done ++ [statement]) view locals =
      .ok
        { writes := trace.writes ++ [writes]
          locals := next
          locks :=
            trace.locks ++
              statement.locks (trace.writes.foldl apply view) } := by
  induction done generalizing view locals trace with
  | nil =>
      simp only [execute, Except.ok.injEq] at executed
      subst executed
      change statement.run view locals = .ok (writes, next) at ran
      simp [execute, ran]
  | cons first others induction =>
      rcases execute_cons_ok executed with
        ⟨early, middle, later, firstRan, continued, rfl⟩
      rw [List.cons_append,
        execute_cons firstRan (induction continued ran)]
      simp

/-- A transaction that was executed to its end runs alone as well. -/
theorem runStatements_of_execute
    (executed : execute apply done view locals = .ok trace) :
    runStatements apply done view locals =
      .ok (trace.writes.foldl apply view, trace.locals) := by
  induction done generalizing view locals trace with
  | nil =>
      simp only [execute, Except.ok.injEq] at executed
      subst executed
      rfl
  | cons first others induction =>
      rcases execute_cons_ok executed with
        ⟨writes, next, later, ran, continued, rfl⟩
      simp only [runStatements, ran]
      exact induction continued

end Execution

/-! ## Sessions -/

inductive Phase where
  | running
  | committed
  | rolledBack
deriving DecidableEq, Repr

/-- A transaction under way. -/
structure Session (Store Writes Locals Failure Lock : Type) where
  phase : Phase
  done : List (Statement Store Writes Locals Failure Lock)
  rest : List (Statement Store Writes Locals Failure Lock)
  writes : List Writes
  locals : Locals
  held : List Lock

/-- The end of a transaction, which releases its locks. -/
def Session.finish
    (session : Session Store Writes Locals Failure Lock)
    (phase : Phase) : Session Store Writes Locals Failure Lock :=
  { session with phase := phase, writes := [], held := [] }

/-- The store as a transaction sees it. -/
def Session.view
    (apply : Store → Writes → Store)
    (session : Session Store Writes Locals Failure Lock)
    (store : Store) : Store :=
  session.writes.foldl apply store

/-- The committed store, the sessions, and the order of the commits. -/
structure System (Store Writes Locals Failure Lock Tx : Type) where
  store : Store
  sessions : Tx → Session Store Writes Locals Failure Lock
  commits : List Tx

/-- All transactions before their first statement. -/
def System.start
    (program : Tx → List (Statement Store Writes Locals Failure Lock))
    (initial : Locals) (store : Store) :
    System Store Writes Locals Failure Lock Tx where
  store := store
  sessions := fun tx =>
    { phase := .running
      done := []
      rest := program tx
      writes := []
      locals := initial
      held := [] }
  commits := []

inductive Event (Tx Lock : Type) where
  | acquire (tx : Tx) (lock : Lock)
  | execute (tx : Tx)
  | commit (tx : Tx)
  | rollback (tx : Tx)
deriving DecidableEq, Repr

section Steps

variable [Fintype Tx] [DecidableEq Tx] [DecidableEq Lock]
  (apply : Store → Writes → Store) (clashes : Writes → Writes → Bool)

/-- Put a session in the place of the transaction's old one. -/
def System.replace
    (system : System Store Writes Locals Failure Lock Tx) (tx : Tx)
    (session : Session Store Writes Locals Failure Lock) :
    System Store Writes Locals Failure Lock Tx :=
  { system with
    sessions := Function.update system.sessions tx session }

/-- Take one lock of the next statement, when nobody else holds it. -/
def acquire
    (system : System Store Writes Locals Failure Lock Tx)
    (tx : Tx) (lock : Lock) :
    System Store Writes Locals Failure Lock Tx :=
  let session := system.sessions tx
  match session.rest with
  | [] => system
  | statement :: _ =>
      if session.phase = .running ∧
          lock ∈ statement.locks (session.view apply system.store) ∧
          ∀ other, other ≠ tx → lock ∉ (system.sessions other).held
      then
        system.replace tx
          { session with held := session.held ++ [lock] }
      else system

/-- Execute the next statement, once its locks are held. -/
def executeNext
    (system : System Store Writes Locals Failure Lock Tx) (tx : Tx) :
    System Store Writes Locals Failure Lock Tx :=
  let session := system.sessions tx
  let seen := session.view apply system.store
  match session.rest with
  | [] => system
  | statement :: later =>
      if session.phase = .running ∧
          ∀ lock ∈ statement.locks seen, lock ∈ session.held
      then
        match statement.run seen session.locals with
        | .error _ => system.replace tx (session.finish .rolledBack)
        | .ok (writes, next) =>
            -- a clash makes the statement wait for the other transaction
            if ∀ other, other ≠ tx →
                ∀ theirs ∈ (system.sessions other).writes,
                  clashes writes theirs = false
            then
              system.replace tx
                { session with
                  done := session.done ++ [statement]
                  rest := later
                  writes := session.writes ++ [writes]
                  locals := next }
            else system
      else system

def commit
    (system : System Store Writes Locals Failure Lock Tx) (tx : Tx) :
    System Store Writes Locals Failure Lock Tx :=
  let session := system.sessions tx
  if session.phase = .running ∧ session.rest.isEmpty then
    { store := session.view apply system.store
      sessions :=
        Function.update system.sessions tx (session.finish .committed)
      commits := system.commits ++ [tx] }
  else system

/-- A transaction may be rolled back at any time, after a deadlock say. -/
def rollback
    (system : System Store Writes Locals Failure Lock Tx) (tx : Tx) :
    System Store Writes Locals Failure Lock Tx :=
  if (system.sessions tx).phase = .running then
    system.replace tx ((system.sessions tx).finish .rolledBack)
  else system

def step
    (system : System Store Writes Locals Failure Lock Tx) :
    Event Tx Lock → System Store Writes Locals Failure Lock Tx
  | .acquire tx lock => acquire apply system tx lock
  | .execute tx => executeNext apply clashes system tx
  | .commit tx => commit apply system tx
  | .rollback tx => rollback system tx

end Steps

/-! ## Serial runs -/

/-- Run whole transactions one after another. -/
def runSerially
    (apply : Store → Writes → Store) (initial : Locals)
    (program : Tx → List (Statement Store Writes Locals Failure Lock)) :
    List Tx → Store → Except Failure Store
  | [], store => .ok store
  | tx :: rest, store =>
      match runStatements apply (program tx) store initial with
      | .error failure => .error failure
      | .ok (committed, _) =>
          runSerially apply initial program rest committed

theorem runSerially_concat
    {apply : Store → Writes → Store} {initial : Locals}
    {program : Tx → List (Statement Store Writes Locals Failure Lock)}
    {order : List Tx} {tx : Tx} {start store committed : Store}
    {locals : Locals}
    (ran : runSerially apply initial program order start = .ok store)
    (last :
      runStatements apply (program tx) store initial =
        .ok (committed, locals)) :
    runSerially apply initial program (order ++ [tx]) start =
      .ok committed := by
  induction order generalizing start with
  | nil =>
      simp only [runSerially, Except.ok.injEq] at ran
      simp [runSerially, ran, last]
  | cons first others induction =>
      rw [List.cons_append]
      unfold runSerially at ran ⊢
      split at ran
      · cases ran
      · rename_i middle _ firstRan
        exact induction ran

/-! ## Serialisability -/

/--
What makes schedules serialisable.  `suits` is an invariant of the store
under whole transactions, and what a transaction has executed so far keeps
its results when another transaction commits.
-/
structure Separable
    (apply : Store → Writes → Store) (clashes : Writes → Writes → Bool)
    (initial : Locals)
    (program : Tx → List (Statement Store Writes Locals Failure Lock))
    (suits : Store → Prop) : Prop where
  symmetric :
    ∀ left right, clashes left right = false → clashes right left = false
  preserved :
    ∀ tx store trace, suits store →
      execute apply (program tx) store initial = .ok trace →
        suits (trace.writes.foldl apply store)
  stable :
    ∀ tx other store done rest mine theirs, tx ≠ other → suits store →
      done ++ rest = program tx →
      execute apply done store initial = .ok mine →
      execute apply (program other) store initial = .ok theirs →
      (∀ lock ∈ mine.locks, lock ∉ theirs.locks) →
      (∀ own ∈ mine.writes, ∀ foreign ∈ theirs.writes,
        clashes own foreign = false) →
      execute apply done (theirs.writes.foldl apply store) initial =
        .ok mine

/-- No lock is held by two transactions. -/
def Exclusive
    (sessions : Tx → Session Store Writes Locals Failure Lock) : Prop :=
  ∀ tx other, tx ≠ other → ∀ lock ∈ (sessions tx).held,
    lock ∉ (sessions other).held

/-- Open transactions have written nothing that clashes. -/
def Unclashing
    (clashes : Writes → Writes → Bool)
    (sessions : Tx → Session Store Writes Locals Failure Lock) : Prop :=
  ∀ tx other, tx ≠ other → ∀ own ∈ (sessions tx).writes,
    ∀ foreign ∈ (sessions other).writes, clashes own foreign = false

/-- What holds of the system at any time. -/
structure Serial
    (apply : Store → Writes → Store) (clashes : Writes → Writes → Bool)
    (initial : Locals)
    (program : Tx → List (Statement Store Writes Locals Failure Lock))
    (suits : Store → Prop) (start : Store)
    (system : System Store Writes Locals Failure Lock Tx) : Prop where
  serial :
    runSerially apply initial program system.commits start =
      .ok system.store
  suited : suits system.store
  progress :
    ∀ tx, (system.sessions tx).phase = .running →
      (system.sessions tx).done ++ (system.sessions tx).rest =
          program tx ∧
        ∃ locks,
          execute apply (system.sessions tx).done system.store initial =
              .ok
                { writes := (system.sessions tx).writes
                  locals := (system.sessions tx).locals
                  locks := locks } ∧
            ∀ lock ∈ locks, lock ∈ (system.sessions tx).held
  exclusive : Exclusive system.sessions
  unclashing : Unclashing clashes system.sessions
  committed :
    ∀ tx, tx ∈ system.commits ↔ (system.sessions tx).phase = .committed
  once : system.commits.Nodup

section Sessions

variable {apply : Store → Writes → Store} {clashes : Writes → Writes → Bool}
  {initial : Locals}
  {program : Tx → List (Statement Store Writes Locals Failure Lock)}
  {suits : Store → Prop} {start : Store}
  {system : System Store Writes Locals Failure Lock Tx}

theorem Serial.initially (suited : suits start) :
    Serial apply clashes initial program suits start
      (System.start program initial start) where
  serial := rfl
  suited := suited
  progress := fun tx _ => ⟨rfl, [], rfl, by simp⟩
  exclusive := by simp [Exclusive, System.start]
  unclashing := by simp [Unclashing, System.start]
  committed := by simp [System.start]
  once := List.nodup_nil

variable [DecidableEq Tx]

theorem exclusive_update
    {sessions : Tx → Session Store Writes Locals Failure Lock}
    {tx : Tx} {session : Session Store Writes Locals Failure Lock}
    (exclusive : Exclusive sessions)
    (free :
      ∀ other, other ≠ tx → ∀ lock ∈ session.held,
        lock ∉ (sessions other).held) :
    Exclusive (Function.update sessions tx session) := by
  intro first second different lock held
  by_cases sameFirst : first = tx
  · subst sameFirst
    rw [Function.update_self] at held
    rw [Function.update_of_ne different.symm]
    exact free second different.symm lock held
  · rw [Function.update_of_ne sameFirst] at held
    by_cases sameSecond : second = tx
    · subst sameSecond
      rw [Function.update_self]
      exact fun mine => free first different lock mine held
    · rw [Function.update_of_ne sameSecond]
      exact exclusive first second different lock held

theorem unclashing_update
    {sessions : Tx → Session Store Writes Locals Failure Lock}
    {tx : Tx} {session : Session Store Writes Locals Failure Lock}
    (symmetric :
      ∀ left right,
        clashes left right = false → clashes right left = false)
    (unclashing : Unclashing clashes sessions)
    (apart :
      ∀ other, other ≠ tx → ∀ own ∈ session.writes,
        ∀ foreign ∈ (sessions other).writes,
          clashes own foreign = false) :
    Unclashing clashes (Function.update sessions tx session) := by
  intro first second different own ownMember foreign foreignMember
  by_cases sameFirst : first = tx
  · subst sameFirst
    rw [Function.update_self] at ownMember
    rw [Function.update_of_ne different.symm] at foreignMember
    exact apart second different.symm own ownMember foreign foreignMember
  · rw [Function.update_of_ne sameFirst] at ownMember
    by_cases sameSecond : second = tx
    · subst sameSecond
      rw [Function.update_self] at foreignMember
      exact
        symmetric _ _
          (apart first different foreign foreignMember own ownMember)
    · rw [Function.update_of_ne sameSecond] at foreignMember
      exact
        unclashing first second different own ownMember foreign
          foreignMember

/-- A change of one session that fits to the other sessions. -/
theorem Serial.replace
    (serial :
      Serial apply clashes initial program suits start system)
    (symmetric :
      ∀ left right,
        clashes left right = false → clashes right left = false)
    {tx : Tx} {session : Session Store Writes Locals Failure Lock}
    (running : (system.sessions tx).phase = .running)
    (open' : session.phase ≠ .committed)
    (progress :
      session.phase = .running →
        session.done ++ session.rest = program tx ∧
          ∃ locks,
            execute apply session.done system.store initial =
                .ok
                  { writes := session.writes
                    locals := session.locals
                    locks := locks } ∧
              ∀ lock ∈ locks, lock ∈ session.held)
    (exclusive :
      ∀ other, other ≠ tx → ∀ lock ∈ session.held,
        lock ∉ (system.sessions other).held)
    (apart :
      ∀ other, other ≠ tx → ∀ own ∈ session.writes,
        ∀ foreign ∈ (system.sessions other).writes,
          clashes own foreign = false) :
    Serial apply clashes initial program suits start
      (system.replace tx session) where
  serial := serial.serial
  suited := serial.suited
  progress := by
    intro other isRunning
    by_cases same : other = tx
    · subst same
      simp only [System.replace, Function.update_self] at isRunning ⊢
      exact progress isRunning
    · simp only [System.replace, Function.update_of_ne same]
        at isRunning ⊢
      exact serial.progress other isRunning
  exclusive := exclusive_update serial.exclusive exclusive
  unclashing := unclashing_update symmetric serial.unclashing apart
  committed := by
    intro other
    by_cases same : other = tx
    · subst same
      simp only [System.replace, Function.update_self]
      rw [serial.committed, running]
      simpa using open'
    · simp only [System.replace, Function.update_of_ne same]
      exact serial.committed other
  once := serial.once

theorem Serial.rolledBack
    (serial :
      Serial apply clashes initial program suits start system)
    (symmetric :
      ∀ left right,
        clashes left right = false → clashes right left = false)
    {tx : Tx} (running : (system.sessions tx).phase = .running) :
    Serial apply clashes initial program suits start
      (system.replace tx ((system.sessions tx).finish .rolledBack)) := by
  apply serial.replace symmetric running
  · simp [Session.finish]
  · simp [Session.finish]
  · simp [Session.finish]
  · simp [Session.finish]

/-- A commit appends its transaction to the serial run. -/
theorem Serial.committing
    (separable : Separable apply clashes initial program suits)
    (serial :
      Serial apply clashes initial program suits start system)
    (tx : Tx) :
    Serial apply clashes initial program suits start
      (commit apply system tx) := by
  unfold commit
  dsimp only
  split
  · rename_i enabled
    rcases enabled with ⟨running, ended⟩
    rcases serial.progress tx running with
      ⟨whole, locks, executed, held⟩
    rw [List.isEmpty_iff] at ended
    rw [ended, List.append_nil] at whole
    rw [whole] at executed
    refine
      { serial :=
          runSerially_concat serial.serial
            (runStatements_of_execute executed)
        suited := separable.preserved tx _ _ serial.suited executed
        progress := ?_
        exclusive :=
          exclusive_update serial.exclusive (by simp [Session.finish])
        unclashing :=
          unclashing_update separable.symmetric serial.unclashing
            (by simp [Session.finish])
        committed := ?_
        once := ?_ }
    · intro other isRunning
      by_cases same : other = tx
      · subst same
        simp [Session.finish] at isRunning
      · simp only [Function.update_of_ne same] at isRunning ⊢
        rcases serial.progress other isRunning with
          ⟨otherWhole, otherLocks, otherExecuted, otherHeld⟩
        refine ⟨otherWhole, otherLocks, ?_, otherHeld⟩
        refine
          separable.stable other tx system.store _ _ _ _ same
            serial.suited otherWhole otherExecuted executed ?_ ?_
        · intro lock mine theirs
          exact
            serial.exclusive other tx same lock (otherHeld lock mine)
              (held lock theirs)
        · exact serial.unclashing other tx same
    · intro other
      rw [List.mem_append, List.mem_singleton]
      by_cases same : other = tx
      · subst same
        simp [Session.finish]
      · simp [same, serial.committed]
    · rw [List.nodup_append]
      refine ⟨serial.once, List.nodup_singleton tx, ?_⟩
      intro committed member last isLast
      rw [List.mem_singleton] at isLast
      rintro rfl
      subst isLast
      rw [serial.committed, running] at member
      cases member
  · exact serial

end Sessions

section Serialisability

variable [Fintype Tx] [DecidableEq Tx] [DecidableEq Lock]
  {apply : Store → Writes → Store} {clashes : Writes → Writes → Bool}
  {initial : Locals}
  {program : Tx → List (Statement Store Writes Locals Failure Lock)}
  {suits : Store → Prop} {start : Store}
  {system : System Store Writes Locals Failure Lock Tx}

theorem Serial.acquired
    (serial :
      Serial apply clashes initial program suits start system)
    (symmetric :
      ∀ left right,
        clashes left right = false → clashes right left = false)
    (tx : Tx) (lock : Lock) :
    Serial apply clashes initial program suits start
      (acquire apply system tx lock) := by
  unfold acquire
  dsimp only
  split
  · exact serial
  · split
    · rename_i enabled
      rcases enabled with ⟨running, _, free⟩
      rcases serial.progress tx running with
        ⟨whole, locks, executed, held⟩
      apply serial.replace symmetric running
      · simp [running]
      · intro _
        exact
          ⟨whole, locks, executed, fun lock member =>
            List.mem_append_left _ (held lock member)⟩
      · intro other different taken member
        rcases List.mem_append.mp member with old | new
        · exact serial.exclusive tx other different.symm taken old
        · rw [List.mem_singleton] at new
          exact new ▸ free other different
      · exact fun other different =>
          serial.unclashing tx other different.symm
    · exact serial

theorem Serial.executed
    (serial :
      Serial apply clashes initial program suits start system)
    (symmetric :
      ∀ left right,
        clashes left right = false → clashes right left = false)
    (tx : Tx) :
    Serial apply clashes initial program suits start
      (executeNext apply clashes system tx) := by
  unfold executeNext
  dsimp only
  split
  · exact serial
  · rename_i statement later remaining
    split
    · rename_i enabled
      rcases enabled with ⟨running, locked⟩
      split
      · exact serial.rolledBack symmetric running
      · rename_i writes next ran
        split
        · rename_i noClash
          rcases serial.progress tx running with
            ⟨whole, locks, executed, held⟩
          apply serial.replace symmetric running
          · simp [running]
          · intro _
            refine ⟨?_, _, execute_concat executed ran, ?_⟩
            · rw [← whole, remaining]
              simp
            · intro lock member
              rcases List.mem_append.mp member with old | new
              · exact held lock old
              · exact locked lock new
          · exact fun other different =>
              serial.exclusive tx other different.symm
          · intro other different own member foreign foreignMember
            rcases List.mem_append.mp member with old | new
            · exact
                serial.unclashing tx other different.symm own old foreign
                  foreignMember
            · rw [List.mem_singleton] at new
              exact new ▸ noClash other different foreign foreignMember
        · exact serial
    · exact serial

/-- Every schedule ends as a serial run of the committed transactions. -/
theorem serialisable
    (separable : Separable apply clashes initial program suits)
    (suited : suits start) (schedule : List (Event Tx Lock)) :
    Serial apply clashes initial program suits start
      (run (step apply clashes) (System.start program initial start)
        schedule) := by
  refine
    run_invariant (Serial apply clashes initial program suits start) ?_
      (Serial.initially suited) schedule
  intro system event serial
  cases event with
  | acquire tx lock => exact serial.acquired separable.symmetric tx lock
  | execute tx => exact serial.executed separable.symmetric tx
  | commit tx => exact serial.committing separable tx
  | rollback tx =>
      change
        Serial apply clashes initial program suits start
          (rollback system tx)
      unfold rollback
      split
      · rename_i running
        exact serial.rolledBack separable.symmetric running
      · exact serial

end Serialisability

end ChatBackend.Foundation.LockingSchedules
