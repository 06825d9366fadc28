import Mathlib.Data.Stream.Init

/-!
# Transactions as sequences of statements

A statement reads the store it sees and the local variables of its
transaction, may fail, and otherwise produces a write set and new local
variables.  A transaction runs its statements one after another, each on the
store changed by the statements before it; a failure abandons all of them.

`runStatements` is the run in which nothing outside the store fails.
`runStatementsUnder` is the run under outages: a stream says which of the
following calls fail, the final commit included, and every call takes its
entry from the stream.
-/

namespace ChatBackend.Foundation.Transactions

variable {Store Writes Locals Failure Lock : Type}

/-- A statement, with the rows it locks before it runs. -/
structure Statement (Store Writes Locals Failure Lock : Type) where
  locks : Store → List Lock
  run : Store → Locals → Except Failure (Writes × Locals)

variable (apply : Store → Writes → Store)

/-- Run the statements of a transaction one after another. -/
def runStatements :
    List (Statement Store Writes Locals Failure Lock) →
      Store → Locals → Except Failure (Store × Locals)
  | [], view, locals => .ok (view, locals)
  | statement :: rest, view, locals =>
      match statement.run view locals with
      | .error failure => .error failure
      | .ok (writes, next) => runStatements rest (apply view writes) next

variable {apply}

@[simp]
theorem runStatements_nil (view : Store) (locals : Locals) :
    runStatements apply
        ([] : List (Statement Store Writes Locals Failure Lock))
        view locals =
      .ok (view, locals) :=
  rfl

/-- Inversion for the first statement of a successful transaction. -/
theorem runStatements_cons_ok
    {statement : Statement Store Writes Locals Failure Lock}
    {rest : List (Statement Store Writes Locals Failure Lock)}
    {view : Store} {locals : Locals} {result : Store × Locals}
    (succeeded :
      runStatements apply (statement :: rest) view locals =
        .ok result) :
    ∃ writes next,
      statement.run view locals = .ok (writes, next) ∧
        runStatements apply rest (apply view writes) next =
          .ok result := by
  unfold runStatements at succeeded
  cases ran : statement.run view locals with
  | error failure => simp [ran] at succeeded
  | ok outcome =>
      rcases outcome with ⟨writes, next⟩
      simp only [ran] at succeeded
      exact ⟨writes, next, rfl, succeeded⟩

/-- A transaction goes on after a statement that succeeds. -/
theorem runStatements_cons_of_ok
    {statement : Statement Store Writes Locals Failure Lock}
    {rest : List (Statement Store Writes Locals Failure Lock)}
    {view : Store} {locals next : Locals} {writes : Writes}
    (ran : statement.run view locals = .ok (writes, next)) :
    runStatements apply (statement :: rest) view locals =
      runStatements apply rest (apply view writes) next := by
  rw [runStatements, ran]

/-- Inversion for the first statement of a failed transaction. -/
theorem runStatements_cons_error
    {statement : Statement Store Writes Locals Failure Lock}
    {rest : List (Statement Store Writes Locals Failure Lock)}
    {view : Store} {locals : Locals} {failure : Failure}
    (failed :
      runStatements apply (statement :: rest) view locals =
        .error failure) :
    statement.run view locals = .error failure ∨
      ∃ writes next,
        statement.run view locals = .ok (writes, next) ∧
          runStatements apply rest (apply view writes) next =
            .error failure := by
  unfold runStatements at failed
  cases ran : statement.run view locals with
  | error other =>
      simp only [ran, Except.error.injEq] at failed
      exact Or.inl (by rw [failed])
  | ok outcome =>
      rcases outcome with ⟨writes, next⟩
      simp only [ran] at failed
      exact Or.inr ⟨writes, next, rfl, failed⟩

/-! ## Outages -/

variable (apply) in
/--
Run a transaction under outages, and return the outages of the calls after
it.  The commit is the last call of the transaction.
-/
def runStatementsUnder
    (unavailable : Failure) :
    List (Statement Store Writes Locals Failure Lock) →
      Stream' Bool → Store → Locals →
        Except Failure (Store × Locals) × Stream' Bool
  | [], outages, view, locals =>
      if outages.head then (.error unavailable, outages.tail)
      else (.ok (view, locals), outages.tail)
  | statement :: rest, outages, view, locals =>
      if outages.head then (.error unavailable, outages.tail)
      else
        match statement.run view locals with
        | .error failure => (.error failure, outages.tail)
        | .ok (writes, next) =>
            runStatementsUnder unavailable rest outages.tail
              (apply view writes) next

variable {outages : Stream' Bool} {unavailable : Failure}

/-- No call fails for reasons of its own. -/
def Calm (outages : Stream' Bool) : Prop :=
  ∀ call, outages.get call = false

theorem Calm.tail (calm : Calm outages) : Calm outages.tail :=
  fun call => calm (call + 1)

/-- A transaction which succeeds under outages succeeds without them. -/
theorem runStatementsUnder_ok
    {statements : List (Statement Store Writes Locals Failure Lock)}
    {view : Store} {locals : Locals} {result : Store × Locals}
    (succeeded :
      (runStatementsUnder apply unavailable statements outages view
        locals).1 = .ok result) :
    runStatements apply statements view locals = .ok result := by
  induction statements generalizing outages view locals with
  | nil =>
      unfold runStatementsUnder at succeeded
      split at succeeded
      · simp at succeeded
      · exact succeeded
  | cons statement rest induction =>
      unfold runStatementsUnder at succeeded
      unfold runStatements
      split at succeeded
      · simp at succeeded
      · cases ran : statement.run view locals with
        | error failure => simp [ran] at succeeded
        | ok outcome =>
            simp only [ran] at succeeded
            exact induction succeeded

/-- Without outages a transaction has its own result. -/
theorem runStatementsUnder_calm
    (calm : Calm outages)
    (statements : List (Statement Store Writes Locals Failure Lock))
    (view : Store) (locals : Locals) :
    (runStatementsUnder apply unavailable statements outages view
          locals).1 =
        runStatements apply statements view locals ∧
      Calm
        (runStatementsUnder apply unavailable statements outages view
          locals).2 := by
  have noOutage : outages.head = false := calm 0
  induction statements generalizing outages view locals with
  | nil =>
      simp only [runStatementsUnder, noOutage, Bool.false_eq_true,
        if_false]
      exact ⟨rfl, calm.tail⟩
  | cons statement rest induction =>
      unfold runStatementsUnder runStatements
      simp only [noOutage, Bool.false_eq_true, if_false]
      cases statement.run view locals with
      | error failure => exact ⟨rfl, calm.tail⟩
      | ok outcome => exact induction calm.tail _ _ (calm 1)

end ChatBackend.Foundation.Transactions
