import Mathlib.Data.List.Basic
import Mathlib.Logic.Function.Basic
import Mathlib.Order.Basic

/-!
# Stores whose entries expire

A store may keep an entry after its end, and delete it when somebody looks at
its key.  A command on one key looks at the entry, answers, and leaves a new
entry or none.

What counts of a store is `live`: the entries that have not ended.  Commands
commute with it, so a store that deletes late answers like one that deletes
everything in time.
-/

namespace ChatBackend.Foundation.ExpiringStores

variable {Key Entry Time Answer : Type} [Preorder Time]

/-- When entries end; an entry that has ended does not come back. -/
structure Expiry (Time Entry : Type) [Preorder Time] where
  expired : Time → Entry → Bool
  mono :
    ∀ {now later : Time} {entry : Entry}, now ≤ later →
      expired now entry = true → expired later entry = true

abbrev Store (Key Entry : Type) := Key → Option Entry

variable (expiry : Expiry Time Entry)

/-- An entry, unless it has ended. -/
def fresh (now : Time) (entry : Option Entry) : Option Entry :=
  entry.filter fun entry => !expiry.expired now entry

def live (now : Time) (store : Store Key Entry) : Store Key Entry :=
  fun key => fresh expiry now (store key)

variable {expiry} {now later : Time}

theorem fresh_fresh (ordered : now ≤ later) (entry : Option Entry) :
    fresh expiry later (fresh expiry now entry) =
      fresh expiry later entry := by
  cases entry with
  | none => rfl
  | some entry =>
      cases ended : expiry.expired now entry with
      | false => simp [fresh, Option.filter, ended]
      | true =>
          simp [fresh, Option.filter, ended, expiry.mono ordered ended]

theorem live_live (ordered : now ≤ later) (store : Store Key Entry) :
    live expiry later (live expiry now store) =
      live expiry later store := by
  funext key
  exact fresh_fresh ordered (store key)

/-- Stores that agree go on to agree when time passes. -/
theorem live_congr
    (ordered : now ≤ later) {store other : Store Key Entry}
    (agree : live expiry now store = live expiry now other) :
    live expiry later store = live expiry later other := by
  rw [← live_live ordered, agree, live_live ordered]

variable [DecidableEq Key]

theorem live_update
    (store : Store Key Entry) (key : Key) (entry : Option Entry) :
    live expiry now (Function.update store key entry) =
      Function.update (live expiry now store) key
        (fresh expiry now entry) := by
  funext other
  by_cases same : other = key
  · subst same
    simp [live]
  · simp [live, same]

variable (expiry)

/-- Look at a key: an ended entry is deleted. -/
def look (now : Time) (store : Store Key Entry) (key : Key) :
    Store Key Entry × Option Entry :=
  match store key with
  | none => (store, none)
  | some entry =>
      if expiry.expired now entry then
        (Function.update store key none, none)
      else (store, some entry)

/-- Look at a key and leave what the command makes of its entry. -/
def perform
    (now : Time) (store : Store Key Entry) (key : Key)
    (command : Option Entry → Option Entry × Answer) :
    Store Key Entry × Answer :=
  let found := look expiry now store key
  let result := command found.2
  (Function.update found.1 key result.1, result.2)

variable {expiry}

@[simp]
theorem look_entry (store : Store Key Entry) (key : Key) :
    (look expiry now store key).2 = live expiry now store key := by
  cases entry : store key with
  | none => simp [look, live, fresh, entry]
  | some value =>
      cases ended : expiry.expired now value <;>
        simp [look, live, fresh, Option.filter, entry, ended]

@[simp]
theorem look_update
    (store : Store Key Entry) (key : Key) (entry : Option Entry) :
    Function.update (look expiry now store key).1 key entry =
      Function.update store key entry := by
  rw [look]
  split
  · rfl
  · split
    · exact Function.update_idem _ _ _
    · rfl

/-- Looking leaves what counts as it was. -/
theorem look_live (store : Store Key Entry) (key : Key) :
    live expiry now (look expiry now store key).1 =
      live expiry now store := by
  rw [look]
  split
  · rfl
  · rename_i value entry
    split
    · rename_i ended
      rw [live_update]
      apply Function.update_eq_self_iff.mpr
      simp [live, fresh, Option.filter, entry, ended]
    · rfl

theorem perform_answer
    (store : Store Key Entry) (key : Key)
    (command : Option Entry → Option Entry × Answer) :
    (perform expiry now store key command).2 =
      (command (live expiry now store key)).2 := by
  rw [perform, look_entry]

theorem perform_live
    (store : Store Key Entry) (key : Key)
    (command : Option Entry → Option Entry × Answer) :
    live expiry now (perform expiry now store key command).1 =
      Function.update (live expiry now store) key
        (fresh expiry now (command (live expiry now store key)).1) := by
  rw [perform, look_entry, look_update, live_update]

/-- A command on stores that agree: they agree after it, and so do both
answers. -/
theorem perform_congr
    {store other : Store Key Entry}
    (agree : live expiry now store = live expiry now other) (key : Key)
    (command : Option Entry → Option Entry × Answer) :
    live expiry now (perform expiry now store key command).1 =
        live expiry now (perform expiry now other key command).1 ∧
      (perform expiry now store key command).2 =
        (perform expiry now other key command).2 := by
  rw [perform_live, perform_live, perform_answer, perform_answer, agree]
  exact ⟨rfl, rfl⟩

end ChatBackend.Foundation.ExpiringStores
