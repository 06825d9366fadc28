import Mathlib.Data.List.Sort
import Mathlib.Data.List.Nodup

/-!
# Numbering the rows of each partition

`rowNumber` sorts the rows and gives every row its position among the rows
of its own partition, starting from one: the window function
`ROW_NUMBER() OVER (PARTITION BY … ORDER BY …)`.

The main lemma says that the numbers given inside one partition are
`1, 2, …, n` in the sorted order, where `n` is the size of the partition.
-/

namespace ChatBackend.Foundation.RowNumbering

variable {Row Part : Type} [DecidableEq Part]

/-- Number sorted rows, where the rows in `seen` are already numbered. -/
def numberFrom
    (partition : Row → Part) : List Row → List Row → List (Row × Nat)
  | _, [] => []
  | seen, row :: rest =>
      (row,
        seen.countP (fun old => partition old = partition row) + 1) ::
        numberFrom partition (seen ++ [row]) rest

/-- Every row with its position in its own partition, from one. -/
def rowNumber
    (partition : Row → Part)
    (before : Row → Row → Prop) [DecidableRel before]
    (rows : List Row) : List (Row × Nat) :=
  numberFrom partition [] (rows.insertionSort before)

/-- Numbering keeps the rows and their order. -/
@[simp]
theorem numberFrom_rows
    (partition : Row → Part) (seen rows : List Row) :
    (numberFrom partition seen rows).map Prod.fst = rows := by
  induction rows generalizing seen with
  | nil => rfl
  | cons row rest induction =>
      simp [numberFrom, induction]

/-- The numbers inside one partition continue the numbers already given. -/
theorem numberFrom_numbers
    (partition : Row → Part) (seen rows : List Row) (part : Part) :
    ((numberFrom partition seen rows).filter
        (fun entry => partition entry.1 = part)).map Prod.snd =
      List.range'
        (seen.countP (fun old => partition old = part) + 1)
        (rows.countP fun row => partition row = part) := by
  induction rows generalizing seen with
  | nil => rfl
  | cons row rest induction =>
      by_cases inside : partition row = part
      · rw [numberFrom, List.filter_cons_of_pos (by simp [inside]),
          List.map_cons, induction (seen ++ [row]),
          List.countP_cons_of_pos (by simp [inside]),
          List.range'_succ]
        simp [inside, List.countP_append]
      · rw [numberFrom, List.filter_cons_of_neg (by simp [inside]),
          induction (seen ++ [row]),
          List.countP_cons_of_neg (by simp [inside])]
        simp [inside, List.countP_append]

section Sorted

variable
  (partition : Row → Part)
  (before : Row → Row → Prop) [DecidableRel before]

theorem rowNumber_rows (rows : List Row) :
    (rowNumber partition before rows).map Prod.fst =
      rows.insertionSort before :=
  numberFrom_rows partition [] _

theorem rowNumber_rows_perm (rows : List Row) :
    ((rowNumber partition before rows).map Prod.fst).Perm rows := by
  rw [rowNumber_rows]
  exact List.perm_insertionSort before rows

/-- The rows of a partition are numbered `1, …, n` in the sorted order. -/
theorem rowNumber_numbers (rows : List Row) (part : Part) :
    ((rowNumber partition before rows).filter
        (fun entry => partition entry.1 = part)).map Prod.snd =
      List.range' 1 (rows.countP fun row => partition row = part) := by
  rw [rowNumber, numberFrom_numbers,
    (List.perm_insertionSort before rows).countP_eq]
  simp

theorem mem_rowNumber_row
    {rows : List Row} {entry : Row × Nat}
    (member : entry ∈ rowNumber partition before rows) :
    entry.1 ∈ rows :=
  (rowNumber_rows_perm partition before rows).mem_iff.mp
    (List.mem_map_of_mem member)

theorem exists_number_of_mem
    {rows : List Row} {row : Row} (member : row ∈ rows) :
    ∃ number, (row, number) ∈ rowNumber partition before rows := by
  have numbered :=
    (rowNumber_rows_perm partition before rows).mem_iff.mpr member
  rcases List.mem_map.mp numbered with ⟨⟨_, number⟩, entryMember, rfl⟩
  exact ⟨number, entryMember⟩

/-- The numbered rows stand in the sorted order. -/
theorem rowNumber_sorted
    [Std.Total before] [IsTrans Row before] (rows : List Row) :
    ((rowNumber partition before rows).map Prod.fst).Pairwise
      before := by
  rw [rowNumber_rows]
  exact List.pairwise_insertionSort before rows

/-- Two rows of one partition never get the same number. -/
theorem rowNumber_pairwise_ne (rows : List Row) :
    (rowNumber partition before rows).Pairwise fun left right =>
      partition left.1 = partition right.1 → left.2 ≠ right.2 := by
  rw [List.pairwise_iff_forall_sublist]
  intro left right sublist same
  have filtered :
      [left, right].Sublist
        ((rowNumber partition before rows).filter fun entry =>
          partition entry.1 = partition right.1) := by
    have kept :=
      sublist.filter fun entry =>
        decide (partition entry.1 = partition right.1)
    simpa [same] using kept
  have numbers := filtered.map Prod.snd
  rw [rowNumber_numbers] at numbers
  have distinct := numbers.nodup List.nodup_range'
  simpa using distinct

end Sorted

end ChatBackend.Foundation.RowNumbering
