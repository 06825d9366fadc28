import Mathlib.Data.List.Sort

/-!
# Stable sorting

`List.insertionSort` puts a row in front of its equals, so rows that are
equal in the order stay where they were, also when the order is only a total
preorder.  Filters can therefore be moved past sorting, and sorting two
sorted lists together merges them.

`take_insertionSort_append` is the fact behind limited queries: for the first
rows of two sorted lists together, the first rows of each are enough.
-/

namespace ChatBackend.Foundation.StableOrder

variable {Row : Type} (precedes : Row → Row → Prop)
  [DecidableRel precedes]

/-! ## Insertion -/

theorem orderedInsert_append
    {row : Row} {before after : List Row}
    (notBefore : ∀ other ∈ before, ¬ precedes row other)
    (notAfter : ∀ other ∈ after, precedes row other) :
    (before ++ after).orderedInsert precedes row =
      before ++ row :: after := by
  induction before with
  | nil =>
      cases after with
      | nil => rfl
      | cons other rest => simp [notAfter other (by simp)]
  | cons other rest induction =>
      simp only [List.cons_append, List.orderedInsert,
        notBefore other (by simp), if_false]
      rw [induction fun later member =>
        notBefore later (List.mem_cons_of_mem _ member)]

variable [IsTrans Row precedes]

/-- A row cuts a sorted list where it belongs. -/
theorem exists_cut
    {rows : List Row} (sorted : rows.Pairwise precedes) (row : Row) :
    ∃ before after,
      rows = before ++ after ∧
        (∀ other ∈ before, ¬ precedes row other) ∧
          ∀ other ∈ after, precedes row other := by
  induction rows with
  | nil => exact ⟨[], [], rfl, by simp, by simp⟩
  | cons head rest induction =>
      rw [List.pairwise_cons] at sorted
      by_cases early : precedes row head
      · refine ⟨[], head :: rest, rfl, by simp, ?_⟩
        intro other member
        rcases List.mem_cons.mp member with rfl | later
        · exact early
        · exact trans_of precedes early (sorted.1 other later)
      · rcases induction sorted.2 with
          ⟨before, after, rfl, notBefore, notAfter⟩
        refine ⟨head :: before, after, rfl, ?_, notAfter⟩
        intro other member
        rcases List.mem_cons.mp member with rfl | later
        · exact early
        · exact notBefore other later

/-! ## Filters -/

theorem filter_orderedInsert
    (keep : Row → Bool) {rows : List Row}
    (sorted : rows.Pairwise precedes) (row : Row) :
    (rows.orderedInsert precedes row).filter keep =
      if keep row then
        (rows.filter keep).orderedInsert precedes row
      else rows.filter keep := by
  rcases exists_cut precedes sorted row with
    ⟨before, after, rfl, notBefore, notAfter⟩
  rw [orderedInsert_append precedes notBefore notAfter,
    List.filter_append, List.filter_append]
  cases kept : keep row with
  | false => rw [List.filter_cons_of_neg (by simp [kept])]; rfl
  | true =>
      rw [List.filter_cons_of_pos kept, if_pos rfl]
      symm
      apply orderedInsert_append
      · intro other member
        exact notBefore other (List.mem_of_mem_filter member)
      · intro other member
        exact notAfter other (List.mem_of_mem_filter member)

/-- A filter takes the same rows out before and after sorting. -/
theorem filter_insertionSort
    [Std.Total precedes] (keep : Row → Bool) (rows : List Row) :
    (rows.insertionSort precedes).filter keep =
      (rows.filter keep).insertionSort precedes := by
  induction rows with
  | nil => rfl
  | cons row rows induction =>
      rw [List.insertionSort_cons,
        filter_orderedInsert precedes keep
          (List.pairwise_insertionSort precedes rows) row,
        induction]
      cases kept : keep row with
      | false => rw [List.filter_cons_of_neg (by simp [kept])]; rfl
      | true => rw [List.filter_cons_of_pos kept]; rfl

/-! ## Two sorted lists -/

/-- The first of two sorted lists goes first among equals. -/
def mergeSorted (first second : List Row) : List Row :=
  List.merge first second fun left right =>
    decide (precedes left right)

theorem orderedInsert_mergeSorted
    {row : Row} {first : List Row}
    (least : ∀ other ∈ first, precedes row other)
    (second : List Row) :
    (mergeSorted precedes first second).orderedInsert precedes row =
      mergeSorted precedes (row :: first) second := by
  induction second with
  | nil =>
      cases first with
      | nil => simp [mergeSorted]
      | cons head rest =>
          simp [mergeSorted, least head (by simp)]
  | cons other second induction =>
      by_cases early : precedes row other
      · cases first with
        | nil => simp [mergeSorted, early]
        | cons head rest =>
            have rowHead := least head (by simp)
            by_cases headFirst : precedes head other <;>
              simp [mergeSorted, early, headFirst, rowHead]
      · have inFront :
            mergeSorted precedes first (other :: second) =
              other :: mergeSorted precedes first second := by
          cases first with
          | nil => simp [mergeSorted]
          | cons head rest =>
              have notFirst : ¬ precedes head other := fun headFirst =>
                early
                  (trans_of precedes (least head (by simp)) headFirst)
              simp [mergeSorted, notFirst]
        rw [inFront, List.orderedInsert, if_neg early, induction]
        simp [mergeSorted, early]

theorem insertionSort_append
    {first second : List Row}
    (firstSorted : first.Pairwise precedes)
    (secondSorted : second.Pairwise precedes) :
    (first ++ second).insertionSort precedes =
      mergeSorted precedes first second := by
  induction first with
  | nil =>
      rw [List.nil_append, secondSorted.insertionSort_eq]
      simp [mergeSorted]
  | cons row first induction =>
      rw [List.pairwise_cons] at firstSorted
      rw [List.cons_append, List.insertionSort_cons,
        induction firstSorted.2,
        orderedInsert_mergeSorted precedes firstSorted.1]

omit [IsTrans Row precedes] in
theorem take_mergeSorted
    (size firstSize secondSize : Nat) (first second : List Row)
    (firstEnough : size ≤ firstSize)
    (secondEnough : size ≤ secondSize) :
    (mergeSorted precedes (first.take firstSize)
        (second.take secondSize)).take size =
      (mergeSorted precedes first second).take size := by
  induction size generalizing firstSize secondSize first second with
  | zero => simp
  | succ size induction =>
      rcases Nat.exists_eq_add_of_lt firstEnough with ⟨firstSize, rfl⟩
      rcases Nat.exists_eq_add_of_lt secondEnough with ⟨secondSize, rfl⟩
      cases first with
      | nil => simp [mergeSorted, List.take_take]
      | cons left first =>
          cases second with
          | nil => simp [mergeSorted, List.take_take]
          | cons right second =>
              simp only [mergeSorted, List.take_succ_cons,
                List.cons_merge_cons] at induction ⊢
              split
              · rw [List.take_succ_cons, List.take_succ_cons]
                congr 1
                have step :=
                  induction (size + firstSize)
                    (size + secondSize + 1) first (right :: second)
                    (by omega) (by omega)
                rwa [List.take_succ_cons] at step
              · rw [List.take_succ_cons, List.take_succ_cons]
                congr 1
                have step :=
                  induction (size + firstSize + 1)
                    (size + secondSize) (left :: first) second
                    (by omega) (by omega)
                rwa [List.take_succ_cons] at step

/-- The first rows of two sorted lists decide the first rows of both. -/
theorem take_insertionSort_append
    (size : Nat) {first second : List Row}
    (firstSorted : first.Pairwise precedes)
    (secondSorted : second.Pairwise precedes) :
    ((first.take size ++ second.take size).insertionSort precedes).take
        size =
      ((first ++ second).insertionSort precedes).take size := by
  rw [insertionSort_append precedes
      (firstSorted.sublist (List.take_sublist _ _))
      (secondSorted.sublist (List.take_sublist _ _)),
    insertionSort_append precedes firstSorted secondSorted]
  exact
    take_mergeSorted precedes size size size first second
      (Nat.le_refl size) (Nat.le_refl size)

end ChatBackend.Foundation.StableOrder
