import Mathlib.Data.List.Basic
import Mathlib.Data.List.Infix
import Mathlib.Data.List.Nodup
import Mathlib.Data.List.Perm.Basic
import Mathlib.Order.Lattice

/-!
# Paging by a cursor

Rows are read newest first, in pages of a fixed size.  The cursor of the next
page is the time of the last row of a page, and the next page holds rows
strictly older than the cursor.  Rows that cannot serve as a cursor start the
walk again.

The rows may come in another order for each page when their times are equal.
`walk_of_clean` says that a walk shows every row once if every page ends
where the time changes; `clean_of_walk` is the converse for a fixed order.
-/

namespace ChatBackend.Foundation.KeysetPages

variable {Entry Time : Type} [LinearOrder Time] (time : Entry → Time)
  (usable : Entry → Bool) (size : Nat)

/-! ## Walks -/

def NewestFirst (rows : List Entry) : Prop :=
  rows.Pairwise fun newer older => time older ≤ time newer

/-- The rows strictly older than the cursor. -/
def remaining (before : Option Time) (rows : List Entry) : List Entry :=
  rows.filter fun entry =>
    before.all fun limit => decide (time entry < limit)

def page (before : Option Time) (rows : List Entry) : List Entry :=
  (remaining time before rows).take size

/-- The cursor that a row gives, or none. -/
def cursorAfter (entry : Entry) : Option Time :=
  if usable entry then some (time entry) else none

/-- Page after page until a page is empty; `tables` is what each page reads. -/
inductive Walk (tables : Nat → List Entry) :
    Nat → Option Time → List (List Entry) → Prop where
  | finished {index : Nat} {before : Option Time} :
      page time size before (tables index) = [] →
        Walk tables index before []
  | turned {index : Nat} {before : Option Time} {last : Entry}
      {rest : List (List Entry)} :
      (page time size before (tables index)).getLast? = some last →
        Walk tables (index + 1) (cursorAfter time usable last) rest →
          Walk tables index before
            (page time size before (tables index) :: rest)

/-- Every page ends with a cursor, and strictly before the next one. -/
def Clean (rows : List Entry) : Prop :=
  ∀ index last, index * size < rows.length →
    (rows.take ((index + 1) * size)).getLast? = some last →
      usable last = true ∧
        ∀ later ∈ rows.drop ((index + 1) * size),
          time later < time last

/-- The newest rows: as many as fit, and no newer one is left out. -/
structure TopOf (rows shown : List Entry) : Prop where
  length : shown.length = min size rows.length
  among : ∀ entry ∈ shown, entry ∈ rows
  newestFirst : NewestFirst time shown
  newest :
    ∀ entry ∈ shown, ∀ other ∈ rows, other ∉ shown →
      time other ≤ time entry

/-- Less than a page of the rows is newer than the entry. -/
def AmongNewest (rows : List Entry) (entry : Entry) : Prop :=
  entry ∈ rows ∧
    (rows.filter fun other => decide (time entry < time other)).length <
      size

/-! ## What a cursor leaves -/

theorem remaining_none (rows : List Entry) :
    remaining time none rows = rows := by
  simp [remaining]

theorem mem_remaining_some
    {limit : Time} {rows : List Entry} {entry : Entry} :
    entry ∈ remaining time (some limit) rows ↔
      entry ∈ rows ∧ time entry < limit := by
  simp [remaining]

variable {time usable size}

theorem amongNewest_of_mem_take
    {rows : List Entry} (newestFirst : NewestFirst time rows)
    {entry : Entry} (shown : entry ∈ rows.take size) :
    AmongNewest time size rows entry := by
  rcases List.append_of_mem shown with ⟨front, back, isTake⟩
  have split : rows = front ++ entry :: (back ++ rows.drop size) := by
    calc
      rows = rows.take size ++ rows.drop size :=
        (List.take_append_drop size rows).symm
      _ = front ++ entry :: (back ++ rows.drop size) := by
        rw [isTake, List.append_assoc, List.cons_append]
  have fits : front.length < size := by
    have length := List.length_take_le size rows
    rw [isTake, List.length_append, List.length_cons] at length
    omega
  refine ⟨List.mem_of_mem_take shown, ?_⟩
  rw [NewestFirst, split, List.pairwise_append, List.pairwise_cons]
    at newestFirst
  have notNewer :
      (entry :: (back ++ rows.drop size)).filter
          (fun other => decide (time entry < time other)) = [] := by
    apply List.filter_eq_nil_iff.mpr
    intro other member
    rcases List.mem_cons.mp member with rfl | later
    · simp
    · simpa using newestFirst.2.1.1 other later
  have newer := List.length_filter_le
    (fun other => decide (time entry < time other)) front
  rw [split, List.filter_append, notNewer, List.append_nil]
  omega

/-- A page shows the newest of the rows that the cursor leaves. -/
theorem page_topOf
    {rows entries : List Entry} (newestFirst : NewestFirst time rows)
    (perm : rows.Perm entries) (before : Option Time) :
    TopOf time size (remaining time before entries)
      (page time size before rows) := by
  have left : (remaining time before rows).Perm _ :=
    perm.filter fun entry =>
      before.all fun limit => decide (time entry < limit)
  have sorted : NewestFirst time (remaining time before rows) :=
    newestFirst.sublist List.filter_sublist
  constructor
  · rw [page, List.length_take, left.length_eq]
    rfl
  · intro entry shown
    exact left.mem_iff.mp (List.mem_of_mem_take shown)
  · exact sorted.sublist (List.take_sublist _ _)
  · intro entry shown other member hidden
    have inRows := left.mem_iff.mpr member
    have split := List.take_append_drop size (remaining time before rows)
    rw [NewestFirst, ← split, List.pairwise_append] at sorted
    rw [← split] at inRows
    rcases List.mem_append.mp inRows with inPage | later
    · exact absurd inPage hidden
    · exact sorted.2.2 entry shown other later

/-- A cursor leaves the end of the list. -/
theorem remaining_suffix
    {rows : List Entry} (newestFirst : NewestFirst time rows)
    (limit : Time) :
    remaining time (some limit) rows <:+ rows := by
  induction rows with
  | nil => simp [remaining]
  | cons entry rows induction =>
      rw [NewestFirst, List.pairwise_cons] at newestFirst
      by_cases older : time entry < limit
      · have all :
            remaining time (some limit) (entry :: rows) =
              entry :: rows := by
          apply List.filter_eq_self.mpr
          intro other member
          rcases List.mem_cons.mp member with rfl | later
          · simpa using older
          · have notNewer := newestFirst.1 other later
            simpa using lt_of_le_of_lt notNewer older
        rw [all]
      · have skipped :
            remaining time (some limit) (entry :: rows) =
              remaining time (some limit) rows :=
          List.filter_cons_of_neg (by simpa using older)
        rw [skipped]
        exact
          (induction newestFirst.2).trans (List.suffix_cons entry rows)

/-- A page that ends where the time changes leaves what follows it. -/
theorem remaining_of_strict
    {rows : List Entry} (newestFirst : NewestFirst time rows)
    {shown : Nat} {last : Entry}
    (ends : (rows.take shown).getLast? = some last)
    (strict : ∀ later ∈ rows.drop shown, time later < time last) :
    remaining time (some (time last)) rows = rows.drop shown := by
  rcases List.getLast?_eq_some_iff.mp ends with ⟨front, split⟩
  have before :
      (rows.take shown).filter
          (fun entry => decide (time entry < time last)) = [] := by
    apply List.filter_eq_nil_iff.mpr
    intro entry member
    have ordered := newestFirst.sublist (List.take_sublist shown rows)
    rw [split] at member ordered
    rw [List.pairwise_append] at ordered
    rcases List.mem_append.mp member with inFront | isLast
    · simpa using
        ordered.2.2 entry inFront last (List.mem_singleton_self last)
    · rw [List.mem_singleton] at isLast
      simp [isLast]
  have after :
      (rows.drop shown).filter
          (fun entry => decide (time entry < time last)) =
        rows.drop shown := by
    apply List.filter_eq_self.mpr
    intro entry member
    simpa using strict entry member
  change
    rows.filter (fun entry => decide (time entry < time last)) = _
  conv_lhs => rw [← List.take_append_drop shown rows]
  rw [List.filter_append, before, after, List.nil_append]

/-- The same in every other order of the same rows. -/
theorem remaining_of_perm
    {rows other : List Entry} (newestFirst : NewestFirst time other)
    (same : other.Perm rows) {shown : Nat} {limit : Time}
    (left : remaining time (some limit) rows = rows.drop shown) :
    remaining time (some limit) other = other.drop shown := by
  have suffix := remaining_suffix newestFirst limit
  have count :
      (remaining time (some limit) other).length =
        rows.length - shown := by
    rw [← List.length_drop, ← left]
    exact (same.filter _).length_eq
  rw [List.suffix_iff_eq_drop.mp suffix, count, same.length_eq]
  by_cases enough : shown ≤ rows.length
  · congr 1
    omega
  · rw [List.drop_eq_nil_of_le (by rw [same.length_eq]; omega),
      List.drop_eq_nil_of_le (by rw [same.length_eq]; omega)]

theorem getLast?_take_of_page
    {rows : List Entry} {shown : Nat} {last : Entry}
    (ends : ((rows.drop shown).take size).getLast? = some last) :
    (rows.take (shown + size)).getLast? = some last := by
  rw [List.take_add, List.getLast?_append, ends]
  rfl

/-! ## Clean walks are complete -/

section Complete

variable {tables : Nat → List Entry}
  (newestFirst : ∀ index, NewestFirst time (tables index))
  (same : ∀ first second, (tables first).Perm (tables second))
  (clean : ∀ index, Clean time usable size (tables index))
  (positive : 0 < size)

include newestFirst same clean positive

theorem walk_from
    (left : Nat) (index : Nat) (before : Option Time)
    (bound : (tables index).length - index * size ≤ left)
    (reached :
      remaining time before (tables index) =
        (tables index).drop (index * size)) :
    ∃ pages,
      Walk time usable size tables index before pages ∧
        pages.flatten.Perm ((tables index).drop (index * size)) ∧
          NewestFirst time pages.flatten := by
  induction left generalizing index before with
  | zero =>
      have noneLeft : (tables index).drop (index * size) = [] :=
        List.drop_eq_nil_of_le (by omega)
      refine ⟨[], .finished ?_, ?_, List.Pairwise.nil⟩
      · rw [page, reached, noneLeft, List.take_nil]
      · rw [noneLeft]
        exact List.Perm.refl _
  | succ left induction =>
      cases ends :
          (((tables index).drop (index * size)).take size).getLast? with
      | none =>
          rw [List.getLast?_eq_none_iff, List.take_eq_nil_iff] at ends
          have noneLeft := ends.resolve_left (by omega)
          refine ⟨[], .finished ?_, ?_, List.Pairwise.nil⟩
          · rw [page, reached, noneLeft, List.take_nil]
          · rw [noneLeft]
            exact List.Perm.refl _
      | some last =>
          have inRange : index * size < (tables index).length := by
            by_contra beyond
            rw [List.drop_eq_nil_of_le (by omega), List.take_nil] at ends
            cases ends
          have lastShown := getLast?_take_of_page ends
          have next : index * size + size = (index + 1) * size := by
            rw [Nat.add_mul, Nat.one_mul]
          rw [next] at lastShown
          rcases clean index index last inRange lastShown with
            ⟨isUsable, strict⟩
          have leaves :=
            remaining_of_strict (newestFirst index) lastShown strict
          have leavesNext :=
            remaining_of_perm (newestFirst (index + 1))
              (same (index + 1) index) leaves
          obtain ⟨rest, walk, perm, ordered⟩ :=
            induction (index + 1) (some (time last))
              (by
                rw [(same (index + 1) index).length_eq]
                omega)
              leavesNext
          have restPerm :
              rest.flatten.Perm
                ((tables index).drop ((index + 1) * size)) := by
            refine perm.trans ?_
            rw [← leaves, ← leavesNext]
            exact (same (index + 1) index).filter _
          have pageEq :
              page time size before (tables index) =
                ((tables index).drop (index * size)).take size := by
            rw [page, reached]
          have split :
              ((tables index).drop (index * size)).take size ++
                  (tables index).drop ((index + 1) * size) =
                (tables index).drop (index * size) := by
            rw [← next, ← List.drop_drop]
            exact List.take_append_drop _ _
          have orderedRows :=
            (newestFirst index).sublist
              (List.drop_sublist (index * size) (tables index))
          rw [← split, List.pairwise_append] at orderedRows
          refine
            ⟨page time size before (tables index) :: rest,
              .turned (by rw [pageEq]; exact ends) ?_, ?_, ?_⟩
          · rw [cursorAfter, if_pos isUsable]
            exact walk
          · have both :=
              restPerm.append_left
                (((tables index).drop (index * size)).take size)
            rw [split] at both
            rw [List.flatten_cons, pageEq]
            exact both
          · rw [List.flatten_cons, pageEq, NewestFirst,
              List.pairwise_append]
            refine ⟨orderedRows.1, ordered, ?_⟩
            intro entry shown later member
            exact
              orderedRows.2.2 entry shown later
                (restPerm.mem_iff.mp member)

/-- A walk whose pages end where the time changes shows every row once. -/
theorem walk_of_clean :
    ∃ pages,
      Walk time usable size tables 0 none pages ∧
        pages.flatten.Perm (tables 0) ∧
          NewestFirst time pages.flatten := by
  have started :
      remaining time none (tables 0) = (tables 0).drop (0 * size) := by
    rw [remaining_none, Nat.zero_mul, List.drop_zero]
  simpa using
    walk_from newestFirst same clean positive (tables 0).length 0 none
      (by omega) started

end Complete

/-! ## Complete walks are clean -/

section Necessary

variable {rows : List Entry} (positive : 0 < size)

include positive

/-- Without a cursor the first row is shown again. -/
theorem first_shown
    {first : Entry} (head : rows.head? = some first) {index : Nat}
    {pages : List (List Entry)}
    (walk : Walk time usable size (fun _ => rows) index none pages) :
    first ∈ pages.flatten := by
  rcases List.head?_eq_some_iff.mp head with ⟨rest, rfl⟩
  rcases Nat.exists_eq_add_of_lt positive with ⟨size, rfl⟩
  cases walk with
  | finished noneLeft =>
      simp [page, remaining_none] at noneLeft
  | turned => simp [page, remaining_none]

/-- A walk only comes back to newer rows by starting over. -/
theorem older_or_first_shown
    {first : Entry} (head : rows.head? = some first) {index : Nat}
    {before : Option Time} {pages : List (List Entry)}
    (walk : Walk time usable size (fun _ => rows) index before pages)
    {limit : Time} (cursor : before = some limit) :
    (∀ entry ∈ pages.flatten, time entry < limit) ∨
      first ∈ pages.flatten := by
  induction walk generalizing limit with
  | finished => simp
  | turned ends walk induction =>
      rename_i last rest
      subst cursor
      have onPage :
          ∀ entry ∈ page time size (some limit) rows,
            time entry < limit := by
        intro entry member
        exact
          ((mem_remaining_some time).mp (List.mem_of_mem_take member)).2
      rw [List.flatten_cons]
      by_cases isUsable : usable last = true
      · have cursorIsLast :
            cursorAfter time usable last = some (time last) := by
          rw [cursorAfter, if_pos isUsable]
        rcases induction cursorIsLast with older | shown
        · left
          intro entry member
          rcases List.mem_append.mp member with here | later
          · exact onPage entry here
          · exact
              lt_trans (older entry later)
                (onPage last (List.mem_of_getLast? ends))
        · exact Or.inr (List.mem_append_right _ shown)
      · rw [cursorAfter, if_neg isUsable] at walk
        exact
          Or.inr
            (List.mem_append_right _ (first_shown positive head walk))

theorem clean_from
    (newestFirst : NewestFirst time rows) (nodup : rows.Nodup)
    {start : Nat} {before : Option Time} {pages : List (List Entry)}
    (walk : Walk time usable size (fun _ => rows) start before pages)
    (reached :
      remaining time before rows = rows.drop (start * size))
    (complete : pages.flatten.Perm (rows.drop (start * size)))
    {index : Nat} (later : start ≤ index) {last : Entry}
    (inRange : index * size < rows.length)
    (ends : (rows.take ((index + 1) * size)).getLast? = some last) :
    usable last = true ∧
      ∀ other ∈ rows.drop ((index + 1) * size),
        time other < time last := by
  induction walk with
  | finished noneLeft =>
      rename_i start before
      rw [page, reached, List.take_eq_nil_iff] at noneLeft
      have none := noneLeft.resolve_left (by omega)
      have beyond := List.drop_eq_nil_iff.mp none
      have monotone := Nat.mul_le_mul_right size later
      omega
  | turned pageEnds walk induction =>
      rename_i start before pageLast rest
      have next : start * size + size = (start + 1) * size := by
        rw [Nat.add_mul, Nat.one_mul]
      rw [page, reached] at pageEnds
      have lastShown := getLast?_take_of_page pageEnds
      rw [next] at lastShown
      have split :
          (rows.drop (start * size)).take size ++
              rows.drop ((start + 1) * size) =
            rows.drop (start * size) := by
        rw [← next, ← List.drop_drop]
        exact List.take_append_drop _ _
      have restPerm :
          rest.flatten.Perm (rows.drop ((start + 1) * size)) := by
        rw [List.flatten_cons, page, reached] at complete
        apply
          (List.perm_append_left_iff
            ((rows.drop (start * size)).take size)).mp
        rw [split]
        exact complete
      obtain ⟨first, head⟩ :
          ∃ first, rows.head? = some first := by
        cases rows with
        | nil => simp at inRange
        | cons first rows => exact ⟨first, rfl⟩
      have notShown : first ∉ rest.flatten := by
        rw [restPerm.mem_iff]
        rcases List.head?_eq_some_iff.mp head with ⟨others, rfl⟩
        rw [List.nodup_cons] at nodup
        obtain ⟨less, isSucc⟩ :=
          Nat.exists_eq_succ_of_ne_zero
            (Nat.mul_ne_zero (Nat.succ_ne_zero start)
              (Nat.pos_iff_ne_zero.mp positive))
        rw [isSucc, List.drop_succ_cons]
        exact fun member => nodup.1 (List.mem_of_mem_drop member)
      have isUsable : usable pageLast = true := by
        by_contra unusable
        rw [cursorAfter, if_neg unusable] at walk
        exact notShown (first_shown positive head walk)
      have cursor :
          cursorAfter time usable pageLast = some (time pageLast) := by
        rw [cursorAfter, if_pos isUsable]
      have strict :
          ∀ other ∈ rows.drop ((start + 1) * size),
            time other < time pageLast := by
        intro other member
        rcases older_or_first_shown positive head walk cursor with
          older | shown
        · exact older other (restPerm.mem_iff.mpr member)
        · exact (notShown shown).elim
      rcases Nat.eq_or_lt_of_le later with rfl | after
      · rw [ends] at lastShown
        cases lastShown
        exact ⟨isUsable, strict⟩
      · apply induction _ restPerm after
        rw [cursor]
        exact remaining_of_strict newestFirst lastShown strict

/-- A walk that shows every row once turns its pages where times change. -/
theorem clean_of_walk
    (newestFirst : NewestFirst time rows) (nodup : rows.Nodup)
    {pages : List (List Entry)}
    (walk : Walk time usable size (fun _ => rows) 0 none pages)
    (complete : pages.flatten.Perm rows) :
    Clean time usable size rows := by
  intro index last inRange ends
  exact
    clean_from positive newestFirst nodup walk
      (by rw [remaining_none, Nat.zero_mul, List.drop_zero])
      (by simpa using complete) (Nat.zero_le index) inRange ends

end Necessary

end ChatBackend.Foundation.KeysetPages
