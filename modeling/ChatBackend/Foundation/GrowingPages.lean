import ChatBackend.Foundation.KeysetPages

/-!
# Paging while the rows change

Between two pages rows may be added anywhere, and rows may go away.  A row
that is there all the time, and whose time is its own, is still shown exactly
once by a walk: as long as its time is before the cursor it is either on the
page or strictly older than the last row of it, and once it was shown the
cursor excludes it.
-/

namespace ChatBackend.Foundation.GrowingPages

open ChatBackend.Foundation.KeysetPages

variable {Entry Time : Type} [LinearOrder Time] {time : Entry → Time}
  {usable : Entry → Bool} {size : Nat} {tables : Nat → List Entry}

/-- The row is in each table, once, and no other row has its time. -/
structure Lasts
    (time : Entry → Time) (tables : Nat → List Entry) (entry : Entry) :
    Prop where
  listed : ∀ index, entry ∈ tables index
  alone :
    ∀ index, ∀ other ∈ tables index, time other = time entry →
      other = entry

/-- A row that the cursor leaves is on the page, or older than its end. -/
theorem on_page_or_older
    {rows : List Entry} (newestFirst : NewestFirst time rows)
    {before : Option Time} {entry last : Entry}
    (left : entry ∈ remaining time before rows)
    (ends : (page time size before rows).getLast? = some last) :
    entry ∈ page time size before rows ∨
      (entry ∉ page time size before rows ∧ time entry ≤ time last) := by
  by_cases onPage : entry ∈ page time size before rows
  · exact Or.inl onPage
  · refine Or.inr ⟨onPage, ?_⟩
    have sorted : NewestFirst time (remaining time before rows) :=
      newestFirst.sublist List.filter_sublist
    have split :=
      List.take_append_drop size (remaining time before rows)
    rw [NewestFirst, ← split, List.pairwise_append] at sorted
    rw [← split] at left
    rcases List.mem_append.mp left with here | later
    · exact absurd here onPage
    · exact sorted.2.2 last (List.mem_of_getLast? ends) entry later

/-- The last row of a page is its oldest. -/
theorem last_is_oldest
    {rows : List Entry} (newestFirst : NewestFirst time rows)
    {last entry : Entry} (ends : rows.getLast? = some last)
    (member : entry ∈ rows) : time last ≤ time entry := by
  rcases List.getLast?_eq_some_iff.mp ends with ⟨front, rfl⟩
  rw [NewestFirst, List.pairwise_append] at newestFirst
  rcases List.mem_append.mp member with inFront | isLast
  · exact newestFirst.2.2 entry inFront last (List.mem_singleton_self _)
  · rw [List.mem_singleton.mp isLast]

section Walks

variable [DecidableEq Entry]

/-- A walk shows the row once from a cursor after it, and never else. -/
theorem count_of_walk
    (newestFirst : ∀ index, NewestFirst time (tables index))
    (nodup : ∀ index, (tables index).Nodup)
    (cursors :
      ∀ index, ∀ other ∈ tables index, usable other = true)
    (positive : 0 < size) {entry : Entry}
    (lasts : Lasts time tables entry) {index : Nat}
    {before : Option Time} {pages : List (List Entry)}
    (walk : Walk time usable size tables index before pages) :
    pages.flatten.count entry =
      if before.all (fun limit => decide (time entry < limit)) then 1
      else 0 := by
  induction walk with
  | @finished index before noneLeft =>
      rw [page, List.take_eq_nil_iff] at noneLeft
      have nothing := noneLeft.resolve_left (by omega)
      have excluded :=
        List.filter_eq_nil_iff.mp nothing entry (lasts.listed index)
      rw [if_neg excluded]
      rfl
  | @turned index before last rest ends walk induction =>
      have shown := List.mem_of_getLast? ends
      have inTable : last ∈ tables index :=
        List.mem_of_mem_filter (List.mem_of_mem_take shown)
      have cursor :
          cursorAfter time usable last = some (time last) := by
        rw [cursorAfter, if_pos (cursors index last inTable)]
      rw [cursor] at induction
      rw [List.flatten_cons, List.count_append, induction]
      have once : (page time size before (tables index)).Nodup :=
        ((nodup index).filter _).sublist (List.take_sublist _ _)
      by_cases left :
          before.all (fun limit => decide (time entry < limit)) = true
      · have remains : entry ∈ remaining time before (tables index) :=
          List.mem_filter.mpr ⟨lasts.listed index, left⟩
        rw [if_pos left]
        rcases on_page_or_older (newestFirst index) remains ends with
          onPage | ⟨offPage, notNewer⟩
        · have sorted :
              NewestFirst time (page time size before (tables index)) :=
            (newestFirst index).sublist
              ((List.take_sublist _ _).trans List.filter_sublist)
          have notOlder := last_is_oldest sorted ends onPage
          rw [List.count_eq_one_of_mem once onPage,
            if_neg (by simpa using notOlder)]
        · have older : time entry < time last := by
            refine lt_of_le_of_ne notNewer fun sameTime => offPage ?_
            exact
              lasts.alone index last inTable sameTime.symm ▸ shown
          rw [List.count_eq_zero_of_not_mem offPage,
            if_pos (by simpa using older)]
      · have hidden : entry ∉ page time size before (tables index) :=
          fun onPage =>
            left (List.mem_filter.mp (List.mem_of_mem_take onPage)).2
        have beforeCursor :=
          (List.mem_filter.mp (List.mem_of_mem_take shown)).2
        have notOlder : time last ≤ time entry := by
          cases before with
          | none => exact absurd rfl left
          | some limit =>
              simp only [Option.all_some, decide_eq_true_eq, not_lt]
                at left beforeCursor
              exact beforeCursor.le.trans left
        rw [if_neg left, List.count_eq_zero_of_not_mem hidden,
          if_neg (by simpa using notOlder)]

end Walks

end ChatBackend.Foundation.GrowingPages
