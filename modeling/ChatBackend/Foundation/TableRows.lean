import Mathlib.Data.List.Basic
import Mathlib.Data.List.Nodup

/-!
# Inserting and rewriting the rows of a table

A table is the list of its rows.  Two operations change it.

* `insertRows` offers rows one at a time.  A row which an existing row makes
  redundant is skipped, a row which violates a constraint stops the
  statement, and every other row is added and seen by the rows after it.
* `replaceVersions` puts a new version in the place of every row with the
  same key.

The lemmas say which rows end up in the table, and when an insertion has the
same result in another table.
-/

namespace ChatBackend.Foundation.TableRows

variable {Row Key Violation : Type}

/-! ## Insertion with skips and violations -/

/--
Offer `rows` to `table`.  The result lists the rows which are added.

`skips old row` says that `row` is dropped because of `old`, and
`violation old row` is the constraint broken by the two rows together.
-/
def insertRows
    (skips : Row → Row → Bool)
    (violation : Row → Row → Option Violation)
    (table : List Row) :
    List Row → Except Violation (List Row)
  | [] => .ok []
  | row :: rest =>
      if table.any (skips · row) then
        insertRows skips violation table rest
      else
        match table.findSome? (violation · row) with
        | some broken => .error broken
        | none =>
            match insertRows skips violation (table ++ [row]) rest with
            | .error broken => .error broken
            | .ok added => .ok (row :: added)

section Insertion

variable
  {skips : Row → Row → Bool}
  {violation : Row → Row → Option Violation}

/-- Inversion for one offered row. -/
theorem insertRows_cons_ok
    {table added : List Row} {row : Row} {rest : List Row}
    (inserted :
      insertRows skips violation table (row :: rest) = .ok added) :
    (table.any (skips · row) = true ∧
        insertRows skips violation table rest = .ok added) ∨
      (table.any (skips · row) = false ∧
        table.findSome? (violation · row) = none ∧
        ∃ later,
          insertRows skips violation (table ++ [row]) rest =
              .ok later ∧
            added = row :: later) := by
  unfold insertRows at inserted
  by_cases skipped : table.any (skips · row) = true
  · rw [if_pos skipped] at inserted
    exact Or.inl ⟨skipped, inserted⟩
  · rw [if_neg skipped] at inserted
    right
    cases found : table.findSome? (violation · row) with
    | some broken => simp [found] at inserted
    | none =>
        simp only [found] at inserted
        cases continued :
            insertRows skips violation (table ++ [row]) rest with
        | error broken => simp [continued] at inserted
        | ok later =>
            simp only [continued, Except.ok.injEq] at inserted
            exact
              ⟨eq_false_of_ne_true skipped, rfl, later,
                rfl, inserted.symm⟩

/-- A failure is the violation of two rows. -/
theorem insertRows_error
    {table rows : List Row} {broken : Violation}
    (failed : insertRows skips violation table rows = .error broken) :
    ∃ old row, violation old row = some broken := by
  induction rows generalizing table with
  | nil => simp [insertRows] at failed
  | cons row rest induction =>
      unfold insertRows at failed
      by_cases skipped : table.any (skips · row) = true
      · rw [if_pos skipped] at failed
        exact induction failed
      · rw [if_neg skipped] at failed
        cases found : table.findSome? (violation · row) with
        | some other =>
            simp only [found, Except.error.injEq] at failed
            rcases List.exists_of_findSome?_eq_some found with
              ⟨old, _, violated⟩
            exact ⟨old, row, failed ▸ violated⟩
        | none =>
            simp only [found] at failed
            cases continued :
                insertRows skips violation (table ++ [row]) rest with
            | error other =>
                simp only [continued, Except.error.injEq] at failed
                exact induction (failed ▸ continued)
            | ok later => simp [continued] at failed

/-- Only offered rows are added, in the order in which they are offered. -/
theorem insertRows_sublist
    {table added rows : List Row}
    (inserted : insertRows skips violation table rows = .ok added) :
    added.Sublist rows := by
  induction rows generalizing table added with
  | nil =>
      simp only [insertRows, Except.ok.injEq] at inserted
      simp [← inserted]
  | cons row rest induction =>
      rcases insertRows_cons_ok inserted with
        ⟨_, continued⟩ | ⟨_, _, later, continued, rfl⟩
      · exact (induction continued).cons row
      · exact (induction continued).cons_cons row

/-- No row of the table skips an added row or breaks a constraint with it. -/
theorem insertRows_compatible
    {table added rows : List Row}
    (inserted : insertRows skips violation table rows = .ok added) :
    ∀ row ∈ added, ∀ old ∈ table,
      skips old row = false ∧ violation old row = none := by
  induction rows generalizing table added with
  | nil =>
      simp only [insertRows, Except.ok.injEq] at inserted
      simp [← inserted]
  | cons head rest induction =>
      rcases insertRows_cons_ok inserted with
        ⟨_, continued⟩ | ⟨kept, sound, later, continued, rfl⟩
      · exact induction continued
      · intro row member old oldMember
        rcases List.mem_cons.mp member with rfl | laterMember
        · rw [List.any_eq_false] at kept
          rw [List.findSome?_eq_none_iff] at sound
          exact
            ⟨eq_false_of_ne_true (kept old oldMember),
              sound old oldMember⟩
        · exact
            induction continued row laterMember old
              (List.mem_append_left _ oldMember)

/-- The added rows are compatible with each other. -/
theorem insertRows_pairwise
    {table added rows : List Row}
    (inserted : insertRows skips violation table rows = .ok added) :
    added.Pairwise fun old row =>
      skips old row = false ∧ violation old row = none := by
  induction rows generalizing table added with
  | nil =>
      simp only [insertRows, Except.ok.injEq] at inserted
      simp [← inserted]
  | cons head rest induction =>
      rcases insertRows_cons_ok inserted with
        ⟨_, continued⟩ | ⟨_, _, later, continued, rfl⟩
      · exact induction continued
      · refine List.pairwise_cons.mpr ⟨?_, induction continued⟩
        intro row member
        exact insertRows_compatible continued row member head (by simp)

/--
When no offered row skips another, exactly the rows which no old row skips
are added.
-/
theorem insertRows_eq_filter
    {table added rows : List Row}
    (distinct :
      rows.Pairwise fun old row => skips old row = false)
    (inserted : insertRows skips violation table rows = .ok added) :
    added = rows.filter fun row => !table.any (skips · row) := by
  induction rows generalizing table added with
  | nil =>
      simp only [insertRows, Except.ok.injEq] at inserted
      simp [← inserted]
  | cons head rest induction =>
      rcases List.pairwise_cons.mp distinct with
        ⟨headDistinct, restDistinct⟩
      rcases insertRows_cons_ok inserted with
        ⟨skipped, continued⟩ | ⟨kept, _, later, continued, rfl⟩
      · rw [induction restDistinct continued]
        simp [skipped]
      · rw [List.filter_cons_of_pos (by simp [kept]),
          induction restDistinct continued]
        congr 1
        apply List.filter_congr
        intro row member
        simp [headDistinct row member]

/--
When no offered row skips another, the rows which no old row skips are added
unless one of them breaks a constraint.
-/
theorem insertRows_eq_ok_filter
    {table rows : List Row}
    (distinct :
      rows.Pairwise fun old row => skips old row = false)
    (sound :
      ∀ row ∈ rows.filter (fun row => !table.any (skips · row)),
        ∀ old ∈ table, violation old row = none)
    (soundTogether :
      (rows.filter fun row => !table.any (skips · row)).Pairwise
        fun old row => violation old row = none) :
    insertRows skips violation table rows =
      .ok (rows.filter fun row => !table.any (skips · row)) := by
  induction rows generalizing table with
  | nil => rfl
  | cons head rest induction =>
      rcases List.pairwise_cons.mp distinct with
        ⟨headDistinct, restDistinct⟩
      unfold insertRows
      by_cases skipped : table.any (skips · head) = true
      · have dropped :
            (head :: rest).filter
                (fun row => !table.any (skips · row)) =
              rest.filter fun row => !table.any (skips · row) :=
          List.filter_cons_of_neg (by simp [skipped])
        rw [dropped] at sound soundTogether ⊢
        rw [if_pos skipped]
        exact induction restDistinct sound soundTogether
      · have kept :
            (head :: rest).filter
                (fun row => !table.any (skips · row)) =
              head ::
                rest.filter fun row => !table.any (skips · row) :=
          List.filter_cons_of_pos (by simp [skipped])
        rw [kept] at sound soundTogether ⊢
        rcases List.pairwise_cons.mp soundTogether with
          ⟨headSound, restSound⟩
        have noViolation :
            table.findSome? (violation · head) = none := by
          rw [List.findSome?_eq_none_iff]
          exact sound head (by simp)
        have sameFilter :
            rest.filter
                (fun row => !(table ++ [head]).any (skips · row)) =
              rest.filter fun row => !table.any (skips · row) := by
          apply List.filter_congr
          intro row member
          simp [headDistinct row member]
        have continued :
            insertRows skips violation (table ++ [head]) rest =
              .ok
                (rest.filter fun row =>
                  !table.any (skips · row)) := by
          rw [← sameFilter]
          apply induction restDistinct
          · rw [sameFilter]
            intro row member old oldMember
            rcases List.mem_append.mp oldMember with inTable | isHead
            · exact
                sound row (List.mem_cons_of_mem _ member) old inTable
            · rw [List.mem_singleton.mp isHead]
              exact headSound row member
          · rw [sameFilter]
            exact restSound
        rw [if_neg skipped, noViolation, continued]

/--
Offered rows which are compatible with the table and with each other are all
added.
-/
theorem insertRows_eq_ok
    {table rows : List Row}
    (compatible :
      ∀ row ∈ rows, ∀ old ∈ table,
        skips old row = false ∧ violation old row = none)
    (distinct :
      rows.Pairwise fun old row =>
        skips old row = false ∧ violation old row = none) :
    insertRows skips violation table rows = .ok rows := by
  have nothingSkipped :
      rows.filter (fun row => !table.any (skips · row)) = rows := by
    rw [List.filter_eq_self]
    intro row member
    rw [Bool.not_eq_true', List.any_eq_false]
    intro old oldMember
    simp [(compatible row member old oldMember).1]
  have inserted :
      insertRows skips violation table rows =
        .ok (rows.filter fun row => !table.any (skips · row)) := by
    apply insertRows_eq_ok_filter (distinct.imp fun pair => pair.1)
    · rw [nothingSkipped]
      exact fun row member old oldMember =>
        (compatible row member old oldMember).2
    · rw [nothingSkipped]
      exact distinct.imp fun pair => pair.2
  rwa [nothingSkipped] at inserted

/--
The same rows are added to another table that skips the same rows and is
compatible with the added ones.
-/
theorem insertRows_transfer
    {table other added rows : List Row}
    (inserted : insertRows skips violation table rows = .ok added)
    (skipped :
      ∀ row ∈ rows, (∃ old ∈ table, skips old row = true) →
        ∃ old ∈ other, skips old row = true)
    (compatible :
      ∀ row ∈ added, ∀ old ∈ other,
        skips old row = false ∧ violation old row = none) :
    insertRows skips violation other rows = .ok added := by
  induction rows generalizing table other added with
  | nil =>
      simp only [insertRows, Except.ok.injEq] at inserted
      rw [← inserted]
      rfl
  | cons head rest induction =>
      rcases insertRows_cons_ok inserted with
        ⟨isSkipped, continued⟩ | ⟨_, _, later, continued, rfl⟩
      · have skippedThere : other.any (skips · head) = true := by
          rw [List.any_eq_true] at isSkipped ⊢
          exact skipped head List.mem_cons_self isSkipped
        unfold insertRows
        rw [if_pos skippedThere]
        exact
          induction continued
            (fun row member =>
              skipped row (List.mem_cons_of_mem _ member))
            compatible
      · have keptThere : ¬ other.any (skips · head) = true := by
          rw [List.any_eq_true]
          rintro ⟨old, member, skips⟩
          have silent := (compatible head List.mem_cons_self old member).1
          rw [silent] at skips
          cases skips
        have soundThere : other.findSome? (violation · head) = none := by
          rw [List.findSome?_eq_none_iff]
          exact fun old member =>
            (compatible head List.mem_cons_self old member).2
        have continuedThere :
            insertRows skips violation (other ++ [head]) rest =
              .ok later := by
          apply induction continued
          · rintro row member ⟨old, oldMember, skipsRow⟩
            rcases List.mem_append.mp oldMember with inTable | isHead
            · rcases skipped row (List.mem_cons_of_mem _ member)
                  ⟨old, inTable, skipsRow⟩ with
                ⟨there, thereMember, skipsThere⟩
              exact
                ⟨there, List.mem_append_left _ thereMember, skipsThere⟩
            · exact ⟨old, List.mem_append_right _ isHead, skipsRow⟩
          · intro row member old oldMember
            rcases List.mem_append.mp oldMember with inOther | isHead
            · exact
                compatible row (List.mem_cons_of_mem _ member) old
                  inOther
            · exact
                insertRows_compatible continued row member old
                  (List.mem_append_right _ isHead)
        unfold insertRows
        rw [if_neg keptThere, soundThere, continuedThere]

end Insertion

/-! ## New versions of rows -/

section Versions

variable [DecidableEq Key] {key : Row → Key}

/-- Put every new version in the place of the row with the same key. -/
def replaceVersions
    (key : Row → Key) (versions rows : List Row) : List Row :=
  rows.map fun row =>
    (versions.find? fun version => key version = key row).getD row

@[simp]
theorem replaceVersions_nil (rows : List Row) :
    replaceVersions key [] rows = rows := by
  simp [replaceVersions]

theorem key_getD_find
    (versions : List Row) (row : Row) :
    key
        ((versions.find? fun version =>
          key version = key row).getD row) =
      key row := by
  cases found :
      versions.find? fun version => key version = key row with
  | none => rfl
  | some version =>
      simpa using List.find?_some found

/-- Replacement keeps the keys, and their order. -/
@[simp]
theorem map_key_replaceVersions (versions rows : List Row) :
    (replaceVersions key versions rows).map key = rows.map key := by
  unfold replaceVersions
  rw [List.map_map]
  apply List.map_congr_left
  intro row _
  exact key_getD_find versions row

/--
The rewriting of an `UPDATE` statement: when keys are unique and `rewrite`
keeps them, replacing the rewritten rows rewrites every row in its place.
-/
theorem replaceVersions_filterMap
    (rewrite : Row → Option Row)
    {rows : List Row}
    (unique : (rows.map key).Nodup)
    (keepsKey :
      ∀ row version, rewrite row = some version →
        key version = key row) :
    replaceVersions key (rows.filterMap rewrite) rows =
      rows.map fun row => (rewrite row).getD row := by
  have locate :
      ∀ rows : List Row, (rows.map key).Nodup →
        ∀ row ∈ rows,
          (rows.filterMap rewrite).find?
              (fun version => key version = key row) =
            rewrite row := by
    intro rows unique
    induction rows with
    | nil => simp
    | cons head rest induction =>
        rw [List.map_cons, List.nodup_cons] at unique
        rcases unique with ⟨headFresh, restUnique⟩
        have absent :
            (rest.filterMap rewrite).find?
                (fun version => key version = key head) =
              none := by
          rw [List.find?_eq_none]
          intro version member
          rcases List.mem_filterMap.mp member with
            ⟨row, rowMember, rewritten⟩
          intro sameKey
          apply headFresh
          rw [← of_decide_eq_true sameKey, keepsKey row version rewritten]
          exact List.mem_map_of_mem rowMember
        intro row member
        rcases List.mem_cons.mp member with rfl | restMember
        · cases rewritten : rewrite row with
          | none =>
              rw [List.filterMap_cons_none rewritten, absent]
          | some version =>
              rw [List.filterMap_cons_some rewritten,
                List.find?_cons_of_pos]
              simp [keepsKey row version rewritten]
        · have different : key head ≠ key row := by
            intro same
            exact headFresh (same ▸ List.mem_map_of_mem restMember)
          cases rewritten : rewrite head with
          | none =>
              rw [List.filterMap_cons_none rewritten]
              exact induction restUnique row restMember
          | some version =>
              rw [List.filterMap_cons_some rewritten,
                List.find?_cons_of_neg]
              · exact induction restUnique row restMember
              · simp [keepsKey head version rewritten, different]
  unfold replaceVersions
  apply List.map_congr_left
  intro row member
  rw [locate rows unique row member]

/-- Replacement and selection commute when selection is by the key. -/
theorem filter_replaceVersions
    {keep : Row → Bool} {versions rows : List Row}
    (same :
      ∀ row ∈ rows, ∀ version ∈ versions, key version = key row →
        keep version = keep row) :
    (replaceVersions key versions rows).filter keep =
      replaceVersions key versions (rows.filter keep) := by
  unfold replaceVersions
  rw [List.filter_map]
  congr 1
  apply List.filter_congr
  intro row member
  dsimp only [Function.comp_apply]
  cases found :
      versions.find? fun version => key version = key row with
  | none => rfl
  | some version =>
      exact
        same row member version (List.mem_of_find?_eq_some found)
          (by simpa using List.find?_some found)

theorem replaceVersions_eq_self
    {versions rows : List Row}
    (apart :
      ∀ row ∈ rows, ∀ version ∈ versions, key version ≠ key row) :
    replaceVersions key versions rows = rows := by
  unfold replaceVersions
  rw [List.map_congr_left, List.map_id]
  intro row member
  have absent :
      (versions.find? fun version => key version = key row) = none := by
    rw [List.find?_eq_none]
    intro version versionMember
    simpa using apart row member version versionMember
  rw [absent]
  rfl

/-- A row without a new version stays, and every other row is a version. -/
theorem mem_replaceVersions
    {versions rows : List Row} {row : Row}
    (member : row ∈ replaceVersions key versions rows) :
    row ∈ versions ∨ row ∈ rows := by
  rcases List.mem_map.mp member with ⟨old, oldMember, rfl⟩
  cases found :
      versions.find? fun version => key version = key old with
  | none => exact Or.inr oldMember
  | some version => exact Or.inl (List.mem_of_find?_eq_some found)

end Versions

/-! ## Unique keys -/

/-- With unique keys a key determines its row. -/
theorem eq_of_unique_key
    {key : Row → Key} {rows : List Row}
    (unique : (rows.map key).Nodup)
    {left right : Row}
    (leftMember : left ∈ rows) (rightMember : right ∈ rows)
    (same : key left = key right) :
    left = right :=
  List.inj_on_of_nodup_map unique leftMember rightMember same

/-- The only row that satisfies a condition is the one found. -/
theorem find?_of_unique
    {keep : Row → Bool} {rows : List Row} {row : Row}
    (member : row ∈ rows) (kept : keep row = true)
    (unique : ∀ other ∈ rows, keep other = true → other = row) :
    rows.find? keep = some row := by
  cases found : rows.find? keep with
  | none =>
      rw [List.find?_eq_none] at found
      exact absurd kept (found row member)
  | some other =>
      rw [unique other (List.mem_of_find?_eq_some found)
        (List.find?_some found)]

/-- With unique keys one row at most has a given key. -/
theorem length_filter_unique_key
    [BEq Key] [LawfulBEq Key] {key : Row → Key} {rows : List Row}
    (unique : (rows.map key).Nodup) (wanted : Key) :
    (rows.filter fun row => key row == wanted).length =
      if rows.any (fun row => key row == wanted) then 1 else 0 := by
  induction rows with
  | nil => rfl
  | cons head rest induction =>
      rw [List.map_cons, List.nodup_cons] at unique
      rcases unique with ⟨headFresh, restUnique⟩
      by_cases same : key head = wanted
      · have noOther :
            rest.filter (fun row => key row == wanted) = [] := by
          rw [List.filter_eq_nil_iff]
          intro row member equal
          apply headFresh
          rw [same, ← beq_iff_eq.mp equal]
          exact List.mem_map_of_mem member
        simp [same, noOther]
      · have different : (key head == wanted) = false :=
          beq_eq_false_iff_ne.mpr same
        rw [List.filter_cons_of_neg (by simp [same]), List.any_cons,
          different, Bool.false_or]
        exact induction restUnique

/-- With unique keys the filter for a row's key finds the row alone. -/
theorem filter_unique_key
    [BEq Key] [LawfulBEq Key] {key : Row → Key} {rows : List Row}
    (unique : (rows.map key).Nodup)
    {row : Row} (member : row ∈ rows) :
    (rows.filter fun other => key other == key row) = [row] := by
  have found : rows.any (fun other => key other == key row) = true :=
    List.any_eq_true.mpr ⟨row, member, by simp⟩
  have count := length_filter_unique_key unique (key row)
  rw [if_pos found] at count
  rcases List.length_eq_one_iff.mp count with ⟨only, isOnly⟩
  have rowKept :
      row ∈ rows.filter fun other => key other == key row :=
    List.mem_filter.mpr ⟨member, by simp⟩
  rw [isOnly, List.mem_singleton] at rowKept
  rw [isOnly, rowKept]

/-! ## Tables that agree on some rows -/

section Selections

variable {keep : Row → Bool} {left right : List Row}

theorem mem_of_filter_eq
    (same : right.filter keep = left.filter keep)
    {row : Row} (kept : keep row = true) :
    row ∈ right ↔ row ∈ left := by
  have members : row ∈ right.filter keep ↔ row ∈ left.filter keep := by
    rw [same]
  simpa [kept] using members

theorem filter_of_filter_eq
    {test : Row → Bool}
    (same : right.filter keep = left.filter keep)
    (leftKept : ∀ row ∈ left, test row = true → keep row = true)
    (rightKept : ∀ row ∈ right, test row = true → keep row = true) :
    right.filter test = left.filter test := by
  have selected :
      ∀ rows : List Row,
        (∀ row ∈ rows, test row = true → keep row = true) →
          rows.filter test = (rows.filter keep).filter test := by
    intro rows kept
    rw [List.filter_filter]
    apply List.filter_congr
    intro row member
    cases passed : test row with
    | false => simp
    | true => simp [kept row member passed]
  rw [selected left leftKept, selected right rightKept, same]

theorem find?_of_filter_eq
    {test : Row → Bool}
    (same : right.filter keep = left.filter keep)
    (leftKept : ∀ row ∈ left, test row = true → keep row = true)
    (rightKept : ∀ row ∈ right, test row = true → keep row = true) :
    right.find? test = left.find? test := by
  rw [← List.head?_filter, ← List.head?_filter,
    filter_of_filter_eq same leftKept rightKept]

theorem any_of_filter_eq
    {test : Row → Bool}
    (same : right.filter keep = left.filter keep)
    (leftKept : ∀ row ∈ left, test row = true → keep row = true)
    (rightKept : ∀ row ∈ right, test row = true → keep row = true) :
    right.any test = left.any test := by
  have selected := filter_of_filter_eq same leftKept rightKept
  rw [Bool.eq_iff_iff, List.any_eq_true, List.any_eq_true]
  constructor
  · rintro ⟨row, member, passed⟩
    have kept : row ∈ right.filter test :=
      List.mem_filter.mpr ⟨member, passed⟩
    rw [selected] at kept
    exact ⟨row, (List.mem_filter.mp kept).1, passed⟩
  · rintro ⟨row, member, passed⟩
    have kept : row ∈ left.filter test :=
      List.mem_filter.mpr ⟨member, passed⟩
    rw [← selected] at kept
    exact ⟨row, (List.mem_filter.mp kept).1, passed⟩

theorem flatMap_of_filter_eq
    {Image : Type} {images : Row → List Image}
    (same : right.filter keep = left.filter keep)
    (leftSilent : ∀ row ∈ left, keep row = false → images row = [])
    (rightSilent : ∀ row ∈ right, keep row = false → images row = []) :
    right.flatMap images = left.flatMap images := by
  have selected :
      ∀ rows : List Row,
        (∀ row ∈ rows, keep row = false → images row = []) →
          rows.flatMap images = (rows.filter keep).flatMap images := by
    intro rows silent
    induction rows with
    | nil => rfl
    | cons row rest induction =>
        have later :=
          induction fun other member =>
            silent other (List.mem_cons_of_mem _ member)
        rw [List.flatMap_cons, later]
        cases kept : keep row with
        | true => rw [List.filter_cons_of_pos kept, List.flatMap_cons]
        | false =>
            rw [List.filter_cons_of_neg (by simp [kept]),
              silent row List.mem_cons_self kept, List.nil_append]
  rw [selected left leftSilent, selected right rightSilent, same]

theorem filterMap_of_filter_eq
    {Image : Type} {image : Row → Option Image}
    (same : right.filter keep = left.filter keep)
    (leftSilent : ∀ row ∈ left, keep row = false → image row = none)
    (rightSilent : ∀ row ∈ right, keep row = false → image row = none) :
    right.filterMap image = left.filterMap image := by
  rw [List.filterMap_eq_flatMap_toList, List.filterMap_eq_flatMap_toList]
  apply flatMap_of_filter_eq same
  · intro row member dropped
    rw [leftSilent row member dropped]
    rfl
  · intro row member dropped
    rw [rightSilent row member dropped]
    rfl

end Selections

/-! ## Tables with the same members -/

/-- Unique keys and the same members make two tables permutations. -/
theorem perm_of_members
    (key : Row → Key) {left right : List Row}
    (leftUnique : (left.map key).Nodup)
    (rightUnique : (right.map key).Nodup)
    (same : ∀ row, row ∈ left ↔ row ∈ right) :
    left.Perm right :=
  (List.perm_ext_iff_of_nodup leftUnique.of_map rightUnique.of_map).mpr
    same

/-- Tables with the same images are equal when images determine rows. -/
theorem eq_of_map_eq
    {Image : Type} {image : Row → Image} {left right : List Row}
    (same : left.map image = right.map image)
    (determined :
      ∀ row ∈ left, ∀ other ∈ right, image row = image other →
        row = other) :
    left = right := by
  induction left generalizing right with
  | nil =>
      rw [List.map_nil, eq_comm, List.map_eq_nil_iff] at same
      exact same.symm
  | cons row rest induction =>
      cases right with
      | nil => simp at same
      | cons other others =>
          simp only [List.map_cons, List.cons.injEq] at same
          have head :=
            determined row (by simp) other (by simp) same.1
          have tail :=
            induction same.2 fun first firstMember second secondMember =>
              determined first (List.mem_cons_of_mem _ firstMember)
                second (List.mem_cons_of_mem _ secondMember)
          rw [head, tail]

end ChatBackend.Foundation.TableRows
