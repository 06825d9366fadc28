import Mathlib.Algebra.Order.Group.Defs
import Mathlib.Algebra.Order.Monoid.Unbundled.Basic
import Mathlib.Data.List.Basic

/-!
# Numbered hits

A counter gives every hit the next number of its window, and a hit that finds
no window opens one with the number one.  Nothing is said about the end of a
window but that the next one opens no sooner than `length` after it has
opened, so windows can have different lengths.

`admitted_in_interval` is what such a counter promises: at most twice the
limit of the hits with a number up to the limit fall into an interval of the
given length.
-/

namespace ChatBackend.Foundation.NumberedHits

structure NumberedHit (Time : Type) where
  now : Time
  number : Nat
deriving DecidableEq, Repr

variable {Time : Type} [LinearOrder Time] [AddCommGroup Time]

/-- Hits, newest first, the last window of which has opened at a time. -/
inductive Windowed (length : Time) :
    Option Time → List (NumberedHit Time) → Prop where
  | nil : Windowed length none []
  | opens
      {opened : Option Time} {hits : List (NumberedHit Time)} {now : Time}
      (windowed : Windowed length opened hits)
      (latest : ∀ hit ∈ hits, hit.now ≤ now)
      (apart : ∀ start, opened = some start → start + length ≤ now) :
      Windowed length (some now) ({ now := now, number := 1 } :: hits)
  | counts
      {start now : Time} {last : NumberedHit Time}
      {hits : List (NumberedHit Time)}
      (windowed : Windowed length (some start) (last :: hits))
      (latest : ∀ hit ∈ last :: hits, hit.now ≤ now) :
      Windowed length (some start)
        ({ now := now, number := last.number + 1 } :: last :: hits)

variable {length : Time} {opened : Option Time}
  {hits : List (NumberedHit Time)}

/-- The last hit is not older than its window. -/
theorem Windowed.start_le
    (windowed : Windowed length opened hits) {start : Time}
    (isOpen : opened = some start) :
    ∃ last ∈ hits.head?, start ≤ last.now := by
  induction windowed with
  | nil => cases isOpen
  | opens _ _ _ _ =>
      cases isOpen
      exact ⟨_, rfl, le_refl _⟩
  | counts _ latest induction =>
      rcases induction isOpen with ⟨last, isLast, before⟩
      cases isLast
      exact ⟨_, rfl, before.trans (latest _ List.mem_cons_self)⟩

theorem Windowed.eq_nil (windowed : Windowed length none hits) :
    hits = [] := by
  cases windowed
  rfl

/-! ## Quotas -/

section Quotas

variable (limit : Nat) (length since : Time)

/-- The number is within the limit, and the time within the interval. -/
def Admitted (hit : NumberedHit Time) : Prop :=
  hit.number ≤ limit ∧ since ≤ hit.now ∧ hit.now < since + length

instance (hit : NumberedHit Time) :
    Decidable (Admitted limit length since hit) :=
  inferInstanceAs (Decidable (_ ∧ _ ∧ _))

def admissions (hits : List (NumberedHit Time)) : Nat :=
  hits.countP fun hit => Admitted limit length since hit

def lastNumber (hits : List (NumberedHit Time)) : Nat :=
  hits.head?.elim 0 NumberedHit.number

/-- The admitted hits, by the window which is the last one. -/
structure Bounded
    (opened : Option Time) (hits : List (NumberedHit Time)) : Prop where
  before :
    ∀ start, opened = some start → start < since →
      admissions limit length since hits ≤ min (lastNumber hits) limit
  during :
    ∀ start, opened = some start → start < since + length →
      admissions limit length since hits ≤
        limit + min (lastNumber hits) limit
  always : admissions limit length since hits ≤ 2 * limit

end Quotas

variable {limit : Nat} {since : Time}

theorem admissions_cons (hit : NumberedHit Time) :
    admissions limit length since (hit :: hits) =
      admissions limit length since hits +
        if Admitted limit length since hit then 1 else 0 := by
  simp [admissions, List.countP_cons]

/-- Hits before the interval do not count. -/
theorem admissions_eq_zero
    (early : ∀ hit ∈ hits, hit.now < since) :
    admissions limit length since hits = 0 := by
  rw [admissions, List.countP_eq_zero]
  intro hit member
  simp [Admitted, not_le.mpr (early hit member)]

/-- A window that opens in the interval finds one quota spent at most. -/
theorem Bounded.opens
    [IsOrderedAddMonoid Time] {now : Time}
    (windowed : Windowed length opened hits)
    (bounded : Bounded limit length since opened hits)
    (latest : ∀ hit ∈ hits, hit.now ≤ now)
    (apart : ∀ start, opened = some start → start + length ≤ now) :
    Bounded limit length since (some now)
      ({ now := now, number := 1 } :: hits) := by
  have inside :
      now < since + length →
        admissions limit length since
            ({ now := now, number := 1 } :: hits) ≤
          limit + min 1 limit := by
    intro early
    have spent : admissions limit length since hits ≤ limit := by
      cases opened with
      | none =>
          rw [windowed.eq_nil]
          exact Nat.zero_le _
      | some start =>
          have before : start < since :=
            lt_of_add_lt_add_right ((apart start rfl).trans_lt early)
          exact
            (bounded.before start rfl before).trans (min_le_right _ _)
    rw [admissions_cons]
    by_cases fits : 1 ≤ limit
    · split <;> omega
    · rw [if_neg (by simp [Admitted, fits])]
      omega
  refine
    { before := ?_
      during := by
        rintro start ⟨⟩ early
        exact inside early
      always := ?_ }
  · rintro start ⟨⟩ early
    have none :
        admissions limit length since
            ({ now := now, number := 1 } :: hits) = 0 := by
      apply admissions_eq_zero
      rintro hit (_ | ⟨_, member⟩)
      · exact early
      · exact (latest hit member).trans_lt early
    rw [none]
    exact Nat.zero_le _
  · by_cases early : now < since + length
    · have := inside early
      omega
    · rw [admissions_cons, if_neg (by simp [Admitted, early])]
      exact bounded.always

theorem Bounded.counts
    {start now : Time} {last : NumberedHit Time}
    (windowed : Windowed length (some start) (last :: hits))
    (bounded : Bounded limit length since (some start) (last :: hits))
    (latest : ∀ hit ∈ last :: hits, hit.now ≤ now) :
    Bounded limit length since (some start)
      ({ now := now, number := last.number + 1 } :: last :: hits) := by
  have fits :
      (if Admitted limit length since
            { now := now, number := last.number + 1 } then 1 else 0) +
          min last.number limit ≤
        min (last.number + 1) limit := by
    split
    · rename_i admitted
      have := admitted.1
      dsimp only at this
      omega
    · omega
  have during :
      start < since + length →
        admissions limit length since
            ({ now := now, number := last.number + 1 } ::
              last :: hits) ≤
          limit + min (last.number + 1) limit := by
    intro early
    have spent := bounded.during start rfl early
    rw [admissions_cons]
    simp only [lastNumber, List.head?_cons, Option.elim_some] at spent
    omega
  refine
    { before := ?_
      during := by
        rintro _ ⟨⟩ early
        exact during early
      always := ?_ }
  · rintro _ ⟨⟩ early
    have spent := bounded.before start rfl early
    rw [admissions_cons]
    simp only [lastNumber, List.head?_cons, Option.elim_some]
      at spent ⊢
    omega
  · by_cases early : start < since + length
    · have := during early
      omega
    · rcases windowed.start_le rfl with ⟨_, ⟨⟩, opened⟩
      have late : since + length ≤ now :=
        (not_lt.mp early).trans
          (opened.trans (latest _ List.mem_cons_self))
      rw [admissions_cons, if_neg (by simp [Admitted, not_lt.mpr late])]
      exact bounded.always

/-- An interval of the length of a window meets two windows at most. -/
theorem admitted_in_interval
    [IsOrderedAddMonoid Time]
    (windowed : Windowed length opened hits) (limit : Nat)
    (since : Time) :
    admissions limit length since hits ≤ 2 * limit := by
  have bounded : Bounded limit length since opened hits := by
    induction windowed with
    | nil =>
        exact
          { before := fun _ impossible => by cases impossible
            during := fun _ impossible => by cases impossible
            always := Nat.zero_le _ }
    | opens windowed latest apart induction =>
        exact induction.opens windowed latest apart
    | counts windowed latest induction =>
        exact induction.counts windowed latest
  exact bounded.always

variable (limit) in
/-- The hits within the limit that are not later than a time. -/
def within (now : Time) (hits : List (NumberedHit Time)) : Nat :=
  hits.countP fun hit => hit.number ≤ limit ∧ hit.now ≤ now

omit [AddCommGroup Time] in
theorem within_cons (now : Time) (hit : NumberedHit Time) :
    within limit now (hit :: hits) =
      within limit now hits +
        if hit.number ≤ limit ∧ hit.now ≤ now then 1 else 0 := by
  simp [within, List.countP_cons]

omit [AddCommGroup Time] in
theorem within_mono {now later : Time} (ordered : now ≤ later) :
    within limit now hits ≤ within limit later hits := by
  apply List.countP_mono_left
  intro hit _ counted
  simp only [decide_eq_true_eq] at counted ⊢
  exact ⟨counted.1, counted.2.trans ordered⟩

/-- A hit has the hits of its window with smaller numbers before it. -/
theorem number_le_within
    (windowed : Windowed length opened hits) (limit : Nat) :
    ∀ hit ∈ hits, min hit.number limit ≤ within limit hit.now hits := by
  induction windowed with
  | nil => exact fun _ member => by cases member
  | opens windowed latest apart induction =>
      rintro hit (_ | ⟨_, member⟩)
      · rw [within_cons]
        simp only [le_refl, and_true]
        split <;> omega
      · rw [within_cons]
        exact (induction hit member).trans (Nat.le_add_right _ _)
  | @counts start now last hits windowed latest induction =>
      rintro hit (_ | ⟨_, member⟩)
      · have before := induction last List.mem_cons_self
        have later :
            within limit last.now (last :: hits) ≤
              within limit now (last :: hits) :=
          within_mono (latest last List.mem_cons_self)
        rw [within_cons]
        simp only [le_refl, and_true]
        split <;> omega
      · rw [within_cons]
        exact (induction hit member).trans (Nat.le_add_right _ _)

end ChatBackend.Foundation.NumberedHits
