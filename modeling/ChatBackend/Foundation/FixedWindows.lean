import Mathlib.Algebra.Order.Group.Defs
import Mathlib.Data.List.Basic
import Mathlib.Logic.Function.Basic
import Mathlib.Order.Defs.LinearOrder

/-!
# Fixed windows

A fixed-window counter keeps one window for each key.  A hit inside the
window counts in it, and a hit at its end or later opens a new one.

A counter can be kept in other ways, for example with windows that are
forgotten some time after their end.  `Implements` is the simulation that
such an implementation needs, and `Implements.answers_eq` says that it gives
the answers of the counter.

The last sections count the hits that a limit admits.  At most twice the
limit fall into an interval of the length of a window, and a hit beyond the
limit has as many admitted ones within the length of a window before it.
-/

namespace ChatBackend.Foundation.FixedWindows

variable {Key Time : Type} [DecidableEq Key] [LinearOrder Time]

/-! ## Windows -/

structure Window (Time : Type) where
  count : Nat
  expiresAt : Time
deriving DecidableEq, Repr

/-- The window, if it has not ended. -/
def live (now : Time) (window : Option (Window Time)) :
    Option (Window Time) :=
  window.filter fun current => now < current.expiresAt

/-- The window which a hit counts in; a new one ends at `stop`. -/
def hit (now stop : Time) (window : Option (Window Time)) : Window Time :=
  match live now window with
  | none => { count := 1, expiresAt := stop }
  | some current => { current with count := current.count + 1 }

theorem live_eq_some_iff
    {now : Time} {window : Option (Window Time)}
    {current : Window Time} :
    live now window = some current ↔
      window = some current ∧ now < current.expiresAt := by
  simp [live, Option.filter_eq_some_iff]

/-- What is open later is open now. -/
theorem live_live
    {now later : Time} (ordered : now ≤ later)
    (window : Option (Window Time)) :
    live later (live now window) = live later window := by
  cases window with
  | none => rfl
  | some current =>
      by_cases isOpen : now < current.expiresAt
      · simp [live, Option.filter, isOpen]
      · have ended : ¬ later < current.expiresAt :=
          not_lt.mpr ((not_lt.mp isOpen).trans ordered)
        simp [live, Option.filter, isOpen, ended]

/-- A hit counts in the open window, or opens one. -/
theorem hit_cases (now stop : Time) (window : Option (Window Time)) :
    (∃ current,
        live now window = some current ∧
          hit now stop window =
            { current with count := current.count + 1 }) ∨
      live now window = none ∧
        hit now stop window = { count := 1, expiresAt := stop } := by
  unfold hit
  cases live now window with
  | none => exact .inr ⟨rfl, rfl⟩
  | some current => exact .inl ⟨current, rfl, rfl⟩

theorem hit_live (now stop : Time) (window : Option (Window Time)) :
    hit now stop (live now window) = hit now stop window := by
  rw [hit, hit, live_live (le_refl now)]

/-! ## Stores of windows -/

/-- Two stores have the same windows, apart from ended ones. -/
def SameLive
    (now : Time) (first second : Key → Option (Window Time)) : Prop :=
  ∀ key, live now (first key) = live now (second key)

omit [DecidableEq Key] in
theorem SameLive.later
    {now later : Time} {first second : Key → Option (Window Time)}
    (same : SameLive now first second) (ordered : now ≤ later) :
    SameLive later first second := by
  intro key
  rw [← live_live ordered, same key, live_live ordered]

omit [DecidableEq Key] in
theorem SameLive.trans
    {now : Time} {first second third : Key → Option (Window Time)}
    (left : SameLive now first second)
    (right : SameLive now second third) : SameLive now first third :=
  fun key => (left key).trans (right key)

omit [DecidableEq Key] in
theorem SameLive.hit_eq
    {now : Time} {first second : Key → Option (Window Time)}
    (same : SameLive now first second) (stop : Time) (key : Key) :
    hit now stop (first key) = hit now stop (second key) := by
  rw [← hit_live, same key, hit_live]

theorem SameLive.update
    {now : Time} {first second : Key → Option (Window Time)}
    (same : SameLive now first second) (key : Key)
    (window : Option (Window Time)) :
    SameLive now (Function.update first key window)
      (Function.update second key window) := by
  intro other
  by_cases isKey : other = key
  · rw [isKey, Function.update_self, Function.update_self]
  · rw [Function.update_of_ne isKey, Function.update_of_ne isKey]
    exact same other

/-! ## The counter -/

/-- One hit; a window that it opens ends at `stop`. -/
structure Hit (Key Time : Type) where
  key : Key
  now : Time
  stop : Time

section Answers

variable {State Request Answer : Type}

/-- The answers to a list of requests, one after another. -/
def answers (step : State → Request → State × Answer) :
    State → List Request → List Answer
  | _, [] => []
  | state, request :: rest =>
      (step state request).2 :: answers step (step state request).1 rest

variable (hitOf : Request → Hit Key Time) (answer : Request → Nat → Answer)

/-- The counter: it answers a request by the count of its window. -/
def tally
    (windows : Key → Option (Window Time)) (request : Request) :
    (Key → Option (Window Time)) × Answer :=
  let window :=
    hit (hitOf request).now (hitOf request).stop
      (windows (hitOf request).key)
  (Function.update windows (hitOf request).key (some window),
    answer request window.count)

/--
A step function whose states show windows, and which does what the counter
does, apart from windows that have ended.
-/
structure Implements
    (view : State → Key → Option (Window Time))
    (step : State → Request → State × Answer)
    (valid : State → Prop) (proper : Request → Prop) : Prop where
  preserved :
    ∀ state request, valid state → proper request →
      valid (step state request).1
  sameAnswer :
    ∀ state request, valid state → proper request →
      (step state request).2 =
        (tally hitOf answer (view state) request).2
  sameWindows :
    ∀ state request, valid state → proper request →
      SameLive (hitOf request).now (view (step state request).1)
        (tally hitOf answer (view state) request).1

variable {hitOf answer} {view : State → Key → Option (Window Time)}
  {step : State → Request → State × Answer}
  {valid : State → Prop} {proper : Request → Prop}

/-- The simulation: windows that ended never change an answer. -/
theorem Implements.answers_eq
    (implements : Implements hitOf answer view step valid proper)
    {state : State} {windows : Key → Option (Window Time)} {start : Time}
    (isValid : valid state) (same : SameLive start (view state) windows)
    {requests : List Request}
    (allProper : ∀ request ∈ requests, proper request)
    (started : ∀ request ∈ requests, start ≤ (hitOf request).now)
    (ordered :
      (requests.map fun request => (hitOf request).now).Pairwise
        (· ≤ ·)) :
    answers step state requests =
      answers (tally hitOf answer) windows requests := by
  induction requests generalizing state windows start with
  | nil => rfl
  | cons request rest induction =>
      have isProper := allProper request List.mem_cons_self
      have sameNow := same.later (started request List.mem_cons_self)
      have sameHit :=
        sameNow.hit_eq (hitOf request).stop (hitOf request).key
      rw [List.map_cons, List.pairwise_cons] at ordered
      have sameAfter :
          SameLive (hitOf request).now
            (view (step state request).1)
            (tally hitOf answer windows request).1 := by
        apply
          (implements.sameWindows state request isValid isProper).trans
        simp only [tally, sameHit]
        exact sameNow.update _ _
      rw [answers, answers,
        implements.sameAnswer state request isValid isProper]
      congr 1
      · simp only [tally, sameHit]
      · exact
          induction (implements.preserved state request isValid isProper)
            sameAfter
            (fun other member =>
              allProper other (List.mem_cons_of_mem _ member))
            (fun other member =>
              ordered.1 _ (List.mem_map_of_mem member))
            ordered.2

/-- An implementation answers like the counter with the windows it shows. -/
theorem Implements.answers_eq_view
    (implements : Implements hitOf answer view step valid proper)
    {state : State} (isValid : valid state) {requests : List Request}
    (allProper : ∀ request ∈ requests, proper request)
    (ordered :
      (requests.map fun request => (hitOf request).now).Pairwise
        (· ≤ ·)) :
    answers step state requests =
      answers (tally hitOf answer) (view state) requests := by
  cases requests with
  | nil => rfl
  | cons first rest =>
      have started :
          ∀ request ∈ first :: rest,
            (hitOf first).now ≤ (hitOf request).now := by
        intro request member
        rcases List.mem_cons.mp member with rfl | later
        · exact le_refl _
        · exact
            (List.pairwise_cons.mp ordered).1 _
              (List.mem_map_of_mem later)
      exact
        implements.answers_eq isValid (fun _ => rfl) allProper started
          ordered

/-- Requests beside their answers, and beside their counts. -/
theorem zip_answers_tally
    (windows : Key → Option (Window Time)) (requests : List Request) :
    requests.zip (answers (tally hitOf answer) windows requests) =
      (answers (tally hitOf Prod.mk) windows requests).map
        fun entry => (entry.1, answer entry.1 entry.2) := by
  induction requests generalizing windows with
  | nil => rfl
  | cons request rest induction =>
      simp only [answers, List.zip_cons_cons, List.map_cons]
      congr 1
      exact induction _

end Answers

/-! ## Admitted hits -/

section Ledger

variable {Request : Type} (hitOf : Request → Hit Key Time)
  (key : Key) (limit : Nat)

/-- The requests with the counts they are answered with. -/
def ledger
    (windows : Key → Option (Window Time)) (requests : List Request) :
    List (Request × Nat) :=
  answers (tally hitOf Prod.mk) windows requests

/-- The request is for the key and within the limit. -/
def Admitted (entry : Request × Nat) : Prop :=
  (hitOf entry.1).key = key ∧ entry.2 ≤ limit

instance (entry : Request × Nat) :
    Decidable (Admitted hitOf key limit entry) :=
  inferInstanceAs (Decidable (_ ∧ _))

/-- The requests come one after another. -/
def Ordered (requests : List Request) : Prop :=
  (requests.map fun request => (hitOf request).now).Pairwise (· ≤ ·)

variable {hitOf key limit}

omit [DecidableEq Key] in
theorem Ordered.tail
    {request : Request} {rest : List Request}
    (ordered : Ordered hitOf (request :: rest)) : Ordered hitOf rest :=
  (List.pairwise_cons.mp ordered).2

omit [DecidableEq Key] in
theorem Ordered.head_le
    {request other : Request} {rest : List Request}
    (ordered : Ordered hitOf (request :: rest)) (member : other ∈ rest) :
    (hitOf request).now ≤ (hitOf other).now :=
  (List.pairwise_cons.mp ordered).1 _ (List.mem_map_of_mem member)

variable {windows : Key → Option (Window Time)}

theorem mem_of_mem_ledger
    {requests : List Request} {entry : Request × Nat}
    (member : entry ∈ ledger hitOf windows requests) :
    entry.1 ∈ requests := by
  induction requests generalizing windows with
  | nil => cases member
  | cons request rest induction =>
      rcases List.mem_cons.mp member with rfl | later
      · exact List.mem_cons_self
      · exact List.mem_cons_of_mem _ (induction later)

/-- Hits of other keys leave the window of the key alone. -/
theorem tally_other
    {request : Request} (other : (hitOf request).key ≠ key) :
    (tally hitOf Prod.mk windows request).1 key = windows key :=
  Function.update_of_ne (Ne.symm other) _ _

variable (windows) in
theorem tally_self
    {request : Request} (isKey : (hitOf request).key = key) :
    (tally hitOf Prod.mk windows request).1 key =
        some
          (hit (hitOf request).now (hitOf request).stop (windows key)) ∧
      (tally hitOf Prod.mk windows request).2 =
        (request,
          (hit (hitOf request).now (hitOf request).stop
            (windows key)).count) := by
  subst isKey
  exact ⟨Function.update_self _ _ _, rfl⟩

variable (limit) in
/-- What a window still admits before it ends. -/
theorem admitted_in_window
    {current : Window Time} (isOpen : windows key = some current)
    {stop : Time} (before : stop ≤ current.expiresAt)
    {requests : List Request} (ordered : Ordered hitOf requests) :
    ((ledger hitOf windows requests).countP fun entry =>
        Admitted hitOf key limit entry ∧ (hitOf entry.1).now < stop) ≤
      limit - current.count := by
  induction requests generalizing windows current with
  | nil => exact Nat.zero_le _
  | cons request rest induction =>
      by_cases early : (hitOf request).now < stop
      · by_cases isKey : (hitOf request).key = key
        · obtain ⟨window, count⟩ :=
            tally_self windows isKey
          have counts :
              hit (hitOf request).now (hitOf request).stop
                  (windows key) =
                { current with count := current.count + 1 } := by
            have isLive :
                live (hitOf request).now (windows key) =
                  some current :=
              live_eq_some_iff.mpr ⟨isOpen, early.trans_le before⟩
            rw [hit, isLive]
          rw [counts] at window count
          have others := induction window before ordered.tail
          simp only [ledger, answers, count, List.countP_cons] at others ⊢
          by_cases fits : current.count + 1 ≤ limit
          · split <;> omega
          · rw [if_neg (by simp [Admitted, fits])]
            omega
        · have others :=
            induction ((tally_other isKey).trans isOpen) before
              ordered.tail
          simp only [ledger, answers, List.countP_cons]
          rw [if_neg (by simp [Admitted, tally, isKey])]
          exact others
      · have none :
            (ledger hitOf windows (request :: rest)).countP (fun entry =>
                Admitted hitOf key limit entry ∧
                  (hitOf entry.1).now < stop) =
              0 := by
          rw [List.countP_eq_zero]
          intro entry member
          have late : stop ≤ (hitOf entry.1).now := by
            rcases List.mem_cons.mp (mem_of_mem_ledger member) with
              same | later
            · rw [same]
              exact not_lt.mp early
            · exact (not_lt.mp early).trans (ordered.head_le later)
          simp [not_lt.mpr late]
        rw [none]
        exact Nat.zero_le _

end Ledger

section Quotas

variable [AddCommGroup Time] [IsOrderedAddMonoid Time]
  {Request : Type} {hitOf : Request → Hit Key Time}
  {key : Key} {length : Time} {limit : Nat}

/-- Windows of the key have one length. -/
def FixedLength
    (hitOf : Request → Hit Key Time) (key : Key) (length : Time)
    (requests : List Request) : Prop :=
  ∀ request ∈ requests, (hitOf request).key = key →
    (hitOf request).stop = (hitOf request).now + length

variable {windows : Key → Option (Window Time)} {requests : List Request}

variable (limit windows) in
/-- The admitted hits from the start of an interval to its end. -/
theorem admitted_after_start
    {start : Time} (fixed : FixedLength hitOf key length requests)
    (ordered : Ordered hitOf requests)
    (started : ∀ request ∈ requests, start ≤ (hitOf request).now) :
    ((ledger hitOf windows requests).countP fun entry =>
        Admitted hitOf key limit entry ∧
          (hitOf entry.1).now < start + length) ≤
      limit - (windows key).elim 0 Window.count + limit := by
  induction requests generalizing windows with
  | nil => exact Nat.zero_le _
  | cons request rest induction =>
      have later :=
        @induction (tally hitOf Prod.mk windows request).1
          (fun other member =>
            fixed other (List.mem_cons_of_mem _ member))
          ordered.tail
          (fun other member =>
            started other (List.mem_cons_of_mem _ member))
      by_cases isKey : (hitOf request).key = key
      · obtain ⟨window, count⟩ := tally_self windows isKey
        rcases hit_cases (hitOf request).now (hitOf request).stop
            (windows key) with
          ⟨current, isLive, counts⟩ | ⟨ended, opens⟩
        · have isOpen := (live_eq_some_iff.mp isLive).1
          rw [counts] at window count
          rw [window] at later
          simp only [ledger, answers, count, List.countP_cons,
            isOpen, Option.elim_some] at later ⊢
          by_cases fits : current.count + 1 ≤ limit
          · split <;> omega
          · rw [if_neg (by simp [Admitted, fits])]
            omega
        · rw [opens] at window count
          have inside :
              start + length ≤ (hitOf request).stop := by
            rw [fixed request List.mem_cons_self isKey]
            exact
              add_le_add_left (started request List.mem_cons_self) length
          have others :=
            admitted_in_window limit window inside
              ordered.tail
          simp only [ledger, answers, count, List.countP_cons]
            at others ⊢
          by_cases fits : 1 ≤ limit
          · split <;> omega
          · rw [if_neg (by simp [Admitted, fits])]
            omega
      · rw [tally_other isKey] at later
        simp only [ledger, answers, List.countP_cons]
        rw [if_neg (by simp [Admitted, tally, isKey])]
        exact later

/-- An interval of the length of a window meets two windows at most. -/
theorem admitted_in_interval
    (fixed : FixedLength hitOf key length requests)
    (ordered : Ordered hitOf requests) (start : Time) :
    ((ledger hitOf windows requests).countP fun entry =>
        Admitted hitOf key limit entry ∧
          start ≤ (hitOf entry.1).now ∧
            (hitOf entry.1).now < start + length) ≤
      2 * limit := by
  induction requests generalizing windows with
  | nil => exact Nat.zero_le _
  | cons request rest induction =>
      by_cases started : start ≤ (hitOf request).now
      · have bound :=
          admitted_after_start limit windows fixed
            ordered
            (fun other member => by
              rcases List.mem_cons.mp member with rfl | later
              · exact started
              · exact started.trans (ordered.head_le later))
        have fewer :
            ((ledger hitOf windows (request :: rest)).countP fun entry =>
                Admitted hitOf key limit entry ∧
                  start ≤ (hitOf entry.1).now ∧
                    (hitOf entry.1).now < start + length) ≤
              (ledger hitOf windows (request :: rest)).countP fun entry =>
                Admitted hitOf key limit entry ∧
                  (hitOf entry.1).now < start + length := by
          apply List.countP_mono_left
          intro entry _ counted
          simp only [decide_eq_true_eq] at counted ⊢
          exact ⟨counted.1, counted.2.2⟩
        omega
      · have later :=
          @induction (tally hitOf Prod.mk windows request).1
            (fun other member =>
              fixed other (List.mem_cons_of_mem _ member))
            ordered.tail
        simp only [ledger, answers, List.countP_cons] at later ⊢
        rw [if_neg (by simp [tally, started])]
        exact later

/-- What the window that is open at the time has admitted before. -/
def credit
    (limit : Nat) (now : Time) (window : Option (Window Time)) : Nat :=
  (live now window).elim 0 fun current => min current.count limit

omit [IsOrderedAddMonoid Time] in
/-- A hit leaves a window that ends within one length. -/
theorem hit_ends
    {now stop : Time} {window : Option (Window Time)}
    (ends :
      ∀ current, window = some current →
        current.expiresAt ≤ now + length)
    (stops : stop ≤ now + length) :
    (hit now stop window).expiresAt ≤ now + length := by
  rcases hit_cases now stop window with
    ⟨current, isLive, counts⟩ | ⟨ended, opens⟩
  · rw [counts]
    exact ends current (live_eq_some_iff.mp isLive).1
  · rw [opens]
    exact stops

omit [IsOrderedAddMonoid Time] in
/-- A hit adds to the credit at most what it was admitted for. -/
theorem credit_hit
    (limit : Nat) {now later stop : Time}
    (window : Option (Window Time))
    (ends : (hit now stop window).expiresAt ≤ now + length)
    (ordered : now ≤ later) :
    credit limit later (some (hit now stop window)) ≤
      (if (hit now stop window).count ≤ limit ∧
            later < now + length ∧ now ≤ later then
          1
        else 0) +
        credit limit later window := by
  by_cases isOpen : later < (hit now stop window).expiresAt
  · have counted :
        credit limit later (some (hit now stop window)) =
          min (hit now stop window).count limit := by
      have isLive :
          live later (some (hit now stop window)) =
            some (hit now stop window) :=
        live_eq_some_iff.mpr ⟨rfl, isOpen⟩
      rw [credit, isLive]
      rfl
    have inside : later < now + length := isOpen.trans_le ends
    rw [counted]
    simp only [inside, ordered, and_self, and_true]
    rcases hit_cases now stop window with
      ⟨current, isLive, counts⟩ | ⟨ended, opens⟩
    · have stillLive : live later window = some current := by
        rw [live_eq_some_iff] at isLive ⊢
        rw [counts] at isOpen
        exact ⟨isLive.1, isOpen⟩
      have before : credit limit later window = min current.count limit := by
        rw [credit, stillLive]
        rfl
      rw [counts, before]
      dsimp only
      split <;> omega
    · rw [opens]
      dsimp only
      split <;> omega
  · have closed : live later (some (hit now stop window)) = none := by
      simp [live, Option.filter, isOpen]
    rw [credit, closed]
    exact Nat.zero_le _

/--
Before a hit beyond the limit, as many as the limit were admitted within the
length of a window, apart from those that the first window has counted.
-/
theorem admitted_before_refusal
    (fixed : FixedLength hitOf key length requests)
    (ordered : Ordered hitOf requests)
    (ends :
      ∀ current, windows key = some current → ∀ request ∈ requests,
        current.expiresAt ≤ (hitOf request).now + length)
    {before after : List (Request × Nat)} {refused : Request × Nat}
    (split :
      ledger hitOf windows requests = before ++ refused :: after)
    (isKey : (hitOf refused.1).key = key) (beyond : limit < refused.2) :
    limit ≤
      before.countP (fun entry =>
          Admitted hitOf key limit entry ∧
            (hitOf refused.1).now < (hitOf entry.1).now + length ∧
              (hitOf entry.1).now ≤ (hitOf refused.1).now) +
        credit limit (hitOf refused.1).now (windows key) := by
  induction requests generalizing windows before with
  | nil => simp [ledger, answers] at split
  | cons request rest induction =>
      cases before with
      | nil =>
          simp only [ledger, answers, List.nil_append,
            List.cons.injEq] at split
          rcases split with ⟨rfl, _⟩
          have sameKey : (hitOf request).key = key := isKey
          rw [(tally_self windows sameKey).2] at beyond ⊢
          rcases hit_cases (hitOf request).now (hitOf request).stop
              (windows key) with
            ⟨current, isLive, counts⟩ | ⟨ended, opens⟩
          · rw [counts] at beyond
            simp only [credit, isLive, Option.elim_some] at beyond ⊢
            omega
          · rw [opens] at beyond
            simp only at beyond
            omega
      | cons head before =>
          simp only [ledger, answers, List.cons_append,
            List.cons.injEq] at split
          rcases split with ⟨rfl, split⟩
          have member : refused.1 ∈ rest := by
            have inLedger :
                refused ∈
                  ledger hitOf (tally hitOf Prod.mk windows request).1
                    rest := by
              rw [ledger, split]
              exact List.mem_append_right _ List.mem_cons_self
            exact mem_of_mem_ledger inLedger
          have earlier := ordered.head_le member
          have fixedRest : FixedLength hitOf key length rest :=
            fun other otherMember =>
              fixed other (List.mem_cons_of_mem _ otherMember)
          by_cases same : (hitOf request).key = key
          · obtain ⟨window, count⟩ := tally_self windows same
            have endsNow :
                (hit (hitOf request).now (hitOf request).stop
                    (windows key)).expiresAt ≤
                  (hitOf request).now + length :=
              hit_ends
                (fun current isWindow =>
                  ends current isWindow request List.mem_cons_self)
                (le_of_eq (fixed request List.mem_cons_self same))
            have later :=
              induction fixedRest ordered.tail
                (by
                  intro current isWindow other otherMember
                  rw [window] at isWindow
                  cases isWindow
                  exact
                    endsNow.trans
                      (add_le_add_left (ordered.head_le otherMember)
                        length))
                split
            have spent :=
              credit_hit limit (windows key) endsNow earlier
            rw [window] at later
            simp only [count, List.countP_cons]
            simp only [Admitted, same, true_and, decide_eq_true_eq]
              at later spent ⊢
            omega
          · have later :=
              induction fixedRest ordered.tail
                (by
                  intro current isWindow other otherMember
                  rw [tally_other same] at isWindow
                  exact
                    ends current isWindow other
                      (List.mem_cons_of_mem _ otherMember))
                split
            rw [tally_other same] at later
            rw [List.countP_cons]
            omega

end Quotas

end ChatBackend.Foundation.FixedWindows
