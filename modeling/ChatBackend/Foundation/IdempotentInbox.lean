import Mathlib.Data.Set.Lattice

/-!
# Idempotent inboxes

An inbox receives requests at least once, in any order and in batches of any
size.  A request carries a key, and the first request of a key becomes an
entry.  An entry which is alive and has no item yet produces one item and
some effects, and an item settles the progress of the entry with its key.

`absorb` is one delivery of a batch.  The main theorem, `absorb_append`, says
that two deliveries one after the other are one delivery of both batches, in
which the first batch decides about the keys they share.  So the inbox only
depends on the first request of every key.
-/

noncomputable section

namespace ChatBackend.Foundation.IdempotentInbox

variable {Key Request Entry Item Progress Effect : Type}

/-! ## Rules and states -/

/-- What an inbox does with requests, entries and items. -/
structure Rules (Key Request Entry Item Progress Effect : Type) where
  entry : Request → Entry
  key : Entry → Key
  item : Entry → Item
  linked : Item → Entry → Prop
  settles : Item → Key → Prop
  effect : Entry → Request → Set Effect
  isDead : Progress → Prop
  isOpen : Progress → Prop
  settled : Progress → Item → Progress
  item_linked : ∀ entry, linked (item entry) entry
  settles_linked :
    ∀ item entry, settles item (key entry) → linked item entry
  settles_own :
    ∀ entry requested, settles (item entry) requested →
      key entry = requested
  open_alive : ∀ progress, isOpen progress → ¬ isDead progress
  settled_open :
    ∀ progress item, isOpen progress → isOpen (settled progress item)
  settled_settled :
    ∀ progress first second,
      settled (settled progress first) second = settled progress second

/-- An inbox: its entries, their progress, and what they have produced. -/
@[ext]
structure Inbox (Key Entry Item Progress Effect : Type) where
  entries : Set Entry
  progress : Key → Progress
  items : Set Item
  effects : Set Effect

/-- A batch, by the first request of every key. -/
@[ext]
structure Delivery
    (rules : Rules Key Request Entry Item Progress Effect) where
  request : Key → Option Request
  keyed :
    ∀ requested first, request requested = some first →
      rules.key (rules.entry first) = requested

variable {rules : Rules Key Request Entry Item Progress Effect}

/-- Two batches one after the other; the first decides shared keys. -/
def Delivery.append (first second : Delivery rules) : Delivery rules where
  request := fun requested =>
    (first.request requested).or (second.request requested)
  keyed := by
    intro requested request found
    rcases Option.or_eq_some_iff.mp found with
      inFirst | ⟨_, inSecond⟩
    · exact first.keyed requested request inFirst
    · exact second.keyed requested request inSecond

/-! ## One delivery -/

section Absorb

variable
  (inbox : Inbox Key Entry Item Progress Effect)
  (delivery : Delivery rules)

/-- The entries that a delivery adds. -/
def fresh : Set Entry :=
  {entry |
    (∃ request, delivery.request (rules.key entry) = some request ∧
        rules.entry request = entry) ∧
      ∀ old ∈ inbox.entries, rules.key old ≠ rules.key entry}

/-- The entries after a delivery. -/
def accepted : Set Entry :=
  inbox.entries ∪ fresh inbox delivery

/-- The entries that a delivery concerns. -/
def touched : Set Entry :=
  {entry |
    entry ∈ accepted inbox delivery ∧
      ∃ request, delivery.request (rules.key entry) = some request}

/-- The entries that produce their item in a delivery. -/
def productive : Set Entry :=
  {entry |
    entry ∈ touched inbox delivery ∧
      ¬ rules.isDead (inbox.progress (rules.key entry)) ∧
      ∀ item ∈ inbox.items, ¬ rules.linked item entry}

/-- The items after a delivery. -/
def itemsAfter : Set Item :=
  inbox.items ∪ rules.item '' productive inbox delivery

/-- The effects of a delivery. -/
def newEffects : Set Effect :=
  {effect |
    ∃ entry ∈ productive inbox delivery,
      ∃ request, delivery.request (rules.key entry) = some request ∧
        effect ∈ rules.effect entry request}

/-- An item settles a key in a delivery. -/
def Settles (key : Key) (item : Item) : Prop :=
  item ∈ itemsAfter inbox delivery ∧
    (∃ entry ∈ touched inbox delivery, rules.linked item entry) ∧
    (∃ entry ∈ accepted inbox delivery, rules.key entry = key) ∧
    rules.settles item key

open Classical in
/-- Progress after some items had the chance to settle it. -/
def settleWith
    (rules : Rules Key Request Entry Item Progress Effect)
    (candidate : Item → Prop) (progress : Progress) : Progress :=
  if found : rules.isOpen progress ∧ ∃ item, candidate item then
    rules.settled progress found.2.choose
  else progress

/-- The inbox after a delivery. -/
def absorb : Inbox Key Entry Item Progress Effect where
  entries := accepted inbox delivery
  progress := fun key =>
    settleWith rules (Settles inbox delivery key) (inbox.progress key)
  items := itemsAfter inbox delivery
  effects := inbox.effects ∪ newEffects inbox delivery

end Absorb

/-! ## Settling -/

section Settling

variable {candidate : Item → Prop} {progress : Progress}

theorem settleWith_eq
    {item : Item} (isOpen : rules.isOpen progress)
    (found : candidate item)
    (alone : ∀ other, candidate other → other = item) :
    settleWith rules candidate progress = rules.settled progress item := by
  have both : rules.isOpen progress ∧ ∃ item, candidate item :=
    ⟨isOpen, item, found⟩
  rw [settleWith, dif_pos both]
  rw [alone _ both.2.choose_spec]

theorem settleWith_none (none : ∀ item, ¬ candidate item) :
    settleWith rules candidate progress = progress := by
  rw [settleWith, dif_neg]
  rintro ⟨_, item, found⟩
  exact none item found

theorem settleWith_closed (closed : ¬ rules.isOpen progress) :
    settleWith rules candidate progress = progress := by
  rw [settleWith, dif_neg]
  rintro ⟨isOpen, _⟩
  exact closed isOpen

theorem settleWith_isOpen :
    rules.isOpen (settleWith rules candidate progress) ↔
      rules.isOpen progress := by
  by_cases found : rules.isOpen progress ∧ ∃ item, candidate item
  · rw [settleWith, dif_pos found]
    exact
      ⟨fun _ => found.1, fun isOpen =>
        rules.settled_open progress _ isOpen⟩
  · rw [settleWith, dif_neg found]

theorem settleWith_isDead :
    rules.isDead (settleWith rules candidate progress) ↔
      rules.isDead progress := by
  by_cases isOpen : rules.isOpen progress
  · have stillOpen :
        rules.isOpen (settleWith rules candidate progress) :=
      settleWith_isOpen.mpr isOpen
    constructor
    · intro dead
      exact absurd dead (rules.open_alive _ stillOpen)
    · intro dead
      exact absurd dead (rules.open_alive _ isOpen)
  · rw [settleWith_closed isOpen]

/-- Settling twice is settling once, when at most one item can settle. -/
theorem settleWith_settleWith
    {first second both : Item → Prop}
    (union : ∀ item, both item ↔ first item ∨ second item)
    (alone : ∀ left right, both left → both right → left = right) :
    settleWith rules second (settleWith rules first progress) =
      settleWith rules both progress := by
  by_cases isOpen : rules.isOpen progress
  · by_cases some : ∃ item, both item
    · rcases some with ⟨item, found⟩
      have only : ∀ other, both other → other = item :=
        fun other otherFound => alone other item otherFound found
      rw [settleWith_eq isOpen found only]
      by_cases inFirst : first item
      · rw [settleWith_eq isOpen inFirst fun other otherFound =>
          only other ((union other).mpr (Or.inl otherFound))]
        by_cases inSecond : second item
        · rw [settleWith_eq (rules.settled_open progress item isOpen)
            inSecond fun other otherFound =>
              only other ((union other).mpr (Or.inr otherFound))]
          exact rules.settled_settled progress item item
        · apply settleWith_none
          intro other otherFound
          have same :=
            only other ((union other).mpr (Or.inr otherFound))
          exact inSecond (same ▸ otherFound)
      · have inSecond : second item :=
          ((union item).mp found).resolve_left inFirst
        have noFirst :
            settleWith rules first progress = progress := by
          apply settleWith_none
          intro other otherFound
          have same :=
            only other ((union other).mpr (Or.inl otherFound))
          exact inFirst (same ▸ otherFound)
        rw [noFirst]
        exact
          settleWith_eq isOpen inSecond fun other otherFound =>
            only other ((union other).mpr (Or.inr otherFound))
    · have none : ∀ item, ¬ both item := fun item found =>
        some ⟨item, found⟩
      rw [settleWith_none none,
        settleWith_none fun item found =>
          none item ((union item).mpr (Or.inl found)),
        settleWith_none fun item found =>
          none item ((union item).mpr (Or.inr found))]
  · rw [settleWith_closed isOpen, settleWith_closed isOpen,
      settleWith_closed isOpen]

end Settling

/-! ## Two deliveries -/

/-- An entry is told apart from the others by what can be linked to it. -/
def Distinct
    (rules : Rules Key Request Entry Item Progress Effect)
    (entries : Set Entry) : Prop :=
  ∀ left ∈ entries, ∀ right ∈ entries,
    rules.linked (rules.item left) right → left = right

/-- One item at most settles a key. -/
def Decisive
    (rules : Rules Key Request Entry Item Progress Effect)
    (items : Set Item) : Prop :=
  ∀ left ∈ items, ∀ right ∈ items, ∀ key,
    rules.settles left key → rules.settles right key → left = right

section Kept

variable
  {inbox : Inbox Key Entry Item Progress Effect}
  {delivery : Delivery rules}

/-- No two entries share a key. -/
def Keyed
    (rules : Rules Key Request Entry Item Progress Effect)
    (entries : Set Entry) : Prop :=
  ∀ left ∈ entries, ∀ right ∈ entries,
    rules.key left = rules.key right → left = right

theorem accepted_keyed (keyed : Keyed rules inbox.entries) :
    Keyed rules (accepted inbox delivery) := by
  rintro left (leftOld | ⟨⟨leftRequest, leftFound, leftEq⟩, leftNew⟩)
    right (rightOld | ⟨⟨rightRequest, rightFound, rightEq⟩, rightNew⟩)
    same
  · exact keyed left leftOld right rightOld same
  · exact absurd same (rightNew left leftOld)
  · exact absurd same.symm (leftNew right rightOld)
  · rw [same, rightFound] at leftFound
    rw [← leftEq, ← rightEq, Option.some.inj leftFound]

theorem itemsAfter_decisive
    (distinct : Distinct rules (accepted inbox delivery))
    (decisive : Decisive rules inbox.items) :
    Decisive rules (itemsAfter inbox delivery) := by
  rintro left (leftOld | ⟨leftEntry, leftProduced, rfl⟩)
    right (rightOld | ⟨rightEntry, rightProduced, rfl⟩)
    key leftSettles rightSettles
  · exact decisive left leftOld right rightOld key leftSettles rightSettles
  · have sameKey := rules.settles_own rightEntry key rightSettles
    exact
      absurd
        (rules.settles_linked left rightEntry (sameKey ▸ leftSettles))
        (rightProduced.2.2 left leftOld)
  · have sameKey := rules.settles_own leftEntry key leftSettles
    exact
      absurd
        (rules.settles_linked right leftEntry (sameKey ▸ rightSettles))
        (leftProduced.2.2 right rightOld)
  · have sameKey := rules.settles_own rightEntry key rightSettles
    have link :=
      rules.settles_linked (rules.item leftEntry) rightEntry
        (sameKey ▸ leftSettles)
    rw [distinct leftEntry leftProduced.1.1 rightEntry
      rightProduced.1.1 link]

end Kept

/-- A delivery without requests changes nothing. -/
theorem absorb_nothing
    {inbox : Inbox Key Entry Item Progress Effect}
    {delivery : Delivery rules}
    (nothing : ∀ key, delivery.request key = none) :
    absorb inbox delivery = inbox := by
  have noFresh : fresh inbox delivery = ∅ := by
    ext entry
    simp [fresh, nothing]
  have noTouched : touched inbox delivery = ∅ := by
    ext entry
    simp [touched, nothing]
  have noProductive : productive inbox delivery = ∅ := by
    ext entry
    simp [productive, noTouched]
  apply Inbox.ext
  · simp [absorb, accepted, noFresh]
  · funext key
    apply settleWith_none
    rintro item ⟨_, ⟨entry, member, _⟩, _⟩
    rw [noTouched] at member
    exact member
  · simp [absorb, itemsAfter, noProductive]
  · simp [absorb, newEffects, noProductive]

section Append

variable
  {inbox : Inbox Key Entry Item Progress Effect}
  {first second : Delivery rules}

/-- A key of the first batch gets its entry from the first batch. -/
theorem accepted_of_first
    {entry : Entry}
    (member : entry ∈ accepted inbox (first.append second))
    {request : Request}
    (inFirst : first.request (rules.key entry) = some request) :
    entry ∈ accepted inbox first := by
  rcases member with old | ⟨⟨found, foundEq, sameEntry⟩, isNew⟩
  · exact Or.inl old
  · right
    refine ⟨⟨found, ?_, sameEntry⟩, isNew⟩
    rw [inFirst]
    simpa [Delivery.append, inFirst] using foundEq

/-- The entries do not depend on the cut between two batches. -/
theorem accepted_append
    (inbox : Inbox Key Entry Item Progress Effect)
    (first second : Delivery rules) :
    accepted (absorb inbox first) second =
      accepted inbox (first.append second) := by
  ext entry
  constructor
  · rintro ((old | ⟨⟨request, found, sameEntry⟩, isNew⟩) |
      ⟨⟨request, found, sameEntry⟩, isNew⟩)
    · exact Or.inl old
    · exact
        Or.inr
          ⟨⟨request, by simp [Delivery.append, found], sameEntry⟩,
            isNew⟩
    · right
      have notInFirst : first.request (rules.key entry) = none := by
        rw [Option.eq_none_iff_forall_ne_some]
        intro other inFirst
        have keyed := first.keyed _ _ inFirst
        by_cases known :
            ∃ old ∈ inbox.entries, rules.key old = rules.key entry
        · rcases known with ⟨old, oldMember, same⟩
          exact isNew old (Or.inl oldMember) same
        · refine isNew (rules.entry other) (Or.inr ⟨?_, ?_⟩) keyed
          · exact ⟨other, by rw [keyed]; exact inFirst, rfl⟩
          · intro old oldMember same
            exact known ⟨old, oldMember, same.trans keyed⟩
      refine
        ⟨⟨request, by simp [Delivery.append, notInFirst, found],
          sameEntry⟩, ?_⟩
      intro old oldMember
      exact isNew old (Or.inl oldMember)
  · rintro (old | ⟨⟨request, found, sameEntry⟩, isNew⟩)
    · exact Or.inl (Or.inl old)
    · rcases Option.or_eq_some_iff.mp found with
        inFirst | ⟨notInFirst, inSecond⟩
      · exact Or.inl (Or.inr ⟨⟨request, inFirst, sameEntry⟩, isNew⟩)
      · refine Or.inr ⟨⟨request, inSecond, sameEntry⟩, ?_⟩
        rintro old (oldMember | ⟨⟨other, inFirst, _⟩, _⟩) same
        · exact isNew old oldMember same
        · rw [same, notInFirst] at inFirst
          simp at inFirst

theorem touched_append
    (inbox : Inbox Key Entry Item Progress Effect)
    (first second : Delivery rules) :
    touched inbox (first.append second) =
      touched inbox first ∪ touched (absorb inbox first) second := by
  ext entry
  constructor
  · rintro ⟨member, request, found⟩
    rcases Option.or_eq_some_iff.mp found with
      inFirst | ⟨_, inSecond⟩
    · exact Or.inl ⟨accepted_of_first member inFirst, request, inFirst⟩
    · exact
        Or.inr
          ⟨by rwa [accepted_append], request, inSecond⟩
  · rintro (⟨member, request, inFirst⟩ | ⟨member, request, inSecond⟩)
    · refine
        ⟨?_, request, by simp [Delivery.append, inFirst]⟩
      rw [← accepted_append]
      exact Or.inl member
    · rw [accepted_append] at member
      cases inFirst : first.request (rules.key entry) with
      | none =>
          exact
            ⟨member, request,
              by simp [Delivery.append, inFirst, inSecond]⟩
      | some other =>
          exact
            ⟨member, other, by simp [Delivery.append, inFirst]⟩

/-- An entry of the first batch does not produce again in the second. -/
theorem not_productive_again
    {entry : Entry} (inFirst : entry ∈ touched inbox first) :
    entry ∉ productive (absorb inbox first) second := by
  rintro ⟨_, alive, unlinked⟩
  have aliveBefore :
      ¬ rules.isDead (inbox.progress (rules.key entry)) :=
    fun dead => alive (settleWith_isDead.mpr dead)
  have produced : entry ∈ productive inbox first :=
    ⟨inFirst, aliveBefore, fun item member =>
      unlinked item (Or.inl member)⟩
  exact
    unlinked (rules.item entry) (Or.inr ⟨entry, produced, rfl⟩)
      (rules.item_linked entry)

theorem productive_append
    (distinct : Distinct rules (accepted inbox (first.append second))) :
    productive inbox (first.append second) =
      productive inbox first ∪
        productive (absorb inbox first) second := by
  ext entry
  constructor
  · rintro ⟨member, alive, unlinked⟩
    have inBoth := member
    rw [touched_append] at member
    rcases member with inFirst | inSecond
    · exact Or.inl ⟨inFirst, alive, unlinked⟩
    · by_cases inFirst : entry ∈ touched inbox first
      · exact Or.inl ⟨inFirst, alive, unlinked⟩
      · right
        refine
          ⟨inSecond, fun dead => alive (settleWith_isDead.mp dead), ?_⟩
        rintro item (old | ⟨source, produced, rfl⟩) link
        · exact unlinked item old link
        · have sourceBoth :
              source ∈ touched inbox (first.append second) := by
            rw [touched_append]
            exact Or.inl produced.1
          have same :=
            distinct source sourceBoth.1 entry inBoth.1 link
          exact inFirst (same ▸ produced.1)
  · rintro (⟨member, alive, unlinked⟩ | ⟨member, alive, unlinked⟩)
    · refine ⟨?_, alive, unlinked⟩
      rw [touched_append]
      exact Or.inl member
    · refine
        ⟨?_, fun dead => alive (settleWith_isDead.mpr dead),
          fun item old => unlinked item (Or.inl old)⟩
      rw [touched_append]
      exact Or.inr member

theorem itemsAfter_append
    (distinct : Distinct rules (accepted inbox (first.append second))) :
    itemsAfter (absorb inbox first) second =
      itemsAfter inbox (first.append second) := by
  simp only [itemsAfter, absorb, productive_append distinct,
    Set.image_union, Set.union_assoc]

theorem newEffects_append
    (distinct : Distinct rules (accepted inbox (first.append second))) :
    newEffects inbox (first.append second) =
      newEffects inbox first ∪
        newEffects (absorb inbox first) second := by
  ext effect
  constructor
  · rintro ⟨entry, produced, request, found, caused⟩
    rw [productive_append distinct] at produced
    rcases produced with inFirst | inSecond
    · left
      rcases inFirst.1.2 with ⟨other, otherFound⟩
      refine ⟨entry, inFirst, request, ?_, caused⟩
      simpa [Delivery.append, otherFound] using found
    · right
      refine ⟨entry, inSecond, request, ?_, caused⟩
      rcases Option.or_eq_some_iff.mp found with
        inFirst | ⟨_, fromSecond⟩
      · have member : entry ∈ accepted inbox (first.append second) := by
          rw [← accepted_append]
          exact inSecond.1.1
        exact
          absurd inSecond
            (not_productive_again
              ⟨accepted_of_first member inFirst, request, inFirst⟩)
      · exact fromSecond
  · rintro (⟨entry, produced, request, found, caused⟩ |
      ⟨entry, produced, request, found, caused⟩)
    · refine ⟨entry, ?_, request, ?_, caused⟩
      · rw [productive_append distinct]
        exact Or.inl produced
      · simp [Delivery.append, found]
    · refine ⟨entry, ?_, request, ?_, caused⟩
      · rw [productive_append distinct]
        exact Or.inr produced
      · have notInFirst : first.request (rules.key entry) = none := by
          rw [Option.eq_none_iff_forall_ne_some]
          intro other inFirst
          have member :
              entry ∈ accepted inbox (first.append second) := by
            rw [← accepted_append]
            exact produced.1.1
          exact
            not_productive_again
              ⟨accepted_of_first member inFirst, other, inFirst⟩
              produced
        simp [Delivery.append, notInFirst, found]

/-- The items that settle a key in either delivery. -/
theorem settles_append
    (distinct : Distinct rules (accepted inbox (first.append second)))
    (key : Key) (item : Item) :
    Settles inbox (first.append second) key item ↔
      Settles inbox first key item ∨
        Settles (absorb inbox first) second key item := by
  constructor
  · rintro ⟨member, ⟨entry, concerned, link⟩,
      ⟨owner, ownerMember, ownerKey⟩, settlesKey⟩
    have later : item ∈ itemsAfter (absorb inbox first) second := by
      rwa [itemsAfter_append distinct]
    have laterOwner : owner ∈ accepted (absorb inbox first) second := by
      rwa [accepted_append]
    have concernedBoth := concerned
    rw [touched_append] at concerned
    rcases concerned with inFirst | inSecond
    · rcases later with early | ⟨source, produced, rfl⟩
      · rcases laterOwner with known |
          ⟨⟨request, found, sameEntry⟩, isNew⟩
        · exact
            Or.inl
              ⟨early, ⟨entry, inFirst, link⟩,
                ⟨owner, known, ownerKey⟩, settlesKey⟩
        · right
          refine
            ⟨Or.inl early, ⟨owner, ?_, ?_⟩, ⟨owner, ?_, ownerKey⟩,
              settlesKey⟩
          · exact
              ⟨Or.inr ⟨⟨request, found, sameEntry⟩, isNew⟩,
                request, found⟩
          · exact rules.settles_linked item owner (ownerKey ▸ settlesKey)
          · exact Or.inr ⟨⟨request, found, sameEntry⟩, isNew⟩
      · have sourceMember :
            source ∈ accepted inbox (first.append second) := by
          rw [← accepted_append]
          exact produced.1.1
        have same := distinct source sourceMember entry concernedBoth.1 link
        exact
          absurd produced (not_productive_again (same ▸ inFirst))
    · exact
        Or.inr
          ⟨later, ⟨entry, inSecond, link⟩, ⟨owner, laterOwner, ownerKey⟩,
            settlesKey⟩
  · rintro (⟨member, ⟨entry, concerned, link⟩,
      ⟨owner, ownerMember, ownerKey⟩, settlesKey⟩ |
      ⟨member, ⟨entry, concerned, link⟩,
        ⟨owner, ownerMember, ownerKey⟩, settlesKey⟩)
    · refine ⟨?_, ⟨entry, ?_, link⟩, ⟨owner, ?_, ownerKey⟩, settlesKey⟩
      · rw [← itemsAfter_append distinct]
        exact Or.inl member
      · rw [touched_append]
        exact Or.inl concerned
      · rw [← accepted_append]
        exact Or.inl ownerMember
    · refine ⟨?_, ⟨entry, ?_, link⟩, ⟨owner, ?_, ownerKey⟩, settlesKey⟩
      · rwa [← itemsAfter_append distinct]
      · rw [touched_append]
        exact Or.inr concerned
      · rwa [← accepted_append]

/-- Two deliveries one after the other are one delivery of both. -/
theorem absorb_append
    (distinct : Distinct rules (accepted inbox (first.append second)))
    (decisive : Decisive rules inbox.items) :
    absorb (absorb inbox first) second =
      absorb inbox (first.append second) := by
  apply Inbox.ext
  · exact accepted_append inbox first second
  · funext key
    apply settleWith_settleWith (settles_append distinct key)
    intro left right settlesLeft settlesRight
    exact
      itemsAfter_decisive distinct decisive left settlesLeft.1 right
        settlesRight.1 key settlesLeft.2.2.2 settlesRight.2.2.2
  · exact itemsAfter_append distinct
  · simp only [absorb, newEffects_append distinct, Set.union_assoc]

end Append

end ChatBackend.Foundation.IdempotentInbox

end
