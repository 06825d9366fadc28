import Mathlib.Data.List.Nodup
import Mathlib.Logic.Function.Basic

/-!
# Sets and maps in insertion order, and indexes of sets

`OrderedSet` is a list without duplicates that grows at its end, the way a
JavaScript `Set` is iterated, and `OrderedMap` is a JavaScript `Map` in the
same way.  `SetIndex` is a map whose values are ordered sets.  Removing a
value deletes the entries that become empty, so an index that started
without empty entries never has one: this is `Trim`.
-/

namespace ChatBackend.Foundation.OrderedSets

variable {Key Value Image : Type}

/-! ## Ordered sets -/

structure OrderedSet (Value : Type) where
  items : List Value
  nodup : items.Nodup

instance : Membership Value (OrderedSet Value) :=
  ⟨fun set value => value ∈ set.items⟩

namespace OrderedSet

theorem mem_iff {set : OrderedSet Value} {value : Value} :
    value ∈ set ↔ value ∈ set.items :=
  Iff.rfl

def empty : OrderedSet Value where
  items := []
  nodup := List.nodup_nil

instance : EmptyCollection (OrderedSet Value) :=
  ⟨empty⟩

@[simp]
theorem notMem_empty (value : Value) :
    value ∉ (∅ : OrderedSet Value) :=
  List.not_mem_nil

theorem eq_empty_iff {set : OrderedSet Value} :
    set = ∅ ↔ ∀ value, value ∉ set := by
  constructor
  · rintro rfl value
    exact notMem_empty value
  · intro nothing
    rcases set with ⟨items, nodup⟩
    have isNil : items = [] :=
      List.eq_nil_iff_forall_not_mem.mpr nothing
    subst isNil
    rfl

def isEmpty (set : OrderedSet Value) : Bool :=
  set.items.isEmpty

theorem isEmpty_iff {set : OrderedSet Value} :
    set.isEmpty = true ↔ set = ∅ := by
  rw [isEmpty, List.isEmpty_iff, eq_empty_iff,
    List.eq_nil_iff_forall_not_mem]
  rfl

variable [DecidableEq Value]

instance (value : Value) (set : OrderedSet Value) :
    Decidable (value ∈ set) :=
  inferInstanceAs (Decidable (value ∈ set.items))

/-- A new value comes last. -/
def add (set : OrderedSet Value) (value : Value) : OrderedSet Value :=
  if known : value ∈ set.items then set
  else
    { items := set.items ++ [value]
      nodup :=
        List.nodup_append.mpr
          ⟨set.nodup, List.nodup_singleton value, by
            intro old oldMember new newMember same
            rw [List.mem_singleton] at newMember
            exact known (newMember ▸ same ▸ oldMember)⟩ }

@[simp]
theorem mem_add {set : OrderedSet Value} {value other : Value} :
    other ∈ set.add value ↔ other = value ∨ other ∈ set := by
  unfold add
  split
  · rename_i known
    constructor
    · exact Or.inr
    · rintro (rfl | member)
      · exact known
      · exact member
  · simp [mem_iff, or_comm]

def delete (set : OrderedSet Value) (value : Value) :
    OrderedSet Value where
  items := set.items.filter fun other => other != value
  nodup := set.nodup.filter _

@[simp]
theorem mem_delete {set : OrderedSet Value} {value other : Value} :
    other ∈ set.delete value ↔ other ≠ value ∧ other ∈ set := by
  simp [delete, mem_iff, and_comm]

/-- Add all values of a list, from its front. -/
def addAll (set : OrderedSet Value) (values : List Value) :
    OrderedSet Value :=
  values.foldl add set

@[simp]
theorem mem_addAll
    {set : OrderedSet Value} {values : List Value} {other : Value} :
    other ∈ set.addAll values ↔ other ∈ values ∨ other ∈ set := by
  unfold addAll
  induction values generalizing set with
  | nil => simp
  | cons value rest induction =>
      rw [List.foldl_cons, induction, mem_add, List.mem_cons]
      constructor
      · rintro (later | same | before)
        · exact Or.inl (Or.inr later)
        · exact Or.inl (Or.inl same)
        · exact Or.inr before
      · rintro ((same | later) | before)
        · exact Or.inr (Or.inl same)
        · exact Or.inl later
        · exact Or.inr (Or.inr before)

end OrderedSet

/-! ## Indexes -/

/-- A map from keys to sets. -/
structure SetIndex (Key Value : Type) where
  get : Key → Option (OrderedSet Value)

namespace SetIndex

def empty : SetIndex Key Value where
  get := fun _ => none

/-- The set of a key, which is empty without an entry. -/
def members (index : SetIndex Key Value) (key : Key) : OrderedSet Value :=
  (index.get key).getD ∅

/-- No entry is an empty set. -/
def Trim (index : SetIndex Key Value) : Prop :=
  ∀ key, index.get key ≠ some ∅

theorem trim_empty : (empty : SetIndex Key Value).Trim := by
  intro key
  simp [empty]

@[simp]
theorem notMem_members_empty (key : Key) (value : Value) :
    value ∉ (empty : SetIndex Key Value).members key :=
  OrderedSet.notMem_empty value

/-- A trim index without members has no entry at all. -/
theorem Trim.get_eq_none
    {index : SetIndex Key Value} (trim : index.Trim) {key : Key}
    (nothing : ∀ value, value ∉ index.members key) :
    index.get key = none := by
  cases entry : index.get key with
  | none => rfl
  | some set =>
      refine absurd entry ?_
      rw [members, entry, Option.getD_some] at nothing
      rw [OrderedSet.eq_empty_iff.mpr nothing]
      exact trim key

variable [DecidableEq Key] [DecidableEq Value]

def add
    (index : SetIndex Key Value) (key : Key) (value : Value) :
    SetIndex Key Value where
  get :=
    Function.update index.get key
      (some ((index.members key).add value))

@[simp]
theorem members_add
    (index : SetIndex Key Value) (key other : Key) (value : Value) :
    (index.add key value).members other =
      if other = key then (index.members key).add value
      else index.members other := by
  by_cases same : other = key
  · subst same
    simp [members, add]
  · simp [members, add, same]

theorem Trim.add
    {index : SetIndex Key Value} (trim : index.Trim)
    (key : Key) (value : Value) : (index.add key value).Trim := by
  intro other isEmpty
  by_cases same : other = key
  · subst same
    simp only [SetIndex.add, Function.update_self, Option.some.injEq,
      OrderedSet.eq_empty_iff] at isEmpty
    exact isEmpty value (by simp)
  · simp only [SetIndex.add, Function.update_of_ne same] at isEmpty
    exact trim other isEmpty

/-- The set of an entry without the value, if anything is left of it. -/
def deleteFrom (set : OrderedSet Value) (value : Value) :
    Option (OrderedSet Value) :=
  if (set.delete value).isEmpty then none else some (set.delete value)

/-- Delete the value from the sets of some keys. -/
def deleteAll
    (index : SetIndex Key Value) (keys : List Key) (value : Value) :
    SetIndex Key Value where
  get := fun key =>
    if key ∈ keys then
      (index.get key).bind fun set => deleteFrom set value
    else index.get key

theorem mem_members_deleteAll
    {index : SetIndex Key Value} {keys : List Key} {key : Key}
    {value other : Value} :
    other ∈ (index.deleteAll keys value).members key ↔
      other ∈ index.members key ∧ (key ∈ keys → other ≠ value) := by
  by_cases listed : key ∈ keys
  · simp only [members, deleteAll, listed, if_true, forall_const]
    cases index.get key with
    | none => simp
    | some set =>
        rw [Option.bind_some, Option.getD_some, deleteFrom]
        split
        · rename_i isEmpty
          rw [OrderedSet.isEmpty_iff, OrderedSet.eq_empty_iff] at isEmpty
          have gone := isEmpty other
          simp only [OrderedSet.mem_delete, not_and'] at gone
          simp only [Option.getD_none, OrderedSet.notMem_empty,
            false_iff, not_and]
          exact gone
        · simp [and_comm]
  · simp [members, deleteAll, listed]

theorem Trim.deleteAll
    {index : SetIndex Key Value} (trim : index.Trim)
    (keys : List Key) (value : Value) :
    (index.deleteAll keys value).Trim := by
  intro key isEmpty
  simp only [SetIndex.deleteAll] at isEmpty
  split at isEmpty
  · cases entry : index.get key with
    | none => simp [entry] at isEmpty
    | some set =>
        rw [entry, Option.bind_some, deleteFrom] at isEmpty
        split at isEmpty
        · cases isEmpty
        · rename_i nonempty
          rw [Option.some.injEq] at isEmpty
          exact nonempty (OrderedSet.isEmpty_iff.mpr isEmpty)
  · exact trim key isEmpty

end SetIndex

/-! ## Maps -/

structure OrderedMap (Key Value : Type) where
  entries : List (Key × Value)
  nodup : (entries.map Prod.fst).Nodup

namespace OrderedMap

def empty : OrderedMap Key Value where
  entries := []
  nodup := List.nodup_nil

def size (map : OrderedMap Key Value) : Nat :=
  map.entries.length

/-- The entries that satisfy a condition; the others are deleted. -/
def filter (map : OrderedMap Key Value) (keep : Value → Bool) :
    OrderedMap Key Value where
  entries := map.entries.filter fun entry => keep entry.2
  nodup := map.nodup.sublist (List.filter_sublist.map Prod.fst)

variable [DecidableEq Key]

def get (map : OrderedMap Key Value) (key : Key) : Option Value :=
  (map.entries.find? fun entry => entry.1 = key).map Prod.snd

/-- A key keeps its place when its value is replaced. -/
def set (map : OrderedMap Key Value) (key : Key) (value : Value) :
    OrderedMap Key Value :=
  if isKey : key ∈ map.entries.map Prod.fst then
    { entries :=
        map.entries.map fun entry =>
          if entry.1 = key then (key, value) else entry
      nodup := by
        have sameKeys :
            (map.entries.map fun entry =>
                if entry.1 = key then (key, value) else entry).map
                Prod.fst =
              map.entries.map Prod.fst := by
          rw [List.map_map]
          apply List.map_congr_left
          intro entry _
          by_cases same : entry.1 = key <;> simp [same]
        rw [sameKeys]
        exact map.nodup }
  else
    { entries := map.entries ++ [(key, value)]
      nodup := by
        rw [List.map_append, List.nodup_append]
        refine ⟨map.nodup, List.nodup_singleton _, ?_⟩
        rintro old oldMember new newMember rfl
        rw [List.map_singleton, List.mem_singleton] at newMember
        subst newMember
        exact isKey oldMember }

@[simp]
theorem get_empty (key : Key) :
    (empty : OrderedMap Key Value).get key = none :=
  rfl

theorem get_eq_some_iff
    {map : OrderedMap Key Value} {key : Key} {value : Value} :
    map.get key = some value ↔ (key, value) ∈ map.entries := by
  rw [get, Option.map_eq_some_iff]
  constructor
  · rintro ⟨⟨other, _⟩, found, rfl⟩
    have same : other = key := by simpa using List.find?_some found
    exact same ▸ List.mem_of_find?_eq_some found
  · intro member
    cases found : map.entries.find? fun entry => entry.1 = key with
    | none =>
        rw [List.find?_eq_none] at found
        exact absurd (decide_eq_true rfl) (found _ member)
    | some entry =>
        have same : entry.1 = key := by simpa using List.find?_some found
        have isEntry : entry = (key, value) :=
          List.inj_on_of_nodup_map map.nodup
            (List.mem_of_find?_eq_some found) member same
        exact ⟨entry, rfl, congrArg Prod.snd isEntry⟩

theorem get_filter
    (map : OrderedMap Key Value) (keep : Value → Bool) (key : Key) :
    (map.filter keep).get key = (map.get key).filter keep := by
  ext value
  rw [get_eq_some_iff, Option.filter_eq_some_iff, get_eq_some_iff]
  exact List.mem_filter

theorem get_set
    (map : OrderedMap Key Value) (key wanted : Key) (value : Value) :
    (map.set key value).get wanted =
      if wanted = key then some value else map.get wanted := by
  ext other
  rw [get_eq_some_iff, set]
  split
  case isTrue isKey =>
      rcases List.mem_map.mp isKey with ⟨⟨_, old⟩, oldMember, rfl⟩
      constructor
      · intro member
        rcases List.mem_map.mp member with ⟨entry, inMap, same⟩
        split at same
        · cases same
          rw [if_pos rfl]
        · rename_i different
          subst same
          rw [if_neg different]
          exact get_eq_some_iff.mpr inMap
      · intro found
        split at found
        · rename_i same
          cases found
          subst same
          exact List.mem_map.mpr ⟨_, oldMember, if_pos rfl⟩
        · rename_i different
          exact
            List.mem_map.mpr
              ⟨_, get_eq_some_iff.mp found, if_neg different⟩
  case isFalse isNew =>
      rw [List.mem_append, List.mem_singleton, Prod.mk.injEq]
      split
      · rename_i same
        subst same
        constructor
        · rintro (member | ⟨_, rfl⟩)
          · exact absurd (List.mem_map_of_mem member) isNew
          · rfl
        · rintro ⟨⟩
          exact .inr ⟨rfl, rfl⟩
      · rename_i different
        rw [get_eq_some_iff]
        exact or_iff_left fun same => different same.1

end OrderedMap

end ChatBackend.Foundation.OrderedSets
