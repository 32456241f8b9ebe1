import Mathlib.Data.List.Nodup
import Mathlib.Data.List.Perm.Subperm
import Mathlib.Data.List.Perm.Lattice
import Mathlib.Data.List.Lex
import Mathlib.Order.Bounds.Defs
import Mathlib.Order.Lattice

/-! Ordered sets held as strictly increasing lists, iterated in that order. -/

/-- A finite set whose members are listed in strictly increasing order. -/
structure SortedSet (α : Type*) [LinearOrder α] where
  /-- The members, in iteration order. -/
  toList : List α
  /-- Iteration visits every member once and in increasing order. -/
  sorted : toList.Pairwise (· < ·)

namespace SortedSet

variable {α : Type*} [LinearOrder α]

/-- Membership is membership in the iteration list. -/
instance : Membership α (SortedSet α) := ⟨fun set a => a ∈ set.toList⟩

instance (a : α) (set : SortedSet α) : Decidable (a ∈ set) :=
  inferInstanceAs (Decidable (a ∈ set.toList))

@[simp] theorem mem_toList {a : α} {set : SortedSet α} : a ∈ set.toList ↔ a ∈ set := Iff.rfl

/-- No member is visited twice. -/
theorem nodup (set : SortedSet α) : set.toList.Nodup := by
  -- A strict order separates any two positions.
  exact set.sorted.imp fun less => ne_of_lt less

/-- Sets with the same members iterate identically. -/
@[ext] theorem ext {left right : SortedSet α} (same : ∀ a, a ∈ left ↔ a ∈ right) :
    left = right := by
  -- Two increasing lists with the same members are permutations, hence equal.
  have perm : left.toList.Perm right.toList :=
    (List.perm_ext_iff_of_nodup left.nodup right.nodup).mpr same
  have equal : left.toList = right.toList :=
    perm.eq_of_pairwise (fun a b _ _ less greater => absurd less (lt_asymm greater))
      left.sorted right.sorted
  cases left
  cases right
  simpa using equal

/-- The set without members. -/
def empty : SortedSet α := ⟨[], List.Pairwise.nil⟩

@[simp] theorem not_mem_empty (a : α) : a ∉ (empty : SortedSet α) := List.not_mem_nil

/-- Insertion into an increasing list, which leaves a present element alone. -/
def insertList (a : α) : List α → List α
  | [] => [a]
  | b :: rest =>
    if a < b then a :: b :: rest
    else if a = b then b :: rest
    else b :: insertList a rest

/-- Inserting adds exactly the new element. -/
theorem mem_insertList {a b : α} {list : List α} :
    b ∈ insertList a list ↔ b = a ∨ b ∈ list := by
  -- Each branch either places the element, finds it, or looks further.
  induction list with
  | nil => simp [insertList]
  | cons head rest ih =>
    simp only [insertList]
    split
    · simp
    · split
      · rename_i same
        subst same
        simp
      · simp only [List.mem_cons, ih]
        tauto

/-- Inserting keeps the list increasing. -/
theorem insertList_sorted {a : α} {list : List α} (sorted : list.Pairwise (· < ·)) :
    (insertList a list).Pairwise (· < ·) := by
  -- The element is placed before the first larger one, or was already there.
  induction list with
  | nil => simp [insertList]
  | cons head rest ih =>
    obtain ⟨below, tail⟩ := List.pairwise_cons.mp sorted
    simp only [insertList]
    split
    · rename_i less
      refine List.pairwise_cons.mpr ⟨?_, sorted⟩
      intro b member
      rcases List.mem_cons.mp member with same | member
      · exact same ▸ less
      · exact lt_trans less (below b member)
    · split
      · exact sorted
      · rename_i notLess different
        refine List.pairwise_cons.mpr ⟨?_, ih tail⟩
        intro b member
        rcases mem_insertList.mp member with same | member
        · exact same ▸ lt_of_le_of_ne (not_lt.mp notLess) (Ne.symm different)
        · exact below b member

/-- `std::set::insert`-style insertion. -/
def insert (set : SortedSet α) (a : α) : SortedSet α :=
  ⟨insertList a set.toList, insertList_sorted set.sorted⟩

@[simp] theorem mem_insert {a b : α} {set : SortedSet α} :
    b ∈ set.insert a ↔ b = a ∨ b ∈ set := mem_insertList

/-- Removal of one element, if present. -/
def erase (set : SortedSet α) (a : α) : SortedSet α :=
  ⟨set.toList.erase a, set.sorted.sublist List.erase_sublist⟩

@[simp] theorem mem_erase {a b : α} {set : SortedSet α} :
    b ∈ set.erase a ↔ b ≠ a ∧ b ∈ set := set.nodup.mem_erase_iff

/-- The members satisfying a test, in the same order. -/
def filter (set : SortedSet α) (test : α → Bool) : SortedSet α :=
  ⟨set.toList.filter test, set.sorted.sublist List.filter_sublist⟩

@[simp] theorem mem_filter {a : α} {set : SortedSet α} {test : α → Bool} :
    a ∈ set.filter test ↔ a ∈ set ∧ test a = true := List.mem_filter

/-- Insertion of every element of a list, from left to right. -/
def insertAll (set : SortedSet α) (list : List α) : SortedSet α :=
  list.foldl insert set

@[simp] theorem mem_insertAll {a : α} {set : SortedSet α} {list : List α} :
    a ∈ set.insertAll list ↔ a ∈ list ∨ a ∈ set := by
  -- Every step adds one listed element to what was there before.
  induction list generalizing set with
  | nil => simp [insertAll]
  | cons head rest ih =>
    have tail : a ∈ (set.insert head).insertAll rest ↔ a ∈ rest ∨ a ∈ set.insert head := ih
    simp only [insertAll, List.foldl_cons] at tail ⊢
    rw [tail, mem_insert, List.mem_cons]
    tauto

/-- The set of a list's elements. -/
def ofList (list : List α) : SortedSet α := empty.insertAll list

@[simp] theorem mem_ofList {a : α} {list : List α} : a ∈ ofList list ↔ a ∈ list := by
  simp [ofList]

/-- A set is rebuilt from its own iteration list. -/
@[simp] theorem ofList_toList (set : SortedSet α) : ofList set.toList = set := by
  ext a
  simp

/-- A list without repetitions is a permutation of its set's iteration. -/
theorem ofList_perm {list : List α} (distinct : list.Nodup) :
    (ofList list).toList.Perm list := by
  exact (List.perm_ext_iff_of_nodup (ofList list).nodup distinct).mpr fun a => by simp

/-- Inserting a new element adds one entry to the iteration. -/
theorem insert_perm {a : α} {set : SortedSet α} (fresh : a ∉ set) :
    (set.insert a).toList.Perm (a :: set.toList) := by
  have distinct : (a :: set.toList).Nodup := List.nodup_cons.mpr ⟨fresh, set.nodup⟩
  exact (List.perm_ext_iff_of_nodup (set.insert a).nodup distinct).mpr fun b => by simp

/-- Removing a present element drops one entry of the iteration. -/
theorem erase_perm {a : α} {set : SortedSet α} (present : a ∈ set) :
    set.toList.Perm (a :: (set.erase a).toList) :=
  List.perm_cons_erase present

/-- The first listed member satisfying a test is the least one that does. -/
theorem find?_isLeast {set : SortedSet α} {test : α → Bool} {a : α}
    (found : set.toList.find? test = some a) :
    IsLeast {b | b ∈ set ∧ test b = true} a := by
  -- Every earlier entry fails the test, and every later one is larger.
  obtain ⟨accepted, before, after, split, rejected⟩ := List.find?_eq_some_iff_append.mp found
  refine ⟨⟨List.mem_of_find?_eq_some found, accepted⟩, ?_⟩
  rintro b ⟨member, passes⟩
  have listed : b ∈ before ++ a :: after := split ▸ member
  have sorted : (before ++ a :: after).Pairwise (· < ·) := split ▸ set.sorted
  rcases List.mem_append.mp listed with early | late
  · have refused := rejected b early
    simp [passes] at refused
  · rcases List.mem_cons.mp late with same | late
    · exact le_of_eq same.symm
    · have tail := (List.pairwise_append.mp sorted).2.1
      exact le_of_lt ((List.pairwise_cons.mp tail).1 b late)

/-- Nothing is found exactly when no member passes. -/
theorem find?_eq_none {set : SortedSet α} {test : α → Bool} :
    set.toList.find? test = none ↔ ∀ b ∈ set, test b = false := by
  simp [List.find?_eq_none]

end SortedSet
