import Mathlib.Data.List.Basic

/-! Sums of at least one element under an associative and commutative operation. -/

namespace NonemptySum

variable {α β : Type*}

/-- The sum of a list from left to right, where there is a first element. -/
def total (add : α → α → α) : List α → Option α
  | [] => none
  | first :: rest => some (rest.foldl add first)

/-- A list with an element has a sum. -/
theorem total_isSome (add : α → α → α) {list : List α} (nonempty : list ≠ []) :
    ∃ sum, total add list = some sum := by
  cases list with
  | nil => exact absurd rfl nonempty
  | cons first rest => exact ⟨_, rfl⟩

/-- Further elements may be added in any order. -/
theorem foldl_perm {add : α → α → α} (assoc : ∀ a b c, add (add a b) c = add a (add b c))
    (comm : ∀ a b, add a b = add b a) {first second : List α} (perm : first.Perm second)
    (start : α) : first.foldl add start = second.foldl add start := by
  refine perm.foldl_eq' (fun a _ b _ sum => ?_) start
  rw [assoc, comm a b, ← assoc]

/-- The order of the elements does not change their sum. -/
theorem total_perm {add : α → α → α} (assoc : ∀ a b c, add (add a b) c = add a (add b c))
    (comm : ∀ a b, add a b = add b a) {first second : List α} (perm : first.Perm second) :
    total add first = total add second := by
  -- Only a swap at the front reaches the first element, from which the sum starts.
  induction perm with
  | nil => rfl
  | cons head perm _ => exact congrArg some (foldl_perm assoc comm perm head)
  | swap left right rest =>
    simp only [total, List.foldl_cons]
    rw [comm right left]
  | trans _ _ left right => exact left.trans right

/-- A map that respects the operations takes sums to sums. -/
theorem total_map {add : α → α → α} {add' : β → β → β} {map : α → β}
    (hom : ∀ a b, map (add a b) = add' (map a) (map b)) (list : List α) :
    total add' (list.map map) = (total add list).map map := by
  cases list with
  | nil => rfl
  | cons first rest =>
    simp only [total, List.map_cons, Option.map_some, Option.some.injEq]
    -- One more summand on either side keeps the two sums related.
    induction rest generalizing first with
    | nil => rfl
    | cons next rest ih =>
      rw [List.map_cons, List.foldl_cons, ← hom]
      exact ih (add first next)

end NonemptySum
