import Mathlib.Data.List.Forall2

/-! Two lists side by side, each item of one in a relation to the item of the other in its place. -/

namespace List

variable {α β : Type*} {stands : α → β → Prop} {items : List α} {others : List β}

/-- Lists stand side by side when they have the same places, with related items in each. -/
theorem forall₂_iff_getElem? : Forall₂ stands items others ↔
    others.length = items.length ∧ ∀ (index : Nat) (item : α) (other : β),
      items[index]? = some item → others[index]? = some other → stands item other := by
  rw [forall₂_iff_get]
  -- An item that is found has its place inside the list.
  refine and_congr eq_comm ⟨?_, fun all index left right => ?_⟩
  · intro all index item other found paired
    obtain ⟨left, rfl⟩ := getElem?_eq_some_iff.mp found
    obtain ⟨right, rfl⟩ := getElem?_eq_some_iff.mp paired
    exact all index left right
  · exact all index _ _ (getElem?_eq_getElem left) (getElem?_eq_getElem right)

/-- A related pair may be put in any place. -/
theorem Forall₂.set (all : Forall₂ stands items others) {item : α} {other : β}
    (this : stands item other) (index : Nat) :
    Forall₂ stands (items.set index item) (others.set index other) := by
  -- Induction on the two lists, where the place is the first one or one of the rest.
  induction all generalizing index with
  | nil => exact .nil
  | cons head tail ih =>
    cases index with
    | zero => exact .cons this tail
    | succ index => exact .cons head (ih index)

/-- A pair is put in a place, and further items come with others of their own. -/
theorem Forall₂.renew (all : Forall₂ stands items others) {item : α} {other : β}
    (this : stands item other) (index : Nat) {start : α → β} {further : List α}
    (begun : ∀ new ∈ further, stands new (start new)) :
    Forall₂ stands (items.set index item ++ further)
      (others.set index other ++ further.map start) :=
  rel_append (all.set this index) (forall₂_map_right_iff.mpr (forall₂_same.mpr begun))

end List
