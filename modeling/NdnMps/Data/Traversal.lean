import Mathlib.Data.List.Basic

/-! Lists that are read element by element, where every element may fail to be read. -/

/-- Running over a list succeeds exactly when every element does. -/
theorem mapM_ok_iff {α β ε : Type} {run : α → Except ε β} {list : List α} {results : List β} :
    list.mapM run = .ok results ↔ list.map run = results.map .ok := by
  -- The induction is on the list, with any results.
  induction list generalizing results with
  | nil =>
    cases results with
    | nil => exact ⟨fun _ => rfl, fun _ => rfl⟩
    | cons result rest => constructor <;> intro same <;> cases same
  | cons head tail ih =>
    rw [List.mapM_cons]
    cases first : run head with
    | error fault =>
      constructor
      · intro same
        cases same
      · intro same
        cases results with
        | nil => cases same
        | cons result rest => simp [first] at same
    | ok value =>
      cases others : tail.mapM run with
      | error fault =>
        constructor
        · intro same
          cases same
        · intro same
          cases results with
          | nil => cases same
          | cons result rest =>
            have tails := ih.mpr (List.cons.inj same).2
            rw [others] at tails
            cases tails
      | ok values =>
        have known := ih.mp others
        simp only [Bind.bind, Except.bind, Pure.pure, Except.pure, Except.ok.injEq, List.map_cons,
          first, known]
        constructor
        · intro same
          rw [← same]
          rfl
        · intro same
          cases results with
          | nil => cases same
          | cons result rest =>
            obtain ⟨heads, tails⟩ := List.cons.inj same
            have sameHead : value = result := Except.ok.inj heads
            have sameTail : values = rest :=
              List.map_injective_iff.mpr (fun _ _ equal => Except.ok.inj equal) tails
            rw [sameHead, sameTail]

/-- Two readers that agree on every element agree on the list. -/
theorem map_eq_map_congr {α β γ δ : Type*} {read : α → γ} {result : β → γ} {read' : α → δ}
    {result' : β → δ} (agree : ∀ element value,
      read element = result value ↔ read' element = result' value)
    {list : List α} {values : List β} :
    list.map read = values.map result ↔ list.map read' = values.map result' := by
  -- The lists go along with each other, and are compared at their heads.
  induction list generalizing values with
  | nil => cases values <;> simp
  | cons element rest ih =>
    cases values with
    | nil => simp
    | cons value others =>
      simp only [List.map_cons, List.cons.injEq]
      exact and_congr (agree element value) ih

/-- All elements of a list are read exactly when each of them is. -/
theorem exists_map_some_iff {α β : Type*} {read : α → Option β} {list : List α} :
    (∃ values : List β, list.map read = values.map some) ↔
      ∀ element ∈ list, (read element).isSome = true := by
  -- The induction is on the list, whose head and tail are read separately.
  induction list with
  | nil => exact ⟨fun _ _ member => absurd member List.not_mem_nil, fun _ => ⟨[], rfl⟩⟩
  | cons element rest ih =>
    rw [List.forall_mem_cons, ← ih]
    constructor
    · rintro ⟨values, same⟩
      -- A value for each element is a first value and the others.
      cases values with
      | nil => cases same
      | cons value others =>
        obtain ⟨head, tail⟩ := List.cons.inj same
        exact ⟨by rw [head]; rfl, others, tail⟩
    · rintro ⟨present, others, tail⟩
      obtain ⟨value, head⟩ := Option.isSome_iff_exists.mp present
      exact ⟨value :: others, by rw [List.map_cons, head, tail, List.map_cons]⟩

/-- Elements in another order are read as the values in another order. -/
theorem exists_map_some_of_perm {α β : Type*} {read : α → Option β} {first second : List α}
    (perm : first.Perm second) {values : List β} (readAll : first.map read = values.map some) :
    ∃ others : List β, second.map read = others.map some ∧ values.Perm others := by
  -- Every element of the second list is one of the first, so it is read as well.
  have each := exists_map_some_iff.mp ⟨values, readAll⟩
  obtain ⟨others, readOthers⟩ := exists_map_some_iff.mpr fun element member =>
    each element (perm.mem_iff.mpr member)
  -- The values are those that the reader finds, and so the orders go along.
  have collected : ∀ {list : List α} {values : List β}, list.map read = values.map some →
      list.filterMap read = values := by
    intro list values readList
    have flattened := congrArg (List.filterMap id) readList
    simpa only [List.filterMap_map, Function.id_comp, List.filterMap_some] using flattened
  exact ⟨others, readOthers, collected readAll ▸ collected readOthers ▸ perm.filterMap read⟩
