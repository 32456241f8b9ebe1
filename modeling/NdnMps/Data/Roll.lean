import Mathlib.Logic.Function.Basic
import Mathlib.Logic.Relation

/-! Collecting an answer from each of some parties, any of which may fall silent or be replaced. -/

/-- Where a party stands whose answer is wanted. -/
inductive Standing where
  | asked
  | answered
  /-- The party will not answer, and nobody has noticed. -/
  | dropped
  /-- The party will not answer, and nobody takes its place. -/
  | lost
  deriving DecidableEq, Repr

/-- The parties whose answers are wanted, each with the one place where it stands. -/
def Roll (α : Type*) := α → Option Standing

namespace Roll

variable {α : Type*}

open Classical in
/-- Everybody on the roll is asked. -/
noncomputable def asking (parties : Set α) : Roll α :=
  fun party => if party ∈ parties then some .asked else none

open Classical in
/-- One party comes to stand elsewhere. -/
noncomputable def settle (roll : Roll α) (party : α) (standing : Standing) : Roll α :=
  Function.update roll party (some standing)

open Classical in
/-- One party leaves the roll, and others who are asked take its place. -/
noncomputable def replace (roll : Roll α) (party : α) (fresh : Set α) : Roll α :=
  fun other => if other ∈ fresh then some .asked else if other = party then none else roll other

/-- What may happen to a roll: a party that is asked gets its final standing or is replaced by
parties that are not on the roll. -/
inductive Step (roll : Roll α) : Roll α → Prop where
  | settled {party : α} {standing : Standing} (waits : roll party = some .asked)
      (final : standing ≠ .asked) : Step roll (roll.settle party standing)
  | replaced {party : α} {fresh : Set α} (waits : roll party = some .asked)
      (new : ∀ other ∈ fresh, roll other = none) : Step roll (roll.replace party fresh)

/-- Any number of steps. -/
abbrev Steps (first last : Roll α) : Prop := Relation.ReflTransGen Step first last

variable {roll after : Roll α}

@[simp] theorem asking_eq_some {parties : Set α} {party : α} {standing : Standing} :
    asking parties party = some standing ↔ party ∈ parties ∧ standing = .asked := by
  unfold asking
  split
  · simp_all [eq_comm]
  · simp_all

@[simp] theorem asking_eq_none {parties : Set α} {party : α} :
    asking parties party = none ↔ party ∉ parties := by
  simp [asking]

@[simp] theorem settle_self (roll : Roll α) (party : α) (standing : Standing) :
    roll.settle party standing party = some standing := by
  classical exact Function.update_self ..

theorem settle_of_ne {party other : α} (roll : Roll α) (standing : Standing)
    (different : other ≠ party) : roll.settle party standing other = roll other := by
  classical exact Function.update_of_ne different ..

theorem replace_of_mem {party other : α} {fresh : Set α} (roll : Roll α) (new : other ∈ fresh) :
    roll.replace party fresh other = some .asked := by
  simp [replace, new]

theorem replace_of_ne {party other : α} {fresh : Set α} (roll : Roll α) (old : other ∉ fresh)
    (different : other ≠ party) : roll.replace party fresh other = roll other := by
  simp [replace, old, different]

theorem replace_self {party : α} {fresh : Set α} (roll : Roll α) (old : party ∉ fresh) :
    roll.replace party fresh party = none := by
  simp [replace, old]

/-- A step leaves a party with a final standing where it stands. -/
theorem Step.final (step : Step roll after) {party : α} {standing : Standing}
    (stands : roll party = some standing) (final : standing ≠ .asked) :
    after party = some standing := by
  -- Only parties that are asked are settled or replaced, and nobody new was on the roll.
  cases step with
  | @settled other _ waits _ =>
    have different : party ≠ other := by
      rintro rfl
      exact final (Option.some.inj (stands.symm.trans waits))
    rw [settle_of_ne roll _ different, stands]
  | @replaced other fresh waits new =>
    have different : party ≠ other := by
      rintro rfl
      exact final (Option.some.inj (stands.symm.trans waits))
    have old : party ∉ fresh := by
      intro member
      rw [new party member] at stands
      cases stands
    rw [replace_of_ne roll old different, stands]

/-- A final standing is kept from then on. -/
theorem Steps.final (steps : Steps roll after) {party : α} {standing : Standing}
    (stands : roll party = some standing) (final : standing ≠ .asked) :
    after party = some standing := by
  -- Induction on the steps, each of which keeps it.
  induction steps with
  | refl => exact stands
  | tail _ step kept => exact step.final kept final

end Roll
