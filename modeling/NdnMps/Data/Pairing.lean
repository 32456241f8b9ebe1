import Mathlib.Algebra.Group.Hom.Instances
import Mathlib.Algebra.Ring.Int.Defs
import Mathlib.Algebra.Ring.Hom.Defs
import Mathlib.Algebra.Ring.Basic

/-! Bilinear pairings of two groups, and the multiples that they recognise. -/

/-- A bilinear pairing that vanishes nowhere else on a generator of the second group. -/
structure Pairing (G H T : Type*) [AddCommGroup G] [AddCommGroup H] [AddCommGroup T] where
  pair : G →+ H →+ T
  generator : H
  /-- Every element of the second group is a multiple of the generator. -/
  generates : ∀ point, ∃ scalar : ℤ, point = scalar • generator
  nondegenerate : ∀ point, pair point generator = 0 → point = 0

namespace Pairing

variable {G H T : Type*} [AddCommGroup G] [AddCommGroup H] [AddCommGroup T]
variable (pairing : Pairing G H T)

/-- A multiple may be taken on either side. -/
theorem pair_zsmul (scalar : ℤ) (base : G) (point : H) :
    pairing.pair (scalar • base) point = pairing.pair base (scalar • point) := by
  -- The pairing is additive on either side.
  rw [map_zsmul, map_zsmul]
  rfl

/-- Elements of the first group are told apart by what they pair to with the generator. -/
theorem pair_generator_inj {left right : G} :
    pairing.pair left pairing.generator = pairing.pair right pairing.generator ↔
      left = right := by
  constructor
  · intro same
    -- The difference pairs to zero.
    have difference : pairing.pair (left - right) pairing.generator = 0 := by
      rw [map_sub, AddMonoidHom.sub_apply, same, sub_self]
    exact sub_eq_zero.mp (pairing.nondegenerate _ difference)
  · exact fun same => by rw [same]

/-- The multiple of a base by the scalar that a point is of the generator. -/
noncomputable def multiple (base : G) (point : H) : G :=
  (pairing.generates point).choose • base

/-- The pairing recognises the multiple, whatever scalar was chosen. -/
theorem pair_eq_iff (candidate base : G) (point : H) :
    pairing.pair candidate pairing.generator = pairing.pair base point ↔
      candidate = pairing.multiple base point := by
  have chosen := (pairing.generates point).choose_spec
  have moved : pairing.pair base point =
      pairing.pair (pairing.multiple base point) pairing.generator := by
    rw [multiple, pair_zsmul, ← chosen]
  rw [moved, pairing.pair_generator_inj]

/-- A multiple of the generator has the same multiple of the base. -/
theorem multiple_zsmul (scalar : ℤ) (base : G) :
    pairing.multiple base (scalar • pairing.generator) = scalar • base := by
  -- The scalar on one side can be moved to the other one.
  rw [eq_comm, ← pair_eq_iff, pair_zsmul]

/-- Multiples add up as the points do. -/
theorem multiple_add (base : G) (left right : H) :
    pairing.multiple base (left + right) =
      pairing.multiple base left + pairing.multiple base right := by
  -- Both sides pair to the same with the generator.
  rw [eq_comm, ← pair_eq_iff, map_add, map_add, AddMonoidHom.add_apply,
    (pairing.pair_eq_iff _ base left).mpr rfl, (pairing.pair_eq_iff _ base right).mpr rfl]

/-- Integers pair by multiplication, and every one of them is a multiple of one. -/
def multiplication : Pairing ℤ ℤ ℤ where
  pair := AddMonoidHom.mul
  generator := 1
  generates point := ⟨point, by simp⟩
  nondegenerate point vanishes := by simpa using vanishes

end Pairing
