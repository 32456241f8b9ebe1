import Mathlib.Data.List.Forall2
import NdnMps.Data.Policy

/-! Threshold policies that ask for less than others. -/

variable {α : Type*}

namespace Quota

/-- Whoever counts towards the quota counts towards the other one as well. -/
def Within (quota other : Quota α) : Prop :=
  ∀ party, quota.accepts party = true → other.accepts party = true

/-- The wider quota counts no fewer entries of a list. -/
theorem Within.count_le {quota other : Quota α} (within : quota.Within other)
    (parties : List α) : quota.count parties ≤ other.count parties :=
  List.countP_mono_left fun party _ => within party

/-- A wider quota that pools as many of them gets no less from a list. -/
theorem Within.capped_le {quota other : Quota α} (within : quota.Within other)
    (times : quota.times ≤ other.times) (parties : List α) :
    quota.capped parties ≤ other.capped parties :=
  min_le_min (within.count_le parties) times

end Quota

namespace Policy

/-- A policy asks for no more than another one: each of its required quotas is a wider one of the
other's, for no more parties, it pools at least what the other pools, and its total is no
greater. -/
structure Relaxes (looser stricter : Policy α) : Prop where
  required : ∀ quota ∈ looser.required, ∃ other ∈ stricter.required,
    other.Within quota ∧ quota.times ≤ other.times
  optional : stricter.optional.SublistForall₂
    (fun other quota => other.Within quota ∧ other.times ≤ quota.times) looser.optional
  minimum : looser.minimum ≤ stricter.minimum

/-- A total grows with its summands and with further ones. -/
theorem sum_le_of_sublistForall₂ {β γ : Type*} {rel : β → γ → Prop} {value : β → Nat}
    {worth : γ → Nat} (grows : ∀ left right, rel left right → value left ≤ worth right)
    {fewer : List β} {more : List γ} (inside : fewer.SublistForall₂ rel more) :
    (fewer.map value).sum ≤ (more.map worth).sum := by
  -- Induction on how the fewer summands lie among the others.
  induction inside with
  | nil => exact Nat.zero_le _
  | cons related rest ih =>
    rw [List.map_cons, List.sum_cons, List.map_cons, List.sum_cons]
    exact Nat.add_le_add (grows _ _ related) ih
  | cons_right rest ih =>
    rw [List.map_cons, List.sum_cons]
    exact ih.trans (Nat.le_add_left _ _)

/-- A policy that asks for less accepts whatever the other one accepts. -/
theorem Relaxes.accepts {looser stricter : Policy α} (relaxes : looser.Relaxes stricter)
    {parties : List α} (accepted : stricter.Accepts parties) : looser.Accepts parties := by
  refine ⟨fun quota member => ?_, ?_⟩
  · obtain ⟨other, listed, within, fewer⟩ := relaxes.required quota member
    exact fewer.trans ((accepted.1 other listed).trans (within.count_le parties))
  · -- Every optional quota of the stricter policy is pooled by the looser one.
    have pooled : stricter.optionalTotal parties ≤ looser.optionalTotal parties :=
      sum_le_of_sublistForall₂ (fun _ _ related => related.1.capped_le related.2 parties)
        relaxes.optional
    exact relaxes.minimum.trans (accepted.2.trans pooled)

end Policy
