import NdnMps.Data.SortedSet
import Mathlib.Data.List.Dedup
import Mathlib.Data.List.Count
import Mathlib.Algebra.BigOperators.Group.List.Basic
import Mathlib.Algebra.Order.BigOperators.Group.List
import Mathlib.Algebra.Order.Group.Nat
import Mathlib.Algebra.Ring.Nat

/-! Threshold policies: quotas on the parties of a list, some required and some optional. -/

/-- A class of parties together with the number of them that is asked for. -/
structure Quota (α : Type*) where
  /-- The parties that count towards the quota. -/
  accepts : α → Bool
  /-- How many of them are asked for. -/
  times : Nat

/-- A policy asks for every required quota and for a total over the optional ones. -/
structure Policy (α : Type*) where
  /-- Quotas that must each be reached. -/
  required : List (Quota α)
  /-- Quotas whose parties are pooled. -/
  optional : List (Quota α)
  /-- The total the optional quotas must reach together. -/
  minimum : Nat

variable {α : Type*}

namespace Quota

/-- The number of entries of a list that count towards a quota. -/
def count (quota : Quota α) (parties : List α) : Nat := parties.countP quota.accepts

/-- The contribution of a list to a pooled total, which never exceeds the quota. -/
def capped (quota : Quota α) (parties : List α) : Nat := min (quota.count parties) quota.times

@[simp] theorem count_nil (quota : Quota α) : quota.count [] = 0 := rfl

/-- A further party adds one exactly when the quota accepts it. -/
theorem count_cons (quota : Quota α) (party : α) (parties : List α) :
    quota.count (party :: parties) =
      quota.count parties + if quota.accepts party then 1 else 0 :=
  List.countP_cons

/-- Counting ignores the order of the parties. -/
theorem count_perm (quota : Quota α) {left right : List α} (perm : left.Perm right) :
    quota.count left = quota.count right := perm.countP_eq _

/-- More parties never count for less. -/
theorem count_mono (quota : Quota α) {fewer more : List α} (inside : fewer.Subperm more) :
    quota.count fewer ≤ quota.count more := inside.countP_le _

/-- More parties never contribute less to a pooled total. -/
theorem capped_mono (quota : Quota α) {fewer more : List α} (inside : fewer.Subperm more) :
    quota.capped fewer ≤ quota.capped more :=
  min_le_min_right _ (quota.count_mono inside)

/-- Different accepted parties of a list are all counted. -/
theorem length_le_count (quota : Quota α) {chosen parties : List α} (distinct : chosen.Nodup)
    (accepted : ∀ party ∈ chosen, quota.accepts party = true) (inside : chosen ⊆ parties) :
    chosen.length ≤ quota.count parties := by
  -- The chosen parties embed in the list, and each of them counts.
  have all : quota.count chosen = chosen.length := List.countP_eq_length.mpr accepted
  exact all ▸ quota.count_mono (distinct.subperm inside)

end Quota

namespace Policy

variable (policy : Policy α)

/-- The pooled contribution of a list to the optional quotas. -/
def optionalTotal (parties : List α) : Nat :=
  (policy.optional.map fun quota => quota.capped parties).sum

/-- A list satisfies a policy when every required quota and the pooled total are reached. -/
def Accepts (parties : List α) : Prop :=
  -- A party may count towards several quotas at once.
  (∀ quota ∈ policy.required, quota.times ≤ quota.count parties) ∧
    policy.minimum ≤ policy.optionalTotal parties

instance (parties : List α) : Decidable (policy.Accepts parties) :=
  inferInstanceAs (Decidable (_ ∧ _))

/-- The pooled total ignores the order of the parties. -/
theorem optionalTotal_perm {left right : List α} (perm : left.Perm right) :
    policy.optionalTotal left = policy.optionalTotal right := by
  simp only [optionalTotal, Quota.capped, Quota.count_perm _ perm]

/-- The pooled total grows with the list. -/
theorem optionalTotal_mono {fewer more : List α} (inside : fewer.Subperm more) :
    policy.optionalTotal fewer ≤ policy.optionalTotal more := by
  -- Each optional quota contributes at least as much as before.
  exact List.sum_le_sum fun quota _ => quota.capped_mono inside

/-- The pooled total rises with the count of an optional quota that is not met. -/
theorem optionalTotal_lt {fewer more : List α} (inside : fewer.Subperm more)
    {quota : Quota α} (member : quota ∈ policy.optional)
    (short : quota.count fewer < quota.times) (rises : quota.count fewer < quota.count more) :
    policy.optionalTotal fewer < policy.optionalTotal more := by
  refine List.sum_lt_sum _ _ (fun other _ => other.capped_mono inside) ⟨quota, member, ?_⟩
  unfold Quota.capped
  omega

variable {policy}

/-- Adding parties never breaks a policy. -/
theorem Accepts.mono {fewer more : List α} (accepted : policy.Accepts fewer)
    (inside : fewer.Subperm more) : policy.Accepts more :=
  ⟨fun quota member => (accepted.1 quota member).trans (quota.count_mono inside),
    accepted.2.trans (policy.optionalTotal_mono inside)⟩

/-- Some selection of different candidates is accepted exactly when all of them together are. -/
theorem accepts_some_selection_iff {candidates : List α} (distinct : candidates.Nodup) :
    (∃ selection : List α, selection.Nodup ∧ selection ⊆ candidates ∧ policy.Accepts selection) ↔
      policy.Accepts candidates := by
  constructor
  · -- A selection without repetitions embeds in the candidates, so adding the rest is harmless.
    rintro ⟨selection, once, inside, accepted⟩
    exact accepted.mono (once.subperm inside)
  · intro accepted
    exact ⟨candidates, distinct, List.Subset.refl _, accepted⟩

variable (policy)

/-- What a further party adds to the pooled total: one for every unmet quota accepting it. -/
def worth (parties : List α) (party : α) : Nat :=
  policy.optional.countP fun quota =>
    quota.accepts party && decide (quota.count parties < quota.times)

/-- A further party raises the pooled total by exactly its worth. -/
theorem optionalTotal_cons (party : α) (parties : List α) :
    policy.optionalTotal (party :: parties) =
      policy.optionalTotal parties + policy.worth parties party := by
  -- The induction is on the optional quotas, each of which rises by one or not at all.
  simp only [optionalTotal, worth]
  induction policy.optional with
  | nil => rfl
  | cons quota rest ih =>
    have rise : quota.capped (party :: parties) = quota.capped parties +
        if (quota.accepts party && decide (quota.count parties < quota.times)) then 1 else 0 := by
      simp only [Quota.capped, Quota.count_cons]
      by_cases accepted : quota.accepts party = true
      · by_cases unmet : quota.count parties < quota.times
        · simp only [accepted, unmet, decide_true, Bool.and_self, if_true]
          omega
        · simp only [accepted, unmet, decide_false, Bool.and_false, if_true]
          simp only [Bool.false_eq_true, if_false]
          omega
      · simp [accepted]
    simp only [List.map_cons, List.sum_cons, List.countP_cons, rise, ih]
    omega

end Policy
