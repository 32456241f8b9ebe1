import NdnMps.Data.Policy

/-! Which party of an accepted list a threshold policy cannot do without. -/

namespace Policy

variable {α : Type*} (policy : Policy α)

/-- How many optional quotas count a listed party and would count one less without it. -/
def share (parties : List α) (party : α) : Nat :=
  policy.optional.countP fun quota =>
    quota.accepts party && decide (quota.count parties ≤ quota.times)

/-- A required quota has no more parties than it asks for, or the surplus of the pooled total is
below the share of the party. -/
def Critical (parties : List α) (party : α) : Prop :=
  (∃ quota ∈ policy.required, quota.accepts party = true ∧ quota.count parties ≤ quota.times) ∨
    policy.optionalTotal parties < policy.minimum + policy.share parties party

/-- The order of the parties does not matter. -/
theorem critical_perm {left right : List α} (perm : left.Perm right) (party : α) :
    policy.Critical left party ↔ policy.Critical right party := by
  -- Every count and the total are the same for both orders.
  simp only [Critical, share, policy.optionalTotal_perm perm, Quota.count_perm _ perm]

section Erase

variable [DecidableEq α] {parties : List α} {party : α}

/-- Without a listed party every quota that accepts it counts one less. -/
theorem count_erase (quota : Quota α) (listed : party ∈ parties) :
    quota.count parties =
      quota.count (parties.erase party) + if quota.accepts party then 1 else 0 := by
  -- Putting the party back in front changes the order only.
  rw [quota.count_perm (List.perm_cons_erase listed), quota.count_cons]

/-- Without a listed party the pooled total loses its share. -/
theorem optionalTotal_erase (listed : party ∈ parties) :
    policy.optionalTotal parties =
      policy.optionalTotal (parties.erase party) + policy.share parties party := by
  rw [policy.optionalTotal_perm (List.perm_cons_erase listed), policy.optionalTotal_cons]
  -- A quota below its number without the party is one that did not exceed it with the party.
  have same : policy.worth (parties.erase party) party = policy.share parties party := by
    apply List.countP_congr
    intro quota _
    have counted := count_erase quota listed
    -- Only an accepting quota is affected at all.
    cases accepted : quota.accepts party with
    | false => simp
    | true =>
      simp only [accepted, if_true] at counted
      simp only [Bool.true_and, decide_eq_true_eq]
      omega
  rw [same]

/-- An accepted list stays accepted without a party exactly when the party is not critical. -/
theorem accepts_erase_iff (listed : party ∈ parties) (accepted : policy.Accepts parties) :
    policy.Accepts (parties.erase party) ↔ ¬ policy.Critical parties party := by
  -- The total without the party is the one balance that both directions need.
  have total := policy.optionalTotal_erase listed
  constructor
  · intro still critical
    rcases critical with ⟨quota, member, accepts, tight⟩ | short
    · -- A quota that was just met misses the party.
      have counted := count_erase quota listed
      rw [if_pos accepts] at counted
      have reached := still.1 quota member
      omega
    · -- The surplus was below the share, so the minimum is missed.
      have reached := still.2
      omega
  · intro dispensable
    constructor
    · intro quota member
      -- A quota that does not accept the party counts what it counted before.
      have before := accepted.1 quota member
      have counted := count_erase quota listed
      by_cases accepts : quota.accepts party = true
      · -- The quota has a party to spare, or the party would be critical.
        by_contra short
        rw [if_pos accepts] at counted
        exact dispensable (.inl ⟨quota, member, accepts, by omega⟩)
      · rw [if_neg accepts] at counted
        omega
    · by_contra short
      exact dispensable (.inr (by omega))

end Erase

end Policy
