import NdnMps.Data.Policy

/-! A party accepted by several optional quotas counts towards each of them: how the pooled total
differs from the number of parties behind it. -/

namespace Policy

variable {α : Type*} (policy : Policy α)

/-- The parties of a list that some optional quota accepts. -/
def contributors (parties : List α) : List α :=
  parties.filter fun party => policy.optional.any fun quota => quota.accepts party

/-- How often the parties of a list are accepted beyond the first time, over all optional quotas. -/
def furtherMatches (parties : List α) : Nat :=
  (parties.map fun party => policy.optional.countP (fun quota => quota.accepts party) - 1).sum

/-- How many matches of the optional quotas lie beyond what each of them counts. -/
def cutMatches (parties : List α) : Nat :=
  (policy.optional.map fun quota => quota.count parties - quota.times).sum

/-- Matches may be counted by quota or by party. -/
theorem sum_count_eq (quotas : List (Quota α)) (parties : List α) :
    (quotas.map fun quota => quota.count parties).sum =
      (parties.map fun party => quotas.countP fun quota => quota.accepts party).sum := by
  -- The induction is on the parties, each of which adds one match for every quota accepting it.
  induction parties with
  | nil =>
    simp only [Quota.count_nil, List.map_nil, List.sum_nil]
    exact List.sum_eq_zero (by simp)
  | cons party rest ih =>
    have split : ∀ quotas : List (Quota α),
        (quotas.map fun quota => quota.count (party :: rest)).sum =
          quotas.countP (fun quota => quota.accepts party) +
            (quotas.map fun quota => quota.count rest).sum := by
      intro quotas
      induction quotas with
      | nil => rfl
      | cons quota others tail =>
        rw [List.map_cons, List.sum_cons, tail, List.map_cons, List.sum_cons, Quota.count_cons,
          List.countP_cons]
        omega
    rw [split, ih, List.map_cons, List.sum_cons]

/-- The matches of a list are its contributors and their further matches. -/
theorem sum_matches_eq (parties : List α) :
    (parties.map fun party => policy.optional.countP fun quota => quota.accepts party).sum =
      (policy.contributors parties).length + policy.furtherMatches parties := by
  simp only [contributors, furtherMatches]
  induction parties with
  | nil => rfl
  | cons party rest ih =>
    -- A party counts as a contributor exactly when it is accepted at least once.
    by_cases accepted : policy.optional.any (fun quota => quota.accepts party) = true
    · have positive : 0 < policy.optional.countP fun quota => quota.accepts party := by
        rw [List.countP_pos_iff]
        exact List.any_eq_true.mp accepted
      simp only [List.map_cons, List.sum_cons, List.filter_cons, accepted, if_true,
        List.length_cons, ih]
      omega
    · have never : policy.optional.countP (fun quota => quota.accepts party) = 0 := by
        rw [List.countP_eq_zero]
        intro quota member accepts
        exact accepted (List.any_eq_true.mpr ⟨quota, member, accepts⟩)
      simp only [List.map_cons, List.sum_cons, List.filter_cons, accepted, never, ih]
      simp only [Bool.false_eq_true, if_false]
      omega

/-- The pooled total exceeds the number of contributors by their further matches, less the matches
that are cut off. -/
theorem optionalTotal_add_cutMatches (parties : List α) :
    policy.optionalTotal parties + policy.cutMatches parties =
      (policy.contributors parties).length + policy.furtherMatches parties := by
  rw [← policy.sum_matches_eq, ← sum_count_eq]
  simp only [optionalTotal, cutMatches]
  -- Every quota counts some of its matches and cuts the others off.
  induction policy.optional with
  | nil => rfl
  | cons quota rest ih =>
    have both : quota.capped parties + (quota.count parties - quota.times) =
        quota.count parties := by
      unfold Quota.capped
      omega
    simp only [List.map_cons, List.sum_cons]
    omega

/-- Parties that no two optional quotas accept have no further matches. -/
theorem furtherMatches_eq_zero {parties : List α}
    (apart : ∀ party ∈ parties,
      policy.optional.countP (fun quota => quota.accepts party) ≤ 1) :
    policy.furtherMatches parties = 0 := by
  -- Every party adds what it matches beyond the first quota.
  apply List.sum_eq_zero
  intro number member
  obtain ⟨party, listed, same⟩ := List.mem_map.mp member
  have once := apart party listed
  omega

/-- Where no two optional quotas that ask for somebody accept one party, the pooled total counts
different parties. -/
theorem optionalTotal_le_contributors {parties : List α}
    (apart : ∀ party ∈ parties, policy.optional.countP (fun quota =>
      quota.accepts party && decide (0 < quota.times)) ≤ 1) :
    policy.optionalTotal parties ≤ (policy.contributors parties).length := by
  -- The quotas that ask for nobody contribute nothing.
  let asking : Policy α :=
    { policy with optional := policy.optional.filter fun quota => decide (0 < quota.times) }
  have total : policy.optionalTotal parties = asking.optionalTotal parties := by
    simp only [optionalTotal, asking]
    induction policy.optional with
    | nil => rfl
    | cons quota rest ih =>
      by_cases asks : 0 < quota.times
      · simp [asks, ih]
      · have none : quota.capped parties = 0 := by
          unfold Quota.capped
          omega
        simp [asks, ih, none]
  have once : asking.furtherMatches parties = 0 := by
    refine asking.furtherMatches_eq_zero fun party listed => ?_
    rw [List.countP_filter]
    exact apart party listed
  -- What contributes to one of these quotas contributes to one of all.
  have fewer : (asking.contributors parties).length ≤ (policy.contributors parties).length := by
    refine (List.monotone_filter_right parties fun party contributes => ?_).length_le
    obtain ⟨quota, member, accepted⟩ := List.any_eq_true.mp contributes
    exact List.any_eq_true.mpr ⟨quota, (List.mem_filter.mp member).1, accepted⟩
  have counted := asking.optionalTotal_add_cutMatches parties
  omega

end Policy
