import NdnMps.Data.Policy

/-! Parties that are listed twice, and the quotas that count them twice. -/

namespace Quota

variable {α : Type*} [DecidableEq α] (quota : Quota α)

/-- The quota asks for more parties than the different ones it accepts, and accepts one that is
listed twice. -/
def CountsRepeated (parties : List α) : Prop :=
  quota.count parties.dedup < quota.times ∧
    ∃ party, quota.accepts party = true ∧ 1 < parties.count party

/-- The different parties of a list count for less exactly when an accepted one is listed twice. -/
theorem count_dedup_lt_iff (parties : List α) :
    quota.count parties.dedup < quota.count parties ↔
      ∃ party, quota.accepts party = true ∧ 1 < parties.count party := by
  have inside : (parties.dedup.filter quota.accepts).Sublist (parties.filter quota.accepts) :=
    (List.dedup_sublist parties).filter _
  simp only [count, List.countP_eq_length_filter]
  constructor
  · intro fewer
    -- Otherwise the accepted entries are as many as the different ones.
    by_contra none
    have distinct : (parties.filter quota.accepts).Nodup := by
      rw [List.nodup_iff_count_le_one]
      intro party
      by_cases accepted : quota.accepts party = true
      · rw [List.count_filter accepted]
        exact not_lt.mp fun twice => none ⟨party, accepted, twice⟩
      · have absent : party ∉ parties.filter quota.accepts :=
          fun member => accepted (List.mem_filter.mp member).2
        exact (List.count_eq_zero.mpr absent).le.trans (Nat.zero_le 1)
    have kept : parties.filter quota.accepts ⊆ parties.dedup.filter quota.accepts := by
      intro party member
      obtain ⟨listed, accepted⟩ := List.mem_filter.mp member
      exact List.mem_filter.mpr ⟨List.mem_dedup.mpr listed, accepted⟩
    have bounded := (distinct.subperm kept).length_le
    omega
  · rintro ⟨party, accepted, twice⟩
    -- With as many entries the two lists would be the same, and one of them has no repetition.
    refine lt_of_le_of_ne inside.length_le fun even => ?_
    have same := inside.eq_of_length even
    have once := List.nodup_iff_count_le_one.mp ((List.nodup_dedup parties).filter quota.accepts)
      party
    rw [same, List.count_filter accepted] at once
    omega

/-- They contribute less to a pooled total exactly when the quota counts a repeated party. -/
theorem capped_dedup_lt_iff (parties : List α) :
    quota.capped parties.dedup < quota.capped parties ↔ quota.CountsRepeated parties := by
  rw [CountsRepeated, ← count_dedup_lt_iff]
  unfold capped
  omega

/-- A quota that counts no repeated party is reached by the different parties alone. -/
theorem le_count_dedup {parties : List α} (sound : ¬ quota.CountsRepeated parties)
    (reached : quota.times ≤ quota.count parties) : quota.times ≤ quota.count parties.dedup := by
  by_contra short
  have fewer : quota.count parties.dedup < quota.count parties := by omega
  exact sound ⟨by omega, (quota.count_dedup_lt_iff parties).mp fewer⟩

end Quota

/-- Where no quota counts a repeated party, the different parties satisfy what the list does. -/
theorem Policy.Accepts.dedup {α : Type*} [DecidableEq α] {policy : Policy α} {parties : List α}
    (accepted : policy.Accepts parties)
    (sound : ∀ quota ∈ policy.required ++ policy.optional, ¬ quota.CountsRepeated parties) :
    policy.Accepts parties.dedup := by
  refine ⟨fun quota member => ?_, accepted.2.trans ?_⟩
  · exact quota.le_count_dedup (sound quota (List.mem_append_left _ member))
      (accepted.1 quota member)
  · -- No optional quota contributes less than before.
    refine List.sum_le_sum fun quota member => not_lt.mp fun less => ?_
    exact sound quota (List.mem_append_right _ member) ((quota.capped_dedup_lt_iff parties).mp less)
