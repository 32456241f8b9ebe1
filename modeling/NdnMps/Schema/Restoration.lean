import NdnMps.Schema.Conformity
import NdnMps.Schema.Minimal

/-! When the list without a lost signer passes again, said of the schema, the remaining signers, and
the keys that are left to choose from. -/

namespace NdnMps

namespace MultipartySchemaContainer

variable {κ : Type} {container : MultipartySchemaContainer κ} {schema : MultipartySchema}
variable {signers : List Name} {unavailableKey : Name}

/-- A required pattern that counted the lost key is short without it, and no available key but the
remaining signers matches it. -/
def BeyondRepair (container : MultipartySchemaContainer κ) (schema : MultipartySchema)
    (signers : List Name) (unavailableKey : Name) : Prop :=
  ∃ pattern ∈ schema.signers, pattern.match unavailableKey = true ∧
    pattern.count (remaining signers unavailableKey).toList < pattern.times ∧
    pattern.quota.Exhausted (container.markUnavailable unavailableKey).available
      (remaining signers unavailableKey)

/-- An optional pattern is short without the lost key, and an available key besides the remaining
signers matches it. -/
def Relievable (container : MultipartySchemaContainer κ) (schema : MultipartySchema)
    (signers : List Name) (unavailableKey : Name) : Prop :=
  ∃ pattern ∈ schema.optionalSigners,
    ¬ pattern.quota.Idle (container.markUnavailable unavailableKey).available
      (remaining signers unavailableKey)

/-- The lost key was the only signer, nobody is required in its place, and no optional signer is to
be had. -/
def NobodyLeft (container : MultipartySchemaContainer κ) (schema : MultipartySchema)
    (signers : List Name) (unavailableKey : Name) : Prop :=
  (∀ name ∈ signers, name = unavailableKey) ∧
    (∀ pattern ∈ schema.signers, pattern.match unavailableKey = true → pattern.times = 0) ∧
    ¬ container.Relievable schema signers unavailableKey

/-- The loss is beyond repair or leaves nobody, or the remaining signers count for as many optional
ones as the schema asks for, or for one less where one more can be had. -/
def LossBearable (container : MultipartySchemaContainer κ) (schema : MultipartySchema)
    (signers : List Name) (unavailableKey : Name) : Prop :=
  container.BeyondRepair schema signers unavailableKey ∨
    container.NobodyLeft schema signers unavailableKey ∨
    schema.minOptionalSigners ≤
      schema.optionalTotal (remaining signers unavailableKey).toList ∨
    schema.minOptionalSigners ≤
        schema.optionalTotal (remaining signers unavailableKey).toList + 1 ∧
      container.Relievable schema signers unavailableKey

/-- A replacement that is found passes the schema. -/
def Restores (container : MultipartySchemaContainer κ) (schema : MultipartySchema)
    (signers : List Name) (unavailableKey : Name) : Prop :=
  (container.replaceSigner signers unavailableKey schema).2.1 ≠ [] →
    schema.passSchema (container.replaceSigner signers unavailableKey schema).2.1 = true

/-- The required patterns that counted the lost key are refilled unless one is beyond repair. -/
theorem exists_refill_iff (container : MultipartySchemaContainer κ) (distinct : signers.Nodup)
    (listed : unavailableKey ∈ signers) (passes : schema.passSchema signers = true) :
    (∃ refilled gain, Refill schema.policy (container.markUnavailable unavailableKey).available
        (lostQuotas unavailableKey schema.signers) (remaining signers unavailableKey)
        refilled gain) ↔
      ¬ container.BeyondRepair schema signers unavailableKey := by
  -- The loss has lowered each count by one at most.
  have nearly : ∀ quota ∈ lostQuotas unavailableKey schema.signers,
      quota.times ≤ quota.count (remaining signers unavailableKey).toList + 1 := by
    intro quota member
    obtain ⟨pattern, found, same⟩ := List.mem_map.mp member
    subst same
    have before := ((schema.passSchema_iff_counts signers).mp passes).1 pattern
      (List.mem_filter.mp found).1
    have counted := count_remaining distinct listed pattern
    simp only [WildCardName.quota_times, WildCardName.quota_count]
    split at counted <;> omega
  rw [Refill.exists_iff schema.policy nearly]
  constructor
  · rintro fillable ⟨pattern, required, lost, short, exhausted⟩
    have member : pattern.quota ∈ lostQuotas unavailableKey schema.signers :=
      List.mem_map_of_mem (List.mem_filter.mpr ⟨required, lost⟩)
    exact absurd (fillable pattern.quota member (.inr exhausted)) (Nat.not_le.mpr short)
  · rintro repairable quota member (reached | exhausted)
    · exact reached
    · obtain ⟨pattern, found, same⟩ := List.mem_map.mp member
      subst same
      obtain ⟨required, lost⟩ := List.mem_filter.mp found
      by_contra short
      exact repairable ⟨pattern, required, lost, Nat.lt_of_not_le short, exhausted⟩

section Repaired

variable {refilled renewed : SortedSet Name} {gain extra : Nat}
variable (refill : Refill schema.policy (container.markUnavailable unavailableKey).available
  (lostQuotas unavailableKey schema.signers) (remaining signers unavailableKey) refilled gain)
variable (topUp : TopUp schema.policy (container.markUnavailable unavailableKey).available
  schema.policy.optional refilled renewed extra)

include refill topUp

/-- Where one more optional signer can be had, the renewed list counts for one more. -/
theorem optionalTotal_lt_of_relievable
    (relievable : container.Relievable schema signers unavailableKey) :
    schema.optionalTotal (remaining signers unavailableKey).toList <
      schema.optionalTotal renewed.toList := by
  obtain ⟨pattern, optional, busy⟩ := relievable
  have member : pattern.quota ∈ schema.policy.optional := List.mem_map_of_mem optional
  have short := Nat.lt_of_not_le fun met => busy (.inl met)
  have middle := refill.optionalTotal_eq
  have after := topUp.optionalTotal_eq
  simp only [MultipartySchema.optionalTotal]
  by_cases nothing : extra = 0
  · -- The top-up finds the pattern idle only where the refill has already counted for it.
    have idle := (topUp.gain_eq_zero_iff (List.Subset.refl _)).mp nothing pattern.quota member
    have rises : pattern.quota.count (remaining signers unavailableKey).toList <
        pattern.quota.count refilled.toList := by
      rcases idle with met | exhausted
      · exact short.trans_le met
      · obtain ⟨key, next⟩ := Quota.exists_nextParty fun exhausted => busy (.inr exhausted)
        have inserted := Quota.count_insert_next next
        have inside : ((remaining signers unavailableKey).insert key).toList.Subperm
            refilled.toList := by
          refine (SortedSet.nodup _).subperm fun name listed => ?_
          rcases SortedSet.mem_insert.mp listed with same | earlier
          · exact same ▸ exhausted key next.1.1.1 next.1.1.2
          · exact refill.subperm.subset earlier
        have counted := pattern.quota.count_mono inside
        omega
    have rise := schema.policy.optionalTotal_lt refill.subperm member short rises
    omega
  · omega

/-- Where no available key matches two patterns, only the top-up counts for the minimum, and it
counts for one at most. -/
theorem gains_of_apart
    (apart : (container.markUnavailable unavailableKey).PatternsApart schema) :
    gain = 0 ∧ extra ≤ 1 := by
  constructor
  · refine refill.gain_eq_zero fun quota member key candidate accepts => ?_
    obtain ⟨pattern, found, same⟩ := List.mem_map.mp member
    subst same
    -- A key taken for a required pattern matches no optional one.
    refine List.countP_eq_zero.mpr fun other listed matched => ?_
    obtain ⟨optional, optionalListed, same⟩ := List.mem_map.mp listed
    subst same
    exact not_match_of_match apart candidate (List.mem_filter.mp found).1 optionalListed matched
      accepts
  · refine topUp.gain_le_one fun key candidate => ?_
    have once := apart key candidate
    rw [MultipartySchema.patterns, List.countP_append] at once
    rw [MultipartySchema.policy, List.countP_map]
    exact (Nat.le_add_left _ _).trans once

/-- A top-up that adds somebody finds a pattern that is short and not exhausted from the start. -/
theorem relievable_of_extra (added : extra ≠ 0) :
    container.Relievable schema signers unavailableKey := by
  by_contra idle
  refine added ((topUp.gain_eq_zero_iff (List.Subset.refl _)).mpr fun quota member => ?_)
  obtain ⟨pattern, optional, same⟩ := List.mem_map.mp member
  subst same
  -- What is met or exhausted stays so.
  rcases not_not.mp fun busy => idle ⟨pattern, optional, busy⟩ with met | exhausted
  · exact .inl (met.trans (pattern.quota.count_mono refill.subperm))
  · exact .inr fun key candidate accepts =>
      refill.subperm.subset (exhausted key candidate accepts)

/-- Where nobody is left, the renewed list is empty. -/
theorem NobodyLeft.renewed_eq_nil (nobody : container.NobodyLeft schema signers unavailableKey) :
    renewed.toList = [] := by
  obtain ⟨only, free, idle⟩ := nobody
  -- Neither loop takes anybody.
  have refilled_eq : refilled = remaining signers unavailableKey := by
    refine refill.eq_of_met fun quota member => ?_
    obtain ⟨pattern, found, same⟩ := List.mem_map.mp member
    obtain ⟨required, lost⟩ := List.mem_filter.mp found
    rw [← same, WildCardName.quota_times, free pattern required lost]
    exact Nat.zero_le _
  have renewed_eq : renewed = refilled := by
    refine topUp.eq_of_idle fun quota member => ?_
    obtain ⟨pattern, optional, same⟩ := List.mem_map.mp member
    rw [← same, refilled_eq]
    exact not_not.mp fun busy => idle ⟨pattern, optional, busy⟩
  rw [renewed_eq, refilled_eq]
  refine List.eq_nil_iff_forall_not_mem.mpr fun name member => ?_
  obtain ⟨other, listed⟩ := mem_remaining.mp (SortedSet.mem_toList.mp member)
  exact other (only name listed)

/-- Where the renewed list is empty, nobody is left. -/
theorem nobodyLeft_of_eq_nil
    (required : ∀ quota ∈ schema.policy.required, quota.times ≤ quota.count refilled.toList)
    (empty : renewed.toList = []) : container.NobodyLeft schema signers unavailableKey := by
  have refilled_nil : refilled.toList = [] := by
    have inside := topUp.subperm
    rw [empty] at inside
    exact List.subperm_nil.mp inside
  have remaining_nil : (remaining signers unavailableKey).toList = [] := by
    have inside := refill.subperm
    rw [refilled_nil] at inside
    exact List.subperm_nil.mp inside
  refine ⟨fun name listed => ?_, fun pattern member _ => ?_, fun relievable => ?_⟩
  · -- Another signer would remain.
    by_contra other
    have member := SortedSet.mem_toList.mpr (mem_remaining.mpr ⟨other, listed⟩)
    rw [remaining_nil] at member
    cases member
  · have met := required pattern.quota (List.mem_map_of_mem member)
    rw [refilled_nil] at met
    exact Nat.le_zero.mp met
  · -- An optional signer would have been added.
    have rise := optionalTotal_lt_of_relievable refill topUp relievable
    rw [empty, remaining_nil] at rise
    exact Nat.lt_irrefl _ rise

end Repaired

/-- A replacement that is found passes the schema where the loss is bearable, and only there if no
available key matches two patterns. -/
theorem replaceSigner_restores (container : MultipartySchemaContainer κ)
    (named : container.NamesNonempty) (schema : MultipartySchema) (signers : List Name)
    (unavailableKey : Name) (distinct : signers.Nodup)
    (passes : schema.passSchema signers = true) (listed : unavailableKey ∈ signers) :
    (container.LossBearable schema signers unavailableKey →
        container.Restores schema signers unavailableKey) ∧
      ((container.markUnavailable unavailableKey).PatternsApart schema →
        container.Restores schema signers unavailableKey →
        container.LossBearable schema signers unavailableKey) := by
  have accepted := (schema.passSchema_iff signers).mp passes
  have repair := exists_refill_iff container distinct listed passes
  rcases replaceSigner_outcome named schema signers unavailableKey schema.policy with
    ⟨refilled, renewed, gain, extra, refill, topUp, same⟩ | ⟨nobody, impossible⟩
  · have repairable := repair.mp ⟨refilled, gain, refill⟩
    have required := refilled_required distinct listed accepted refill
    have middle := refill.optionalTotal_eq
    have after := topUp.optionalTotal_eq
    constructor
    · intro bearable found
      -- The required patterns are met in any case, so the optional total decides.
      have enough : schema.minOptionalSigners ≤ schema.optionalTotal renewed.toList := by
        rcases bearable with broken | nobody | covered | ⟨short, relievable⟩
        · exact absurd broken repairable
        · rw [same] at found
          exact absurd (nobody.renewed_eq_nil refill topUp) found
        · exact covered.trans
            (schema.policy.optionalTotal_mono (refill.subperm.trans topUp.subperm))
        · exact short.trans (optionalTotal_lt_of_relievable refill topUp relievable)
      rw [same, MultipartySchema.passSchema_iff]
      exact ⟨fun quota member =>
        (required quota member).trans (quota.count_mono topUp.subperm), enough⟩
    · intro apart restores
      by_cases empty : renewed.toList = []
      · exact .inr (.inl (nobodyLeft_of_eq_nil refill topUp required empty))
      · have renewedPasses := restores (same ▸ empty)
        rw [same] at renewedPasses
        have enough := ((schema.passSchema_iff_counts _).mp renewedPasses).2
        obtain ⟨none, one⟩ := gains_of_apart refill topUp apart
        simp only [MultipartySchema.optionalTotal] at enough
        -- What is missing without the top-up is one signer, whom it has added.
        by_cases added : extra = 0
        · exact .inr (.inr (.inl (by simp only [MultipartySchema.optionalTotal]; omega)))
        · exact .inr (.inr (.inr ⟨by simp only [MultipartySchema.optionalTotal]; omega,
            relievable_of_extra refill topUp added⟩))
  · -- Without a refill nothing is reported as found.
    refine ⟨fun _ found => absurd nobody found, fun _ _ => .inl ?_⟩
    by_contra repairable
    obtain ⟨refilled, gain, refill⟩ := repair.mpr repairable
    exact impossible refilled gain refill

/-- A rule that asks for two of two optional signers. -/
def pooledSchema : MultipartySchema :=
  ⟨.ofName (.ofTexts ["data"]), "rule1", [],
    [.ofName (.ofTexts ["a", "KEY", "1"]), .ofName (.ofTexts ["b", "KEY", "1"])], 2⟩

/-- The loss of the first of two optional signers, both of whom are asked for. -/
theorem replaceSigner_restores_pooled :
    (pooledContainer.LossBearable pooledSchema
          [.ofTexts ["a", "KEY", "1"], .ofTexts ["b", "KEY", "1"]] (.ofTexts ["a", "KEY", "1"]) →
        pooledContainer.Restores pooledSchema
          [.ofTexts ["a", "KEY", "1"], .ofTexts ["b", "KEY", "1"]]
          (.ofTexts ["a", "KEY", "1"])) ∧
      ((pooledContainer.markUnavailable (.ofTexts ["a", "KEY", "1"])).PatternsApart pooledSchema →
        pooledContainer.Restores pooledSchema
          [.ofTexts ["a", "KEY", "1"], .ofTexts ["b", "KEY", "1"]] (.ofTexts ["a", "KEY", "1"]) →
        pooledContainer.LossBearable pooledSchema
          [.ofTexts ["a", "KEY", "1"], .ofTexts ["b", "KEY", "1"]]
          (.ofTexts ["a", "KEY", "1"])) := by
  refine replaceSigner_restores pooledContainer ?_ pooledSchema _ _ ?_ ?_ ?_
  · -- The trusted keys are listed, so their names can be looked at one by one.
    show ∀ name ∈ pooledContainer.trustedIds.names.toList, name.empty = false
    decide
  · decide
  · decide
  · decide

/-- The loop over the optional patterns reports a list that no longer passes. -/
theorem replaceSigner_reports_short_list :
    pooledSchema.passSchema [.ofTexts ["a", "KEY", "1"], .ofTexts ["b", "KEY", "1"]] = true ∧
      (pooledContainer.replaceSigner [.ofTexts ["a", "KEY", "1"], .ofTexts ["b", "KEY", "1"]]
        (.ofTexts ["a", "KEY", "1"]) pooledSchema).2 = ([.ofTexts ["b", "KEY", "1"]], []) ∧
      pooledSchema.passSchema [.ofTexts ["b", "KEY", "1"]] = false := by
  decide

end MultipartySchemaContainer

end NdnMps
