import NdnMps.Schema.Repair

/-! What a renewed list still has of the schema: the required signers always, the optional ones
where the loss is covered. -/

namespace NdnMps

namespace MultipartySchema

/-- Every required pattern is matched as often as it asks for. -/
def MeetsRequired (schema : MultipartySchema) (signers : List Name) : Prop :=
  ∀ pattern ∈ schema.signers, pattern.times ≤ pattern.count signers

/-- A list that passes meets every required pattern. -/
theorem meetsRequired_of_passSchema {schema : MultipartySchema} {signers : List Name}
    (passes : schema.passSchema signers = true) : schema.MeetsRequired signers :=
  ((schema.passSchema_iff_counts signers).mp passes).1

/-- The schema without its optional signers. -/
def requiredOnly (schema : MultipartySchema) : MultipartySchema :=
  { schema with minOptionalSigners := 0 }

/-- Required signers are all that the schema without the optional ones asks for. -/
theorem requiredOnly_accepts_iff {schema : MultipartySchema} {signers : List Name} :
    schema.requiredOnly.policy.Accepts signers ↔ schema.MeetsRequired signers := by
  rw [← passSchema_iff, passSchema_iff_counts]
  exact and_iff_left (Nat.zero_le _)

end MultipartySchema

namespace MultipartySchemaContainer

variable {κ : Type} {container : MultipartySchemaContainer κ}

/-- A lost signer is replaced by a refill and a top-up, or there is no refill. -/
theorem replaceSigner_outcome (named : container.NamesNonempty) (schema : MultipartySchema)
    (signers : List Name) (unavailableKey : Name) (policy : Policy Name) :
    (∃ refilled renewed gain extra,
        Refill policy (container.markUnavailable unavailableKey).available
          (lostQuotas unavailableKey schema.signers) (remaining signers unavailableKey)
          refilled gain ∧
        TopUp policy (container.markUnavailable unavailableKey).available
          (schema.optionalSigners.map WildCardName.quota) refilled renewed extra ∧
        (container.replaceSigner signers unavailableKey schema).2.1 = renewed.toList) ∨
      ((container.replaceSigner signers unavailableKey schema).2.1 = [] ∧
        ∀ refilled gain, ¬ Refill policy (container.markUnavailable unavailableKey).available
          (lostQuotas unavailableKey schema.signers) (remaining signers unavailableKey)
          refilled gain) := by
  -- The first loop refills the required quotas that the lost key counted for, or gives up.
  have marked : (container.markUnavailable unavailableKey).NamesNonempty := named
  rcases replaceRequired_spec marked policy unavailableKey schema.signers
    (remaining signers unavailableKey) .empty with
    ⟨refilled, diff, gain, result, refill⟩ | ⟨result, impossible⟩
  · obtain ⟨extra, topUp⟩ := replaceOptional_spec marked policy schema.optionalSigners refilled diff
    exact .inl ⟨refilled, _, gain, extra, refill, topUp, by rw [replaceSigner_of_some result rfl]⟩
  · exact .inr ⟨by rw [replaceSigner_of_none result], impossible⟩

section Loss

variable (named : container.NamesNonempty) {schema : MultipartySchema} {signers : List Name}
  {unavailableKey : Name}

include named

/-- A renewed list meets every required pattern that the old one has met. -/
theorem replaceSigner_meetsRequired (distinct : signers.Nodup) (listed : unavailableKey ∈ signers)
    (met : schema.MeetsRequired signers)
    (found : (container.replaceSigner signers unavailableKey schema).2.1 ≠ []) :
    schema.MeetsRequired (container.replaceSigner signers unavailableKey schema).2.1 := by
  have accepted := MultipartySchema.requiredOnly_accepts_iff.mpr met
  rcases replaceSigner_outcome named schema signers unavailableKey schema.requiredOnly.policy with
    ⟨refilled, renewed, gain, extra, refill, topUp, same⟩ | ⟨nobody, -⟩
  · -- The refill has kept every quota, and the top-up only adds signers.
    have kept := refilled_required distinct listed accepted refill
    rw [same]
    intro pattern member
    have reached := kept pattern.quota (List.mem_map_of_mem member)
    exact reached.trans (pattern.quota.count_mono topUp.subperm)
  · exact absurd nobody found

/-- The list of a session passes after a loss exactly when the loss is covered; without a
replacement it stays as it was. -/
theorem replaceSigner_passes_iff_covered (distinct : signers.Nodup)
    (listed : unavailableKey ∈ signers) (passes : schema.passSchema signers = true) :
    ((container.replaceSigner signers unavailableKey schema).2.1 = [] ∨
        schema.passSchema (container.replaceSigner signers unavailableKey schema).2.1 = true) ↔
      container.LossCovered schema signers unavailableKey := by
  have accepted := (schema.passSchema_iff signers).mp passes
  rcases replaceSigner_outcome named schema signers unavailableKey schema.policy with
    ⟨refilled, renewed, gain, extra, refill, topUp, same⟩ | ⟨nobody, impossible⟩
  · rw [same, MultipartySchema.passSchema_iff,
      renewed_passes_iff distinct listed accepted refill topUp]
    constructor
    · intro reached other further otherGain otherExtra otherRefill otherTopUp
      -- There is only one refill and only one top-up of it.
      obtain ⟨sameSet, sameGain⟩ := refill.unique otherRefill
      subst sameSet sameGain
      obtain ⟨sameRenewed, sameExtra⟩ := topUp.unique otherTopUp
      subst sameRenewed sameExtra
      exact reached
    · exact fun covered => covered _ _ _ _ refill topUp
  · refine ⟨fun _ refilled renewed gain extra refill => ?_, fun _ => .inl nobody⟩
    exact absurd refill (impossible refilled gain)

/-- A signer is given up only where no different available keys satisfy the schema, even if the list
has met no more than the required patterns. -/
theorem nobody_conforms (asks : schema.passSchema [] = false) (met : schema.MeetsRequired signers)
    (failed : (container.replaceSigner signers unavailableKey schema).2.1 = [])
    {selection : List Name} (distinct : selection.Nodup)
    (inside : ∀ name ∈ selection, name ∈ (container.markUnavailable unavailableKey).available) :
    schema.passSchema selection = false := by
  have marked : (container.markUnavailable unavailableKey).NamesNonempty := named
  by_contra passes
  have counts := (schema.passSchema_iff_counts selection).mp (Bool.not_eq_false _ ▸ passes)
  rcases replaceSigner_empty failed with
    ⟨pattern, member, reached, short, exhausted⟩ | ⟨nobody, required, optional⟩
  · -- A required pattern has too few candidates for any selection of them.
    have most := exhausted.count_le distinct inside
    have enough := counts.1 pattern member
    simp only [WildCardName.quota_count] at most
    omega
  · -- Otherwise nobody is left and nobody is needed, but the schema asks for somebody.
    have none : ∀ pattern ∈ schema.signers, pattern.times = 0 := by
      intro pattern member
      by_cases lost : pattern.match unavailableKey = true
      · exact times_eq_zero_of_needsNobody marked (required pattern member lost)
      · -- A pattern the lost key did not match was met by the others, and there are none.
        have before := met pattern member
        have uncounted : pattern.count signers = 0 := by
          refine List.countP_eq_zero.mpr fun name listed => ?_
          by_cases same : name = unavailableKey
          · exact same ▸ lost
          · have left := mem_remaining.mpr ⟨same, listed⟩
            rw [nobody] at left
            exact absurd left (SortedSet.not_mem_empty name)
        omega
    have total := optionalTotal_eq_zero marked optional distinct inside
    have nothing : schema.AsksForNobody := ⟨none, by have := counts.2; omega⟩
    rw [schema.passSchema_nil_iff.mpr nothing] at asks
    cases asks

end Loss

end MultipartySchemaContainer

end NdnMps
