import NdnMps.Data.Overlap
import NdnMps.Schema.Repetition

/-! Optional patterns may overlap, and the check counts a signer once for each of them. -/

namespace NdnMps

namespace MultipartySchema

/-- The different signers of a list that match some optional pattern. -/
def differentOptional (schema : MultipartySchema) (signers : List Name) : List Name :=
  signers.dedup.filter fun signer =>
    schema.optionalSigners.any fun pattern => pattern.match signer

/-- How many optional patterns count a signer: those that match it and ask for somebody. -/
def optionalCounts (schema : MultipartySchema) (signer : Name) : Nat :=
  schema.optionalSigners.countP fun pattern => pattern.match signer && decide (0 < pattern.times)

/-- A list that passes has as many different optional signers as the rule asks for. -/
def AsksForDifferent (schema : MultipartySchema) (signers : List Name) : Prop :=
  schema.passSchema signers = true →
    schema.minOptionalSigners ≤ (schema.differentOptional signers).length

/-- Where no two optional patterns count one signer, the total of the check counts different
signers. -/
theorem optionalTotal_le_differentOptional {schema : MultipartySchema} {signers : List Name}
    (distinct : signers.Nodup) (apart : ∀ signer ∈ signers, schema.optionalCounts signer ≤ 1) :
    schema.optionalTotal signers ≤ (schema.differentOptional signers).length := by
  -- The policy of the schema has the same quotas, and the same signers contribute to them.
  have contributors : schema.policy.contributors signers = schema.differentOptional signers := by
    rw [differentOptional, distinct.dedup]
    simp only [Policy.contributors, policy, List.any_map]
    rfl
  rw [← contributors]
  refine schema.policy.optionalTotal_le_contributors fun signer listed => ?_
  simp only [policy, List.countP_map]
  exact apart signer listed

/-- The rule that asks for a number of the optional signers and for no required one. -/
def optionalOnly (schema : MultipartySchema) (minimum : Nat) : MultipartySchema :=
  { schema with signers := [], minOptionalSigners := minimum }

/-- Such a rule accepts one signer alone for as many as there are patterns that count it. -/
theorem passSchema_optionalOnly (schema : MultipartySchema) (minimum : Nat) (signer : Name) :
    (schema.optionalOnly minimum).passSchema [signer] = true ↔
      minimum ≤ schema.optionalCounts signer := by
  have empty : (schema.optionalOnly minimum).policy.optionalTotal [] = 0 :=
    List.sum_eq_zero (by simp [Quota.capped])
  -- Nobody else is listed, so every pattern that asks for somebody is unmet.
  have worth : (schema.optionalOnly minimum).policy.worth [] signer =
      schema.optionalCounts signer := List.countP_map ..
  have total : (schema.optionalOnly minimum).optionalTotal [signer] =
      schema.optionalCounts signer := by
    rw [optionalTotal, Policy.optionalTotal_cons, empty, worth, Nat.zero_add]
  rw [passSchema_iff_counts, total]
  simp [optionalOnly]

/-- Among different signers of whom no two optional patterns count one, the check asks for
different optional signers; a signer whom two of them count passes for two. -/
theorem passSchema_asksForDifferent (schema : MultipartySchema) {signers : List Name}
    (distinct : signers.Nodup) :
    ((∀ signer ∈ signers, schema.optionalCounts signer ≤ 1) → schema.AsksForDifferent signers) ∧
      ∀ signer, 1 < schema.optionalCounts signer →
        ¬ (schema.optionalOnly 2).AsksForDifferent [signer] := by
  constructor
  · intro apart passes
    exact ((schema.passSchema_iff_counts signers).mp passes).2.trans
      (optionalTotal_le_differentOptional distinct apart)
  · intro signer twice different
    -- The signer alone passes, and one signer is not two.
    have enough := different ((schema.passSchema_optionalOnly 2 signer).mpr twice)
    have bounded : ((schema.optionalOnly 2).differentOptional [signer]).length ≤ 1 :=
      List.length_filter_le _ _
    simp only [optionalOnly] at enough bounded
    omega

/-- A key that two of the optional patterns accept. -/
def sharedKey : Name := .ofTexts ["a", "KEY", "1"]

/-- A rule for one packet that asks for two of the optional signers, whose patterns overlap. -/
def overlapping : MultipartySchema :=
  ⟨.ofName (.ofTexts ["data"]), "rule", [], [.ofName sharedKey,
    ⟨⟨[.ofString "a", .ofString "KEY", ⟨wildcardNameType, []⟩]⟩, 1⟩], 2⟩

/-- Two signers, of which one matches both optional patterns. -/
theorem passSchema_asksForDifferent_two :
    [sharedKey, .ofTexts ["a", "KEY", "2"]].Nodup ∧
      ((∀ signer ∈ [sharedKey, .ofTexts ["a", "KEY", "2"]],
            overlapping.optionalCounts signer ≤ 1) →
          overlapping.AsksForDifferent [sharedKey, .ofTexts ["a", "KEY", "2"]]) ∧
        ∀ signer, 1 < overlapping.optionalCounts signer →
          ¬ (overlapping.optionalOnly 2).AsksForDifferent [signer] := by
  have distinct : [sharedKey, .ofTexts ["a", "KEY", "2"]].Nodup := by decide
  exact ⟨distinct, overlapping.passSchema_asksForDifferent distinct⟩

/-- One signer passes for two. -/
theorem passSchema_counts_overlap :
    [sharedKey].Nodup ∧ overlapping.passSchema [sharedKey] = true ∧
      ¬ overlapping.minOptionalSigners ≤ (overlapping.differentOptional [sharedKey]).length := by
  refine ⟨by decide, by decide, ?_⟩
  decide

end MultipartySchema

end NdnMps
