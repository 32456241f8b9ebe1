import NdnMps.Data.Refill
import NdnMps.Schema.Policy

/-! Replacing a signer refills the required quotas and tops up the optional ones at most once. -/

namespace NdnMps

namespace MultipartySchemaContainer

variable {κ : Type} {container : MultipartySchemaContainer κ}

/-- Every trusted key has a name with at least one component. -/
def NamesNonempty (container : MultipartySchemaContainer κ) : Prop :=
  ∀ name ∈ container.trustedIds.names, name.empty = false

/-- The matched keys outside a set are the candidates for the pattern's next party. -/
theorem find?_nextParty {pattern : WildCardName} {set : SortedSet Name} {key : Name}
    (found : (container.getMatchedKeys pattern).find? (fun key => decide (key ∉ set)) =
      some key) :
    pattern.quota.NextParty container.available set key := by
  -- The first listed key outside the set is the least one.
  have least := SortedSet.find?_isLeast found
  have same : {name | name ∈ container.trustedIds.names.filter (fun name =>
        pattern.match name && decide (name ∉ container.unavailableSigners)) ∧
        decide (name ∉ set) = true} =
      {name | (name ∈ container.available ∧ pattern.quota.accepts name = true) ∧
        name ∉ set} := by
    ext name
    simp only [Set.mem_ofPred_eq, SortedSet.mem_filter, mem_available, Bool.and_eq_true,
      decide_eq_true_eq, WildCardName.quota_accepts]
    tauto
  rw [same] at least
  exact least

/-- Without a matched key outside a set the pattern's candidates are exhausted. -/
theorem find?_exhausted {pattern : WildCardName} {set : SortedSet Name}
    (missing : (container.getMatchedKeys pattern).find? (fun key => decide (key ∉ set)) =
      none) :
    pattern.quota.Exhausted container.available set := by
  -- Every candidate that the pattern accepts has been looked at.
  intro name member accepted
  have refused := List.find?_eq_none.mp missing name
    (container.mem_getMatchedKeys.mpr ⟨member, accepted⟩)
  simpa using refused

/-- A key search has one of three outcomes: nothing needed, the next party, or nobody left. -/
theorem findANewKeyForPattern_cases (set : SortedSet Name) (pattern : WildCardName) :
    (pattern.times ≤ pattern.count set.toList ∧
        container.findANewKeyForPattern set pattern = (true, .root)) ∨
      (pattern.count set.toList < pattern.times ∧
        ∃ key, pattern.quota.NextParty container.available set key ∧
          container.findANewKeyForPattern set pattern = (true, key)) ∨
      (pattern.count set.toList < pattern.times ∧
        pattern.quota.Exhausted container.available set ∧
          container.findANewKeyForPattern set pattern = (false, .root)) := by
  -- A pattern that is short takes the first matched key that is not in the set.
  by_cases met : pattern.count set.toList ≥ pattern.times
  · exact .inl ⟨met, by simp only [findANewKeyForPattern, if_pos met]⟩
  · have short : pattern.count set.toList < pattern.times := Nat.lt_of_not_le met
    cases found : (container.getMatchedKeys pattern).find? fun key => decide (key ∉ set) with
    | none =>
      refine .inr (.inr ⟨short, find?_exhausted found, ?_⟩)
      simp only [findANewKeyForPattern, if_neg met, found]
    | some key =>
      refine .inr (.inl ⟨short, key, find?_nextParty found, ?_⟩)
      simp only [findANewKeyForPattern, if_neg met, found]

/-- A party taken from the available keys has a non-empty name. -/
theorem nextParty_nonempty (named : container.NamesNonempty) {pattern : WildCardName}
    {set : SortedSet Name} {key : Name}
    (next : pattern.quota.NextParty container.available set key) : key.empty = false :=
  named key (container.mem_available.mp next.1.1.1).1

/-- The required quotas an unavailable key counted towards. -/
def lostQuotas (unavailableKey : Name) (patterns : List WildCardName) : List (Quota Name) :=
  (patterns.filter fun pattern => pattern.match unavailableKey).map WildCardName.quota

/-- The required loop refills the lost quotas, and stops without a result if it cannot. -/
theorem replaceRequired_spec (named : container.NamesNonempty) (policy : Policy Name)
    (unavailableKey : Name) (patterns : List WildCardName) (set diff : SortedSet Name) :
    (∃ after diff' gain,
        container.replaceRequired unavailableKey patterns set diff = some (after, diff') ∧
        Refill policy container.available (lostQuotas unavailableKey patterns) set after gain) ∨
      (container.replaceRequired unavailableKey patterns set diff = none ∧
        ∀ after gain,
          ¬ Refill policy container.available (lostQuotas unavailableKey patterns)
            set after gain) := by
  -- Each pattern is irrelevant to the lost key, met, refilled by one key, or beyond repair.
  induction patterns generalizing set diff with
  | nil => exact .inl ⟨set, diff, 0, rfl, .done set⟩
  | cons pattern rest ih =>
    by_cases lost : pattern.match unavailableKey = true
    · have quotas : lostQuotas unavailableKey (pattern :: rest) =
          pattern.quota :: lostQuotas unavailableKey rest := by
        simp [lostQuotas, lost]
      rw [quotas]
      rcases container.findANewKeyForPattern_cases set pattern with
        ⟨met, outcome⟩ | ⟨short, key, next, outcome⟩ | ⟨short, exhausted, outcome⟩
      · have step : container.replaceRequired unavailableKey (pattern :: rest) set diff =
            container.replaceRequired unavailableKey rest set diff := by
          simp [replaceRequired, lost, outcome, Name.root, Name.empty]
        rw [step]
        rcases ih set diff with ⟨after, diff', gain, result, refill⟩ | ⟨result, impossible⟩
        · exact .inl ⟨after, diff', gain, result, .met met refill⟩
        · refine .inr ⟨result, fun after gain refill => ?_⟩
          cases refill with
          | met _ others => exact impossible _ _ others
          | filled short _ _ =>
            simp only [WildCardName.quota_count, WildCardName.quota_times] at short
            omega
      · have step : container.replaceRequired unavailableKey (pattern :: rest) set diff =
            container.replaceRequired unavailableKey rest (set.insert key)
              (diff.insert key) := by
          simp [replaceRequired, lost, outcome, nextParty_nonempty named next]
        rw [step]
        rcases ih (set.insert key) (diff.insert key) with
          ⟨after, diff', gain, result, refill⟩ | ⟨result, impossible⟩
        · exact .inl ⟨after, diff', _, result, .filled short next refill⟩
        · refine .inr ⟨result, fun after gain refill => ?_⟩
          cases refill with
          | met reached _ =>
            simp only [WildCardName.quota_count, WildCardName.quota_times] at reached
            omega
          | filled _ other others =>
            -- The least candidate is unique, so the other refill took the same key.
            rw [other.unique next] at others
            exact impossible _ _ others
      · refine .inr ⟨by simp [replaceRequired, lost, outcome], fun after gain refill => ?_⟩
        cases refill with
        | met reached _ =>
          simp only [WildCardName.quota_count, WildCardName.quota_times] at reached
          omega
        | filled _ next _ => exact next.1.2 (exhausted _ next.1.1.1 next.1.1.2)
    · have quotas : lostQuotas unavailableKey (pattern :: rest) =
          lostQuotas unavailableKey rest := by
        simp [lostQuotas, lost]
      have step : container.replaceRequired unavailableKey (pattern :: rest) set diff =
          container.replaceRequired unavailableKey rest set diff := by
        simp [replaceRequired, lost]
      rw [quotas, step]
      exact ih set diff

/-- The optional loop tops up once, whatever the deficit. -/
theorem replaceOptional_spec (named : container.NamesNonempty) (policy : Policy Name)
    (patterns : List WildCardName) (set diff : SortedSet Name) :
    ∃ gain, TopUp policy container.available (patterns.map WildCardName.quota) set
      (container.replaceOptional patterns set diff).1 gain := by
  induction patterns generalizing set diff with
  | nil => exact ⟨0, .done set⟩
  | cons pattern rest ih =>
    rw [List.map_cons]
    -- A met pattern and one without a key are passed, and any other one ends the loop.
    rcases container.findANewKeyForPattern_cases set pattern with
      ⟨met, outcome⟩ | ⟨short, key, next, outcome⟩ | ⟨short, exhausted, outcome⟩
    · have step : container.replaceOptional (pattern :: rest) set diff =
          container.replaceOptional rest set diff := by
        simp [replaceOptional, outcome, Name.root, Name.empty]
      obtain ⟨gain, topUp⟩ := ih set diff
      rw [step]
      exact ⟨gain, .passed (.inl met) topUp⟩
    · have step : container.replaceOptional (pattern :: rest) set diff =
          (set.insert key, diff.insert key) := by
        simp [replaceOptional, outcome, nextParty_nonempty named next]
      rw [step]
      exact ⟨_, .added short next⟩
    · have step : container.replaceOptional (pattern :: rest) set diff =
          container.replaceOptional rest set diff := by
        simp [replaceOptional, outcome]
      obtain ⟨gain, topUp⟩ := ih set diff
      rw [step]
      exact ⟨gain, .passed (.inr exhausted) topUp⟩

/-- The signers left once a key is lost. -/
def remaining (signers : List Name) (unavailableKey : Name) : SortedSet Name :=
  (SortedSet.ofList signers).erase unavailableKey

/-- Two empty lists are returned where the required loop fails. -/
theorem replaceSigner_of_none {schema : MultipartySchema} {signers : List Name}
    {unavailableKey : Name}
    (failed : (container.markUnavailable unavailableKey).replaceRequired unavailableKey
      schema.signers (remaining signers unavailableKey) .empty = none) :
    container.replaceSigner signers unavailableKey schema =
      (container.markUnavailable unavailableKey, ([], [])) := by
  simp only [remaining] at failed
  simp only [replaceSigner, failed]

/-- The lists of the two sets are returned where the required loop succeeds. -/
theorem replaceSigner_of_some {schema : MultipartySchema} {signers : List Name}
    {unavailableKey : Name} {middle added renewed diff : SortedSet Name}
    (required : (container.markUnavailable unavailableKey).replaceRequired unavailableKey
      schema.signers (remaining signers unavailableKey) .empty = some (middle, added))
    (optional : (container.markUnavailable unavailableKey).replaceOptional schema.optionalSigners
      middle added = (renewed, diff)) :
    container.replaceSigner signers unavailableKey schema =
      (container.markUnavailable unavailableKey, (renewed.toList, diff.toList)) := by
  simp only [remaining] at required
  simp only [replaceSigner, required, optional]

/-- A lost signer's worth to the optional total is covered by the surplus of the list and by what
the keys taken for it are worth, unless nobody is left to sign. -/
def LossCovered (container : MultipartySchemaContainer κ) (schema : MultipartySchema)
    (signers : List Name) (unavailableKey : Name) : Prop :=
  -- The candidates exclude the lost key, and a required quota without one leaves no refill.
  ∀ refilled renewed gain extra,
    Refill schema.policy (container.markUnavailable unavailableKey).available
      (lostQuotas unavailableKey schema.signers) (remaining signers unavailableKey)
      refilled gain →
    TopUp schema.policy (container.markUnavailable unavailableKey).available
      schema.policy.optional refilled renewed extra →
    renewed.toList = [] ∨
      schema.policy.worth (remaining signers unavailableKey).toList unavailableKey ≤
        (schema.policy.optionalTotal signers - schema.minOptionalSigners) + gain + extra

/-- The listed signers are the remaining ones and the lost one. -/
theorem remaining_perm {signers : List Name} {unavailableKey : Name} (distinct : signers.Nodup)
    (listed : unavailableKey ∈ signers) :
    signers.Perm (unavailableKey :: (remaining signers unavailableKey).toList) :=
  (SortedSet.ofList_perm distinct).symm.trans
    (SortedSet.erase_perm (SortedSet.mem_ofList.mpr listed))

/-- Losing one signer leaves every quota short of at most one party, and those that did not
accept the lost signer as they were. -/
theorem count_remaining {signers : List Name} {unavailableKey : Name} (distinct : signers.Nodup)
    (listed : unavailableKey ∈ signers) (pattern : WildCardName) :
    pattern.count signers = pattern.count (remaining signers unavailableKey).toList +
      if pattern.match unavailableKey then 1 else 0 := by
  -- Putting the lost key back in front changes the order only.
  have counted := pattern.quota.count_perm (remaining_perm distinct listed)
  rw [Quota.count_cons] at counted
  exact counted

/-- A required loop that ends with a set has kept every required quota. -/
theorem refilled_required {schema : MultipartySchema} {signers : List Name}
    {unavailableKey : Name} (distinct : signers.Nodup) (listed : unavailableKey ∈ signers)
    (accepted : schema.policy.Accepts signers) {candidates refilled : SortedSet Name}
    {gain : Nat} (refill : Refill schema.policy candidates
      (lostQuotas unavailableKey schema.signers) (remaining signers unavailableKey)
      refilled gain) :
    ∀ quota ∈ schema.policy.required, quota.times ≤ quota.count refilled.toList := by
  -- Before the loss the list met every quota, and the loss lowers a count by at most one.
  intro quota member
  obtain ⟨pattern, required, same⟩ := List.mem_map.mp member
  subst same
  have before := accepted.1 _ member
  have counted := count_remaining distinct listed pattern
  simp only [WildCardName.quota_times, WildCardName.quota_count] at before ⊢
  by_cases lost : pattern.match unavailableKey = true
  · -- A quota the lost key counted towards was refilled in its own turn.
    refine refill.reached (fun other otherMember => ?_) pattern.quota ?_
    · obtain ⟨lostPattern, found, same⟩ := List.mem_map.mp otherMember
      subst same
      obtain ⟨lostRequired, -⟩ := List.mem_filter.mp found
      have before := accepted.1 lostPattern.quota (List.mem_map_of_mem lostRequired)
      have counted := count_remaining distinct listed lostPattern
      simp only [WildCardName.quota_times, WildCardName.quota_count] at before ⊢
      split at counted <;> omega
    · exact List.mem_map_of_mem (List.mem_filter.mpr ⟨required, lost⟩)
  · -- Any other quota counts what it counted before.
    rw [if_neg lost] at counted
    have grown := pattern.quota.count_mono refill.subperm
    simp only [WildCardName.quota_count] at grown
    omega

/-- The renewed list passes exactly when the optional total covers the lost signer's worth. -/
theorem renewed_passes_iff {schema : MultipartySchema} {signers : List Name}
    {unavailableKey : Name} (distinct : signers.Nodup) (listed : unavailableKey ∈ signers)
    (accepted : schema.policy.Accepts signers) {candidates refilled renewed : SortedSet Name}
    {gain extra : Nat} (refill : Refill schema.policy candidates
      (lostQuotas unavailableKey schema.signers) (remaining signers unavailableKey)
      refilled gain)
    (topUp : TopUp schema.policy candidates schema.policy.optional refilled renewed extra) :
    schema.policy.Accepts renewed.toList ↔
      schema.policy.worth (remaining signers unavailableKey).toList unavailableKey ≤
        (schema.policy.optionalTotal signers - schema.minOptionalSigners) + gain + extra := by
  -- The required half always holds, and the optional half is the balance of the totals.
  have required := refilled_required distinct listed accepted refill
  have before : schema.policy.optionalTotal signers =
      schema.policy.optionalTotal (remaining signers unavailableKey).toList +
        schema.policy.worth (remaining signers unavailableKey).toList unavailableKey := by
    rw [schema.policy.optionalTotal_perm (remaining_perm distinct listed),
      schema.policy.optionalTotal_cons]
  have middle := refill.optionalTotal_eq
  have after := topUp.optionalTotal_eq
  have enough := accepted.2
  have minimum : schema.policy.minimum = schema.minOptionalSigners := rfl
  constructor
  · intro renewedAccepted
    have reached := renewedAccepted.2
    omega
  · intro covered
    refine ⟨fun quota member => (required quota member).trans (quota.count_mono topUp.subperm), ?_⟩
    omega

end MultipartySchemaContainer

end NdnMps
