import NdnMps.Data.Policy
import NdnMps.Schema

/-! A schema is a threshold policy on key names, and the container offers it candidates. -/

namespace NdnMps

/-- The quota a wildcard name asks for. -/
def WildCardName.quota (pattern : WildCardName) : Quota Name := ⟨pattern.match, pattern.times⟩

@[simp] theorem WildCardName.quota_count (pattern : WildCardName) (names : List Name) :
    pattern.quota.count names = pattern.count names := rfl

@[simp] theorem WildCardName.quota_times (pattern : WildCardName) :
    pattern.quota.times = pattern.times := rfl

@[simp] theorem WildCardName.quota_accepts (pattern : WildCardName) :
    pattern.quota.accepts = pattern.match := rfl

namespace MultipartySchema

/-- The policy a schema states about its signers. -/
def policy (schema : MultipartySchema) : Policy Name :=
  ⟨schema.signers.map WildCardName.quota, schema.optionalSigners.map WildCardName.quota,
    schema.minOptionalSigners⟩

/-- The executable total is the pooled total of the policy. -/
theorem foldl_capped_eq (names : List Name) (patterns : List WildCardName) (start : Nat) :
    patterns.foldl (fun total pattern => total + min (pattern.count names) pattern.times) start =
      start + ((patterns.map WildCardName.quota).map fun quota => quota.capped names).sum := by
  -- Each step adds one summand to the accumulator.
  induction patterns generalizing start with
  | nil => rfl
  | cons pattern rest ih =>
    simp only [List.foldl_cons, List.map_cons, List.sum_cons, ih]
    simp only [Quota.capped, WildCardName.quota_count, WildCardName.quota_times]
    omega

/-- The two counting loops decide exactly the policy. -/
theorem passSchema_iff (schema : MultipartySchema) (signers : List Name) :
    schema.passSchema signers = true ↔ schema.policy.Accepts signers := by
  -- The first loop fails on some required pattern, or the second one compares the total.
  have total := foldl_capped_eq signers schema.optionalSigners 0
  simp only [passSchema, total, Nat.zero_add]
  by_cases missing : schema.signers.any fun pattern => pattern.count signers < pattern.times
  · rw [if_pos missing]
    simp only [List.any_eq_true, decide_eq_true_eq] at missing
    obtain ⟨pattern, member, short⟩ := missing
    constructor
    · intro impossible
      cases impossible
    · intro accepted
      have reached := accepted.1 pattern.quota (List.mem_map_of_mem member)
      simp only [WildCardName.quota_times, WildCardName.quota_count] at reached
      omega
  · rw [if_neg missing]
    simp only [List.any_eq_true, decide_eq_true_eq, not_exists, not_and, not_lt] at missing
    simp only [decide_eq_true_eq, ge_iff_le]
    constructor
    · intro enough
      refine ⟨fun quota member => ?_, enough⟩
      obtain ⟨pattern, listed, same⟩ := List.mem_map.mp member
      subst same
      exact missing pattern listed
    · exact fun accepted => accepted.2

/-- A schema that accepts some signers accepts them among any others, in whatever order. -/
theorem passSchema_mono (schema : MultipartySchema) {fewer more : List Name}
    (inside : fewer.Subperm more) (passes : schema.passSchema fewer = true) :
    schema.passSchema more = true := by
  -- Every quota counts at least as many of the longer list, and so does the pooled total.
  have accepted : schema.policy.Accepts fewer := (schema.passSchema_iff fewer).mp passes
  exact (schema.passSchema_iff more).mpr (accepted.mono inside)

/-- Two keys of `a` satisfy three patterns that all match them, with another key between them. -/
theorem passSchema_mono_overlap :
    let key : String → Name := fun id => .ofTexts ["a", "KEY", id]
    let any : WildCardName :=
      ⟨⟨[.ofString "a", .ofString "KEY", ⟨wildcardNameType, []⟩]⟩, 2⟩
    let schema : MultipartySchema :=
      ⟨.ofName (.ofTexts ["data"]), "rule", [any], [any, .ofName (key "1")], 3⟩
    schema.passSchema [key "1", key "2"] = true ∧
      schema.passSchema [key "2", .ofTexts ["b", "KEY", "1"], key "1"] = true := by
  intro key any schema
  have passes : schema.passSchema [key "1", key "2"] = true := by decide
  -- The longer list has the two keys the other way round.
  have inside : [key "1", key "2"].Subperm [key "2", .ofTexts ["b", "KEY", "1"], key "1"] :=
    List.subperm_of_subset (by decide) (by decide)
  exact ⟨passes, schema.passSchema_mono inside passes⟩

/-- The order of the signers does not matter to a schema. -/
theorem passSchema_perm (schema : MultipartySchema) {first second : List Name}
    (perm : first.Perm second) : schema.passSchema first = schema.passSchema second := by
  -- Each list is inside the other, so either both pass or neither does.
  have accepts : schema.policy.Accepts first ↔ schema.policy.Accepts second :=
    ⟨fun accepted => accepted.mono perm.subperm, fun accepted => accepted.mono perm.symm.subperm⟩
  rw [Bool.eq_iff_iff, schema.passSchema_iff, schema.passSchema_iff]
  exact accepts

end MultipartySchema

namespace MultipartySchemaContainer

variable {κ : Type} (container : MultipartySchemaContainer κ)

/-- The trusted keys not known to be unavailable. -/
def available : SortedSet Name :=
  container.trustedIds.names.filter fun name => decide (name ∉ container.unavailableSigners)

/-- A key is available when it is trusted and not recorded as unavailable. -/
@[simp] theorem mem_available {name : Name} :
    name ∈ container.available ↔
      name ∈ container.trustedIds.names ∧ name ∉ container.unavailableSigners := by
  simp [available]

/-- The matched keys are the available keys that the pattern accepts, in order. -/
theorem getMatchedKeys_eq (pattern : WildCardName) :
    container.getMatchedKeys pattern = container.available.toList.filter pattern.match := by
  -- Filtering twice is filtering by both tests.
  simp only [getMatchedKeys, available, SortedSet.filter, List.filter_filter]

/-- Matched keys are listed once each. -/
theorem getMatchedKeys_nodup (pattern : WildCardName) :
    (container.getMatchedKeys pattern).Nodup := by
  rw [getMatchedKeys_eq]
  exact container.available.nodup.filter _

/-- The matched keys are as many as the pattern counts among the available ones. -/
theorem getMatchedKeys_length (pattern : WildCardName) :
    (container.getMatchedKeys pattern).length = pattern.count container.available.toList := by
  rw [getMatchedKeys_eq, WildCardName.count, List.countP_eq_length_filter]

/-- A matched key is available and matched. -/
theorem mem_getMatchedKeys {pattern : WildCardName} {name : Name} :
    name ∈ container.getMatchedKeys pattern ↔
      name ∈ container.available ∧ pattern.match name = true := by
  rw [getMatchedKeys_eq, List.mem_filter, SortedSet.mem_toList]

end MultipartySchemaContainer

end NdnMps
