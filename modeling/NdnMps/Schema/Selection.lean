import NdnMps.Schema.Policy

/-! Signer selection finds a list that passes the schema exactly when the available keys allow
one. -/

namespace NdnMps

namespace MultipartySchemaContainer

variable {κ : Type} {container : MultipartySchemaContainer κ}

/-- The set lies between two bounds of a selection step. -/
structure Grown (container : MultipartySchemaContainer κ) (before after : SortedSet Name) :
    Prop where
  /-- Nothing chosen earlier is dropped. -/
  keeps : ∀ name ∈ before, name ∈ after
  /-- Whatever is new is an available key. -/
  adds : ∀ name ∈ after, name ∈ before ∨ name ∈ container.available

theorem Grown.refl (set : SortedSet Name) : Grown container set set :=
  ⟨fun _ member => member, fun _ member => .inl member⟩

theorem Grown.trans {first second third : SortedSet Name} (left : Grown container first second)
    (right : Grown container second third) : Grown container first third := by
  refine ⟨fun name member => right.keeps name (left.keeps name member), fun name member => ?_⟩
  rcases right.adds name member with earlier | fresh
  · exact left.adds name earlier
  · exact .inr fresh

/-- Inserting matched keys is a selection step. -/
theorem Grown.insertAll {pattern : WildCardName} (set : SortedSet Name) {keys : List Name}
    (inside : keys ⊆ container.getMatchedKeys pattern) :
    Grown container set (set.insertAll keys) := by
  -- What is inserted has been matched, and matched keys are available.
  refine ⟨fun name member => by simp [member], fun name member => ?_⟩
  rcases SortedSet.mem_insertAll.mp member with chosen | earlier
  · exact .inr (container.mem_getMatchedKeys.mp (inside chosen)).1
  · exact .inl earlier

/-- A larger set counts at least as many entries for every pattern. -/
theorem Grown.subperm {before after : SortedSet Name} (grown : Grown container before after) :
    before.toList.Subperm after.toList :=
  before.nodup.subperm fun name member => grown.keeps name member

/-- Chosen matched keys all count towards their pattern. -/
theorem length_le_count_of_matched {pattern : WildCardName} {keys : List Name}
    {set : SortedSet Name} (distinct : keys.Nodup)
    (matched : keys ⊆ container.getMatchedKeys pattern) (inside : ∀ name ∈ keys, name ∈ set) :
    keys.length ≤ pattern.count set.toList := by
  -- Matched keys are accepted by the quota, so each one of them counts.
  have accepted : ∀ name ∈ keys, pattern.quota.accepts name = true := fun name member =>
    (container.mem_getMatchedKeys.mp (matched member)).2
  exact pattern.quota.length_le_count distinct accepted inside

/-- A successful required loop has chosen enough keys for every required pattern. -/
theorem selectRequired_ok {patterns : List WildCardName} {before after : SortedSet Name}
    (selected : container.selectRequired patterns before = .ok after) :
    Grown container before after ∧
      ∀ pattern ∈ patterns, pattern.times ≤ pattern.count after.toList := by
  -- Each pattern contributes its first keys, and later patterns only add to them.
  induction patterns generalizing before with
  | nil =>
    simp only [selectRequired, Except.ok.injEq] at selected
    subst selected
    exact ⟨.refl _, by simp⟩
  | cons pattern rest ih =>
    simp only [selectRequired] at selected
    split at selected
    · cases selected
    · rename_i enough
      obtain ⟨grown, met⟩ := ih selected
      have taken : (container.getMatchedKeys pattern).take pattern.times ⊆
          container.getMatchedKeys pattern := List.take_subset _ _
      have step := (Grown.insertAll before taken).trans grown
      refine ⟨step, fun other member => ?_⟩
      rcases List.mem_cons.mp member with same | member
      · subst same
        have inside : ∀ name ∈ (container.getMatchedKeys other).take other.times,
            name ∈ after := fun name chosen => grown.keeps name (by simp [chosen])
        have counted := length_le_count_of_matched
          ((container.getMatchedKeys_nodup other).sublist (List.take_sublist _ _)) taken inside
        rw [List.length_take] at counted
        omega
      · exact met other member

/-- The required loop succeeds as soon as the available keys reach every required quota. -/
theorem selectRequired_complete {patterns : List WildCardName} (before : SortedSet Name)
    (enough : ∀ pattern ∈ patterns, pattern.times ≤ pattern.count container.available.toList) :
    ∃ after, container.selectRequired patterns before = .ok after := by
  -- No pattern is short of matched keys, so no exception is thrown.
  induction patterns generalizing before with
  | nil => exact ⟨before, rfl⟩
  | cons pattern rest ih =>
    have head := enough pattern (by simp)
    have long : ¬ (container.getMatchedKeys pattern).length < pattern.times := by
      rw [container.getMatchedKeys_length]
      omega
    obtain ⟨after, selected⟩ := ih
      (before.insertAll ((container.getMatchedKeys pattern).take pattern.times))
      fun other member => enough other (by simp [member])
    exact ⟨after, by simp only [selectRequired, if_neg long, selected]⟩

/-- The inner optional loop inserts a leading part of its keys and counts them. -/
theorem selectFromPattern_spec (minimum : Nat) (keys : List Name) (before : SortedSet Name)
    (count : Nat) :
    ∃ taken, taken <+: keys ∧
      (selectFromPattern minimum keys before count).1 = before.insertAll taken ∧
      (selectFromPattern minimum keys before count).2 = count + taken.length ∧
      ((selectFromPattern minimum keys before count).2 < minimum → taken = keys) := by
  -- The loop stops early only once the count has reached the minimum.
  induction keys generalizing before count with
  | nil => exact ⟨[], List.prefix_rfl, by simp [selectFromPattern, SortedSet.insertAll]⟩
  | cons key rest ih =>
    simp only [selectFromPattern]
    split
    · rename_i reached
      refine ⟨[key], ⟨rest, rfl⟩, rfl, rfl, fun below => ?_⟩
      omega
    · obtain ⟨taken, leading, chosen, counted, all⟩ := ih (before.insert key) (count + 1)
      refine ⟨key :: taken, List.cons_prefix_cons.mpr ⟨rfl, leading⟩, chosen, ?_, fun below => ?_⟩
      · rw [counted, List.length_cons]
        omega
      · rw [all below]

/-- The pooled contribution of a list to some optional patterns. -/
def pooled (patterns : List WildCardName) (names : List Name) : Nat :=
  (patterns.map fun pattern => pattern.quota.capped names).sum

/-- The optional loop counts no more than the chosen set contributes, and below the minimum it
counts everything the available keys could contribute. -/
theorem selectOptional_spec (container : MultipartySchemaContainer κ) (minimum : Nat)
    (patterns : List WildCardName) (before : SortedSet Name) (count : Nat) :
    Grown container before
        (container.selectOptional minimum patterns before count).1 ∧
      (container.selectOptional minimum patterns before count).2 ≤
        count + pooled patterns (container.selectOptional minimum patterns before count).1.toList ∧
      ((container.selectOptional minimum patterns before count).2 < minimum →
        (container.selectOptional minimum patterns before count).2 =
          count + pooled patterns container.available.toList) := by
  -- Each pattern adds at most its own capped contribution before the next one is looked at.
  induction patterns generalizing before count with
  | nil => exact ⟨.refl _, by simp [selectOptional], by simp [selectOptional, pooled]⟩
  | cons pattern rest ih =>
    let keys := (container.getMatchedKeys pattern).take
      (min (container.getMatchedKeys pattern).length pattern.times)
    obtain ⟨taken, leading, chosen, counted, all⟩ :=
      selectFromPattern_spec minimum keys before count
    have part : taken.Sublist (container.getMatchedKeys pattern) :=
      leading.sublist.trans (List.take_sublist _ _)
    have short : taken.length ≤ pattern.times := by
      have := leading.length_le
      simp only [keys, List.length_take] at this
      omega
    have first : Grown container before (before.insertAll taken) :=
      Grown.insertAll before part.subset
    -- What the inner loop counted is covered by any later set.
    have covered : ∀ after, Grown container (before.insertAll taken) after →
        taken.length ≤ pattern.quota.capped after.toList := by
      intro after grown
      refine le_min (length_le_count_of_matched
        ((container.getMatchedKeys_nodup pattern).sublist part) part.subset ?_) short
      exact fun name member => grown.keeps name (by simp [member])
    -- Without an early stop the inner loop counted the pattern's whole availability.
    have whole : taken = keys → taken.length = pattern.quota.capped container.available.toList := by
      intro same
      rw [same]
      simp only [keys, List.length_take, container.getMatchedKeys_length, Quota.capped,
        WildCardName.quota_count, WildCardName.quota_times]
      omega
    simp only [selectOptional, chosen, counted, keys] at all ⊢
    split
    · rename_i reached
      refine ⟨first, ?_, fun below => absurd reached (by omega)⟩
      have head := covered _ (.refl _)
      simp only [pooled, List.map_cons, List.sum_cons]
      omega
    · rename_i below
      obtain ⟨grown, bounded, exhausted⟩ := ih (before.insertAll taken) (count + taken.length)
      refine ⟨first.trans grown, ?_, fun still => ?_⟩
      · have head := covered _ grown
        simp only [pooled, List.map_cons, List.sum_cons] at bounded ⊢
        omega
      · have head := whole (all (by omega))
        have rest := exhausted still
        simp only [pooled, List.map_cons, List.sum_cons] at rest ⊢
        omega

/-- The pooled contribution to a schema's optional patterns is its policy's pooled total. -/
theorem pooled_optionalSigners (schema : MultipartySchema) (names : List Name) :
    pooled schema.optionalSigners names = schema.policy.optionalTotal names := by
  simp only [pooled, Policy.optionalTotal, MultipartySchema.policy, List.map_map]
  rfl

/-- A returned list lies within the available keys and satisfies the schema's policy. -/
theorem getAvailableSigners_sound {schema : MultipartySchema} {signers : List Name}
    (selected : container.getAvailableSigners schema = .ok signers) :
    signers.Nodup ∧ (∀ name ∈ signers, name ∈ container.available) ∧
      schema.policy.Accepts signers := by
  -- Both loops ran to the end, and the final comparison did not throw.
  simp only [getAvailableSigners, Bind.bind, Except.bind] at selected
  cases required : container.selectRequired schema.signers .empty with
  | error fault => simp [required] at selected
  | ok chosen =>
    simp only [required] at selected
    split at selected
    · cases selected
    · rename_i enough
      obtain ⟨first, met⟩ := selectRequired_ok required
      obtain ⟨second, bounded, -⟩ := selectOptional_spec container
        schema.minOptionalSigners schema.optionalSigners chosen 0
      simp only [Except.ok.injEq] at selected
      subst selected
      refine ⟨SortedSet.nodup _, fun name member => ?_, fun quota member => ?_, ?_⟩
      · exact ((first.trans second).adds name member).resolve_left (SortedSet.not_mem_empty name)
      · obtain ⟨pattern, listed, same⟩ := List.mem_map.mp member
        subst same
        exact (met pattern listed).trans (pattern.quota.count_mono second.subperm)
      · rw [← pooled_optionalSigners]
        have minimum : schema.policy.minimum = schema.minOptionalSigners := rfl
        omega

/-- A list is returned as soon as all available keys together satisfy the schema's policy. -/
theorem getAvailableSigners_complete {schema : MultipartySchema}
    (accepted : schema.policy.Accepts container.available.toList) :
    ∃ signers, container.getAvailableSigners schema = .ok signers := by
  -- No required pattern is short of keys, and the optional loop cannot end below the minimum.
  have enough : ∀ pattern ∈ schema.signers,
      pattern.times ≤ pattern.count container.available.toList := fun pattern member =>
    accepted.1 pattern.quota (List.mem_map_of_mem member)
  obtain ⟨chosen, required⟩ := selectRequired_complete .empty enough
  obtain ⟨-, -, exhausted⟩ := selectOptional_spec container
    schema.minOptionalSigners schema.optionalSigners chosen 0
  have reached : ¬ (container.selectOptional schema.minOptionalSigners schema.optionalSigners
      chosen 0).2 < schema.minOptionalSigners := by
    intro below
    have total := exhausted below
    rw [pooled_optionalSigners] at total
    have minimum : schema.policy.minimum = schema.minOptionalSigners := rfl
    have := accepted.2
    omega
  refine ⟨(container.selectOptional schema.minOptionalSigners schema.optionalSigners
    chosen 0).1.toList, ?_⟩
  simp only [getAvailableSigners, required, Bind.bind, Except.bind, if_neg reached]

/-- Selection returns a list exactly when some different available keys pass the schema, and a
returned list consists of such keys. -/
theorem getAvailableSigners_correct (container : MultipartySchemaContainer κ)
    (schema : MultipartySchema) :
    ((∃ signers, container.getAvailableSigners schema = .ok signers) ↔
      ∃ selection : List Name, selection.Nodup ∧
        (∀ name ∈ selection, name ∈ container.trustedIds.names ∧
          name ∉ container.unavailableSigners) ∧
        schema.passSchema selection = true) ∧
    ∀ signers, container.getAvailableSigners schema = .ok signers →
      signers.Nodup ∧
        (∀ name ∈ signers, name ∈ container.trustedIds.names ∧
          name ∉ container.unavailableSigners) ∧
        schema.passSchema signers = true := by
  -- Soundness describes a returned list, and completeness needs only all available keys.
  have sound : ∀ signers, container.getAvailableSigners schema = .ok signers →
      signers.Nodup ∧
        (∀ name ∈ signers, name ∈ container.trustedIds.names ∧
          name ∉ container.unavailableSigners) ∧
        schema.passSchema signers = true := by
    intro signers selected
    obtain ⟨distinct, inside, accepted⟩ := getAvailableSigners_sound selected
    exact ⟨distinct, fun name member => container.mem_available.mp (inside name member),
      (schema.passSchema_iff signers).mpr accepted⟩
  refine ⟨⟨fun ⟨signers, selected⟩ => ⟨signers, sound signers selected⟩, ?_⟩, sound⟩
  rintro ⟨selection, distinct, inside, passes⟩
  apply getAvailableSigners_complete
  apply (Policy.accepts_some_selection_iff container.available.nodup).mp
  exact ⟨selection, distinct, fun name member => container.mem_available.mpr (inside name member),
    (schema.passSchema_iff selection).mp passes⟩

end MultipartySchemaContainer

end NdnMps
