import NdnMps.Data.Critical
import NdnMps.Schema.Overlap
import NdnMps.Schema.Selection

/-! Which keys the selection takes, and when it could do without one of them. -/

namespace NdnMps

namespace MultipartySchemaContainer

variable {κ : Type} (container : MultipartySchemaContainer κ)

/-- The first available keys of a pattern, as many as it asks for. -/
def firstKeys (pattern : WildCardName) : List Name :=
  (container.getMatchedKeys pattern).take pattern.times

/-- The keys taken for the optional patterns: as many as the minimum, one pattern after the other,
and one key of the first pattern where the minimum is zero. -/
def optionalKeys (schema : MultipartySchema) : List Name :=
  match schema.optionalSigners with
  | [] => []
  | pattern :: rest =>
    -- The count is compared only after a key has been taken.
    if schema.minOptionalSigners = 0 then (container.firstKeys pattern).take 1
    else ((pattern :: rest).flatMap container.firstKeys).take schema.minOptionalSigners

/-- The different keys taken for some pattern. -/
def takenKeys (schema : MultipartySchema) : List Name :=
  (schema.signers.flatMap container.firstKeys ++ container.optionalKeys schema).dedup

/-- A required pattern that a key matches has been given no other keys than its own first ones. -/
def HeldByRequired (schema : MultipartySchema) (key : Name) : Prop :=
  ∃ pattern ∈ schema.signers, pattern.match key = true ∧
    ∀ other ∈ container.takenKeys schema, pattern.match other = true →
      other ∈ container.firstKeys pattern

/-- More of the optional patterns count a key and cannot replace it than the total is above the
minimum. -/
def HeldByOptional (schema : MultipartySchema) (key : Name) : Prop :=
  schema.optionalTotal (container.takenKeys schema) < schema.minOptionalSigners +
    schema.optionalSigners.countP fun pattern =>
      pattern.match key && decide (pattern.count (container.takenKeys schema) ≤ pattern.times)

/-- No key is taken that overlapping patterns, or a minimum of zero, make superfluous. -/
def NothingSpare (schema : MultipartySchema) : Prop :=
  ∀ key ∈ container.takenKeys schema,
    container.HeldByRequired schema key ∨ container.HeldByOptional schema key

variable {container}

theorem firstKeys_subset (pattern : WildCardName) :
    container.firstKeys pattern ⊆ container.getMatchedKeys pattern := List.take_subset _ _

theorem firstKeys_nodup (pattern : WildCardName) : (container.firstKeys pattern).Nodup :=
  (container.getMatchedKeys_nodup pattern).sublist (List.take_sublist _ _)

/-- A key taken for a pattern matches it. -/
theorem match_of_mem_firstKeys {pattern : WildCardName} {key : Name}
    (member : key ∈ container.firstKeys pattern) : pattern.match key = true :=
  (container.mem_getMatchedKeys.mp (firstKeys_subset pattern member)).2

/-- A key taken for a pattern is an available one. -/
theorem available_of_mem_firstKeys {pattern : WildCardName} {key : Name}
    (member : key ∈ container.firstKeys pattern) : key ∈ container.available :=
  (container.mem_getMatchedKeys.mp (firstKeys_subset pattern member)).1

/-- The bound of the inner optional loop gives the first keys. -/
theorem take_min_eq_firstKeys (container : MultipartySchemaContainer κ)
    (pattern : WildCardName) :
    (container.getMatchedKeys pattern).take
        (min (container.getMatchedKeys pattern).length pattern.times) =
      container.firstKeys pattern := by
  rw [firstKeys, List.take_eq_take_iff]
  omega

/-- Keys are inserted one list after the other. -/
theorem insertAll_append (set : SortedSet Name) (first second : List Name) :
    set.insertAll (first ++ second) = (set.insertAll first).insertAll second :=
  List.foldl_append

/-- The required loop inserts the first keys of every pattern, and none of them is short. -/
theorem selectRequired_eq {patterns : List WildCardName} {before after : SortedSet Name}
    (selected : container.selectRequired patterns before = .ok after) :
    after = before.insertAll (patterns.flatMap container.firstKeys) ∧
      ∀ pattern ∈ patterns, (container.firstKeys pattern).length = pattern.times := by
  -- Induction on the patterns. The loop throws at the first that is short of keys.
  induction patterns generalizing before with
  | nil =>
    simp only [selectRequired, Except.ok.injEq] at selected
    exact ⟨selected.symm, by simp⟩
  | cons pattern rest ih =>
    simp only [selectRequired] at selected
    split at selected
    · cases selected
    · rename_i enough
      obtain ⟨inserted, full⟩ := ih selected
      constructor
      · -- The keys of this pattern go in before those of the others.
        rw [List.flatMap_cons, insertAll_append, inserted, firstKeys]
      · intro other member
        rcases List.mem_cons.mp member with same | member
        · -- The comparison before the inner loop has ruled out a shortage.
          rw [same, firstKeys, List.length_take]
          omega
        · exact full other member

/-- The inner optional loop takes a key before it looks at the count. -/
theorem selectFromPattern_eq (minimum : Nat) (keys : List Name) (before : SortedSet Name)
    (count : Nat) :
    selectFromPattern minimum keys before count =
      (before.insertAll (keys.take (max 1 (minimum - count))),
        count + min keys.length (max 1 (minimum - count))) := by
  -- Induction on the keys, where the room shrinks by one with each of them.
  induction keys generalizing before count with
  | nil => simp [selectFromPattern, SortedSet.insertAll]
  | cons key rest ih =>
    simp only [selectFromPattern]
    split
    · -- With one key the count is reached.
      have room : max 1 (minimum - count) = 1 := by omega
      rw [room]
      simp [SortedSet.insertAll]
    · obtain ⟨room, here, later⟩ : ∃ room, max 1 (minimum - count) = room + 1 ∧
          max 1 (minimum - (count + 1)) = room := ⟨minimum - (count + 1), by omega, by omega⟩
      rw [ih, here, later, List.take_succ_cons, List.length_cons]
      refine Prod.ext rfl ?_
      dsimp only
      omega

/-- Below the minimum the optional loop takes the first keys of the patterns in turn. -/
theorem selectOptional_eq {minimum : Nat} (patterns : List WildCardName) (before : SortedSet Name)
    {count : Nat} (below : count < minimum) :
    (container.selectOptional minimum patterns before count).1 =
      before.insertAll ((patterns.flatMap container.firstKeys).take (minimum - count)) := by
  -- Induction on the patterns: the first one's keys reach the minimum, or all of them are taken.
  induction patterns generalizing before count with
  | nil => simp [selectOptional, SortedSet.insertAll]
  | cons pattern rest ih =>
    have room : max 1 (minimum - count) = minimum - count := by omega
    simp only [selectOptional, take_min_eq_firstKeys, selectFromPattern_eq, room]
    rw [List.flatMap_cons, List.take_append, insertAll_append]
    split
    · rename_i reached
      have none : minimum - count - (container.firstKeys pattern).length = 0 := by omega
      rw [none, List.take_zero]
      rfl
    · rename_i short
      have all : min (container.firstKeys pattern).length (minimum - count) =
          (container.firstKeys pattern).length := by omega
      -- Nothing is cut off, and the room for the other patterns shrinks by what was taken.
      rw [all] at short ⊢
      rw [ih _ (by omega)]
      congr 2
      omega

/-- With a minimum of zero the optional loop still takes one key, if the first pattern has one. -/
theorem selectOptional_zero (patterns : List WildCardName) (before : SortedSet Name) :
    (container.selectOptional 0 patterns before 0).1 =
      before.insertAll (match patterns with
        | [] => []
        | pattern :: _ => (container.firstKeys pattern).take 1) := by
  -- The count is compared after the first pattern, whatever it is.
  cases patterns with
  | nil => rfl
  | cons pattern rest =>
    simp only [selectOptional, take_min_eq_firstKeys, selectFromPattern_eq]
    simp

/-- The optional loop takes the optional keys. -/
theorem selectOptional_optionalKeys (schema : MultipartySchema) (before : SortedSet Name) :
    (container.selectOptional schema.minOptionalSigners schema.optionalSigners before 0).1 =
      before.insertAll (container.optionalKeys schema) := by
  -- A minimum of zero is the one case in which the count starts at the minimum.
  unfold optionalKeys
  cases schema.optionalSigners with
  | nil => rfl
  | cons pattern rest =>
    by_cases zero : schema.minOptionalSigners = 0
    · simp only [zero, if_true]
      exact selectOptional_zero _ _
    · simp only [if_neg zero]
      rw [selectOptional_eq _ _ (Nat.pos_of_ne_zero zero), Nat.sub_zero]

/-- A returned list is made of the taken keys, and no required pattern is short of first keys. -/
theorem getAvailableSigners_taken {schema : MultipartySchema} {signers : List Name}
    (selected : container.getAvailableSigners schema = .ok signers) :
    signers.Perm (container.takenKeys schema) ∧
      ∀ pattern ∈ schema.signers, (container.firstKeys pattern).length = pattern.times := by
  have distinct := (getAvailableSigners_sound selected).1
  simp only [getAvailableSigners, Bind.bind, Except.bind] at selected
  -- A returned list has passed both comparisons that would have thrown.
  cases required : container.selectRequired schema.signers .empty with
  | error fault => simp [required] at selected
  | ok chosen =>
    obtain ⟨inserted, full⟩ := selectRequired_eq required
    simp only [required, selectOptional_optionalKeys] at selected
    split at selected
    · cases selected
    · simp only [Except.ok.injEq] at selected
      refine ⟨?_, full⟩
      -- Both list every inserted key once.
      refine (List.perm_ext_iff_of_nodup distinct (List.nodup_dedup _)).mpr fun name => ?_
      rw [← selected, SortedSet.mem_toList, inserted, ← insertAll_append, SortedSet.mem_insertAll,
        List.mem_dedup]
      simp

/-- The taken keys include the first keys of every required pattern. -/
theorem firstKeys_subset_takenKeys {schema : MultipartySchema} {pattern : WildCardName}
    (required : pattern ∈ schema.signers) :
    container.firstKeys pattern ⊆ container.takenKeys schema := by
  -- The required patterns come first among the taken keys.
  intro key member
  rw [takenKeys, List.mem_dedup, List.mem_append]
  exact .inl (List.mem_flatMap.mpr ⟨pattern, required, member⟩)

/-- A required pattern has as many keys as it asks for exactly when no other pattern brings more. -/
theorem count_takenKeys_le_iff {schema : MultipartySchema} {pattern : WildCardName}
    (required : pattern ∈ schema.signers)
    (full : (container.firstKeys pattern).length = pattern.times) :
    pattern.count (container.takenKeys schema) ≤ pattern.times ↔
      ∀ other ∈ container.takenKeys schema, pattern.match other = true →
        other ∈ container.firstKeys pattern := by
  have counted : pattern.count (container.takenKeys schema) =
      ((container.takenKeys schema).filter pattern.match).length := List.countP_eq_length_filter
  have distinct : ((container.takenKeys schema).filter pattern.match).Nodup :=
    (List.nodup_dedup _).filter _
  rw [counted, ← full]
  constructor
  · intro few other taken accepted
    -- The first keys count as well, so they are all that counts.
    have inside : (container.firstKeys pattern).Subperm
        ((container.takenKeys schema).filter pattern.match) :=
      (firstKeys_nodup pattern).subperm fun key member => List.mem_filter.mpr
        ⟨firstKeys_subset_takenKeys required member, match_of_mem_firstKeys member⟩
    have same := inside.perm_of_length_le few
    exact same.mem_iff.mpr (List.mem_filter.mpr ⟨taken, accepted⟩)
  · intro own
    -- Conversely the keys that count are among the first ones, which are not too many.
    refine (distinct.subperm fun key member => ?_).length_le
    obtain ⟨taken, accepted⟩ := List.mem_filter.mp member
    exact own key taken accepted

/-- The policy cannot do without a taken key exactly when some pattern holds it. -/
theorem critical_iff_held {schema : MultipartySchema}
    (full : ∀ pattern ∈ schema.signers,
      (container.firstKeys pattern).length = pattern.times) (key : Name) :
    schema.policy.Critical (container.takenKeys schema) key ↔
      container.HeldByRequired schema key ∨ container.HeldByOptional schema key := by
  have shared : schema.policy.share (container.takenKeys schema) key =
      schema.optionalSigners.countP fun pattern =>
        pattern.match key && decide (pattern.count (container.takenKeys schema) ≤ pattern.times) :=
    List.countP_map ..
  unfold Policy.Critical HeldByOptional
  rw [shared]
  refine or_congr ?_ Iff.rfl
  -- The required quotas are those of the required patterns.
  constructor
  · intro ⟨quota, member, accepts, tight⟩
    obtain ⟨pattern, required, same⟩ := List.mem_map.mp member
    subst same
    exact ⟨pattern, required, accepts,
      (count_takenKeys_le_iff required (full pattern required)).mp tight⟩
  · -- Each required pattern is a quota of the policy.
    intro ⟨pattern, required, accepts, own⟩
    exact ⟨pattern.quota, List.mem_map_of_mem required, accepts,
      (count_takenKeys_le_iff required (full pattern required)).mpr own⟩

/-- A selected list passes without none of its signers exactly when no key is taken to spare. -/
theorem minimal_iff_nothingSpare {schema : MultipartySchema} {signers : List Name}
    (selected : container.getAvailableSigners schema = .ok signers) :
    (∀ signer ∈ signers, schema.passSchema (signers.erase signer) = false) ↔
      container.NothingSpare schema := by
  -- The list and the taken keys are the same keys in another order.
  obtain ⟨taken, full⟩ := getAvailableSigners_taken selected
  have accepted := (getAvailableSigners_sound selected).2.2
  -- A signer that cannot be left out is one the policy cannot do without.
  have needed : ∀ signer ∈ signers, schema.passSchema (signers.erase signer) = false ↔
      (container.HeldByRequired schema signer ∨ container.HeldByOptional schema signer) := by
    intro signer listed
    rw [← critical_iff_held full, ← schema.policy.critical_perm taken, ← not_iff_not,
      ← schema.policy.accepts_erase_iff listed accepted,
      ← schema.passSchema_iff,
      Bool.not_eq_false]
  constructor
  · intro minimal key member
    have listed := taken.mem_iff.mpr member
    exact (needed key listed).mp (minimal key listed)
  · intro held signer listed
    exact (needed signer listed).mpr (held signer (taken.mem_iff.mp listed))

/-- Every available key matches at most one pattern of the rule. -/
def PatternsApart (container : MultipartySchemaContainer κ) (schema : MultipartySchema) : Prop :=
  ∀ key ∈ container.available, schema.patterns.countP (fun pattern => pattern.match key) ≤ 1

/-- Optional signers are asked for, or the first optional pattern has no key to give. -/
def NobodyUnasked (container : MultipartySchemaContainer κ) (schema : MultipartySchema) : Prop :=
  0 < schema.minOptionalSigners ∨
    ∀ pattern, schema.optionalSigners.head? = some pattern → container.firstKeys pattern = []

/-- Two listed patterns that match one key are the same where no key matches more than one. -/
theorem eq_of_countP_le_one {patterns : List WildCardName} {key : Name}
    (few : patterns.countP (fun pattern => pattern.match key) ≤ 1) {first second : WildCardName}
    (firstListed : first ∈ patterns) (secondListed : second ∈ patterns)
    (firstMatch : first.match key = true) (secondMatch : second.match key = true) :
    first = second := by
  -- Different patterns would count twice.
  by_contra different
  have pair : [first, second].Subperm (patterns.filter fun pattern => pattern.match key) := by
    refine List.Nodup.subperm (by simp [different]) ?_
    intro pattern member
    simp only [List.mem_cons, List.not_mem_nil, or_false] at member
    rcases member with same | same
    · exact same ▸ List.mem_filter.mpr ⟨firstListed, firstMatch⟩
    · exact same ▸ List.mem_filter.mpr ⟨secondListed, secondMatch⟩
  have two := pair.length_le
  rw [← List.countP_eq_length_filter] at two
  simp only [List.length_cons, List.length_nil] at two
  omega

/-- The optional keys are first keys of optional patterns. -/
theorem mem_optionalKeys {schema : MultipartySchema} {key : Name}
    (taken : key ∈ container.optionalKeys schema) :
    ∃ pattern ∈ schema.optionalSigners, key ∈ container.firstKeys pattern := by
  unfold optionalKeys at taken
  cases optional : schema.optionalSigners with
  | nil => simp [optional] at taken
  | cons pattern rest =>
    simp only [optional] at taken
    split at taken
    · exact ⟨pattern, List.mem_cons_self, List.take_subset _ _ taken⟩
    · exact List.mem_flatMap.mp (List.take_subset _ _ taken)

/-- A taken key is a first key of some pattern of the rule. -/
theorem exists_source {schema : MultipartySchema} {key : Name}
    (taken : key ∈ container.takenKeys schema) :
    ∃ source ∈ schema.patterns, key ∈ container.firstKeys source := by
  rw [takenKeys, List.mem_dedup, List.mem_append] at taken
  rcases taken with required | optional
  · obtain ⟨source, listed, member⟩ := List.mem_flatMap.mp required
    exact ⟨source, List.mem_append_left _ listed, member⟩
  · obtain ⟨source, listed, member⟩ := mem_optionalKeys optional
    exact ⟨source, List.mem_append_right _ listed, member⟩

/-- The optional keys are no more than the minimum exactly when nobody is taken unasked. -/
theorem length_optionalKeys_le_iff {schema : MultipartySchema} :
    (container.optionalKeys schema).length ≤ schema.minOptionalSigners ↔
      container.NobodyUnasked schema := by
  unfold optionalKeys NobodyUnasked
  cases schema.optionalSigners with
  | nil => simp
  | cons pattern rest =>
    by_cases zero : schema.minOptionalSigners = 0
    · -- With a minimum of zero the first pattern's first key is taken all the same.
      simp [zero]
    · have positive : 0 < schema.minOptionalSigners := Nat.pos_of_ne_zero zero
      simp only [if_neg zero]
      exact iff_of_true (List.length_take_le _ _) (.inl positive)

section Apart

variable {schema : MultipartySchema} (apart : container.PatternsApart schema)

include apart

/-- Without overlap no available key matches both a required and an optional pattern. -/
theorem not_match_of_match {key : Name} (available : key ∈ container.available)
    {required optional : WildCardName} (requiredListed : required ∈ schema.signers)
    (optionalListed : optional ∈ schema.optionalSigners)
    (accepted : optional.match key = true) : required.match key ≠ true := by
  intro both
  -- Each of the two patterns counts in its own list.
  have first : 0 < schema.signers.countP fun pattern => pattern.match key :=
    List.countP_pos_iff.mpr ⟨required, requiredListed, both⟩
  have second : 0 < schema.optionalSigners.countP fun pattern => pattern.match key :=
    List.countP_pos_iff.mpr ⟨optional, optionalListed, accepted⟩
  have few := apart key available
  rw [MultipartySchema.patterns, List.countP_append] at few
  omega

/-- Without overlap a pattern that matches a taken key has taken it. -/
theorem mem_firstKeys_of_apart {pattern : WildCardName}
    (listed : pattern ∈ schema.patterns) {key : Name}
    (taken : key ∈ container.takenKeys schema) (accepted : pattern.match key = true) :
    key ∈ container.firstKeys pattern := by
  -- Some pattern of the rule has taken the key, and no other pattern matches it.
  obtain ⟨source, sourceListed, member⟩ := exists_source taken
  have same := eq_of_countP_le_one (apart key (available_of_mem_firstKeys member)) listed
    sourceListed accepted (match_of_mem_firstKeys member)
  exact same ▸ member

/-- Without overlap a taken key that an optional pattern matches is one of the optional keys. -/
theorem mem_optionalKeys_of_match {pattern : WildCardName}
    (listed : pattern ∈ schema.optionalSigners) {key : Name}
    (taken : key ∈ container.takenKeys schema) (accepted : pattern.match key = true) :
    key ∈ container.optionalKeys schema := by
  rw [takenKeys, List.mem_dedup, List.mem_append] at taken
  rcases taken with required | optional
  · -- A key taken for a required pattern would match that one and the optional one.
    obtain ⟨source, sourceListed, member⟩ := List.mem_flatMap.mp required
    exact absurd (match_of_mem_firstKeys member) (not_match_of_match apart
      (available_of_mem_firstKeys member) sourceListed listed accepted)
  · exact optional

/-- Without overlap the optional total is no more than the optional keys. -/
theorem optionalTotal_takenKeys_le :
    schema.optionalTotal (container.takenKeys schema) ≤
      (container.optionalKeys schema).length := by
  -- No key counts a second time, and the keys that count are taken for the optional patterns.
  have once : ∀ key ∈ container.takenKeys schema, schema.optionalCounts key ≤ 1 := by
    intro key taken
    obtain ⟨source, -, member⟩ := exists_source taken
    have few := apart key (available_of_mem_firstKeys member)
    rw [MultipartySchema.patterns, List.countP_append] at few
    have fewer : schema.optionalCounts key ≤
        schema.optionalSigners.countP fun pattern => pattern.match key :=
      List.countP_mono_left fun pattern _ counts => (Bool.and_eq_true_iff.mp counts).1
    omega
  have different : (schema.differentOptional (container.takenKeys schema)).length ≤
      (container.optionalKeys schema).length := by
    have listedOnce : (schema.differentOptional (container.takenKeys schema)).Nodup :=
      (List.nodup_dedup _).filter _
    refine (listedOnce.subperm fun key member => ?_).length_le
    obtain ⟨taken, matched⟩ := List.mem_filter.mp member
    obtain ⟨pattern, listed, accepted⟩ := List.any_eq_true.mp matched
    exact mem_optionalKeys_of_match apart listed (List.mem_dedup.mp taken) accepted
  exact (MultipartySchema.optionalTotal_le_differentOptional (List.nodup_dedup _) once).trans
    different

/-- Without overlap, and with nobody taken unasked, no key is taken to spare. -/
theorem nothingSpare_of_apart (asked : container.NobodyUnasked schema) :
    container.NothingSpare schema := by
  have bounded := length_optionalKeys_le_iff.mpr asked
  intro key taken
  have source := taken
  rw [takenKeys, List.mem_dedup, List.mem_append] at source
  rcases source with required | optional
  · -- A key of a required pattern is held by it.
    obtain ⟨pattern, listed, member⟩ := List.mem_flatMap.mp required
    refine .inl ⟨pattern, listed, match_of_mem_firstKeys member, ?_⟩
    exact fun other otherTaken accepted =>
      mem_firstKeys_of_apart apart (List.mem_append_left _ listed) otherTaken accepted
  · obtain ⟨pattern, listed, member⟩ := mem_optionalKeys optional
    -- A key of an optional pattern counts there, and there is no surplus.
    have total := optionalTotal_takenKeys_le apart
    -- The pattern counts its own first keys only, which are not too many.
    have few : pattern.count (container.takenKeys schema) ≤ pattern.times := by
      have distinct : ((container.takenKeys schema).filter pattern.match).Nodup :=
        (List.nodup_dedup _).filter _
      have inside : ((container.takenKeys schema).filter pattern.match).Subperm
          (container.firstKeys pattern) := distinct.subperm fun other otherMember => by
        obtain ⟨otherTaken, accepted⟩ := List.mem_filter.mp otherMember
        exact mem_firstKeys_of_apart apart (List.mem_append_right _ listed) otherTaken accepted
      rw [WildCardName.count, List.countP_eq_length_filter]
      exact inside.length_le.trans (List.length_take_le _ _)
    have counts : 0 < schema.optionalSigners.countP fun other =>
        other.match key && decide (other.count (container.takenKeys schema) ≤ other.times) :=
      List.countP_pos_iff.mpr ⟨pattern, listed, by simp [match_of_mem_firstKeys member, few]⟩
    exact .inr (by unfold HeldByOptional; omega)

/-- Without overlap the list can do without a key that is taken unasked. -/
theorem passSchema_erase_unasked {signers : List Name}
    (selected : container.getAvailableSigners schema = .ok signers) {key : Name}
    (none : schema.minOptionalSigners = 0) (unasked : key ∈ container.optionalKeys schema) :
    schema.passSchema (signers.erase key) = true := by
  obtain ⟨source, optional, member⟩ := mem_optionalKeys unasked
  have passes := (schema.passSchema_iff_counts signers).mp
    ((schema.passSchema_iff signers).mpr (getAvailableSigners_sound selected).2.2)
  refine (schema.passSchema_iff_counts _).mpr ⟨fun pattern required => ?_, by omega⟩
  -- No required pattern matches the key, so each counts what it counted before.
  have other := not_match_of_match apart (available_of_mem_firstKeys member) required optional
    (match_of_mem_firstKeys member)
  have same : pattern.count (signers.erase key) = pattern.count signers := by
    rw [WildCardName.count, List.countP_erase]
    simp [WildCardName.count, other]
  exact same ▸ passes.1 pattern required

end Apart

/-- Where no available key matches two patterns, a selected list passes without none of its signers
exactly when nobody is taken unasked. -/
theorem getAvailableSigners_minimal_iff {schema : MultipartySchema} {signers : List Name}
    (apart : container.PatternsApart schema)
    (selected : container.getAvailableSigners schema = .ok signers) :
    (∀ signer ∈ signers, schema.passSchema (signers.erase signer) = false) ↔
      container.NobodyUnasked schema := by
  constructor
  · intro minimal
    by_contra unasked
    -- Otherwise the minimum is zero, and some optional key has been taken.
    have taken : container.optionalKeys schema ≠ [] := by
      intro nothing
      have short := length_optionalKeys_le_iff.not.mpr unasked
      simp [nothing] at short
    obtain ⟨key, rest, first⟩ := List.exists_cons_of_ne_nil taken
    have member : key ∈ container.optionalKeys schema := first ▸ List.mem_cons_self
    have none : schema.minOptionalSigners = 0 := by
      by_contra positive
      exact unasked (.inl (Nat.pos_of_ne_zero positive))
    have listed : key ∈ signers := by
      rw [(getAvailableSigners_taken selected).1.mem_iff, takenKeys, List.mem_dedup]
      exact List.mem_append_right _ member
    have passes := passSchema_erase_unasked apart selected none member
    rw [minimal key listed] at passes
    cases passes
  · intro asked
    exact (minimal_iff_nothingSpare selected).mpr (nothingSpare_of_apart apart asked)

/-- A wildcard for every key under a prefix of one component. -/
def anyKeyOf (text : String) : WildCardName :=
  ⟨⟨[.ofString text, .ofString "KEY", ⟨wildcardNameType, []⟩]⟩, 1⟩

/-- Two trusted keys under one prefix. -/
def twoKeys : MultipartySchemaContainer Unit where
  schemas := []
  trustedIds := ⟨[(.ofTexts ["a", "KEY", "1"], ()), (.ofTexts ["a", "KEY", "2"], ())], by decide⟩
  unavailableSigners := .empty

/-- A rule that asks for a key of the prefix and for the second key. -/
def nestedSchema : MultipartySchema :=
  ⟨.ofName (.ofTexts ["data"]), "rule4",
    [anyKeyOf "a", .ofName (.ofTexts ["a", "KEY", "2"])], [], 0⟩

/-- A rule that asks for the first key, and lists the second one as optional without asking for
optional signers. -/
def uncountedSchema : MultipartySchema :=
  ⟨.ofName (.ofTexts ["data"]), "rule5", [.ofName (.ofTexts ["a", "KEY", "1"])],
    [.ofName (.ofTexts ["a", "KEY", "2"])], 0⟩

/-- One of two selected keys can be left out where a key that is taken later serves an earlier
pattern too, and where an optional key is taken although none is asked for. -/
theorem getAvailableSigners_not_minimal :
    (twoKeys.getAvailableSigners nestedSchema =
        .ok [.ofTexts ["a", "KEY", "1"], .ofTexts ["a", "KEY", "2"]] ∧
      nestedSchema.passSchema [.ofTexts ["a", "KEY", "2"]] = true) ∧
    twoKeys.getAvailableSigners uncountedSchema =
        .ok [.ofTexts ["a", "KEY", "1"], .ofTexts ["a", "KEY", "2"]] ∧
      uncountedSchema.passSchema [.ofTexts ["a", "KEY", "1"]] = true := by
  decide

/-- The selection for the rule with an optional key that is not asked for, whose patterns do not
overlap. -/
theorem getAvailableSigners_minimal_iff_uncounted :
    (∀ signer ∈ [Name.ofTexts ["a", "KEY", "1"], .ofTexts ["a", "KEY", "2"]],
      uncountedSchema.passSchema ([Name.ofTexts ["a", "KEY", "1"],
        .ofTexts ["a", "KEY", "2"]].erase signer) = false) ↔
      twoKeys.NobodyUnasked uncountedSchema := by
  have apart : twoKeys.PatternsApart uncountedSchema := by
    show ∀ key ∈ twoKeys.available.toList,
      uncountedSchema.patterns.countP (fun pattern => pattern.match key) ≤ 1
    decide
  have selected : twoKeys.getAvailableSigners uncountedSchema =
      .ok [.ofTexts ["a", "KEY", "1"], .ofTexts ["a", "KEY", "2"]] := by decide
  exact getAvailableSigners_minimal_iff apart selected

end MultipartySchemaContainer

end NdnMps
