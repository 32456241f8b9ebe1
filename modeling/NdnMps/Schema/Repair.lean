import NdnMps.Schema.EmptyList
import NdnMps.Schema.Renewal

/-! What the loss of a signer leads to: which parts of the container it touches, when nobody can
take over, and when nobody has to. -/

namespace NdnMps

namespace MultipartySchemaContainer

variable {κ : Type} {container : MultipartySchemaContainer κ}

/-- Both returned lists are in the order of names. -/
theorem replaceSigner_sorted (container : MultipartySchemaContainer κ) (schema : MultipartySchema)
    (signers : List Name) (unavailableKey : Name) :
    (container.replaceSigner signers unavailableKey schema).2.1.Pairwise (· < ·) ∧
      (container.replaceSigner signers unavailableKey schema).2.2.Pairwise (· < ·) := by
  simp only [replaceSigner]
  -- The lists are either empty or read off two sets.
  split
  · exact ⟨List.Pairwise.nil, List.Pairwise.nil⟩
  · exact ⟨SortedSet.sorted _, SortedSet.sorted _⟩

/-- A renewed list is sorted and made of the remaining signers and the new ones, who are trusted,
available and different from the others. Besides, only the unavailable key is recorded. -/
theorem replaceSigner_frame (container : MultipartySchemaContainer κ) (schema : MultipartySchema)
    (signers : List Name) (unavailableKey : Name) :
    ((container.replaceSigner signers unavailableKey schema).2.1 ≠ [] →
      (container.replaceSigner signers unavailableKey schema).2.1.Pairwise (· < ·) ∧
      (container.replaceSigner signers unavailableKey schema).2.1.Nodup ∧
      (container.replaceSigner signers unavailableKey schema).2.2.Nodup ∧
      (∀ name, name ∈ (container.replaceSigner signers unavailableKey schema).2.1 ↔
        (name ∈ signers ∧ name ≠ unavailableKey) ∨
          name ∈ (container.replaceSigner signers unavailableKey schema).2.2) ∧
      ∀ name ∈ (container.replaceSigner signers unavailableKey schema).2.2,
        name ∉ signers ∧ name ∈ container.trustedIds.names ∧ name ≠ unavailableKey ∧
          name ∉ container.unavailableSigners) ∧
    ((container.replaceSigner signers unavailableKey schema).2.1 = [] →
      (container.replaceSigner signers unavailableKey schema).2.2 = []) ∧
    (container.replaceSigner signers unavailableKey schema).1 =
      { container with
        unavailableSigners := container.unavailableSigners.insert unavailableKey } := by
  obtain ⟨marked, outcome⟩ := container.replaceSigner_cases schema signers unavailableKey
  have sorted := (container.replaceSigner_sorted schema signers unavailableKey).1
  refine ⟨fun found => ?_, fun nothing => ?_, marked⟩
  · rcases outcome with ⟨neither, -⟩ | renews
    · exact absurd (congrArg Prod.fst neither) found
    · refine ⟨sorted, renews.signers_nodup, renews.diff_nodup, ?_, ?_⟩
      · -- The lost key was taken out of the set before anything was added.
        intro name
        rw [renews.mem_iff, and_comm]
      · intro name new
        have available := renews.available name new
        obtain ⟨trusted, unmarked⟩ := mem_available _ |>.mp available
        refine ⟨renews.fresh name new, trusted, ne_of_mem_available available, ?_⟩
        -- Whoever was unavailable before is unavailable after the mark.
        exact fun earlier => unmarked (SortedSet.mem_insert.mpr (.inr earlier))
  · rcases outcome with ⟨neither, -⟩ | renews
    · -- Both exits without a list return two empty ones.
      exact congrArg Prod.snd neither
    · exact absurd nothing renews.nonempty

/-- The required loop fails at a pattern all of whose candidates it has used up. -/
theorem exhausted_of_replaceRequired {unavailableKey : Name} {patterns : List WildCardName}
    {set diff : SortedSet Name}
    (failed : container.replaceRequired unavailableKey patterns set diff = none) :
    ∃ pattern ∈ patterns, ∃ reached : SortedSet Name,
      pattern.count reached.toList < pattern.times ∧
        pattern.quota.Exhausted container.available reached := by
  -- Induction on the patterns. A pattern that finds a key or needs none passes the failure on.
  induction patterns generalizing set diff with
  | nil => cases failed
  | cons pattern rest ih =>
    have later : ∀ {set diff : SortedSet Name},
        container.replaceRequired unavailableKey rest set diff = none →
        ∃ other ∈ pattern :: rest, ∃ reached : SortedSet Name,
          other.count reached.toList < other.times ∧
            other.quota.Exhausted container.available reached := by
      intro set diff failed
      obtain ⟨other, member, short⟩ := ih failed
      exact ⟨other, List.mem_cons_of_mem _ member, short⟩
    rw [replaceRequired] at failed
    split at failed
    · -- Only the last of the three outcomes of a search ends the loop.
      rcases container.findANewKeyForPattern_cases set pattern with
        ⟨-, outcome⟩ | ⟨-, key, -, outcome⟩ | ⟨short, exhausted, -⟩
      · rw [outcome] at failed
        exact later failed
      · simp only [outcome] at failed
        split at failed
        · exact later failed
        · exact later failed
      · exact ⟨pattern, List.mem_cons_self, set, short, exhausted⟩
    · exact later failed

/-- Trusted keys that are neither unavailable nor the lost one are the candidates. -/
theorem mem_available_markUnavailable {unavailableKey name : Name} :
    name ∈ (container.markUnavailable unavailableKey).available ↔
      name ∈ container.trustedIds.names ∧ name ∉ container.unavailableSigners ∧
        name ≠ unavailableKey := by
  simp only [mem_available, markUnavailable, SortedSet.mem_insert, not_or]
  tauto

/-- A pattern that takes no key for the empty set asks for nobody. -/
theorem times_eq_zero_of_needsNobody (named : container.NamesNonempty) {pattern : WildCardName}
    (idle : container.NeedsNobody .empty pattern) : pattern.times = 0 := by
  -- For the empty set a pattern is met when it asks for nobody.
  rcases idle with met | next
  · exact Nat.le_zero.mp met
  · -- No trusted key has the empty name.
    have impossible := nextParty_nonempty named next
    cases impossible

/-- Where nothing is left and nothing is added, every optional pattern asks for nobody or has no
candidate, so different candidates make no optional total. -/
theorem optionalTotal_eq_zero (named : container.NamesNonempty) {schema : MultipartySchema}
    (idle : ∀ pattern ∈ schema.optionalSigners, container.AddsNobody .empty pattern)
    {selection : List Name} (distinct : selection.Nodup)
    (inside : ∀ name ∈ selection, name ∈ container.available) :
    schema.optionalTotal selection = 0 := by
  -- Each summand is zero, for one of two reasons.
  apply List.sum_eq_zero
  intro number member
  obtain ⟨quota, listed, same⟩ := List.mem_map.mp member
  obtain ⟨pattern, optional, ofPattern⟩ := List.mem_map.mp listed
  subst ofPattern
  rw [← same, Quota.capped]
  rcases idle pattern optional with needless | exhausted
  · -- A pattern that asks for nobody contributes nothing.
    have none := times_eq_zero_of_needsNobody named needless
    rw [WildCardName.quota_times, none, Nat.min_zero]
  · -- The candidates of an exhausted pattern would be in the empty set.
    have counted := exhausted.count_le distinct inside
    have empty : pattern.quota.count (SortedSet.empty : SortedSet Name).toList = 0 := rfl
    rw [empty] at counted
    rw [Nat.le_zero.mp counted, Nat.zero_min]

/-- An empty list is returned where a required pattern has used up its candidates, or where nobody
is left and no pattern takes a key. -/
theorem replaceSigner_empty {schema : MultipartySchema} {signers : List Name}
    {unavailableKey : Name}
    (failed : (container.replaceSigner signers unavailableKey schema).2.1 = []) :
    (∃ pattern ∈ schema.signers, ∃ reached : SortedSet Name,
        pattern.count reached.toList < pattern.times ∧
          pattern.quota.Exhausted (container.markUnavailable unavailableKey).available reached) ∨
      (remaining signers unavailableKey = .empty ∧
        (∀ pattern ∈ schema.signers, pattern.match unavailableKey = true →
          (container.markUnavailable unavailableKey).NeedsNobody .empty pattern) ∧
        ∀ pattern ∈ schema.optionalSigners,
          (container.markUnavailable unavailableKey).AddsNobody .empty pattern) := by
  -- The loop over the required patterns is the only early return.
  cases required : (container.markUnavailable unavailableKey).replaceRequired unavailableKey
      schema.signers (remaining signers unavailableKey) .empty with
  | none => exact .inl (exhausted_of_replaceRequired required)
  | some pair =>
    obtain ⟨middle, added⟩ := pair
    cases optional : (container.markUnavailable unavailableKey).replaceOptional
        schema.optionalSigners middle added with
    | mk renewed diff =>
      have whole := extends_remaining required optional
      rw [replaceSigner_of_some required optional] at failed
      -- An empty result has no remaining signer and no added one.
      have nobody : ∀ name, name ∉ remaining signers unavailableKey ∧ name ∉ diff := by
        intro name
        rw [← not_or, ← whole.mem_iff]
        exact List.eq_nil_iff_forall_not_mem.mp failed name
      have left : remaining signers unavailableKey = .empty := by
        ext name
        simp [(nobody name).1]
      have idle := idle_of_diff_empty required optional fun name => (nobody name).2
      rw [left] at idle
      exact .inr ⟨left, idle⟩

/-- A list is only given up when no different keys that are trusted and available satisfy the
schema. -/
theorem replaceSigner_gives_up (container : MultipartySchemaContainer κ)
    (named : container.NamesNonempty) (schema : MultipartySchema)
    (asks : schema.passSchema [] = false) (signers : List Name)
    (passes : schema.passSchema signers = true) (unavailableKey : Name)
    (failed : (container.replaceSigner signers unavailableKey schema).2.1 = []) :
    ¬ ∃ selection : List Name, selection.Nodup ∧
      (∀ name ∈ selection, name ∈ container.trustedIds.names ∧
        name ∉ container.unavailableSigners ∧ name ≠ unavailableKey) ∧
      schema.passSchema selection = true := by
  -- A selection would have to consist of candidates that the loops have looked at.
  intro ⟨selection, distinct, trusted, selectionPasses⟩
  have accepted := (schema.passSchema_iff_counts selection).mp selectionPasses
  have marked : (container.markUnavailable unavailableKey).NamesNonempty := named
  have inside : ∀ name ∈ selection,
      name ∈ (container.markUnavailable unavailableKey).available :=
    fun name member => mem_available_markUnavailable.mpr (trusted name member)
  rcases replaceSigner_empty failed with
    ⟨pattern, member, reached, short, exhausted⟩ | ⟨nobody, required, optional⟩
  · -- A required pattern has too few candidates for any selection of them.
    have counted := exhausted.count_le distinct inside
    have enough := accepted.1 pattern member
    simp only [WildCardName.quota_count] at counted
    omega
  · -- Nobody is left and nobody is needed, so the schema would accept the empty list.
    have requiredNone : ∀ pattern ∈ schema.signers, pattern.times = 0 := by
      intro pattern member
      by_cases lost : pattern.match unavailableKey = true
      · exact times_eq_zero_of_needsNobody marked (required pattern member lost)
      · -- Only the lost key may have been listed, and it does not count here.
        have before := ((schema.passSchema_iff_counts signers).mp passes).1 pattern member
        have none : pattern.count signers = 0 := by
          refine List.countP_eq_zero.mpr fun name listed => ?_
          by_cases same : name = unavailableKey
          · exact same ▸ lost
          · have left := mem_remaining.mpr ⟨same, listed⟩
            rw [nobody] at left
            exact absurd left (SortedSet.not_mem_empty name)
        omega
    have optionalNone := optionalTotal_eq_zero marked optional distinct inside
    have reached := accepted.2
    -- A minimum that no selection falls short of is zero.
    have nothing : schema.AsksForNobody := ⟨requiredNone, by omega⟩
    rw [schema.passSchema_nil_iff.mpr nothing] at asks
    cases asks

/-- Two trusted keys. -/
def pooledContainer : MultipartySchemaContainer Unit where
  schemas := []
  trustedIds := ⟨[(.ofTexts ["a", "KEY", "1"], ()), (.ofTexts ["b", "KEY", "1"], ())], by decide⟩
  unavailableSigners := .empty

/-- A rule that asks for one key that is trusted. -/
def soleSchema : MultipartySchema :=
  ⟨.ofName (.ofTexts ["data"]), "rule2", [.ofName (.ofTexts ["a", "KEY", "1"])], [], 0⟩

/-- Once the only key for a required pattern is lost, no other selection passes either. -/
theorem replaceSigner_gives_up_sole :
    ¬ ∃ selection : List Name, selection.Nodup ∧
      (∀ name ∈ selection, name ∈ pooledContainer.trustedIds.names ∧
        name ∉ pooledContainer.unavailableSigners ∧ name ≠ .ofTexts ["a", "KEY", "1"]) ∧
      soleSchema.passSchema selection = true := by
  refine replaceSigner_gives_up pooledContainer ?_ soleSchema ?_
    [.ofTexts ["a", "KEY", "1"]] ?_ (.ofTexts ["a", "KEY", "1"]) ?_
  · -- The trusted keys are listed, so their names can be looked at one by one.
    show ∀ name ∈ pooledContainer.trustedIds.names.toList, name.empty = false
    decide
  · decide
  · decide
  · decide

/-- No optional pattern takes a further key: each is met by the remaining signers, or has no
candidate besides them. -/
def OptionalIdle (container : MultipartySchemaContainer κ) (schema : MultipartySchema)
    (signers : List Name) (unavailableKey : Name) : Prop :=
  ∀ pattern ∈ schema.optionalSigners,
    (container.markUnavailable unavailableKey).AddsNobody
      (remaining signers unavailableKey) pattern

/-- Signers that pass without the lost one are left as they are exactly when no optional pattern
takes a further key, because the optional loop looks at every pattern on its own. -/
theorem replaceSigner_leaves_iff (container : MultipartySchemaContainer κ)
    (schema : MultipartySchema) (signers : List Name) (unavailableKey : Name) :
    ((remaining signers unavailableKey).toList ≠ [] →
        schema.passSchema (remaining signers unavailableKey).toList = true →
        (container.replaceSigner signers unavailableKey schema).2 =
          ((remaining signers unavailableKey).toList, [])) ↔
      ((remaining signers unavailableKey).toList ≠ [] →
        schema.passSchema (remaining signers unavailableKey).toList = true →
        container.OptionalIdle schema signers unavailableKey) := by
  constructor
  · intro leaves left passes
    have same := leaves left passes
    -- Without a new key neither loop has taken one.
    rcases (container.replaceSigner_cases schema signers unavailableKey).2 with
      ⟨neither, -⟩ | renews
    · -- An empty list is not what is left, since somebody is.
      rw [neither] at same
      exact absurd (congrArg Prod.fst same).symm left
    · have nothing := congrArg Prod.snd same
      exact (renews.dispensable_iff.mp nothing).2.2
  · intro idle left passes
    -- The remaining signers meet every required pattern, so only the optional ones could add a key.
    have counts := (schema.passSchema_iff_counts _).mp passes
    have required : ∀ pattern ∈ schema.signers, pattern.match unavailableKey = true →
        (container.markUnavailable unavailableKey).NeedsNobody
          (remaining signers unavailableKey) pattern :=
      fun pattern member _ => .inl (counts.1 pattern member)
    rw [replaceSigner_of_dispensable ⟨left, required, idle left passes⟩]

/-- Three trusted keys. -/
def spareContainer : MultipartySchemaContainer Unit where
  schemas := []
  trustedIds := ⟨[(.ofTexts ["a", "KEY", "1"], ()), (.ofTexts ["b", "KEY", "1"], ()),
    (.ofTexts ["c", "KEY", "1"], ())], by decide⟩
  unavailableSigners := .empty

/-- A rule that asks for one of three optional signers. -/
def spareSchema : MultipartySchema :=
  ⟨.ofName (.ofTexts ["data"]), "rule3", [], [.ofName (.ofTexts ["a", "KEY", "1"]),
    .ofName (.ofTexts ["b", "KEY", "1"]), .ofName (.ofTexts ["c", "KEY", "1"])], 1⟩

/-- A third party is asked in although the signer that remains suffices, and although the lost key
does not match that party's pattern. -/
theorem replaceSigner_adds_needless :
    spareSchema.passSchema [.ofTexts ["a", "KEY", "1"], .ofTexts ["b", "KEY", "1"]] = true ∧
      (remaining [.ofTexts ["a", "KEY", "1"], .ofTexts ["b", "KEY", "1"]]
        (.ofTexts ["b", "KEY", "1"])).toList = [.ofTexts ["a", "KEY", "1"]] ∧
      spareSchema.passSchema [.ofTexts ["a", "KEY", "1"]] = true ∧
      (spareContainer.replaceSigner [.ofTexts ["a", "KEY", "1"], .ofTexts ["b", "KEY", "1"]]
        (.ofTexts ["b", "KEY", "1"]) spareSchema).2 =
          ([.ofTexts ["a", "KEY", "1"], .ofTexts ["c", "KEY", "1"]],
            [.ofTexts ["c", "KEY", "1"]]) := by
  decide

end MultipartySchemaContainer

end NdnMps
