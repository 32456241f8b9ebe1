import NdnMps.Schema.Replacement

/-! What a replacement keeps, what it adds, and when a lost signer needs no replacement. -/

namespace NdnMps

/-- A set is a base extended by new candidates. -/
structure Extends (candidates base set diff : SortedSet Name) : Prop where
  mem_iff : ∀ name, name ∈ set ↔ name ∈ base ∨ name ∈ diff
  candidate : ∀ name ∈ diff, name ∈ candidates
  fresh : ∀ name ∈ diff, name ∉ base

namespace Extends

variable {candidates base set diff : SortedSet Name}

/-- A base extends itself by nothing. -/
theorem refl (candidates base : SortedSet Name) : Extends candidates base base .empty where
  mem_iff name := by simp
  candidate name member := absurd member (SortedSet.not_mem_empty name)
  fresh name member := absurd member (SortedSet.not_mem_empty name)

/-- A further candidate extends both the set and the difference. -/
theorem insert (extended : Extends candidates base set diff) {name : Name}
    (candidate : name ∈ candidates) (absent : name ∉ set) :
    Extends candidates base (set.insert name) (diff.insert name) where
  mem_iff other := by
    simp only [SortedSet.mem_insert, extended.mem_iff]
    tauto
  candidate other member := by
    rcases SortedSet.mem_insert.mp member with same | old
    · exact same ▸ candidate
    · exact extended.candidate other old
  fresh other member inBase := by
    rcases SortedSet.mem_insert.mp member with same | old
    · exact absent ((extended.mem_iff name).mpr (.inl (same ▸ inBase)))
    · exact extended.fresh other old inBase

/-- A base that is extended by nothing stays as it is. -/
theorem eq_of_not_mem (extended : Extends candidates base set diff)
    (none : ∀ name, name ∉ diff) : set = base := by
  -- Two sets with the same members are the same set.
  ext name
  rw [extended.mem_iff]
  exact or_iff_left (none name)

end Extends

namespace MultipartySchemaContainer

variable {κ : Type} {container : MultipartySchemaContainer κ}

/-- A pattern takes no key: it is met already, or its next party is the one of the empty name. -/
def NeedsNobody (container : MultipartySchemaContainer κ) (set : SortedSet Name)
    (pattern : WildCardName) : Prop :=
  pattern.times ≤ pattern.count set.toList ∨
    pattern.quota.NextParty container.available set .root

/-- An empty name has no components. -/
theorem eq_root_of_empty {name : Name} (empty : name.empty = true) : name = .root := by
  -- A name is its list of components, and no list but the empty one counts as empty.
  obtain ⟨components⟩ := name
  cases components with
  | nil => rfl
  | cons first rest => cases empty

/-- A pattern that takes no key leaves the required loop as it was. -/
theorem findANewKeyForPattern_idle {set : SortedSet Name} {pattern : WildCardName}
    (idle : container.NeedsNobody set pattern) :
    container.findANewKeyForPattern set pattern = (true, .root) := by
  -- A search takes a key only where the pattern is short, and only an available one.
  rcases container.findANewKeyForPattern_cases set pattern with
    ⟨-, outcome⟩ | ⟨short, key, next, outcome⟩ | ⟨short, exhausted, outcome⟩
  · exact outcome
  · rcases idle with met | empty
    · omega
    · rw [outcome, next.unique empty]
  · rcases idle with met | empty
    · omega
    · exact absurd (exhausted _ empty.1.1.1 empty.1.1.2) empty.1.2

/-- A pattern that takes a key finds its next party, or finds nobody left. -/
theorem findANewKeyForPattern_busy {set : SortedSet Name} {pattern : WildCardName}
    (busy : ¬ container.NeedsNobody set pattern) :
    (∃ key, key ∈ container.available ∧ key ∉ set ∧ key.empty = false ∧
        container.findANewKeyForPattern set pattern = (true, key)) ∨
      (pattern.quota.Exhausted container.available set ∧
        container.findANewKeyForPattern set pattern = (false, .root)) := by
  rcases container.findANewKeyForPattern_cases set pattern with
    ⟨met, -⟩ | ⟨short, key, next, outcome⟩ | ⟨short, exhausted, outcome⟩
  · exact absurd (.inl met) busy
  · refine .inl ⟨key, next.1.1.1, next.1.2, ?_, outcome⟩
    -- The next party with the empty name would not have been taken.
    cases named : key.empty with
    | false => rfl
    | true => exact absurd (.inr (eq_root_of_empty named ▸ next)) busy
  · exact .inr ⟨exhausted, outcome⟩

/-- Without a pattern that takes a key the required loop changes nothing. -/
theorem replaceRequired_idle {unavailableKey : Name} {patterns : List WildCardName}
    {set : SortedSet Name} (diff : SortedSet Name)
    (idle : ∀ pattern ∈ patterns, pattern.match unavailableKey = true →
      container.NeedsNobody set pattern) :
    container.replaceRequired unavailableKey patterns set diff = some (set, diff) := by
  -- Induction on the patterns, none of which takes a key.
  induction patterns with
  | nil => rfl
  | cons pattern rest ih =>
    have others := ih fun other member => idle other (List.mem_cons_of_mem _ member)
    rw [replaceRequired]
    split
    · rename_i lost
      rw [findANewKeyForPattern_idle (idle pattern List.mem_cons_self lost)]
      exact others
    · exact others

/-- The required loop extends the set by available keys, which it records, and by at least one
where some pattern takes a key. -/
theorem replaceRequired_extends {unavailableKey : Name} {patterns : List WildCardName}
    {base set diff after added : SortedSet Name}
    (extended : Extends container.available base set diff)
    (result : container.replaceRequired unavailableKey patterns set diff = some (after, added)) :
    Extends container.available base after added ∧ (∀ name ∈ diff, name ∈ added) ∧
      ((∃ pattern ∈ patterns, pattern.match unavailableKey = true ∧
        ¬ container.NeedsNobody set pattern) → ∃ name, name ∈ added) := by
  -- Induction on the patterns. The loop fails at the first that needs a key and finds none.
  induction patterns generalizing set diff with
  | nil =>
    cases result
    exact ⟨extended, fun _ member => member, by rintro ⟨_, impossible, -⟩; cases impossible⟩
  | cons pattern rest ih =>
    rw [replaceRequired] at result
    split at result
    · rename_i lost
      by_cases idle : container.NeedsNobody set pattern
      · rw [findANewKeyForPattern_idle idle] at result
        obtain ⟨whole, grown, busy⟩ := ih extended result
        refine ⟨whole, grown, fun taken => busy ?_⟩
        exact ((List.exists_mem_cons_iff _ _ _).mp taken).resolve_left fun here => here.2 idle
      · rcases findANewKeyForPattern_busy idle with
          ⟨key, available, absent, named, outcome⟩ | ⟨-, outcome⟩
        · simp only [outcome, named, Bool.false_eq_true, if_false] at result
          obtain ⟨whole, grown, -⟩ := ih (extended.insert available absent) result
          have inserted := grown key (SortedSet.mem_insert.mpr (.inl rfl))
          exact ⟨whole, fun name member => grown name (SortedSet.mem_insert.mpr (.inr member)),
            fun _ => ⟨key, inserted⟩⟩
        · rw [outcome] at result
          cases result
    · rename_i unrelated
      obtain ⟨whole, grown, busy⟩ := ih extended result
      refine ⟨whole, grown, fun taken => busy ?_⟩
      exact ((List.exists_mem_cons_iff _ _ _).mp taken).resolve_left fun here => unrelated here.1

/-- An optional pattern takes no key when nobody is needed or nobody is left. -/
def AddsNobody (container : MultipartySchemaContainer κ) (set : SortedSet Name)
    (pattern : WildCardName) : Prop :=
  container.NeedsNobody set pattern ∨ pattern.quota.Exhausted container.available set

/-- Without a pattern that adds a key the optional loop changes nothing. -/
theorem replaceOptional_idle {patterns : List WildCardName} {set : SortedSet Name}
    (diff : SortedSet Name) (idle : ∀ pattern ∈ patterns, container.AddsNobody set pattern) :
    container.replaceOptional patterns set diff = (set, diff) := by
  -- Induction on the patterns. The loop ends at the first that adds a key, and none does.
  induction patterns with
  | nil => rfl
  | cons pattern rest ih =>
    have others := ih fun other member => idle other (List.mem_cons_of_mem _ member)
    rw [replaceOptional]
    by_cases needed : container.NeedsNobody set pattern
    · rw [findANewKeyForPattern_idle needed]
      exact others
    · have exhausted := (idle pattern List.mem_cons_self).resolve_left needed
      rcases findANewKeyForPattern_busy needed with
        ⟨key, available, absent, named, outcome⟩ | ⟨-, outcome⟩
      · -- An available key outside the set that the pattern found would not be exhausted.
        rcases container.findANewKeyForPattern_cases set pattern with
          ⟨met, -⟩ | ⟨-, other, next, -⟩ | ⟨-, -, failed⟩
        · exact absurd (.inl met) needed
        · exact absurd (exhausted _ next.1.1.1 next.1.1.2) next.1.2
        · rw [failed] at outcome
          cases outcome
      · rw [outcome]
        exact others

/-- The optional loop extends the set by available keys, which it records, and by at least one
where some pattern adds a key. -/
theorem replaceOptional_extends (patterns : List WildCardName)
    {base set diff : SortedSet Name} (extended : Extends container.available base set diff) :
    Extends container.available base (container.replaceOptional patterns set diff).1
        (container.replaceOptional patterns set diff).2 ∧
      (∀ name ∈ diff, name ∈ (container.replaceOptional patterns set diff).2) ∧
      ((∃ pattern ∈ patterns, ¬ container.AddsNobody set pattern) →
        ∃ name, name ∈ (container.replaceOptional patterns set diff).2) := by
  -- Induction on the patterns, where a key that is added ends the loop.
  induction patterns with
  | nil => exact ⟨extended, fun _ member => member, by rintro ⟨_, impossible, -⟩; cases impossible⟩
  | cons pattern rest ih =>
    obtain ⟨whole, grown, busy⟩ := ih
    rw [replaceOptional]
    by_cases needed : container.NeedsNobody set pattern
    · rw [findANewKeyForPattern_idle needed]
      refine ⟨whole, grown, fun taken => busy ?_⟩
      exact ((List.exists_mem_cons_iff _ _ _).mp taken).resolve_left fun here => here (.inl needed)
    · rcases findANewKeyForPattern_busy needed with
        ⟨key, available, absent, named, outcome⟩ | ⟨exhausted, outcome⟩
      · simp only [outcome, named, Bool.false_eq_true, if_false]
        refine ⟨extended.insert available absent, ?_, fun _ => ⟨key, ?_⟩⟩
        · exact fun name member => SortedSet.mem_insert.mpr (.inr member)
        · exact SortedSet.mem_insert.mpr (.inl rfl)
      · rw [outcome]
        refine ⟨whole, grown, fun taken => busy ?_⟩
        exact ((List.exists_mem_cons_iff _ _ _).mp taken).resolve_left
          fun here => here (.inr exhausted)

/-- A lost signer needs no replacement: others remain, and no pattern asks for a further key. -/
def Dispensable (container : MultipartySchemaContainer κ) (schema : MultipartySchema)
    (signers : List Name) (unavailableKey : Name) : Prop :=
  (remaining signers unavailableKey).toList ≠ [] ∧
    (∀ pattern ∈ schema.signers, pattern.match unavailableKey = true →
      (container.markUnavailable unavailableKey).NeedsNobody
        (remaining signers unavailableKey) pattern) ∧
    ∀ pattern ∈ schema.optionalSigners,
      (container.markUnavailable unavailableKey).AddsNobody
        (remaining signers unavailableKey) pattern

/-- What `replaceSigner` returns besides the empty lists: the remaining signers and new ones. -/
structure Renews (container : MultipartySchemaContainer κ) (schema : MultipartySchema)
    (signers : List Name) (unavailableKey : Name) (newSigners diffSigners : List Name) :
    Prop where
  nonempty : newSigners ≠ []
  signers_nodup : newSigners.Nodup
  diff_nodup : diffSigners.Nodup
  mem_iff : ∀ name, name ∈ newSigners ↔
    (name ≠ unavailableKey ∧ name ∈ signers) ∨ name ∈ diffSigners
  available : ∀ name ∈ diffSigners, name ∈ (container.markUnavailable unavailableKey).available
  fresh : ∀ name ∈ diffSigners, name ∉ signers
  dispensable_iff : diffSigners = [] ↔
    container.Dispensable schema signers unavailableKey

@[simp] theorem mem_remaining {signers : List Name} {unavailableKey name : Name} :
    name ∈ remaining signers unavailableKey ↔ name ≠ unavailableKey ∧ name ∈ signers := by
  simp [remaining]

/-- An available key is not the one just recorded as unavailable. -/
theorem ne_of_mem_available {unavailableKey name : Name}
    (available : name ∈ (container.markUnavailable unavailableKey).available) :
    name ≠ unavailableKey := by
  -- The mark has put the lost key among the unavailable ones.
  intro same
  rw [mem_available] at available
  exact available.2 (SortedSet.mem_insert.mpr (.inl same))

/-- A dispensable signer is simply left out. -/
theorem replaceSigner_of_dispensable {schema : MultipartySchema} {signers : List Name}
    {unavailableKey : Name} (idle : container.Dispensable schema signers unavailableKey) :
    container.replaceSigner signers unavailableKey schema =
      (container.markUnavailable unavailableKey,
        ((remaining signers unavailableKey).toList, [])) :=
  -- Neither loop takes a key, so the set without the lost one is what is left.
  replaceSigner_of_some (replaceRequired_idle .empty idle.2.1)
    (replaceOptional_idle .empty idle.2.2)

section Outcome

variable {schema : MultipartySchema} {signers : List Name} {unavailableKey : Name}
  {middle added renewed diff : SortedSet Name}
  (required : (container.markUnavailable unavailableKey).replaceRequired unavailableKey
    schema.signers (remaining signers unavailableKey) .empty = some (middle, added))
  (optional : (container.markUnavailable unavailableKey).replaceOptional schema.optionalSigners
    middle added = (renewed, diff))

include required optional

/-- Together the two loops extend the remaining signers by the recorded difference. -/
theorem extends_remaining :
    Extends (container.markUnavailable unavailableKey).available (remaining signers unavailableKey)
      renewed diff := by
  -- The optional loop goes on with the set and the difference of the required one.
  have start := Extends.refl (container.markUnavailable unavailableKey).available
    (remaining signers unavailableKey)
  have extended := (replaceRequired_extends start required).1
  have whole := (replaceOptional_extends schema.optionalSigners extended).1
  rw [optional] at whole
  exact whole

/-- Where the loops add nobody, no pattern takes a key for the remaining signers. -/
theorem idle_of_diff_empty (nobody : ∀ name, name ∉ diff) :
    (∀ pattern ∈ schema.signers, pattern.match unavailableKey = true →
      (container.markUnavailable unavailableKey).NeedsNobody
        (remaining signers unavailableKey) pattern) ∧
    ∀ pattern ∈ schema.optionalSigners,
      (container.markUnavailable unavailableKey).AddsNobody
        (remaining signers unavailableKey) pattern := by
  have start := Extends.refl (container.markUnavailable unavailableKey).available
    (remaining signers unavailableKey)
  obtain ⟨extended, -, busyRequired⟩ := replaceRequired_extends start required
  obtain ⟨-, grown, busyOptional⟩ := replaceOptional_extends schema.optionalSigners extended
  rw [optional] at grown busyOptional
  -- The optional loop started from the remaining signers as well.
  have same : middle = remaining signers unavailableKey :=
    extended.eq_of_not_mem fun name new => nobody name (grown name new)
  refine ⟨fun pattern member lost => ?_, fun pattern member => ?_⟩
  · by_contra busy
    obtain ⟨name, new⟩ := busyRequired ⟨pattern, member, lost, busy⟩
    exact nobody name (grown name new)
  · by_contra busy
    obtain ⟨name, new⟩ := busyOptional ⟨pattern, member, same ▸ busy⟩
    exact nobody name new

/-- A list that is not empty is a renewed one. -/
theorem renews_of_nonempty (found : renewed.toList ≠ []) :
    container.Renews schema signers unavailableKey renewed.toList diff.toList := by
  have whole := extends_remaining required optional
  refine ⟨found, renewed.nodup, diff.nodup, ?_, whole.candidate, ?_, ?_⟩
  · intro name
    simp only [SortedSet.mem_toList, whole.mem_iff, mem_remaining]
  · -- A new key is not the lost one, so it would be among the remaining signers.
    intro name member listed
    have other := ne_of_mem_available (whole.candidate name member)
    exact whole.fresh name member (mem_remaining.mpr ⟨other, listed⟩)
  · -- The difference is empty exactly when neither loop has taken a key.
    constructor
    · intro nothing
      have nobody : ∀ name, name ∉ diff := List.eq_nil_iff_forall_not_mem.mp nothing
      have same := whole.eq_of_not_mem nobody
      exact ⟨same ▸ found, idle_of_diff_empty required optional nobody⟩
    · intro idle
      have returned := replaceSigner_of_some required optional
      rw [replaceSigner_of_dispensable idle] at returned
      exact (congrArg (fun result => result.2.2) returned).symm

end Outcome

/-- The key is recorded as unavailable, and either two empty lists are returned or a renewed
list. -/
theorem replaceSigner_cases (container : MultipartySchemaContainer κ) (schema : MultipartySchema)
    (signers : List Name) (unavailableKey : Name) :
    (container.replaceSigner signers unavailableKey schema).1 =
        container.markUnavailable unavailableKey ∧
      (((container.replaceSigner signers unavailableKey schema).2 = ([], []) ∧
          ¬ container.Dispensable schema signers unavailableKey) ∨
        container.Renews schema signers unavailableKey
          (container.replaceSigner signers unavailableKey schema).2.1
          (container.replaceSigner signers unavailableKey schema).2.2) := by
  -- A dispensable signer leaves a renewed list, so an empty list means it is none.
  have idleList : container.Dispensable schema signers unavailableKey →
      (container.replaceSigner signers unavailableKey schema).2.1 ≠ [] := by
    intro idle
    rw [replaceSigner_of_dispensable idle]
    exact idle.1
  cases required : (container.markUnavailable unavailableKey).replaceRequired unavailableKey
      schema.signers (remaining signers unavailableKey) .empty with
  | none =>
    rw [replaceSigner_of_none required] at idleList ⊢
    exact ⟨rfl, .inl ⟨rfl, fun idle => idleList idle rfl⟩⟩
  | some pair =>
    obtain ⟨middle, added⟩ := pair
    cases optional : (container.markUnavailable unavailableKey).replaceOptional
        schema.optionalSigners middle added with
    | mk renewed diff =>
      rw [replaceSigner_of_some required optional] at idleList ⊢
      refine ⟨rfl, ?_⟩
      by_cases found : renewed.toList = []
      · -- Whatever is new would be in the list.
        have nothing : diff.toList = [] := by
          rw [List.eq_nil_iff_forall_not_mem] at found ⊢
          exact fun name new => found name
            (((extends_remaining required optional).mem_iff name).mpr (.inr new))
        exact .inl ⟨Prod.ext found nothing, fun idle => idleList idle found⟩
      · exact .inr (renews_of_nonempty required optional found)

end MultipartySchemaContainer

end NdnMps
