import NdnMps.Schema

/-! What a wildcard name stands for, and which other names it matches as well. -/

namespace NdnMps

/-- A test passes on all pairs of two lists exactly when it passes wherever both have an entry. -/
theorem all_zip_iff {α β : Type*} {test : α × β → Bool} {left : List α} {right : List β} :
    (left.zip right).all test = true ↔ ∀ (index : Nat) (a : α) (b : β),
      left[index]? = some a → right[index]? = some b → test (a, b) = true := by
  rw [List.all_eq_true]
  constructor
  · -- The entries at one place are a pair of the list.
    intro all index a b here there
    have place : (left.zip right)[index]? = some (a, b) :=
      List.getElem?_zip_eq_some.mpr ⟨here, there⟩
    exact all _ (List.mem_of_getElem? place)
  · -- A pair of the list stands at some place, where its parts stand in the two lists.
    rintro all ⟨a, b⟩ member
    obtain ⟨index, place⟩ := List.getElem?_of_mem member
    obtain ⟨here, there⟩ := List.getElem?_zip_eq_some.mp place
    exact all index a b here there

/-- TLV-TYPE of a keyword component. -/
def Component.keywordType : Nat := 32

namespace WildCardName

/-- A pattern describes the names of its length that have its components, type and octets, wherever
it has no wildcard. -/
def Describes (pattern : WildCardName) (name : Name) : Prop :=
  pattern.name.size = name.size ∧ ∀ (index : Nat) (mine its : Component),
    pattern.name.components[index]? = some mine → name.components[index]? = some its →
      mine.type ≠ wildcardNameType → mine.type = its.type ∧ mine.value = its.value

/-- A name of the pattern's length has its octets wherever the pattern has no wildcard. -/
def SameOctets (pattern : WildCardName) (name : Name) : Prop :=
  pattern.name.size = name.size ∧ ∀ (index : Nat) (mine its : Component),
    pattern.name.components[index]? = some mine → name.components[index]? = some its →
      mine.type ≠ wildcardNameType → mine.value = its.value

/-- A name is told from the described ones by nothing but the type of some component. -/
def DiffersOnlyInType (pattern : WildCardName) (name : Name) : Prop :=
  pattern.SameOctets name ∧ ∃ (index : Nat) (mine its : Component),
    pattern.name.components[index]? = some mine ∧ name.components[index]? = some its ∧
      mine.type ≠ wildcardNameType ∧ mine.type ≠ its.type

/-- The comparison decides whether the octets are the same. -/
theorem match_iff (pattern : WildCardName) (name : Name) :
    pattern.match name = true ↔ pattern.SameOctets name := by
  unfold «match» SameOctets
  -- Names of another length are refused before any component is compared.
  by_cases sizes : pattern.name.size = name.size
  · rw [if_neg (not_not.mpr sizes), all_zip_iff]
    simp only [sizes, true_and, Bool.or_eq_true, beq_iff_eq]
    -- A wildcard passes whatever stands at its place.
    constructor
    · intro all index mine its here there literal
      exact (all index mine its here there).resolve_left literal
    · intro all index mine its here there
      by_cases wildcard : mine.type = wildcardNameType
      · exact .inl wildcard
      · exact .inr (all index mine its here there wildcard)
  · simp [sizes]

/-- Among the names with the octets of a pattern, the described ones are those that have its types
as well. -/
theorem describes_iff (pattern : WildCardName) (name : Name) :
    pattern.Describes name ↔ pattern.SameOctets name ∧ ¬ pattern.DiffersOnlyInType name := by
  -- What the octets leave open are the types at the literal places.
  constructor
  · rintro ⟨sizes, equal⟩
    refine ⟨⟨sizes, fun index mine its here there literal =>
      (equal index mine its here there literal).2⟩, ?_⟩
    rintro ⟨_, index, mine, its, here, there, literal, other⟩
    exact other (equal index mine its here there literal).1
  · rintro ⟨same, typed⟩
    refine ⟨same.1, fun index mine its here there literal => ?_⟩
    refine ⟨?_, same.2 index mine its here there literal⟩
    by_contra other
    exact typed ⟨same, index, mine, its, here, there, literal, other⟩

/-- A pattern matches exactly the names that it describes and those that differ from them only in
the type of a component. -/
theorem match_iff_describes (pattern : WildCardName) (name : Name) :
    pattern.match name = true ↔ pattern.Describes name ∨ pattern.DiffersOnlyInType name := by
  rw [match_iff, describes_iff]
  -- Either some type differs, or the name is described.
  constructor
  · intro same
    by_cases differs : pattern.DiffersOnlyInType name
    · exact .inr differs
    · exact .inl ⟨same, differs⟩
  · intro either
    exact either.elim (fun described => described.1) fun differs => differs.1

/-- A pattern without a wildcard. -/
def Literal (pattern : WildCardName) : Prop :=
  ∀ component ∈ pattern.name.components, component.type ≠ wildcardNameType

/-- A pattern without a wildcard describes its own name only. -/
theorem Literal.describes_iff_eq {pattern : WildCardName} (literal : pattern.Literal)
    (name : Name) : pattern.Describes name ↔ name = pattern.name := by
  constructor
  · rintro ⟨sizes, equal⟩
    -- The two names have the same entry at every place, the last one and those behind it included.
    apply Name.ext
    apply List.ext_getElem sizes.symm
    intro index its mine
    have here := List.getElem?_eq_getElem mine
    have there := List.getElem?_eq_getElem its
    obtain ⟨types, values⟩ := equal index _ _ here there
      (literal _ (List.getElem_mem mine))
    calc name.components[index]
        = ⟨name.components[index].type, name.components[index].value⟩ := rfl
      _ = pattern.name.components[index] := by rw [← types, ← values]
  · intro same
    rw [same]
    refine ⟨rfl, fun index mine its here there _ => ?_⟩
    have equal : mine = its := Option.some.inj (here.symm.trans there)
    exact ⟨congrArg Component.type equal, congrArg Component.value equal⟩

/-- A component with the same octets and another type. -/
def retyped (component : Component) : Component :=
  ⟨if component.type = Component.genericType then Component.keywordType
    else Component.genericType, component.value⟩

theorem retyped_ne (component : Component) : retyped component ≠ component := by
  intro same
  -- A generic component becomes a keyword, and any other one becomes generic.
  have types := congrArg Component.type same
  by_cases generic : component.type = Component.genericType
  · simp only [retyped, if_pos generic] at types
    rw [generic] at types
    cases types
  · simp only [retyped, if_neg generic] at types
    exact generic types.symm

/-- The type of a component can be changed, unless it is a wildcard. -/
theorem match_retyped (first : Component) (rest : List Component) (times : Nat) :
    WildCardName.match ⟨⟨first :: rest⟩, times⟩ ⟨retyped first :: rest⟩ = true := by
  rw [match_iff]
  refine ⟨rfl, fun index mine its here there _ => ?_⟩
  -- Behind the first place the components are the same.
  cases index with
  | zero =>
    cases here
    cases there
    rfl
  | succ index =>
    have equal : mine = its := Option.some.inj (here.symm.trans there)
    exact congrArg Component.value equal

/-- A pattern without a wildcard matches only its own name exactly when it has no component. -/
theorem Literal.match_iff_eq {pattern : WildCardName} (literal : pattern.Literal) :
    (∀ name, pattern.match name = true ↔ name = pattern.name) ↔ pattern.name.components = [] := by
  -- A component could be exchanged for one of another type, unless there is none.
  constructor
  · intro exact
    obtain ⟨⟨components⟩, times⟩ := pattern
    cases components with
    | nil => rfl
    | cons first rest =>
      -- The name with the first component of another type is matched too.
      have same := (exact _).mp (match_retyped first rest times)
      have changed : retyped first = first :=
        (List.cons.inj (congrArg Name.components same)).1
      exact absurd changed (retyped_ne first)
  · intro empty name
    rw [match_iff_describes, literal.describes_iff_eq]
    -- There is no place at which a type could differ.
    have none : ¬ pattern.DiffersOnlyInType name := by
      rintro ⟨_, index, mine, _, here, _⟩
      rw [empty, List.getElem?_nil] at here
      cases here
    exact or_iff_left none

/-- The comparison is right about a name unless only the type of a component tells it from the
described ones. A pattern without a wildcard matches other names as soon as it has a component. -/
theorem match_describes_iff (pattern : WildCardName) :
    (∀ name, (pattern.match name = true ↔ pattern.Describes name) ↔
        ¬ pattern.DiffersOnlyInType name) ∧
      (pattern.Literal → ((∀ name, pattern.match name = true ↔ name = pattern.name) ↔
        pattern.name.components = [])) := by
  refine ⟨fun name => ?_, fun literal => literal.match_iff_eq⟩
  rw [match_iff, describes_iff]
  -- The comparison accepts just the names with the octets, so it errs on the others among them.
  constructor
  · intro right differs
    exact (right.mp differs.1).2 differs
  · intro typed
    exact ⟨fun same => ⟨same, typed⟩, fun described => described.1⟩

/-- A pattern for a generic component matches a keyword component, and a rule for a packet applies
to another one. -/
theorem match_keyword :
    let pattern : WildCardName := .ofName (.ofTexts ["a"])
    let name : Name := ⟨[⟨Component.keywordType, asciiBytes "a"⟩]⟩
    let schema : MultipartySchema := ⟨pattern, "rule", [], [], 0⟩
    pattern.Literal ∧ name ≠ pattern.name ∧ pattern.match name = true ∧
      schema.match name = true ∧ ¬ pattern.Describes name := by
  -- The two names have one component with the octet of the letter each.
  refine ⟨?_, by decide, by decide, by decide, ?_⟩
  · intro component member
    cases List.mem_singleton.mp member
    decide
  · rintro ⟨_, equal⟩
    obtain ⟨types, _⟩ := equal 0 _ _ rfl rfl (by decide)
    cases types

end WildCardName

end NdnMps
