import NdnMps.Schema

/-! Several rules may apply to one packet, and the container asks only the first of them. -/

namespace NdnMps

namespace MultipartySchemaContainer

variable {κ : Type} (container : MultipartySchemaContainer κ)

/-- Every listed signer has a trusted key. -/
def AllTrusted (signers : List Name) : Prop :=
  ∀ signer ∈ signers, signer ∈ container.trustedIds.names

/-- The documented meaning of several rules: one that applies and accepts is enough. -/
def SomeRuleAccepts (packetName : Name) (signers : List Name) : Prop :=
  ∃ schema ∈ container.schemas,
    schema.match packetName = true ∧ schema.passSchema signers = true

/-- The first rule that applies rejects a trusted list which a later applying rule accepts. -/
def Shadowed (packetName : Name) (signers : List Name) : Prop :=
  container.AllTrusted signers ∧
    ∃ before first after, container.schemas = before ++ first :: after ∧
      (∀ schema ∈ before, schema.match packetName = false) ∧
      first.match packetName = true ∧ first.passSchema signers = false ∧
      ∃ later ∈ after, later.match packetName = true ∧ later.passSchema signers = true

/-- All rules that apply to the packet give the list the same answer. -/
def RulesAgree (packetName : Name) (signers : List Name) : Prop :=
  ∀ left ∈ container.schemas, left.match packetName = true →
    ∀ right ∈ container.schemas, right.match packetName = true →
      left.passSchema signers = right.passSchema signers

/-- An untrusted signer is refused whatever the rules say. -/
theorem passSchema_untrusted {packetName : Name} {signers : List Name}
    (untrusted : ¬ container.AllTrusted signers) :
    container.passSchema packetName signers = false := by
  -- The loop over the signers returns before any schema is looked at.
  have found : (signers.any fun item => decide (item ∉ container.trustedIds.names)) = true := by
    simpa [AllTrusted] using untrusted
  simp only [passSchema, found, if_true]

/-- With trusted signers the first rule that applies decides. -/
theorem passSchema_trusted (packetName : Name) {signers : List Name}
    (trusted : container.AllTrusted signers) :
    container.passSchema packetName signers =
      match container.schemas.find? fun schema => schema.match packetName with
      | some schema => schema.passSchema signers
      | none => false := by
  -- The check for unknown keys comes first, and here it finds none.
  have absent : (signers.any fun item => decide (item ∉ container.trustedIds.names)) = false := by
    simpa [AllTrusted] using trusted
  unfold passSchema
  exact if_neg (by rw [absent]; exact Bool.false_ne_true)

/-- Among trusted signers the answer is one of an applying rule, or a refusal without any. -/
theorem passSchema_cases (packetName : Name) {signers : List Name}
    (trusted : container.AllTrusted signers) :
    (∃ schema ∈ container.schemas, schema.match packetName = true ∧
        container.passSchema packetName signers = schema.passSchema signers) ∨
      ((∀ schema ∈ container.schemas, schema.match packetName = false) ∧
        container.passSchema packetName signers = false) := by
  -- The code asks the first rule that matches, and returns its answer.
  rw [container.passSchema_trusted packetName trusted]
  cases found : container.schemas.find? fun schema => schema.match packetName with
  | none =>
    refine .inr ⟨?_, rfl⟩
    simpa [List.find?_eq_none] using found
  | some schema =>
    obtain ⟨applies, -⟩ := List.find?_eq_some_iff_append.mp found
    exact .inl ⟨schema, List.mem_of_find?_eq_some found, applies, rfl⟩

/-- An accepted list names trusted signers only. -/
theorem allTrusted_of_passSchema {packetName : Name} {signers : List Name}
    (passes : container.passSchema packetName signers = true) : container.AllTrusted signers := by
  by_contra untrusted
  rw [container.passSchema_untrusted untrusted] at passes
  cases passes

/-- Some rule accepts an accepted list. -/
theorem someRuleAccepts_of_passSchema {packetName : Name} {signers : List Name}
    (passes : container.passSchema packetName signers = true) :
    container.SomeRuleAccepts packetName signers := by
  have trusted := container.allTrusted_of_passSchema passes
  rcases container.passSchema_cases packetName trusted with
    ⟨schema, listed, applies, answer⟩ | ⟨-, refused⟩
  · exact ⟨schema, listed, applies, answer.symm.trans passes⟩
  · rw [refused] at passes
    cases passes

/-- A shadowed list is accepted by a rule. -/
theorem Shadowed.someRuleAccepts {container : MultipartySchemaContainer κ} {packetName : Name}
    {signers : List Name}
    (shadowed : container.Shadowed packetName signers) :
    container.SomeRuleAccepts packetName signers := by
  obtain ⟨-, before, first, after, split, -, -, -, later, member, applies, accepts⟩ := shadowed
  exact ⟨later, by simp [split, member], applies, accepts⟩

/-- A shadowed list is refused, because the search finds the rule that shadows the others. -/
theorem Shadowed.refused {container : MultipartySchemaContainer κ} {packetName : Name}
    {signers : List Name}
    (shadowed : container.Shadowed packetName signers) :
    container.passSchema packetName signers = false := by
  obtain ⟨trusted, before, first, after, split, skipped, applies, rejects, -⟩ := shadowed
  have found : (container.schemas.find? fun schema => schema.match packetName) = some first :=
    List.find?_eq_some_iff_append.mpr ⟨applies, before, after, split, by simpa using skipped⟩
  rw [container.passSchema_trusted packetName trusted, found]
  exact rejects

/-- A trusted list that is refused although a rule accepts it is shadowed. -/
theorem shadowed_of_refused {packetName : Name} {signers : List Name}
    (trusted : container.AllTrusted signers)
    (accepted : container.SomeRuleAccepts packetName signers)
    (refused : container.passSchema packetName signers = false) :
    container.Shadowed packetName signers := by
  obtain ⟨schema, member, schemaApplies, accepts⟩ := accepted
  rw [container.passSchema_trusted packetName trusted] at refused
  cases found : container.schemas.find? fun schema => schema.match packetName with
  | none =>
    have none := List.find?_eq_none.mp found schema member
    exact absurd schemaApplies none
  | some first =>
    rw [found] at refused
    dsimp only at refused
    obtain ⟨applies, before, after, split, skipped⟩ := List.find?_eq_some_iff_append.mp found
    have skipped : ∀ schema ∈ before, schema.match packetName = false := by
      simpa using skipped
    refine ⟨trusted, before, first, after, split, skipped, applies, refused, schema, ?_,
      schemaApplies, accepts⟩
    -- The accepting rule is neither skipped nor the rejecting one, so it comes later.
    rw [split] at member
    rcases List.mem_append.mp member with early | late
    · simp [skipped schema early] at schemaApplies
    · rcases List.mem_cons.mp late with same | late
      · rw [same, refused] at accepts
        cases accepts
      · exact late

/-- The answer is the documented one exactly when no accepting rule is shadowed. -/
theorem passSchema_iff_someRule (packetName : Name) (signers : List Name) :
    (container.passSchema packetName signers = true ↔
        container.AllTrusted signers ∧ container.SomeRuleAccepts packetName signers) ↔
      ¬ container.Shadowed packetName signers := by
  constructor
  · intro documented shadowed
    -- A shadowed rule accepts a list that the first applicable rule refuses.
    have passes := documented.mpr ⟨shadowed.1, shadowed.someRuleAccepts⟩
    rw [shadowed.refused] at passes
    cases passes
  · intro clear
    constructor
    · intro passes
      exact ⟨container.allTrusted_of_passSchema passes,
        container.someRuleAccepts_of_passSchema passes⟩
    · -- A refusal would shadow the rule that accepts.
      rintro ⟨trusted, accepted⟩
      by_contra refused
      exact clear (container.shadowed_of_refused trusted accepted
        (Bool.eq_false_of_not_eq_true refused))

/-- The container with its rules listed differently. -/
def withSchemas (schemas : List MultipartySchema) : MultipartySchemaContainer κ :=
  { container with schemas }

/-- A rule moved to the front decides for the packets it applies to. -/
theorem passSchema_front {packetName : Name} {signers : List Name}
    (trusted : container.AllTrusted signers) {schema : MultipartySchema}
    (applies : schema.match packetName = true) (rest : List MultipartySchema) :
    (container.withSchemas (schema :: rest)).passSchema packetName signers =
      schema.passSchema signers := by
  have decided := (container.withSchemas (schema :: rest)).passSchema_trusted
    packetName trusted
  rw [decided]
  simp only [withSchemas, List.find?_cons, applies]

/-- The answer survives every reordering exactly when the applying rules agree on the list, or
some signer is untrusted. -/
theorem passSchema_reorder_iff (packetName : Name) (signers : List Name) :
    (∀ schemas : List MultipartySchema, schemas.Perm container.schemas →
        (container.withSchemas schemas).passSchema packetName signers =
          container.passSchema packetName signers) ↔
      ¬ container.AllTrusted signers ∨ container.RulesAgree packetName signers := by
  constructor
  · -- Either of two applying rules can be moved to the front, where it decides.
    intro stable
    by_cases trusted : container.AllTrusted signers
    · refine .inr fun left leftListed leftApplies right rightListed rightApplies => ?_
      have first := stable _ (List.perm_cons_erase leftListed).symm
      have second := stable _ (List.perm_cons_erase rightListed).symm
      rw [container.passSchema_front trusted leftApplies] at first
      rw [container.passSchema_front trusted rightApplies] at second
      exact first.trans second.symm
    · exact .inl trusted
  · rintro stable schemas perm
    by_cases trusted : container.AllTrusted signers
    · have agree := stable.resolve_left (not_not_intro trusted)
      -- Both orders are answered by some applying rule, or by none at all.
      rcases (container.withSchemas schemas).passSchema_cases packetName trusted
        with ⟨left, leftListed, leftApplies, leftAnswer⟩ | ⟨noneApplies, leftAnswer⟩
      · have leftListed : left ∈ container.schemas := perm.mem_iff.mp leftListed
        rcases container.passSchema_cases packetName trusted
          with ⟨right, rightListed, rightApplies, rightAnswer⟩ | ⟨noneApplies, -⟩
        · rw [leftAnswer, rightAnswer]
          exact agree left leftListed leftApplies right rightListed rightApplies
        · simp [noneApplies left leftListed] at leftApplies
      · rcases container.passSchema_cases packetName trusted
          with ⟨right, rightListed, rightApplies, -⟩ | ⟨-, rightAnswer⟩
        · have listed := noneApplies right (perm.mem_iff.mpr rightListed)
          simp [listed] at rightApplies
        · rw [leftAnswer, rightAnswer]
    · rw [container.passSchema_untrusted trusted]
      exact (container.withSchemas schemas).passSchema_untrusted trusted

/-- The container gives the documented answer exactly when no accepting rule is shadowed, and the
same answer in every order exactly when the applying rules agree. -/
theorem passSchema_documented_iff (packetName : Name) (signers : List Name) :
    ((container.passSchema packetName signers = true ↔
        container.AllTrusted signers ∧ container.SomeRuleAccepts packetName signers) ↔
      ¬ container.Shadowed packetName signers) ∧
    ((∀ schemas : List MultipartySchema, schemas.Perm container.schemas →
        (container.withSchemas schemas).passSchema packetName signers =
          container.passSchema packetName signers) ↔
      ¬ container.AllTrusted signers ∨ container.RulesAgree packetName signers) :=
  ⟨container.passSchema_iff_someRule packetName signers,
    container.passSchema_reorder_iff packetName signers⟩

/-- Two rules for one packet, the first asking for a signer that did not sign. -/
def shadowingContainer : MultipartySchemaContainer Unit where
  schemas := [
    ⟨.ofName (.ofTexts ["data"]), "rule1", [.ofName (.ofTexts ["a", "KEY", "1"])], [], 0⟩,
    ⟨.ofName (.ofTexts ["data"]), "rule2", [.ofName (.ofTexts ["c", "KEY", "1"])], [], 0⟩]
  trustedIds := ⟨[(.ofTexts ["a", "KEY", "1"], ()), (.ofTexts ["c", "KEY", "1"], ())], by decide⟩
  unavailableSigners := .empty

/-- A trusted signer accepted by the second rule is refused, and accepted once the rules swap. -/
theorem passSchema_ignores_later_rule :
    shadowingContainer.AllTrusted [.ofTexts ["c", "KEY", "1"]] ∧
      shadowingContainer.SomeRuleAccepts (.ofTexts ["data"]) [.ofTexts ["c", "KEY", "1"]] ∧
      shadowingContainer.passSchema (.ofTexts ["data"]) [.ofTexts ["c", "KEY", "1"]] = false ∧
      (shadowingContainer.withSchemas shadowingContainer.schemas.reverse).passSchema
        (.ofTexts ["data"]) [.ofTexts ["c", "KEY", "1"]] = true := by
  refine ⟨?_, ⟨_, List.mem_cons_of_mem _ List.mem_cons_self, ?_, ?_⟩, ?_, ?_⟩
  · simp only [AllTrusted, List.forall_mem_singleton]
    decide
  all_goals decide

end MultipartySchemaContainer

end NdnMps
