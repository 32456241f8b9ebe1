import NdnMps.Data.Relaxation
import NdnMps.Schema.Selection
import NdnMps.Schema.Wildcards
import NdnMps.Verifier.Acceptance

/-! Rules that ask for less than others: they accept what the others accept, and signers are found
for them where they are found for the others. -/

namespace NdnMps

namespace WildCardName

/-- A pattern has a wildcard or the same octets wherever the other one has octets, and a wildcard
wherever the other one has one. -/
def Generalizes (general specific : WildCardName) : Prop :=
  general.name.size = specific.name.size ∧ ∀ (index : Nat) (mine its : Component),
    general.name.components[index]? = some mine → specific.name.components[index]? = some its →
      mine.type ≠ wildcardNameType → its.type ≠ wildcardNameType ∧ mine.value = its.value

instance (general specific : WildCardName) : Decidable (general.Generalizes specific) :=
  decidable_of_iff (general.name.size = specific.name.size ∧
    (general.name.components.zip specific.name.components).all (fun pair =>
      decide (pair.1.type ≠ wildcardNameType →
        pair.2.type ≠ wildcardNameType ∧ pair.1.value = pair.2.value)) = true)
    (and_congr_right fun _ => by simp only [all_zip_iff, decide_eq_true_eq])

/-- The name with some component in the place of every wildcard of a pattern. -/
def filled (pattern : WildCardName) (filler : Component) : Name :=
  ⟨pattern.name.components.map fun component =>
    if component.type = wildcardNameType then filler else component⟩

/-- A pattern matches its own filled form. -/
theorem match_filled (pattern : WildCardName) (filler : Component) :
    pattern.match (pattern.filled filler) = true := by
  refine (match_iff pattern _).mpr ⟨?_, fun index mine its here there literal => ?_⟩
  · simp [filled, Name.size]
  · rw [filled, List.getElem?_map, here, Option.map_some, if_neg literal] at there
    exact congrArg Component.value (Option.some.inj there)

/-- What matches all the filled forms has the filler's octets, or those of the pattern, wherever it
has no wildcard. -/
theorem value_filled {general specific : WildCardName}
    (matches' : ∀ name, specific.match name = true → general.match name = true) {index : Nat}
    {mine its : Component} (here : general.name.components[index]? = some mine)
    (there : specific.name.components[index]? = some its) (literal : mine.type ≠ wildcardNameType)
    (filler : Component) :
    mine.value = (if its.type = wildcardNameType then filler else its).value := by
  have octets := ((match_iff general _).mp (matches' _ (specific.match_filled filler))).2
  refine octets index mine _ here ?_ literal
  rw [filled, List.getElem?_map, there, Option.map_some]

/-- Whatever a pattern matches, its generalization matches as well. -/
theorem Generalizes.match {general specific : WildCardName}
    (generalizes : general.Generalizes specific) {name : Name}
    (matched : specific.match name = true) : general.match name = true := by
  obtain ⟨sizes, places⟩ := generalizes
  obtain ⟨long, octets⟩ := (match_iff specific name).mp matched
  refine (match_iff general name).mpr ⟨sizes.trans long, fun index mine its here there => ?_⟩
  intro literal
  -- At its place the other pattern has the octets, and so has the name.
  have inside : index < specific.name.components.length :=
    (List.getElem?_eq_some_iff.mp here).1.trans_eq sizes
  have between := List.getElem?_eq_getElem inside
  obtain ⟨fixed, same⟩ := places index mine _ here between literal
  exact same.trans (octets index _ its between there fixed)

/-- Replacing components by wildcards is the only way to make a pattern match more: a pattern
matches every name that another one matches exactly if it generalizes that one. -/
theorem generalizes_iff (general specific : WildCardName) :
    general.Generalizes specific ↔
      ∀ name, specific.match name = true → general.match name = true := by
  refine ⟨fun generalizes _ => generalizes.match, fun matches' => ?_⟩
  have long := ((match_iff general _).mp (matches' _ (specific.match_filled ⟨8, []⟩))).1
  refine ⟨long.trans (by simp [filled, Name.size]), fun index mine its here there literal => ?_⟩
  have value := value_filled matches' here there literal
  by_cases wildcard : its.type = wildcardNameType
  · -- No octets are those of every filler.
    have first := value ⟨8, []⟩
    have second := value ⟨8, [0]⟩
    rw [if_pos wildcard] at first second
    cases first.symm.trans second
  · have same := value ⟨8, []⟩
    rw [if_neg wildcard] at same
    exact ⟨wildcard, same⟩

end WildCardName

namespace MultipartySchema

/-- A rule for the same packets that asks for no more: its required patterns generalize required
ones of the other rule, for no more signers, its optional patterns generalize all those of the other
rule, and it asks for no more optional signers. -/
structure Loosens (looser stricter : MultipartySchema) : Prop where
  pktName : looser.pktName = stricter.pktName
  signers : ∀ pattern ∈ looser.signers, ∃ other ∈ stricter.signers,
    pattern.Generalizes other ∧ pattern.times ≤ other.times
  optionalSigners : stricter.optionalSigners.SublistForall₂
    (fun other pattern => pattern.Generalizes other ∧ other.times ≤ pattern.times)
    looser.optionalSigners
  minOptionalSigners : looser.minOptionalSigners ≤ stricter.minOptionalSigners

/-- The policy of a looser rule asks for less. -/
theorem Loosens.relaxes {looser stricter : MultipartySchema} (loosens : looser.Loosens stricter) :
    looser.policy.Relaxes stricter.policy := by
  refine ⟨fun quota member => ?_, ?_, loosens.minOptionalSigners⟩
  · obtain ⟨pattern, listed, rfl⟩ := List.mem_map.mp member
    obtain ⟨other, among, generalizes, fewer⟩ := loosens.signers pattern listed
    exact ⟨other.quota, List.mem_map_of_mem among, fun _ => generalizes.match, fewer⟩
  · -- The quotas are those of the patterns, in their order.
    rw [policy, policy, List.sublistForall₂_map_left_iff, List.sublistForall₂_map_right_iff]
    obtain ⟨pooled, related, inside⟩ := List.sublistForall₂_iff.mp loosens.optionalSigners
    exact List.sublistForall₂_iff.mpr ⟨pooled,
      related.imp fun _ _ holds => ⟨fun _ => holds.1.match, holds.2⟩, inside⟩

end MultipartySchema

namespace MultipartySchemaContainer

variable {κ : Type}

/-- The first rule of a list is the looser form of the first rule of the other list, since both are
for the same packets. -/
theorem find?_loosened {looser stricter : List MultipartySchema}
    (rules : List.Forall₂ MultipartySchema.Loosens looser stricter) (packetName : Name)
    {schema : MultipartySchema}
    (first : stricter.find? (fun schema => schema.match packetName) = some schema) :
    ∃ other, looser.find? (fun schema => schema.match packetName) = some other ∧
      other.Loosens schema := by
  -- Induction on the rules, which apply or do not apply in pairs.
  induction rules with
  | nil => cases first
  | @cons one other looser stricter loosens rest ih =>
    have same : one.match packetName = other.match packetName := by
      rw [MultipartySchema.match, MultipartySchema.match, loosens.pktName]
    rw [List.find?_cons] at first ⊢
    rw [same]
    cases applies : other.match packetName with
    | true =>
      simp only [applies, Option.some.injEq] at first
      subst first
      exact ⟨one, rfl, loosens⟩
    | false =>
      simp only [applies] at first
      exact ih first

/-- Whoever satisfies the rules satisfies looser ones in their places. -/
theorem passSchema_loosened {container other : MultipartySchemaContainer κ} {packetName : Name}
    {signers : List Name} (trusts : other.AllTrusted signers)
    (rules : List.Forall₂ MultipartySchema.Loosens other.schemas container.schemas)
    (passes : container.passSchema packetName signers = true) :
    other.passSchema packetName signers = true := by
  -- With all signers trusted, the first rule for the packet decides.
  have trusted := container.allTrusted_of_passSchema passes
  rw [container.passSchema_trusted _ trusted] at passes
  rw [other.passSchema_trusted _ trusts]
  cases rule : container.schemas.find? fun schema => schema.match packetName with
  | none => simp [rule] at passes
  | some schema =>
    simp only [rule] at passes
    obtain ⟨looser, found, loosens⟩ := find?_loosened rules packetName rule
    simp only [found]
    exact (looser.passSchema_iff signers).mpr
      (loosens.relaxes.accepts ((schema.passSchema_iff signers).mp passes))

/-- Signers are found for a looser rule among at least as many keys. -/
theorem getAvailableSigners_loosened {container other : MultipartySchemaContainer κ}
    (available : ∀ name ∈ container.available, name ∈ other.available)
    {looser stricter : MultipartySchema} (loosens : looser.Loosens stricter) {signers : List Name}
    (selected : container.getAvailableSigners stricter = .ok signers) :
    ∃ others, other.getAvailableSigners looser = .ok others := by
  -- The signers found for the stricter rule would do for the looser one.
  obtain ⟨distinct, inside, accepted⟩ := container.getAvailableSigners_sound selected
  refine other.getAvailableSigners_complete ?_
  exact (loosens.relaxes.accepts accepted).mono
    (distinct.subperm fun name member => available name (inside name member))

end MultipartySchemaContainer

namespace BLSVerifier

variable {SecretKey PublicKey Signature : Type}

/-- Loosening rules in their places, and trusting more keys, takes nothing away: what has verified
verifies, and for every rule for which signers were found signers are found. -/
theorem verify_loosened (tlv : Tlv) (bls : Bls SecretKey PublicKey Signature)
    {container other : MultipartySchemaContainer PublicKey}
    (trusts : ∀ name key, container.trustedIds.find name = some key →
      other.trustedIds.find name = some key)
    (available : ∀ name ∈ container.available, name ∈ other.available)
    (rules : List.Forall₂ MultipartySchema.Loosens other.schemas container.schemas) :
    (∀ indeterminate data signatureInfoData,
      verify tlv bls indeterminate container data signatureInfoData = .ok true →
        verify tlv bls indeterminate other data signatureInfoData = .ok true) ∧
    ∀ (index : Nat) (looser stricter : MultipartySchema), other.schemas[index]? = some looser →
      container.schemas[index]? = some stricter →
      (∃ signers, container.getAvailableSigners stricter = .ok signers) →
        ∃ signers, other.getAvailableSigners looser = .ok signers := by
  refine ⟨fun indeterminate data signatureInfoData verified => ?_, ?_⟩
  · -- The signature is checked with the same keys, and only the rules are others.
    obtain ⟨locates, signers, listed, passes, aggKey, aggregated, valid⟩ :=
      verify_true_iff.mp verified
    have trusted := container.allTrusted_of_passSchema passes
    obtain ⟨agrees, trustedToo⟩ := agrees_of_trusts trusts trusted
    rw [verify_of_agrees locates listed aggregated valid agrees,
      MultipartySchemaContainer.passSchema_loosened trustedToo rules passes]
  · rintro index looser stricter found among ⟨signers, selected⟩
    obtain ⟨inside, rfl⟩ := List.getElem?_eq_some_iff.mp found
    obtain ⟨alsoInside, rfl⟩ := List.getElem?_eq_some_iff.mp among
    exact MultipartySchemaContainer.getAvailableSigners_loosened available
      (rules.get inside alsoInside) selected

end BLSVerifier

namespace Reference

/-- A verifier that asks for the first key and any key of the second signer, and for none of the
optional ones. -/
def looserContainer : MultipartySchemaContainer Nat where
  schemas := [⟨.ofName (.ofTexts ["data"]), "rule",
    [.ofName (.ofTexts ["a", "KEY", "1"]),
      .ofName ⟨[.ofString "b", .ofString "KEY", ⟨wildcardNameType, []⟩]⟩],
    [.ofName (.ofTexts ["c", "KEY", "1"])], 0⟩]
  trustedIds := jointContainer.trustedIds
  unavailableSigners := .empty

end Reference

open Reference in
/-- A pattern of the joint rule is generalized, and an optional one is added. -/
theorem BLSVerifier.verify_loosened_joint :
    (∀ indeterminate data signatureInfoData,
      verify libraries.tlv libraries.bls indeterminate jointContainer data signatureInfoData =
          .ok true →
        verify libraries.tlv libraries.bls indeterminate looserContainer data signatureInfoData =
          .ok true) ∧
    ∀ (index : Nat) (looser stricter : MultipartySchema),
      looserContainer.schemas[index]? = some looser →
      jointContainer.schemas[index]? = some stricter →
      (∃ signers, jointContainer.getAvailableSigners stricter = .ok signers) →
        ∃ signers, looserContainer.getAvailableSigners looser = .ok signers := by
  refine verify_loosened libraries.tlv libraries.bls (fun _ _ => id) (fun _ => id) ?_
  refine .cons ⟨rfl, ?_, .nil, Nat.le_refl _⟩ .nil
  -- The second pattern has a wildcard now.
  intro pattern member
  rcases List.mem_cons.mp member with rfl | last
  · exact ⟨_, List.mem_cons_self, by decide⟩
  · rw [List.mem_singleton.mp last]
    exact ⟨_, List.mem_cons_of_mem _ List.mem_cons_self, by decide⟩

end NdnMps
