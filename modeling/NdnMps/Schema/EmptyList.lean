import NdnMps.BlsHelpers.Aggregation
import NdnMps.Schema.Loader
import NdnMps.Schema.Repetition
import NdnMps.Schema.Rules

/-! An accepted signer list may be empty, and there is no key to verify with then. -/

namespace NdnMps

variable {SecretKey PublicKey Signature : Type}

namespace MultipartySchema

/-- Every number the rule asks for is zero. -/
def AsksForNobody (schema : MultipartySchema) : Prop :=
  (∀ pattern ∈ schema.signers, pattern.times = 0) ∧ schema.minOptionalSigners = 0

/-- A rule accepts the empty list exactly when it asks for nobody. -/
theorem passSchema_nil_iff (schema : MultipartySchema) :
    schema.passSchema [] = true ↔ schema.AsksForNobody := by
  -- The empty list reaches a bound exactly when the bound is zero.
  rw [passSchema_iff_counts]
  have none : schema.optionalTotal [] = 0 := by
    apply List.sum_eq_zero
    intro number member
    obtain ⟨quota, -, same⟩ := List.mem_map.mp member
    rw [← same, Quota.capped, Quota.count_nil, Nat.zero_min]
  rw [none]
  constructor
  · intro reached
    refine ⟨fun pattern listed => ?_, Nat.le_zero.mp reached.2⟩
    exact Nat.le_zero.mp (reached.1 pattern listed)
  · intro nobody
    refine ⟨fun pattern listed => ?_, nobody.2.le⟩
    exact (nobody.1 pattern listed).le

end MultipartySchema

namespace MultipartySchemaContainer

variable (container : MultipartySchemaContainer PublicKey)

/-- The first rule that applies to a packet asks for nobody. -/
def AcceptsNobody (packetName : Name) : Prop :=
  ∃ schema, (container.schemas.find? fun rule => rule.match packetName) = some schema ∧
    schema.AsksForNobody

/-- The aggregate key of a list is the sum of the trusted keys of all its signers. -/
def SumsKeys (add : PublicKey → PublicKey → PublicKey) (signers : List Name) : Prop :=
  ∃ keys sum, signers.map container.trustedIds.find = keys.map some ∧
    NonemptySum.total add keys = some sum ∧
    ∀ indeterminate, container.aggregateKey add indeterminate signers = .ok sum

/-- The empty list is accepted exactly when the first rule that applies asks for nobody. -/
theorem passSchema_nil_iff (packetName : Name) :
    container.passSchema packetName [] = true ↔ container.AcceptsNobody packetName := by
  -- No name of the empty list can be untrusted, so the answer is that of the rule.
  have trusted : container.AllTrusted [] := fun signer member => absurd member List.not_mem_nil
  rw [container.passSchema_trusted packetName trusted]
  unfold AcceptsNobody
  cases found : container.schemas.find? fun rule => rule.match packetName with
  | none => simp
  | some schema =>
    dsimp only
    rw [schema.passSchema_nil_iff]
    constructor
    · exact fun nobody => ⟨schema, rfl, nobody⟩
    · intro ⟨other, same, nobody⟩
      cases same
      exact nobody

/-- Trusted signers have their keys one by one. -/
theorem exists_keys {signers : List Name} (trusted : container.AllTrusted signers) :
    ∃ keys : List PublicKey, signers.map container.trustedIds.find = keys.map some := by
  -- A trusted name is one that the lookup finds.
  apply exists_map_some_iff.mpr
  intro signer member
  exact TrustedIds.find_isSome.mpr (trusted signer member)

/-- An accepted list with a signer has the sum of its keys. -/
theorem sumsKeys_of_passSchema {packetName : Name} {signers : List Name}
    (passes : container.passSchema packetName signers = true) (nonempty : signers ≠ [])
    (add : PublicKey → PublicKey → PublicKey) : container.SumsKeys add signers := by
  -- Every accepted signer is trusted, so it has a key.
  obtain ⟨keys, found⟩ := container.exists_keys (container.allTrusted_of_passSchema passes)
  have nonemptyKeys : keys ≠ [] := by
    intro empty
    rw [empty, List.map_nil, List.map_eq_nil_iff] at found
    exact nonempty found
  obtain ⟨sum, total⟩ := NonemptySum.total_isSome add nonemptyKeys
  exact ⟨keys, sum, found, total, fun indeterminate =>
    container.aggregateKey_eq found total indeterminate⟩

/-- The verifier's answer does not depend on what a key holds before it is assigned. -/
def KeyIndependent (tlv : Tlv) (bls : Bls SecretKey PublicKey Signature) (packetName : Name)
    (signers : List Name) : Prop :=
  ∀ (data signatureInfoData : Data) (first second : PublicKey) (signature : Signature),
    data.name = packetName → signerListOf tlv signatureInfoData = .ok signers →
    BLSVerifier.verify tlv bls ⟨first, signature⟩ container data signatureInfoData =
      BLSVerifier.verify tlv bls ⟨second, signature⟩ container data signatureInfoData

/-- Where accepted lists have a sum, the verifier uses nothing else. -/
theorem keyIndependent_of_sumsKeys (tlv : Tlv) {bls : Bls SecretKey PublicKey Signature}
    {packetName : Name} {signers : List Name}
    (sums : container.passSchema packetName signers = true →
      container.SumsKeys bls.publicKeyAdd signers) :
    container.KeyIndependent tlv bls packetName signers := by
  intro data signatureInfoData first second signature named listed
  unfold BLSVerifier.verify
  -- Without a key locator both verifications throw before any key is used.
  cases located : data.keyLocatorName with
  | error fault => rfl
  | ok keyLocatorName =>
    simp only [listed, named, Bind.bind, Except.bind]
    split
    · rfl
    · -- Only an accepted list reaches the aggregation.
      cases passes : container.passSchema packetName signers with
      | false => rfl
      | true =>
        obtain ⟨keys, sum, -, -, aggregated⟩ := sums passes
        simp only [aggregated]

/-- An accepted list has the sum of its keys, which the verifier uses, exactly when the list has a
signer or the first rule that applies asks for somebody. -/
theorem aggregateKey_defined_iff (tlv : Tlv) (bls : Bls SecretKey PublicKey Signature)
    (packetName : Name) (signers : List Name) :
    ((container.passSchema packetName signers = true →
        signers ≠ [] ∧ container.SumsKeys bls.publicKeyAdd signers) ∧
      container.KeyIndependent tlv bls packetName signers) ↔
      signers ≠ [] ∨ ¬ container.AcceptsNobody packetName := by
  constructor
  · intro ⟨sums, _⟩
    -- The empty list has no sum, so no rule that asks for nobody may apply.
    by_cases empty : signers = []
    · refine .inr fun nobody => ?_
      subst empty
      exact (sums ((container.passSchema_nil_iff packetName).mpr nobody)).1 rfl
    · exact .inl empty
  · intro somebody
    -- Only a rule that asks for nobody accepts the empty list.
    have nonempty : container.passSchema packetName signers = true → signers ≠ [] := by
      intro passes empty
      subst empty
      have nobody := (container.passSchema_nil_iff packetName).mp passes
      exact somebody.elim (fun present => present rfl) (fun other => other nobody)
    have sums : container.passSchema packetName signers = true →
        container.SumsKeys bls.publicKeyAdd signers := fun passes =>
      container.sumsKeys_of_passSchema passes (nonempty passes) bls.publicKeyAdd
    exact ⟨fun passes => ⟨nonempty passes, sums passes⟩,
      container.keyIndependent_of_sumsKeys tlv sums⟩

/-- A configuration that names a packet and a rule, and nobody to sign. -/
def bareSection : SchemaSection :=
  .node "" [(configPktName, .leaf "/data"), (configRuleId, .leaf "rule")]

/-- The rule loaded from it. -/
def bareRule : MultipartySchema := ⟨.ofName (.ofTexts ["data"]), "rule", [], [], 0⟩

/-- A verifier with this rule and no trusted keys. -/
def bareContainer : MultipartySchemaContainer Nat := ⟨[bareRule], ⟨[], .nil⟩, .empty⟩

/-- A packet that nobody has signed. -/
def unsignedPacket : Data :=
  { Data.ofName (.ofTexts ["data"]) with
    signatureInfo := some ⟨Tlv.signatureSha256WithBls, some (.name (.ofTexts ["i", "mps"]))⟩
    signatureValue := some (PacketFormat.encodeNumber 0) }

/-- The signature info packet that lists no signer. -/
def emptyListed : Data :=
  (Data.ofName (.ofTexts ["i", "mps"])).setContent PacketFormat.tlv
    (MpsSignerList.wireEncode PacketFormat.tlv [])

/-- An empty list is accepted under a rule that loads, the aggregate key is whatever was there, and
with the zero key the verifier accepts a packet that nobody has signed. -/
theorem aggregateKey_indeterminate :
    fromSchemaSection bareSection = .ok bareRule ∧
      bareContainer.passSchema (.ofTexts ["data"]) [] = true ∧
      (∀ indeterminate, bareContainer.aggregateKey (· + ·) indeterminate [] =
        .ok indeterminate) ∧
      signerListOf PacketFormat.tlv emptyListed = .ok [] ∧
      BLSVerifier.verify PacketFormat.tlv (Bls.additive checksum) ⟨0, 0⟩ bareContainer
        unsignedPacket emptyListed = .ok true ∧
      BLSVerifier.verify PacketFormat.tlv (Bls.additive checksum) ⟨1, 0⟩ bareContainer
        unsignedPacket emptyListed = .ok false := by
  refine ⟨rfl, by decide, fun _ => rfl, rfl, ?_, ?_⟩
  all_goals rfl

end MultipartySchemaContainer

end NdnMps
