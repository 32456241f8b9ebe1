import NdnMps.BlsHelpers.Additive
import NdnMps.Data.Repetition
import NdnMps.Schema.Policy
import NdnMps.Verifier

/-! A signer list may name one key several times, and the check counts every entry. -/

namespace NdnMps

/-- The pattern asks for more names than the different ones it matches, and matches one that is
listed twice. -/
def WildCardName.CountsRepeated (pattern : WildCardName) (names : List Name) : Prop :=
  pattern.count names.dedup < pattern.times ∧
    ∃ name, pattern.match name = true ∧ 1 < names.count name

namespace MultipartySchema

/-- The number of optional signers a list counts for. -/
def optionalTotal (schema : MultipartySchema) (names : List Name) : Nat :=
  schema.policy.optionalTotal names

/-- Every required pattern is matched by as many different names of the list as it asks for. -/
def MetByDifferentNames (schema : MultipartySchema) (names : List Name) : Prop :=
  ∀ pattern ∈ schema.signers, pattern.times ≤ pattern.count names.dedup

/-- The patterns of the required and of the optional signers. -/
def patterns (schema : MultipartySchema) : List WildCardName :=
  schema.signers ++ schema.optionalSigners

/-- The check compares each number asked for with the entries. -/
theorem passSchema_iff_counts (schema : MultipartySchema) (names : List Name) :
    schema.passSchema names = true ↔
      (∀ pattern ∈ schema.signers, pattern.times ≤ pattern.count names) ∧
        schema.minOptionalSigners ≤ schema.optionalTotal names := by
  -- The quotas of the policy are those of the patterns.
  rw [passSchema_iff]
  constructor
  · intro accepted
    refine ⟨fun pattern listed => ?_, accepted.2⟩
    exact accepted.1 pattern.quota (List.mem_map_of_mem listed)
  · intro reached
    refine ⟨fun quota member => ?_, reached.2⟩
    obtain ⟨pattern, listed, same⟩ := List.mem_map.mp member
    rw [← same]
    exact reached.1 pattern listed

/-- What the different names reach the entries reach as well. -/
theorem passSchema_of_dedup {schema : MultipartySchema} {names : List Name}
    (passes : schema.passSchema names.dedup = true) : schema.passSchema names = true := by
  rw [passSchema_iff] at passes ⊢
  exact passes.mono (List.dedup_sublist names).subperm

/-- A list none of whose repetitions counts passes only on its different names. -/
theorem passSchema_dedup_of {schema : MultipartySchema} {names : List Name}
    (sound : ∀ pattern ∈ schema.patterns, ¬ pattern.CountsRepeated names)
    (passes : schema.passSchema names = true) : schema.passSchema names.dedup = true := by
  rw [passSchema_iff] at passes ⊢
  refine passes.dedup fun quota member => ?_
  -- The quotas of the policy are those of the patterns.
  simp only [policy, ← List.map_append] at member
  obtain ⟨pattern, listed, same⟩ := List.mem_map.mp member
  subst same
  exact sound pattern listed

/-- The rule that asks for a number of signers of one optional pattern only. -/
def onlyOptional (schema : MultipartySchema) (pattern : WildCardName) (minimum : Nat) :
    MultipartySchema :=
  { schema with signers := [], optionalSigners := [pattern], minOptionalSigners := minimum }

/-- Such a rule looks at what the pattern contributes. -/
theorem passSchema_onlyOptional (schema : MultipartySchema) (pattern : WildCardName)
    (minimum : Nat) (names : List Name) :
    (schema.onlyOptional pattern minimum).passSchema names = true ↔
      minimum ≤ pattern.quota.capped names := by
  rw [passSchema_iff]
  simp [onlyOptional, policy, Policy.Accepts, Policy.optionalTotal]

end MultipartySchema

variable {SecretKey PublicKey Signature : Type}

/-- The verifier passes the list to the first rule that applies. -/
theorem BLSVerifier.verify_passes_schema {tlv : Tlv} {bls : Bls SecretKey PublicKey Signature}
    {indeterminate : Indeterminate PublicKey Signature}
    {schemaContainer : MultipartySchemaContainer PublicKey} {data signatureInfoData : Data}
    {schema : MultipartySchema} {signers : List Name}
    (applies : (schemaContainer.schemas.find? fun rule => rule.match data.name) = some schema)
    (listed : signerListOf tlv signatureInfoData = .ok signers)
    (verified : verify tlv bls indeterminate schemaContainer data signatureInfoData = .ok true) :
    schema.passSchema signers = true := by
  obtain ⟨others, sameList, passes⟩ := verify_passes verified
  have same : signers = others := Except.ok.inj (listed.symm.trans sameList)
  rw [← same] at passes
  -- An untrusted signer would have been refused before the rule is asked.
  unfold MultipartySchemaContainer.passSchema at passes
  split at passes
  · cases passes
  · rw [applies] at passes
    exact passes

namespace MultipartySchema

/-- Repetitions have no effect on the check, and neither the check nor the verifier takes one key
listed several times for different signers. -/
def IgnoresRepetition (tlv : Tlv) (bls : Bls SecretKey PublicKey Signature)
    (indeterminate : Indeterminate PublicKey Signature) (schema : MultipartySchema)
    (signers : List Name) : Prop :=
  schema.passSchema signers = schema.passSchema signers.dedup ∧
    (schema.passSchema signers = true → schema.MetByDifferentNames signers) ∧
    ∀ (schemaContainer : MultipartySchemaContainer PublicKey) (data signatureInfoData : Data),
      (schemaContainer.schemas.find? fun rule => rule.match data.name) = some schema →
      signerListOf tlv signatureInfoData = .ok signers →
      BLSVerifier.verify tlv bls indeterminate schemaContainer data signatureInfoData = .ok true →
      schema.MetByDifferentNames signers

/-- Repetitions have no effect where no pattern counts a repeated name, and every pattern that does
makes a rule on which they have one. -/
theorem passSchema_ignoresRepetition (tlv : Tlv) (bls : Bls SecretKey PublicKey Signature)
    (indeterminate : Indeterminate PublicKey Signature) (schema : MultipartySchema)
    (signers : List Name) :
    ((∀ pattern ∈ schema.patterns, ¬ pattern.CountsRepeated signers) →
        schema.IgnoresRepetition tlv bls indeterminate signers) ∧
      ∀ pattern : WildCardName, pattern.CountsRepeated signers →
        ∃ minimum, ¬ (schema.onlyOptional pattern minimum).IgnoresRepetition tlv bls indeterminate
          signers := by
  constructor
  · intro sound
    have different : schema.passSchema signers = true → schema.MetByDifferentNames signers :=
      fun passes => ((schema.passSchema_iff_counts _).mp (passSchema_dedup_of sound passes)).1
    refine ⟨Bool.eq_iff_iff.mpr ⟨passSchema_dedup_of sound, passSchema_of_dedup⟩, different, ?_⟩
    -- The verifier accepts only lists that the schema that applies accepts.
    intro schemaContainer data signatureInfoData applies listed verified
    exact different (BLSVerifier.verify_passes_schema applies listed verified)
  · intro pattern counts
    -- One more signer is asked for than the different names contribute.
    have less := (pattern.quota.capped_dedup_lt_iff signers).mpr counts
    refine ⟨pattern.quota.capped signers.dedup + 1, fun ignores => ?_⟩
    have passes := (schema.passSchema_onlyOptional pattern _ signers).mpr less
    rw [ignores.1, passSchema_onlyOptional] at passes
    omega

/-- A key name of the only signer. -/
def soleKey : Name := .ofTexts ["s", "KEY", "1"]

/-- A rule for one packet that asks for two different signers. -/
def twoSigners : MultipartySchema :=
  ⟨.ofName (.ofTexts ["data"]), "rule", [⟨⟨[.ofString "s", .ofString "KEY",
    ⟨wildcardNameType, []⟩]⟩, 2⟩], [], 0⟩

/-- The container of a verifier that trusts the only signer's key. -/
def soleContainer : MultipartySchemaContainer Nat where
  schemas := [twoSigners]
  trustedIds := ⟨[(soleKey, 7)], by decide⟩
  unavailableSigners := .empty

/-- A packet whose signature is the sum of two copies of the only signer's signature. -/
def twiceSigned : Data :=
  let bls := Bls.additive checksum
  let data := { Data.ofName (.ofTexts ["data"]) with
    signatureInfo := some ⟨Tlv.signatureSha256WithBls, some (.name (.ofTexts ["i", "mps"]))⟩ }
  let signature := bls.sign 7 (data.unsignedPortion PacketFormat.tlv)
  { data with signatureValue := some (bls.serialize (bls.signatureAdd signature signature)) }

/-- The signature info packet that lists the only signer twice. -/
def twiceListed : Data :=
  (Data.ofName (.ofTexts ["i", "mps"])).setContent PacketFormat.tlv
    (MpsSignerList.wireEncode PacketFormat.tlv [soleKey, soleKey])

/-- One key listed twice meets a request for two signers, also for the verifier. -/
theorem passSchema_counts_repetition :
    twoSigners.passSchema [soleKey, soleKey] = true ∧
      twoSigners.passSchema [soleKey, soleKey].dedup = false ∧
      signerListOf PacketFormat.tlv twiceListed = .ok [soleKey, soleKey] ∧
      BLSVerifier.verify PacketFormat.tlv (Bls.additive checksum) ⟨0, 0⟩ soleContainer
        twiceSigned twiceListed = .ok true := by
  refine ⟨by decide, by decide, ?_, ?_⟩
  all_goals rfl

end MultipartySchema

end NdnMps
