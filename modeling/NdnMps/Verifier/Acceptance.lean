import NdnMps.BlsHelpers.Packets
import NdnMps.Verifier.Interchange
import NdnMps.Verifier.Rejection

/-! What a verified packet stands for, and which other verifiers accept it as well. -/

namespace NdnMps

variable {SecretKey PublicKey Signature : Type}

namespace MultipartySchemaContainer

variable (container : MultipartySchemaContainer PublicKey)

/-- The aggregate key of names that have keys is their sum, where there is one to add. -/
theorem aggregateKey_total {signers : List Name} {keys : List PublicKey}
    (known : signers.map container.trustedIds.find = keys.map some)
    (add : PublicKey → PublicKey → PublicKey) (indeterminate : PublicKey) :
    container.aggregateKey add indeterminate signers =
      .ok ((NonemptySum.total add keys).getD indeterminate) := by
  cases keys with
  | nil =>
    -- Without keys there are no names, and the sum is never assigned.
    rw [List.map_nil, List.map_eq_nil_iff] at known
    rw [known]
    rfl
  | cons key rest =>
    obtain ⟨sum, total⟩ := NonemptySum.total_isSome add (List.cons_ne_nil key rest)
    rw [container.aggregateKey_eq known total, total, Option.getD_some]

/-- Containers with the same keys for some names have the same aggregate key for them. -/
theorem aggregateLoop_congr {other : MultipartySchemaContainer PublicKey} {signers : List Name}
    (agrees : ∀ name ∈ signers, other.trustedIds.find name = container.trustedIds.find name)
    (add : PublicKey → PublicKey → PublicKey) (indeterminate : PublicKey)
    (aggKey : Option PublicKey) :
    other.aggregateLoop add indeterminate signers aggKey =
      container.aggregateLoop add indeterminate signers aggKey := by
  -- Induction on the names, each of which is looked up in turn.
  induction signers generalizing aggKey with
  | nil => rfl
  | cons name rest ih =>
    have others := ih fun other member => agrees other (List.mem_cons_of_mem _ member)
    rw [aggregateLoop, aggregateLoop, agrees name List.mem_cons_self]
    cases container.trustedIds.find name with
    | none => rfl
    | some key => cases aggKey <;> exact others _

end MultipartySchemaContainer

namespace BLSVerifier

section Checks

variable {tlv : Tlv} {bls : Bls SecretKey PublicKey Signature}
variable {indeterminate : Indeterminate PublicKey Signature}
variable {container : MultipartySchemaContainer PublicKey} {data signatureInfoData : Data}

/-- Where the info packet is located and lists signers, the container and then the signature
decide. -/
theorem verify_eq (locates : Locates data signatureInfoData) {signers : List Name}
    (listed : signerListOf tlv signatureInfoData = .ok signers) :
    verify tlv bls indeterminate container data signatureInfoData =
      if container.passSchema data.name signers then
        container.aggregateKey bls.publicKeyAdd indeterminate.publicKey signers >>=
          fun aggKey => bls.ndnBLSVerify tlv indeterminate.signature aggKey data
      else .ok false := by
  obtain ⟨keyLocatorName, located, under⟩ := locates
  unfold verify
  simp only [located, under, listed, Bool.not_true, Bool.false_eq_true, if_false, Bind.bind,
    Except.bind]
  cases container.passSchema data.name signers with
  | false => rfl
  | true =>
    cases container.aggregateKey bls.publicKeyAdd indeterminate.publicKey signers <;> rfl

/-- A packet verifies exactly where all checks of the code succeed. -/
theorem verify_true_iff :
    verify tlv bls indeterminate container data signatureInfoData = .ok true ↔
      Locates data signatureInfoData ∧ ∃ signers,
        signerListOf tlv signatureInfoData = .ok signers ∧
        container.passSchema data.name signers = true ∧ ∃ aggKey,
          container.aggregateKey bls.publicKeyAdd indeterminate.publicKey signers = .ok aggKey ∧
          bls.ndnBLSVerify tlv indeterminate.signature aggKey data = .ok true := by
  constructor
  · intro verified
    have locates : Locates data signatureInfoData := by
      -- Otherwise the packet is rejected before the list is read.
      unfold verify at verified
      cases located : data.keyLocatorName with
      | error fault => simp [located] at verified
      | ok keyLocatorName =>
        refine ⟨keyLocatorName, located, ?_⟩
        by_contra elsewhere
        rw [Bool.not_eq_true] at elsewhere
        simp [located, elsewhere] at verified
    obtain ⟨signers, listed, passes⟩ := verify_passes verified
    refine ⟨locates, signers, listed, passes, ?_⟩
    rw [verify_eq locates listed, if_pos passes] at verified
    cases aggregated : container.aggregateKey bls.publicKeyAdd indeterminate.publicKey signers with
    | error fault => simp [aggregated, Bind.bind, Except.bind] at verified
    | ok aggKey =>
      rw [aggregated] at verified
      exact ⟨aggKey, rfl, verified⟩
  · rintro ⟨locates, signers, listed, passes, aggKey, aggregated, valid⟩
    rw [verify_eq locates listed, if_pos passes, aggregated]
    exact valid

/-- A packet that verifies with some keys gets from every verifier with these keys the answer of its
own rules. -/
theorem verify_of_agrees {trusting : MultipartySchemaContainer PublicKey}
    (locates : Locates data signatureInfoData) {signers : List Name}
    (listed : signerListOf tlv signatureInfoData = .ok signers) {aggKey : PublicKey}
    (aggregated : trusting.aggregateKey bls.publicKeyAdd indeterminate.publicKey signers =
      .ok aggKey)
    (valid : bls.ndnBLSVerify tlv indeterminate.signature aggKey data = .ok true)
    (agrees : ∀ name ∈ signers,
      container.trustedIds.find name = trusting.trustedIds.find name) :
    verify tlv bls indeterminate container data signatureInfoData =
      .ok (container.passSchema data.name signers) := by
  have same := trusting.aggregateLoop_congr agrees bls.publicKeyAdd indeterminate.publicKey none
  rw [verify_eq locates listed, MultipartySchemaContainer.aggregateKey, same,
    ← MultipartySchemaContainer.aggregateKey, aggregated]
  cases container.passSchema data.name signers with
  | false => rfl
  | true => exact valid

end Checks

/-- The signers that a packet's info packet lists have keys with a container, the first rule for
the packet accepts them, and the packet carries the sum of their valid signatures; without signers
there is no sum, and it carries the valid signature of a key that was never assigned. -/
structure Certified (tlv : Tlv) (bls : Bls SecretKey PublicKey Signature)
    (validOf : PublicKey → Buffer → Signature)
    (indeterminate : Indeterminate PublicKey Signature)
    (container : MultipartySchemaContainer PublicKey) (data signatureInfoData : Data)
    (signers : List Name) (schema : MultipartySchema) (keys : List PublicKey) : Prop where
  locates : Locates data signatureInfoData
  listed : signerListOf tlv signatureInfoData = .ok signers
  known : signers.map container.trustedIds.find = keys.map some
  rule : container.schemas.find? (fun schema => schema.match data.name) = some schema
  accepted : schema.policy.Accepts signers
  signed : ∃ octets, tlv.extractSignedRanges data = .ok octets ∧
    bls.deserializeInto indeterminate.signature (data.signatureValue.getD []) =
      (NonemptySum.total bls.signatureAdd (keys.map fun key => validOf key octets)).getD
        (validOf indeterminate.publicKey octets)

/-- With ideal signatures a packet verifies exactly if it is certified: by signers all of whom are
trusted, whom its first rule accepts, and whose valid signatures it adds up. And the verifier
answers for accepted signers what the overload for several keys answers for theirs. -/
theorem verify_iff_certified (tlv : Tlv) {bls : Bls SecretKey PublicKey Signature}
    {validOf : PublicKey → Buffer → Signature} (ideal : bls.Ideal validOf)
    (indeterminate : Indeterminate PublicKey Signature)
    (container : MultipartySchemaContainer PublicKey) (data signatureInfoData : Data) :
    (verify tlv bls indeterminate container data signatureInfoData = .ok true ↔
      ∃ signers schema keys, Certified tlv bls validOf indeterminate container data
        signatureInfoData signers schema keys) ∧
    ∀ signers keys, Locates data signatureInfoData →
      signerListOf tlv signatureInfoData = .ok signers → signers ≠ [] →
      container.passSchema data.name signers = true →
      signers.map container.trustedIds.find = keys.map some →
      verify tlv bls indeterminate container data signatureInfoData =
        bls.ndnBLSVerifyAll tlv indeterminate.signature keys data := by
  constructor
  · -- The valid signature of the sum of the keys is the sum of their valid signatures.
    have decides : ∀ (keys : List PublicKey), bls.ndnBLSVerify tlv indeterminate.signature
        ((NonemptySum.total bls.publicKeyAdd keys).getD indeterminate.publicKey) data = .ok true ↔
        ∃ octets, tlv.extractSignedRanges data = .ok octets ∧
          bls.deserializeInto indeterminate.signature (data.signatureValue.getD []) =
            (NonemptySum.total bls.signatureAdd (keys.map fun key => validOf key octets)).getD
              (validOf indeterminate.publicKey octets) := by
      intro keys
      unfold Bls.ndnBLSVerify
      cases tlv.extractSignedRanges data with
      | error fault => simp
      | ok octets =>
        simp only [Except.ok.injEq, exists_eq_left', ideal.verify_iff]
        rw [NonemptySum.total_map (fun left right => ideal.valid_add left right octets)]
        cases NonemptySum.total bls.publicKeyAdd keys <;> rfl
    rw [verify_true_iff]
    constructor
    · -- What has passed has keys for all its names and a first rule that accepts them.
      rintro ⟨locates, signers, listed, passes, aggKey, aggregated, valid⟩
      have trusted := container.allTrusted_of_passSchema passes
      obtain ⟨keys, known⟩ := container.exists_keys trusted
      rw [container.aggregateKey_total known] at aggregated
      rw [container.passSchema_trusted _ trusted] at passes
      cases rule : container.schemas.find? fun schema => schema.match data.name with
      | none => simp [rule] at passes
      | some schema =>
        simp only [rule] at passes
        refine ⟨signers, schema, keys, locates, listed, known, rule,
          (schema.passSchema_iff signers).mp passes, (decides keys).mp ?_⟩
        rw [Except.ok.inj aggregated]
        exact valid
    · rintro ⟨signers, schema, keys, locates, listed, known, rule, accepted, signed⟩
      have trusted : container.AllTrusted signers := fun name member =>
        TrustedIds.find_isSome.mp (exists_map_some_iff.mp ⟨keys, known⟩ name member)
      refine ⟨locates, signers, listed, ?_, _, container.aggregateKey_total known _ _,
        (decides keys).mpr signed⟩
      rw [container.passSchema_trusted _ trusted, rule]
      exact (schema.passSchema_iff signers).mpr accepted
  · intro signers keys locates listed nonempty passes known
    rw [verify_eq locates listed, if_pos passes, container.aggregateKey_total known]
    -- Both overloads add up the keys from the first one on.
    cases keys with
    | nil => exact absurd (List.map_eq_nil_iff.mp known) nonempty
    | cons key rest => rfl

/-- Whoever trusts more keys agrees on the trusted ones. -/
theorem agrees_of_trusts {container other : MultipartySchemaContainer PublicKey}
    (trusts : ∀ name key, container.trustedIds.find name = some key →
      other.trustedIds.find name = some key) {signers : List Name}
    (trusted : container.AllTrusted signers) :
    (∀ name ∈ signers, other.trustedIds.find name = container.trustedIds.find name) ∧
      other.AllTrusted signers := by
  have agrees : ∀ name ∈ signers,
      other.trustedIds.find name = container.trustedIds.find name := by
    intro name member
    obtain ⟨key, found⟩ :=
      Option.isSome_iff_exists.mp (TrustedIds.find_isSome.mpr (trusted name member))
    rw [found, trusts name key found]
  refine ⟨agrees, fun name member => ?_⟩
  rw [← TrustedIds.find_isSome, agrees name member, TrustedIds.find_isSome]
  exact trusted name member

/-- What verifies at one verifier verifies at every other that trusts the same keys, and maybe
more, and has the same rules, and maybe more behind them. -/
theorem verify_mono {tlv : Tlv} {bls : Bls SecretKey PublicKey Signature}
    {indeterminate : Indeterminate PublicKey Signature}
    {container other : MultipartySchemaContainer PublicKey} {data signatureInfoData : Data}
    (trusts : ∀ name key, container.trustedIds.find name = some key →
      other.trustedIds.find name = some key)
    (rules : container.schemas <+: other.schemas)
    (verified : verify tlv bls indeterminate container data signatureInfoData = .ok true) :
    verify tlv bls indeterminate other data signatureInfoData = .ok true := by
  obtain ⟨locates, signers, listed, passes, aggKey, aggregated, valid⟩ :=
    verify_true_iff.mp verified
  have trusted := container.allTrusted_of_passSchema passes
  obtain ⟨agrees, trustedToo⟩ := agrees_of_trusts trusts trusted
  rw [verify_of_agrees locates listed aggregated valid agrees]
  -- The first rule for the packet is the same one.
  obtain ⟨more, same⟩ := rules
  rw [container.passSchema_trusted _ trusted] at passes
  cases rule : container.schemas.find? fun schema => schema.match data.name with
  | none => simp [rule] at passes
  | some schema =>
    rw [other.passSchema_trusted _ trustedToo, ← same, List.find?_append, rule]
    simp only [rule] at passes
    exact congrArg Except.ok passes

end BLSVerifier

namespace Reference

/-- The names of two keys that sign together. -/
def jointNames : List Name := [.ofTexts ["a", "KEY", "1"], .ofTexts ["b", "KEY", "1"]]

/-- A verifier that asks for both keys. -/
def jointContainer : MultipartySchemaContainer Nat where
  schemas := [⟨.ofName (.ofTexts ["data"]), "rule", jointNames.map .ofName, [], 0⟩]
  trustedIds := ⟨jointNames.zip [7, 8], by decide⟩
  unavailableSigners := .empty

/-- A verifier with another key and another rule. -/
def laterContainer : MultipartySchemaContainer Nat where
  schemas := jointContainer.schemas ++ [⟨.ofName (.ofTexts ["data"]), "later", [], [], 0⟩]
  trustedIds := ⟨jointContainer.trustedIds.entries ++ [(.ofTexts ["c", "KEY", "1"], 9)], by decide⟩
  unavailableSigners := .empty

/-- A packet that both keys have signed. -/
def jointPacket : Data :=
  let data := { Data.ofName (.ofTexts ["data"]) with
    signatureInfo := some ⟨Tlv.signatureSha256WithBls, some (.name (.ofTexts ["i", "mps"]))⟩ }
  let pieces := [7, 8].map fun secretKey =>
    libraries.bls.ndnGenBLSSignature libraries.tlv secretKey data
  { data with signatureValue := (libraries.bls.ndnBLSAggregateSignature 0 0 pieces).toOption }

/-- The packet that lists both signers. -/
def jointInfo : Data := (Data.ofName (.ofTexts ["i", "mps"])).setContent libraries.tlv
  (MpsSignerList.wireEncode libraries.tlv jointNames)

end Reference

namespace BLSVerifier

open Reference

/-- What the verifier makes of the packet that both keys have signed. -/
theorem verify_iff_certified_joint :
    (verify libraries.tlv libraries.bls ⟨0, 0⟩ jointContainer jointPacket jointInfo = .ok true ↔
      ∃ signers schema keys, Certified libraries.tlv libraries.bls
        (fun key message => key * checksum message) ⟨0, 0⟩ jointContainer jointPacket jointInfo
        signers schema keys) ∧
    ∀ signers keys, Locates jointPacket jointInfo →
      signerListOf libraries.tlv jointInfo = .ok signers → signers ≠ [] →
      jointContainer.passSchema jointPacket.name signers = true →
      signers.map jointContainer.trustedIds.find = keys.map some →
      verify libraries.tlv libraries.bls ⟨0, 0⟩ jointContainer jointPacket jointInfo =
        libraries.bls.ndnBLSVerifyAll libraries.tlv 0 keys jointPacket :=
  verify_iff_certified libraries.tlv (Bls.additive_ideal checksum) ⟨0, 0⟩ jointContainer
    jointPacket jointInfo

/-- The packet verifies at the later verifier as well. -/
theorem verify_mono_later :
    verify libraries.tlv libraries.bls ⟨0, 0⟩ laterContainer jointPacket jointInfo = .ok true := by
  have verified : verify libraries.tlv libraries.bls ⟨0, 0⟩ jointContainer jointPacket jointInfo =
      .ok true := by decide +kernel
  refine verify_mono (fun name key found => ?_) (List.prefix_append _ _) verified
  -- The further key stands behind those that the first verifier trusts.
  obtain ⟨entry, located, same⟩ := Option.map_eq_some_iff.mp found
  have later : laterContainer.trustedIds.entries.find? (fun entry => decide (entry.1 = name)) =
      some entry := by
    rw [laterContainer, List.find?_append, located]
    rfl
  rw [TrustedIds.find, later, Option.map_some, same]

end BLSVerifier

end NdnMps
