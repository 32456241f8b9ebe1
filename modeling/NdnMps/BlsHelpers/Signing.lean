import NdnMps.BlsHelpers.Aggregates

/-! One signer's own signature on Data and on Interests: under which keys it is accepted, and what
signing again makes of it. -/

namespace NdnMps

variable {SecretKey PublicKey Signature : Type}

namespace Bls

variable (bls : Bls SecretKey PublicKey Signature)

/-- `ndnBLSSign` for Data and a signature info. -/
def ndnBLSSignData (tlv : Tlv) (signingKey : SecretKey) (data : Data) (sigInfo : SignatureInfo) :
    Except Fault Data :=
  if sigInfo.signatureType ≠ Tlv.signatureSha256WithBls then .error .exception
  else
    let data := { data with signatureInfo := some sigInfo }
    let sigValue := bls.ndnGenBLSSignature tlv signingKey data
    .ok { data with signatureValue := some sigValue }

/-- `ndnBLSSign` for an Interest and a signature info. -/
def ndnBLSSignInterest (format : InterestFormat) (signingKey : SecretKey)
    (interest : SigningInterest) (sigInfo : SignatureInfo) : Except Fault SigningInterest :=
  if sigInfo.signatureType ≠ Tlv.signatureSha256WithBls then .error .exception
  else
    let interest := interest.setSignatureInfo format sigInfo
    match bls.ndnGenBLSSignatureWithInfo format signingKey interest with
    | .error fault => .error fault
    | .ok sigValue => .ok (interest.setSignatureValue format sigValue)

end Bls

/-- A component with its digest renewed, if it is one. -/
def Component.renew (digest : Buffer) (component : Component) : Component :=
  if component.isParametersDigest then ⟨parametersDigestType, digest⟩ else component

@[simp] theorem Component.isParametersDigest_digest (digest : Buffer) :
    Component.isParametersDigest ⟨parametersDigestType, digest⟩ = true := rfl

/-- Renewing a digest leaves it a digest, and leaves everything else alone. -/
@[simp] theorem Component.isParametersDigest_renew (digest : Buffer) (component : Component) :
    (component.renew digest).isParametersDigest = component.isParametersDigest := by
  unfold renew
  by_cases kind : component.isParametersDigest = true
  · rw [if_pos kind, kind, isParametersDigest_digest]
  · rw [if_neg kind]

/-- Of two renewals the later one counts. -/
@[simp] theorem Component.renew_renew (first second : Buffer) (component : Component) :
    (component.renew first).renew second = component.renew second := by
  by_cases kind : component.isParametersDigest = true <;> simp [renew, kind]

/-- Where there is no digest, nothing is renewed. -/
theorem map_renew_of_none {components : List Component}
    (none : ∀ component ∈ components, component.isParametersDigest ≠ true) (digest : Buffer) :
    components.map (Component.renew digest) = components :=
  (List.map_congr_left fun component member => if_neg (none component member)).trans
    (List.map_id _)

/-- A name with a digest has it renewed, and else it is appended. -/
theorem Name.setDigest_eq (name : Name) (digest : Buffer) :
    name.setDigest digest =
      if name.components.any Component.isParametersDigest then
        ⟨name.components.map (Component.renew digest)⟩
      else ⟨name.components ++ [⟨Component.parametersDigestType, digest⟩]⟩ := rfl

/-- Another digest takes the place of the one before. -/
theorem Name.setDigest_setDigest (name : Name) (first second : Buffer) :
    (name.setDigest first).setDigest second = name.setDigest second := by
  -- After the first time there is a digest, which is replaced where it is.
  rw [setDigest_eq name first, setDigest_eq name second]
  by_cases present : name.components.any Component.isParametersDigest = true
  · have again : (name.components.map (Component.renew first)).any
        Component.isParametersDigest = true := by
      rw [List.any_map]
      simpa [Function.comp_def] using present
    rw [if_pos present, if_pos present, setDigest_eq, if_pos again, List.map_map]
    simp [Function.comp_def]
  · have again : (name.components ++ [(⟨Component.parametersDigestType, first⟩ : Component)]).any
        Component.isParametersDigest = true := by
      rw [List.any_append]
      simp
    have others : ∀ component ∈ name.components, component.isParametersDigest ≠ true :=
      fun component member kind => present (List.any_eq_true.mpr ⟨component, member, kind⟩)
    rw [if_neg present, if_neg present, setDigest_eq, if_pos again, List.map_append,
      map_renew_of_none others]
    rfl

namespace SigningInterest

variable {format : InterestFormat}

/-- Renewing the digest of a name changes neither whether octets can be signed nor which. -/
theorem extractSignedRanges_renew {interest renewed : SigningInterest}
    (present : interest.name.components.any Component.isParametersDigest = true) (digest : Buffer)
    (named : renewed.name = interest.name.setDigest digest)
    (parameters : renewed.applicationParameters = interest.applicationParameters)
    (sigInfo : renewed.signatureInfo = interest.signatureInfo) :
    renewed.extractSignedRanges format = interest.extractSignedRanges format := by
  have components : renewed.name.components =
      interest.name.components.map (Component.renew digest) := by
    rw [named, Name.setDigest_eq, if_pos present]
  have ends : renewed.endsWithDigest = interest.endsWithDigest := by
    rw [endsWithDigest, endsWithDigest, components, List.getLast?_map, Option.any_map]
    simp
  unfold extractSignedRanges
  rw [ends, sigInfo, parameters]
  cases digested : interest.endsWithDigest with
  | false => rfl
  | true =>
    obtain ⟨front, last, split, isDigest⟩ := interest.endsWithDigest_iff.mp digested
    -- The only digest is the last component, so the ones in front are the same.
    have one := interest.oneDigest
    rw [split, List.countP_append, List.countP_singleton, if_pos isDigest] at one
    have none : front.countP Component.isParametersDigest = 0 := by omega
    rw [components, split, List.map_append, List.map_singleton, List.dropLast_concat,
      List.dropLast_concat, map_renew_of_none (List.countP_eq_zero.mp none)]

/-- A name with its digest set has one. -/
theorem any_setDigest (name : Name) (digest : Buffer) :
    (name.setDigest digest).components.any Component.isParametersDigest = true := by
  rw [Name.setDigest_eq]
  by_cases present : name.components.any Component.isParametersDigest = true
  · rw [if_pos present, List.any_map]
    simpa [Function.comp_def] using present
  · rw [if_neg present, List.any_append]
    simp

end SigningInterest

namespace Packet

variable {tlv : Tlv} {format : InterestFormat} {bls : Bls SecretKey PublicKey Signature}

/-- `ndnBLSSign` for either kind of packet. -/
def ndnBLSSign (tlv : Tlv) (format : InterestFormat) (bls : Bls SecretKey PublicKey Signature)
    (signingKey : SecretKey) (sigInfo : SignatureInfo) : Packet → Except Fault Packet
  | .data packet => (bls.ndnBLSSignData tlv signingKey packet sigInfo).map .data
  | .interest packet => (bls.ndnBLSSignInterest format signingKey packet sigInfo).map .interest

/-- A packet is signed on the octets that its signers sign, or not at all. -/
theorem ndnBLSSign_eq (packet : Packet) (signingKey : SecretKey) (sigInfo : SignatureInfo) :
    packet.ndnBLSSign tlv format bls signingKey sigInfo =
      if sigInfo.signatureType ≠ Tlv.signatureSha256WithBls then .error .exception
      else (packet.signedOctets tlv format sigInfo).map fun octets =>
        packet.signed format sigInfo (bls.serialize (bls.sign signingKey octets)) := by
  -- The type is checked before anything is signed.
  by_cases typed : sigInfo.signatureType = Tlv.signatureSha256WithBls
  · cases packet with
    | data packet =>
      simp only [ndnBLSSign, Bls.ndnBLSSignData, typed, ne_eq, not_true_eq_false, if_false]
      rfl
    | interest packet =>
      simp only [ndnBLSSign, Bls.ndnBLSSignInterest, Bls.ndnGenBLSSignatureWithInfo, signedOctets,
        typed, ne_eq, not_true_eq_false, if_false]
      cases (packet.setSignatureInfo format sigInfo).extractSignedRanges format <;> rfl
  · cases packet <;>
      simp [ndnBLSSign, Bls.ndnBLSSignData, Bls.ndnBLSSignInterest, typed, Except.map]

/-- A signature on a packet does not change what the next signer signs. -/
theorem signedOctets_signed (packet : Packet) (sigInfo otherInfo : SignatureInfo)
    (sigValue : Buffer) :
    (packet.signed format sigInfo sigValue).signedOctets tlv format otherInfo =
      packet.signedOctets tlv format otherInfo := by
  cases packet with
  | data packet => rfl
  | interest packet =>
    refine SigningInterest.extractSignedRanges_renew (SigningInterest.any_setDigest _ _)
      (format.parametersDigest packet.applicationParameters (some otherInfo) (some sigValue)) ?_ rfl
      rfl
    -- However often the digest is renewed, it is the last one that stays.
    simp only [SigningInterest.setSignatureInfo, SigningInterest.setSignatureValue,
      Name.setDigest_setDigest]

/-- The later of two signatures replaces the earlier one. -/
theorem signed_signed (packet : Packet) (sigInfo otherInfo : SignatureInfo)
    (sigValue otherValue : Buffer) :
    (packet.signed format sigInfo sigValue).signed format otherInfo otherValue =
      packet.signed format otherInfo otherValue := by
  cases packet with
  | data packet => rfl
  | interest packet =>
    simp only [signed, SigningInterest.setSignatureInfo, SigningInterest.setSignatureValue,
      Name.setDigest_setDigest]

/-- A packet that one signer has signed is accepted under exactly the keys with the same valid
signature on it, whatever the signature object held before; and whoever signs it again makes of it
what it would have made of the unsigned packet. -/
theorem ndnBLSSign_accepted {valid : PublicKey → Buffer → Signature} (lossless : tlv.Lossless)
    (ideal : bls.Ideal valid) {packet signed : Packet} {signingKey : SecretKey}
    {sigInfo : SignatureInfo} (parameters : packet.hasParameters = true)
    (made : packet.ndnBLSSign tlv format bls signingKey sigInfo = .ok signed) :
    (∃ octets, packet.signedOctets tlv format sigInfo = .ok octets ∧
      ∀ indeterminate pubKey, ∃ accepted,
        signed.ndnBLSVerify tlv format bls indeterminate pubKey = .ok accepted ∧
        (accepted = true ↔
          valid (bls.getPublicKey signingKey) octets = valid pubKey octets)) ∧
    ∀ other otherInfo, signed.ndnBLSSign tlv format bls other otherInfo =
      packet.ndnBLSSign tlv format bls other otherInfo := by
  rw [ndnBLSSign_eq] at made
  split at made
  · cases made
  · cases extracted : packet.signedOctets tlv format sigInfo with
    | error fault =>
      rw [extracted] at made
      cases made
    | ok octets =>
      rw [extracted] at made
      cases made
      refine ⟨⟨octets, rfl, fun indeterminate pubKey => ?_⟩, fun other otherInfo => ?_⟩
      · -- The value read back is the signing key's valid signature, and there is only one.
        refine ⟨_, ndnBLSVerify_signed bls lossless extracted parameters indeterminate pubKey _, ?_⟩
        rw [Bls.deserializeInto, ideal.deserialize_serialize, Option.getD_some, ideal.verify_iff,
          ideal.sign_valid]
      · -- Info, value and digest are overwritten, and the signed octets depend on none of them.
        rw [ndnBLSSign_eq, ndnBLSSign_eq, signedOctets_signed]
        simp only [signed_signed]

open Reference in
/-- A signed command Interest. -/
theorem ndnBLSSign_accepted_command :
    let sigInfo : SignatureInfo := ⟨Tlv.signatureSha256WithBls, some (.name (.ofTexts ["k"]))⟩
    ∃ signed, commandInterest.ndnBLSSign libraries.tlv interestFormat libraries.bls 3 sigInfo =
        .ok signed ∧
      (∃ octets, commandInterest.signedOctets libraries.tlv interestFormat sigInfo = .ok octets ∧
        ∀ indeterminate pubKey, ∃ accepted, signed.ndnBLSVerify libraries.tlv interestFormat
            libraries.bls indeterminate pubKey = .ok accepted ∧
          (accepted = true ↔ libraries.bls.getPublicKey 3 * checksum octets =
            pubKey * checksum octets)) ∧
      ∀ other otherInfo,
        signed.ndnBLSSign libraries.tlv interestFormat libraries.bls other otherInfo =
          commandInterest.ndnBLSSign libraries.tlv interestFormat libraries.bls other
            otherInfo := by
  intro sigInfo
  have possible : ∃ signed, commandInterest.ndnBLSSign libraries.tlv interestFormat libraries.bls 3
      sigInfo = .ok signed := ⟨_, rfl⟩
  obtain ⟨signed, made⟩ := possible
  exact ⟨signed, made, ndnBLSSign_accepted PacketFormat.tlv_lossless (Bls.additive_ideal checksum)
    rfl made⟩

end Packet

end NdnMps
