import NdnMps.BlsHelpers.Aggregation
import NdnMps.BlsHelpers.Packets
import NdnMps.BlsHelpers.Pairing
import NdnMps.Libraries.Reference

/-! Signatures of several keys on one packet, and the aggregate that verifies under all of them. -/

namespace NdnMps

/-- A digest at the end of a name is renewed in its place. -/
theorem Name.setDigest_concat {front : List Component} {last : Component}
    (isDigest : last.isParametersDigest = true)
    (one : (front ++ [last]).countP Component.isParametersDigest ≤ 1) (digest : Buffer) :
    (Name.mk (front ++ [last])).setDigest digest =
      ⟨front ++ [⟨Component.parametersDigestType, digest⟩]⟩ := by
  -- The only digest is the last component, so the others stay as they are.
  have others : ∀ component ∈ front, component.isParametersDigest = false := by
    rw [List.countP_append, List.countP_singleton, if_pos isDigest] at one
    have none : front.countP Component.isParametersDigest = 0 := by omega
    intro component member
    exact Bool.eq_false_iff.mpr (List.countP_eq_zero.mp none component member)
  have present : (front ++ [last]).any Component.isParametersDigest = true :=
    List.any_eq_true.mpr ⟨last, List.mem_append_right _ (List.mem_singleton.mpr rfl), isDigest⟩
  -- So renewing leaves all of them alone.
  have kept : front.map (fun component =>
      if component.isParametersDigest then ⟨Component.parametersDigestType, digest⟩
      else component) = front := by
    conv_rhs => rw [← List.map_id front]
    apply List.map_congr_left
    intro component member
    rw [others component member]
    rfl
  rw [setDigest, if_pos present, List.map_append, kept, List.map_singleton, if_pos isDigest]

namespace SigningInterest

/-- A name ends with a digest exactly when its last component is one. -/
theorem endsWithDigest_iff (interest : SigningInterest) :
    interest.endsWithDigest = true ↔ ∃ front last,
      interest.name.components = front ++ [last] ∧ last.isParametersDigest = true := by
  unfold endsWithDigest
  -- The last component is what the rest of the name is extended by.
  simp only [Option.any_eq_true, List.getLast?_eq_some_iff]
  constructor
  · rintro ⟨last, ⟨front, split⟩, isDigest⟩
    exact ⟨front, last, split, isDigest⟩
  · rintro ⟨front, last, split, isDigest⟩
    exact ⟨last, ⟨front, split⟩, isDigest⟩

variable {format : InterestFormat}

/-- Signed octets come from a name that ends with a digest, and from signature information. -/
theorem extractSignedRanges_eq_ok_iff {interest : SigningInterest} {octets : Buffer} :
    interest.extractSignedRanges format = .ok octets ↔ interest.endsWithDigest = true ∧
      ∃ sigInfo, interest.signatureInfo = some sigInfo ∧
        format.encodeSigned interest.name.components.dropLast interest.applicationParameters
          sigInfo = octets := by
  -- Of the four combinations only one gives octets.
  unfold extractSignedRanges
  cases interest.endsWithDigest <;> cases interest.signatureInfo <;> simp

/-- A signature value does not change the octets that are signed, for all that it changes the
digest in the name. -/
theorem extractSignedRanges_setSignatureValue {interest : SigningInterest} {octets : Buffer}
    (extracted : interest.extractSignedRanges format = .ok octets) (sigValue : Buffer) :
    (interest.setSignatureValue format sigValue).endsWithDigest = true ∧
      (interest.setSignatureValue format sigValue).extractSignedRanges format = .ok octets := by
  obtain ⟨ends, sigInfo, present, encoded⟩ := extractSignedRanges_eq_ok_iff.mp extracted
  obtain ⟨front, last, split, isDigest⟩ := interest.endsWithDigest_iff.mp ends
  -- The renewed digest is the last component again, and the ones in front are the same.
  have one := interest.oneDigest
  rw [split] at one
  have same : interest.name = ⟨front ++ [last]⟩ := Name.ext split
  have components : (interest.setSignatureValue format sigValue).name.components =
      front ++ [⟨Component.parametersDigestType, format.parametersDigest
        interest.applicationParameters interest.signatureInfo (some sigValue)⟩] := by
    simp only [setSignatureValue, same, Name.setDigest_concat isDigest one]
  have endsAgain : (interest.setSignatureValue format sigValue).endsWithDigest = true :=
    (endsWithDigest_iff _).mpr ⟨front, _, components, rfl⟩
  refine ⟨endsAgain, extractSignedRanges_eq_ok_iff.mpr ⟨endsAgain, sigInfo, present, ?_⟩⟩
  -- The octets are encoded from the components in front of the digest.
  rw [components, List.dropLast_concat]
  rw [split, List.dropLast_concat] at encoded
  exact encoded

end SigningInterest

variable {SecretKey PublicKey Signature : Type}

namespace Bls

variable (bls : Bls SecretKey PublicKey Signature)

/-- The aggregate of some keys is their sum. -/
theorem ndnBLSAggregatePublicKey_eq {pubKeys : List PublicKey} {aggKey : PublicKey}
    (total : NonemptySum.total bls.publicKeyAdd pubKeys = some aggKey) :
    bls.ndnBLSAggregatePublicKey pubKeys = .ok aggKey := by
  -- The loop starts with the first key, as the sum does.
  cases pubKeys with
  | nil => cases total
  | cons first rest => exact congrArg Except.ok (Option.some.inj total)

/-- The aggregate of some signatures is their sum. -/
theorem ndnBLSAggregateSignatures_eq {signatures : List Signature} {sum : Signature}
    (total : NonemptySum.total bls.signatureAdd signatures = some sum) :
    bls.ndnBLSAggregateSignatures signatures = .ok sum := by
  -- The loop starts with the first signature, as the sum does.
  cases signatures with
  | nil => cases total
  | cons first rest => exact congrArg Except.ok (Option.some.inj total)

end Bls

namespace Packet

variable (tlv : Tlv) (format : InterestFormat) (bls : Bls SecretKey PublicKey Signature)

/-- The octets that signers sign under some signature information. -/
def signedOctets (sigInfo : SignatureInfo) : Packet → Except Fault Buffer
  | .data packet => .ok ({ packet with signatureInfo := some sigInfo : Data }.unsignedPortion tlv)
  | .interest packet => (packet.setSignatureInfo format sigInfo).extractSignedRanges format

/-- A piece is the serialized signature on these octets. -/
theorem ndnGenBLSSignature_eq_ok_iff {packet : Packet} {sigInfo : SignatureInfo}
    {signingKey : SecretKey} {piece : Buffer} :
    packet.ndnGenBLSSignature tlv format bls signingKey sigInfo = .ok piece ↔
      sigInfo.signatureType = Tlv.signatureSha256WithBls ∧
        ∃ octets, packet.signedOctets tlv format sigInfo = .ok octets ∧
          bls.serialize (bls.sign signingKey octets) = piece := by
  -- Another signature type makes every overload throw before it signs.
  by_cases typed : sigInfo.signatureType = Tlv.signatureSha256WithBls
  · cases packet with
    | data packet =>
      simp [ndnGenBLSSignature, Bls.ndnGenBLSSignatureData, Bls.ndnGenBLSSignature, signedOctets,
        typed]
    | interest packet =>
      -- Only here may the octets be missing.
      simp only [ndnGenBLSSignature, Bls.ndnGenBLSSignatureInterest,
        Bls.ndnGenBLSSignatureWithInfo, signedOctets, typed, ne_eq, not_true_eq_false, if_false,
        true_and]
      cases (packet.setSignatureInfo format sigInfo).extractSignedRanges format <;> simp
  · cases packet <;>
      simp [ndnGenBLSSignature, Bls.ndnGenBLSSignatureData, Bls.ndnGenBLSSignatureInterest, typed]

variable {tlv format}

/-- The verifier reads the octets that the signers signed. -/
theorem ndnBLSVerify_signed (lossless : tlv.Lossless) {packet : Packet} {sigInfo : SignatureInfo}
    {octets : Buffer} (signed : packet.signedOctets tlv format sigInfo = .ok octets)
    (parameters : packet.hasParameters = true) (indeterminate : Signature) (pubKey : PublicKey)
    (sigValue : Buffer) :
    (packet.signed format sigInfo sigValue).ndnBLSVerify tlv format bls indeterminate pubKey =
      .ok (bls.verify (bls.deserializeInto indeterminate sigValue) pubKey octets) := by
  -- The two kinds of packets get at the signed octets by different ways.
  cases packet with
  | data packet =>
    -- The signed ranges of Data are its unsigned portion.
    cases signed
    have ranges : tlv.extractSignedRanges
        { packet with signatureInfo := some sigInfo, signatureValue := some sigValue } =
          .ok ({ packet with signatureInfo := some sigInfo : Data }.unsignedPortion tlv) :=
      lossless.extractSignedRanges_eq rfl
    simp only [Packet.signed, ndnBLSVerify, Bls.ndnBLSVerify, ranges, Option.getD_some]
  | interest packet =>
    obtain ⟨ends, extracted⟩ :=
      SigningInterest.extractSignedRanges_setSignatureValue signed sigValue
    have complete : ((packet.setSignatureInfo format sigInfo).setSignatureValue format
        sigValue).isSigned = true := by
      have given : packet.applicationParameters.isSome = true := parameters
      rw [SigningInterest.isSigned, ends]
      simp only [SigningInterest.setSignatureValue, SigningInterest.setSignatureInfo, given,
        Option.isSome_some, Bool.and_true]
    simp only [Packet.signed, ndnBLSVerify, Bls.ndnBLSVerifyInterest, complete, extracted]
    rfl

variable (tlv format)

/-- Several keys verify a packet as their sum does. -/
theorem ndnBLSVerifyAll_eq {pubKeys : List PublicKey} {aggKey : PublicKey}
    (total : NonemptySum.total bls.publicKeyAdd pubKeys = some aggKey) (packet : Packet)
    (indeterminate : Signature) :
    packet.ndnBLSVerifyAll tlv format bls indeterminate pubKeys =
      packet.ndnBLSVerify tlv format bls indeterminate aggKey := by
  -- Data and Interests have an overload of their own.
  cases packet with
  | data packet =>
    -- The loop of this overload is the one of `ndnBLSAggregatePublicKey` written once more.
    cases pubKeys with
    | nil => cases total
    | cons first rest =>
      have sum := Option.some.inj total
      simp only [ndnBLSVerifyAll, Bls.ndnBLSVerifyAll, sum, ndnBLSVerify]
  | interest packet =>
    simp only [ndnBLSVerifyAll, Bls.ndnBLSVerifyInterestAll,
      bls.ndnBLSAggregatePublicKey_eq total, ndnBLSVerify]

variable {tlv format bls}

/-- Pieces on one packet are signatures on the same octets. -/
theorem exists_octets_of_pieces {packet : Packet} {sigInfo : SignatureInfo}
    {secrets : List SecretKey} {pieces : List Buffer} (nonempty : secrets ≠ [])
    (made : (secrets.map fun signingKey =>
      packet.ndnGenBLSSignature tlv format bls signingKey sigInfo) = pieces.map .ok) :
    ∃ octets, packet.signedOctets tlv format sigInfo = .ok octets ∧
      pieces = secrets.map fun signingKey => bls.serialize (bls.sign signingKey octets) := by
  -- The first piece shows that there are octets to sign, and every signer signs them.
  have each : ∀ signingKey ∈ secrets, ∃ piece,
      packet.ndnGenBLSSignature tlv format bls signingKey sigInfo = .ok piece := by
    intro signingKey member
    have image : packet.ndnGenBLSSignature tlv format bls signingKey sigInfo ∈
        pieces.map .ok := made ▸ List.mem_map_of_mem member
    obtain ⟨piece, -, same⟩ := List.mem_map.mp image
    exact ⟨piece, same.symm⟩
  obtain ⟨first, member⟩ := List.exists_mem_of_ne_nil secrets nonempty
  obtain ⟨piece, generated⟩ := each first member
  obtain ⟨typed, octets, signed, -⟩ := (ndnGenBLSSignature_eq_ok_iff tlv format bls).mp generated
  refine ⟨octets, signed, ?_⟩
  -- All pieces are known now, and equal lists of results come from equal lists.
  have all : (secrets.map fun signingKey =>
      packet.ndnGenBLSSignature tlv format bls signingKey sigInfo) =
        (secrets.map fun signingKey => bls.serialize (bls.sign signingKey octets)).map .ok := by
    rw [List.map_map]
    apply List.map_congr_left
    intro signingKey _
    exact (ndnGenBLSSignature_eq_ok_iff tlv format bls).mpr ⟨typed, octets, signed, rfl⟩
  exact List.map_injective_iff.mpr (fun _ _ equal => Except.ok.inj equal) (made.symm.trans all)

/-- The aggregate of the pieces of some keys, in any order, is accepted under the aggregate of the
keys, in any order, and the overloads agree. -/
theorem aggregate_accepted {valid : PublicKey → Buffer → Signature} (lossless : tlv.Lossless)
    (ideal : bls.Ideal valid) {packet : Packet} {sigInfo : SignatureInfo}
    (parameters : packet.hasParameters = true) {secrets : List SecretKey} (nonempty : secrets ≠ [])
    {pieces : List Buffer} (made : (secrets.map fun signingKey =>
      packet.ndnGenBLSSignature tlv format bls signingKey sigInfo) = pieces.map .ok)
    {permuted : List Buffer} (perm : pieces.Perm permuted) {pubKeys : List PublicKey}
    (permKeys : (secrets.map bls.getPublicKey).Perm pubKeys) :
    ∃ aggKey signatures signature,
      bls.ndnBLSAggregatePublicKey pubKeys = .ok aggKey ∧
      permuted.map bls.deserialize = signatures.map some ∧
      bls.ndnBLSAggregateSignatures signatures = .ok signature ∧
      (∀ aggSig tempSig, bls.ndnBLSAggregateSignature aggSig tempSig permuted =
        .ok (bls.serialize signature)) ∧
      ∀ indeterminate,
        (packet.signed format sigInfo (bls.serialize signature)).ndnBLSVerify tlv format bls
          indeterminate aggKey = .ok true ∧
        (packet.signed format sigInfo (bls.serialize signature)).ndnBLSVerifyAll tlv format bls
          indeterminate pubKeys = .ok true := by
  -- Every signer has signed the same octets, whichever way they were obtained.
  obtain ⟨octets, signed, pieces_eq⟩ := exists_octets_of_pieces nonempty made
  -- The pieces decode to the valid signatures of the keys on the octets.
  have decoded : pieces.map bls.deserialize =
      ((secrets.map bls.getPublicKey).map fun key => valid key octets).map some := by
    rw [pieces_eq]
    simp only [List.map_map]
    apply List.map_congr_left
    intro signingKey _
    simp only [Function.comp_apply, ideal.deserialize_serialize, ideal.sign_valid]
  obtain ⟨signatures, decodedPermuted, permSignatures⟩ := exists_map_some_of_perm perm decoded
  -- The sums are those in the original order, where signatures add up as the keys do.
  obtain ⟨aggKey, keySum⟩ := NonemptySum.total_isSome bls.publicKeyAdd
    (List.map_eq_nil_iff.not.mpr nonempty : secrets.map bls.getPublicKey ≠ [])
  have keysTotal : NonemptySum.total bls.publicKeyAdd pubKeys = some aggKey :=
    (NonemptySum.total_perm ideal.publicKeyAdd_assoc ideal.publicKeyAdd_comm permKeys).symm.trans
      keySum
  have signaturesTotal : NonemptySum.total bls.signatureAdd signatures =
      some (valid aggKey octets) := by
    rw [← NonemptySum.total_perm ideal.signatureAdd_assoc ideal.signatureAdd_comm permSignatures,
      NonemptySum.total_map (fun left right => ideal.valid_add left right octets), keySum]
    rfl
  refine ⟨aggKey, signatures, valid aggKey octets, bls.ndnBLSAggregatePublicKey_eq keysTotal,
    decodedPermuted, bls.ndnBLSAggregateSignatures_eq signaturesTotal, fun aggSig tempSig =>
      bls.ndnBLSAggregateSignature_eq decodedPermuted signaturesTotal aggSig tempSig, ?_⟩
  intro indeterminate
  -- The octets that the verifier reads are the signed ones, and the sum is valid for them.
  have accepted : (packet.signed format sigInfo
      (bls.serialize (valid aggKey octets))).ndnBLSVerify tlv format bls indeterminate aggKey =
        .ok true := by
    rw [ndnBLSVerify_signed bls lossless signed parameters, Bls.deserializeInto,
      ideal.deserialize_serialize, Option.getD_some]
    exact congrArg Except.ok ((ideal.verify_iff _ _ _).mpr rfl)
  exact ⟨accepted, (ndnBLSVerifyAll_eq tlv format bls keysTotal _ _).trans accepted⟩

end Packet

/-- Interests in the packet format. -/
def Reference.interestFormat : InterestFormat where
  parametersDigest parameters sigInfo sigValue :=
    code (PacketFormat.encode (parameters.toList ++
      (sigInfo.map PacketFormat.encodeSignatureInfo).toList)) (sigValue.getD [])
  encodeSigned components parameters sigInfo :=
    PacketFormat.encode (components.map (fun component => ⟨component.type, component.value⟩) ++
      parameters.toList ++ [PacketFormat.encodeSignatureInfo sigInfo])

namespace Packet

open Reference

/-- An Interest with parameters, before it is signed. -/
def commandInterest : Packet :=
  .interest ⟨.ofTexts ["a", "command"], some ⟨Tlv.applicationParametersType, []⟩, none, none,
    by decide⟩

/-- Two keys sign an Interest, one of them twice, and the pieces are aggregated backwards. Integers
are the keys and the signatures, which are checked with their pairing. -/
theorem aggregate_accepted_interest :
    let sigInfo : SignatureInfo := ⟨Tlv.signatureSha256WithBls, some (.name (.ofTexts ["k"]))⟩
    let bls : Bls ℤ ℤ ℤ := .integral fun message => checksum message
    let generate : ℤ → Except Fault Buffer := fun signingKey =>
      commandInterest.ndnGenBLSSignature PacketFormat.tlv interestFormat bls signingKey sigInfo
    ∃ pieces : List Buffer, [3, -5, 3].map generate = pieces.map .ok ∧
      ∃ aggKey signatures signature,
        bls.ndnBLSAggregatePublicKey [3, 3, -5] = .ok aggKey ∧
        pieces.reverse.map bls.deserialize = signatures.map some ∧
        bls.ndnBLSAggregateSignatures signatures = .ok signature ∧
        (∀ aggSig tempSig, bls.ndnBLSAggregateSignature aggSig tempSig pieces.reverse =
          .ok (bls.serialize signature)) ∧
        ∀ indeterminate,
          (commandInterest.signed interestFormat sigInfo
            (bls.serialize signature)).ndnBLSVerify PacketFormat.tlv interestFormat bls
              indeterminate aggKey = .ok true ∧
          (commandInterest.signed interestFormat sigInfo
            (bls.serialize signature)).ndnBLSVerifyAll PacketFormat.tlv interestFormat bls
              indeterminate [3, 3, -5] = .ok true := by
  intro sigInfo bls generate
  -- The pieces are what the three runs return.
  have made : ∃ pieces : List Buffer, [3, -5, 3].map generate = pieces.map .ok :=
    ⟨[_, _, _], rfl⟩
  obtain ⟨pieces, generated⟩ := made
  have keys : ([3, -5, 3].map bls.getPublicKey).Perm [3, 3, -5] := by decide
  exact ⟨pieces, generated, aggregate_accepted PacketFormat.tlv_lossless
    (Bls.integral_pairs _).ideal rfl (by decide) generated pieces.reverse_perm.symm keys⟩

end Packet

end NdnMps
