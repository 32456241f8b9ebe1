import NdnMps.BlsHelpers.Aggregation
import NdnMps.BlsHelpers.Packets
import NdnMps.Libraries.Reference

/-! What octets that encode no signature leave in the objects that they are read into. -/

namespace NdnMps

variable {SecretKey PublicKey Signature : Type}

namespace Bls

variable (bls : Bls SecretKey PublicKey Signature)

/-- Whatever the two objects hold before, the aggregation fails or returns the serialized sum of the
signatures that the buffers encode, one for each. -/
def SumsWhatItReads (buffers : List Buffer) : Prop :=
  ∀ aggSig tempSig, (∃ fault, bls.ndnBLSAggregateSignature aggSig tempSig buffers = .error fault) ∨
    ∃ signatures sum, buffers.map bls.deserialize = signatures.map some ∧
      NonemptySum.total bls.signatureAdd signatures = some sum ∧
      bls.ndnBLSAggregateSignature aggSig tempSig buffers = .ok (bls.serialize sum)

/-- The aggregate is the sum of the encoded signatures exactly when every buffer encodes one. -/
theorem sumsWhatItReads_iff (first : Buffer) (rest : List Buffer)
    (indeterminate : Signature) :
    bls.SumsWhatItReads (first :: rest) ↔
      ∀ buffer ∈ first :: rest, (bls.deserialize buffer).isSome = true := by
  rw [← exists_map_some_iff]
  constructor
  · intro sums
    -- The function never fails on a list that is not empty.
    rcases sums indeterminate indeterminate with ⟨fault, failed⟩ | ⟨signatures, _, decoded, _⟩
    · cases failed
    · exact ⟨signatures, decoded⟩
  · rintro ⟨signatures, decoded⟩ aggSig tempSig
    -- All buffers encode a signature, so the result is their sum.
    have nonempty : signatures ≠ [] := by
      intro empty
      rw [empty] at decoded
      cases decoded
    obtain ⟨sum, total⟩ := NonemptySum.total_isSome bls.signatureAdd nonempty
    exact .inr ⟨signatures, sum, decoded, total,
      bls.ndnBLSAggregateSignature_eq decoded total aggSig tempSig⟩

open Reference in
/-- A third buffer without octets is counted as the second one once more. -/
theorem third_buffer_repeated :
    let piece : Nat → Buffer := libraries.bls.serialize
    libraries.bls.deserialize [] = none ∧
      (∀ aggSig tempSig, libraries.bls.ndnBLSAggregateSignature aggSig tempSig
        [piece 5, piece 7, []] = .ok (piece (5 + 7 + 7))) ∧
      ¬ libraries.bls.SumsWhatItReads [piece 5, piece 7, []] := by
  intro piece
  have repeated : ∀ aggSig tempSig, libraries.bls.ndnBLSAggregateSignature aggSig tempSig
      [piece 5, piece 7, []] = .ok (piece (5 + 7 + 7)) := fun _ _ => rfl
  -- The sum is computed for any contents of the two objects.
  refine ⟨by decide, repeated, fun sums => ?_⟩
  -- There is no list of signatures that the three buffers encode.
  rcases sums 0 0 with ⟨fault, failed⟩ | ⟨signatures, _, decoded, _⟩
  · rw [repeated] at failed
    cases failed
  · have each := exists_map_some_iff.mp ⟨signatures, decoded⟩ [] (by simp)
    cases each

end Bls

namespace Packet

variable (tlv : Tlv) (format : InterestFormat) (bls : Bls SecretKey PublicKey Signature)

/-- The octets that a verifier checks a signature on: none for an Interest that is not signed, and
an exception for Data without signature information. -/
def signedRanges : Packet → Except Fault (Option Buffer)
  | .data packet => (tlv.extractSignedRanges packet).map some
  | .interest packet =>
    .ok (if packet.isSigned then (packet.extractSignedRanges format).toOption else none)

/-- The answer for a packet is that for the signature object after the value was read into it, and a
rejection without anything signed. -/
theorem ndnBLSVerify_eq (packet : Packet) (indeterminate : Signature) (pubKey : PublicKey) :
    packet.ndnBLSVerify tlv format bls indeterminate pubKey =
      (packet.signedRanges tlv format).map fun ranges => ranges.any fun octets =>
        bls.verify (bls.deserializeInto indeterminate packet.signatureValue) pubKey octets := by
  -- Data has signed ranges or makes the code throw, and an Interest has them where it is signed.
  cases packet with
  | data packet =>
    simp only [ndnBLSVerify, Bls.ndnBLSVerify, signedRanges, signatureValue]
    cases tlv.extractSignedRanges packet <;> simp [Except.map]
  | interest packet =>
    cases complete : packet.isSigned with
    | false => simp [ndnBLSVerify, Bls.ndnBLSVerifyInterest, signedRanges, complete, Except.map]
    | true =>
      -- A signed Interest has the signature information and ends with the digest.
      have parts := complete
      simp only [SigningInterest.isSigned, Bool.and_eq_true] at parts
      obtain ⟨⟨⟨-, informed⟩, -⟩, ends⟩ := parts
      obtain ⟨sigInfo, present⟩ := Option.isSome_iff_exists.mp informed
      simp [ndnBLSVerify, Bls.ndnBLSVerifyInterest, signedRanges, complete, signatureValue,
        SigningInterest.extractSignedRanges, ends, present, Except.toOption, Except.map]

/-- A value that encodes no signature is rejected, and the answer depends on the key and the packet
only, whatever the signature object holds before. -/
def AnswersForItself (pubKey : PublicKey) (packet : Packet) : Prop :=
  (bls.deserialize packet.signatureValue = none → ∀ indeterminate,
      packet.ndnBLSVerify tlv format bls indeterminate pubKey = .ok false) ∧
    ∀ first second, packet.ndnBLSVerify tlv format bls first pubKey =
      packet.ndnBLSVerify tlv format bls second pubKey

/-- The packet can be read, and no signature at all verifies under the key on what it signs. -/
def RejectsAll (pubKey : PublicKey) (packet : Packet) : Prop :=
  ∃ ranges, packet.signedRanges tlv format = .ok ranges ∧ ∀ octets, ranges = some octets →
    ∀ signature, bls.verify signature pubKey octets = false

/-- The answer is right exactly when the value encodes a signature, or the packet can be read and no
signature at all would verify. -/
theorem answersForItself_iff_or (indeterminate : Signature) (pubKey : PublicKey)
    (packet : Packet) :
    packet.AnswersForItself tlv format bls pubKey ↔
      (bls.deserialize packet.signatureValue).isSome = true ∨
        packet.RejectsAll tlv format bls pubKey := by
  -- Only the signature object may differ between two runs on one packet.
  unfold AnswersForItself RejectsAll
  simp only [ndnBLSVerify_eq]
  cases decoded : bls.deserialize packet.signatureValue with
  | some signature =>
    -- The object is overwritten, so it does not matter what was in it.
    simp [Bls.deserializeInto, decoded]
  | none =>
    -- The object keeps what it held, which may be any signature.
    simp only [Bls.deserializeInto, decoded, Option.getD_none, Option.isSome_none,
      Bool.false_eq_true, false_or, true_implies]
    cases packet.signedRanges tlv format with
    | error fault =>
      -- A packet that cannot be read is answered by an exception, which is no rejection.
      constructor
      · rintro ⟨rejected, -⟩
        cases rejected indeterminate
      · rintro ⟨ranges, read, -⟩
        cases read
    | ok ranges =>
      cases ranges with
      | none => simp [Except.map]
      | some octets =>
        simp only [Except.map, Option.any_some, Except.ok.injEq]
        constructor
        · rintro ⟨rejected, -⟩
          refine ⟨_, rfl, fun others same signature => ?_⟩
          cases same
          exact rejected signature
        · rintro ⟨_, rfl, rejected⟩
          have rejected := rejected octets rfl
          exact ⟨rejected, fun first second => by rw [rejected first, rejected second]⟩

/-- Where some signature of the key on the octets verifies, the value has to encode one. -/
theorem answersForItself_iff_of_ideal {valid : PublicKey → Buffer → Signature}
    (ideal : bls.Ideal valid) (pubKey : PublicKey) {packet : Packet} {octets : Buffer}
    (signed : packet.signedRanges tlv format = .ok (some octets)) :
    packet.AnswersForItself tlv format bls pubKey ↔
      (bls.deserialize packet.signatureValue).isSome = true := by
  -- The valid signature of the key is one that verifies.
  rw [answersForItself_iff_or tlv format bls (valid pubKey octets)]
  refine or_iff_left fun ⟨ranges, read, rejected⟩ => ?_
  rw [signed] at read
  have accepted := (ideal.verify_iff (valid pubKey octets) pubKey octets).mpr rfl
  rw [rejected octets (Except.ok.inj read).symm] at accepted
  cases accepted

/-- A packet is answered for itself exactly when its value encodes a signature, or the packet can be
read and no signature would verify; the latter does not happen to a signed packet in an ideal
scheme. -/
theorem answersForItself_iff (indeterminate : Signature) (pubKey : PublicKey) (packet : Packet) :
    (packet.AnswersForItself tlv format bls pubKey ↔
        (bls.deserialize packet.signatureValue).isSome = true ∨
          packet.RejectsAll tlv format bls pubKey) ∧
      ∀ valid octets, bls.Ideal valid → packet.signedRanges tlv format = .ok (some octets) →
        (packet.AnswersForItself tlv format bls pubKey ↔
          (bls.deserialize packet.signatureValue).isSome = true) :=
  ⟨answersForItself_iff_or tlv format bls indeterminate pubKey packet, fun _ _ ideal signed =>
    answersForItself_iff_of_ideal tlv format bls ideal pubKey signed⟩

open Reference in
/-- A packet with an empty signature value verifies after the signature of the key on it was left in
the signature object, and not after another one. -/
theorem empty_value_accepted :
    let data : Data := { Data.ofName (.ofTexts ["a"]) with
      signatureInfo := some ⟨Tlv.signatureSha256WithBls, some (.name (.ofTexts ["k"]))⟩
      signatureValue := some [] }
    let format : InterestFormat := ⟨fun _ _ _ => [], fun _ _ _ => []⟩
    libraries.bls.deserialize (signatureValue (.data data)) = none ∧
      ndnBLSVerify libraries.tlv format libraries.bls
        (5 * checksum (data.unsignedPortion libraries.tlv)) 5 (.data data) = .ok true ∧
      ndnBLSVerify libraries.tlv format libraries.bls 0 5 (.data data) = .ok false ∧
      ¬ AnswersForItself libraries.tlv format libraries.bls 5 (.data data) := by
  intro data format
  -- The object holds the valid signature once, and another one the second time.
  have accepted : ndnBLSVerify libraries.tlv format libraries.bls
      (5 * checksum (data.unsignedPortion libraries.tlv)) 5 (.data data) = .ok true := by
    decide +kernel
  have rejected : ndnBLSVerify libraries.tlv format libraries.bls 0 5 (.data data) =
      .ok false := by
    decide +kernel
  refine ⟨by decide, accepted, rejected, fun answers => ?_⟩
  have same := answers.2 _ 0 |>.symm.trans accepted
  rw [rejected] at same
  cases same

end Packet

end NdnMps
