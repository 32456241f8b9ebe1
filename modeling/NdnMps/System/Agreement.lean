import NdnMps.Libraries.Reference
import NdnMps.Signer.Requests
import NdnMps.System.Exchange

/-! What the initiator and a signer agree on once a sign request has been acknowledged. -/

namespace NdnMps

variable {SecretKey PublicKey Signature : Type}

/-- Sixteen octets are for AES and thirty-two for the HMAC, where HKDF returns what it is asked
for. -/
theorem deriveKeys_length {ssl : Openssl}
    (expands : ∀ secret salt length octets, ssl.hkdf secret salt length = some octets →
      octets.length = length)
    {secret salt : Buffer} {keys : SessionKeys} (derived : deriveKeys ssl secret salt = .ok keys) :
    keys.aesKey.length = 16 ∧ keys.hmacKey.length = 32 := by
  -- The derived octets are cut after the sixteenth.
  unfold deriveKeys at derived
  cases expanded : ssl.hkdf secret salt 48 with
  | none => simp [expanded] at derived
  | some octets =>
    have whole := expands secret salt 48 octets expanded
    simp only [expanded, Except.ok.injEq] at derived
    rw [← derived, List.length_take, List.length_drop]
    omega

/-- The keys the initiator reads from an acknowledgement are derived keys. -/
theorem deriveKeys_of_parseAckReply {tlv : Tlv} {ssl : Openssl} {ecdh array : Buffer} {ack : Data}
    {reply : AckReply} (read : parseAckReply tlv ssl ecdh array ack = .ok reply) :
    ∃ secret salt, deriveKeys ssl secret salt = .ok reply.keys := by
  -- The reading throws or ends with the derivation.
  simp only [parseAckReply, Bind.bind, Except.bind] at read
  repeat' split at read
  all_goals first
    | cases read; done
    | cases read; exact ⟨_, _, ‹_›⟩

/-- Whenever a signer accepts a sign request of an initiator, the initiator reads the signer's
acknowledgement, and both hold the same sixteen octets for AES and the same HMAC key. The result's
name is that of the request's first version under the signer's prefix, and with a digest behind it
the signer answers it. -/
theorem BLSSigner.agrees_of_accepted {libs : Libraries SecretKey PublicKey Signature}
    (lossless : libs.tlv.Lossless) (matching : libs.ssl.Matching)
    (expands : ∀ secret salt length octets, libs.ssl.hkdf secret salt length = some octets →
      octets.length = length)
    (signer : BLSSigner SecretKey) {keyName signerPrefix paraDataName : Name}
    {nonce ecdh array : Buffer} (full : array.length = 32) {request : Interest}
    (requested : request = libs.keyChain.signInterest keyName nonce
      (prepareSignRequestInterest libs.tlv signerPrefix paraDataName (libs.ssl.ecdhPublic ecdh)))
    {draw : RequestDraw} {accepted : BLSSigner.Accepted}
    (accepts : signer.onSignRequest libs request draw = .ok (.inr accepted)) :
    ∃ reply, parseAckReply libs.tlv libs.ssl ecdh array accepted.ack = .ok reply ∧
      reply.keys.aesKey = accepted.state.aesKey ∧ accepted.state.aesKey.length = 16 ∧
      reply.keys.hmacKey = accepted.state.hmacKey ∧ accepted.state.hmacKey.length = 32 ∧
      reply.resultName = ((((signer.signerPrefix.append (.ofString "mps")).append
        (.ofString "result")).append (libs.tlv.fromNumber draw.requestId)).append
          (libs.tlv.fromVersion 0)) ∧
      accepted.state.resultPrefixRegistered = true ∧
      ∀ digest interest, interest.name =
          reply.resultName.append ⟨Component.parametersDigestType, digest⟩ →
        accepted.state.resultPrefix.isPrefixOf interest.name = true ∧
        ∀ tpm random,
          (signer.onResultInterest libs tpm accepted.state interest random).isSome = true := by
  obtain ⟨left, keys, again, answers⟩ := signer.exists_accepted lossless matching requested
    (onSignRequest_accepted accepts).1 draw
  -- The signer's answer is the one it gives to every initiator.
  cases accepts.symm.trans again
  have read := answers.reply array full
  obtain ⟨secret, salt, derived⟩ := deriveKeys_of_parseAckReply read
  obtain ⟨sixteen, thirtyTwo⟩ := deriveKeys_length expands derived
  refine ⟨_, read, answers.aesKey.symm, ?_, answers.hmacKey.symm, ?_, rfl, answers.registered, ?_⟩
  · rw [answers.aesKey]
    exact sixteen
  · rw [answers.hmacKey]
    exact thirtyTwo
  · intro digest interest named
    constructor
    · rw [named, answers.resultPrefix]
      simp [Name.isPrefixOf, Name.append]
    · intro tpm random
      have size : interest.name.size = signer.signerPrefix.size + 5 := by
        rw [named]
        simp [resultPrefixOf]
      simp [onResultInterest, size]

namespace Reference

/-- A sign request to the signer `/a`. -/
def signRequest : Interest :=
  libraries.keyChain.signInterest (.ofTexts ["i", "KEY", "1"]) [9]
    (prepareSignRequestInterest libraries.tlv (.ofTexts ["a"]) (.ofTexts ["i", "mps", "param", "5"])
      (libraries.ssl.ecdhPublic [3]))

/-- A signer `/a` that accepts everything. -/
def anySigner : BLSSigner Nat where
  signerPrefix := .ofTexts ["a"]
  secretKey := 7
  keyName := .ofTexts ["a", "KEY", "1"]
  verifyToBeSigned _ := true
  verifySignRequest _ := true

/-- Randomness of the signer. -/
def signDraw : RequestDraw := ⟨[6], List.replicate 32 2, length_salt, 11, [1]⟩

/-- The key derivation returns as many octets as it is asked for. -/
theorem openssl_expands (secret salt : Buffer) (length : Nat) (octets : Buffer)
    (expanded : libraries.ssl.hkdf secret salt length = some octets) : octets.length = length := by
  cases expanded
  simp
  omega

end Reference

open Reference in
/-- The agreement for one sign request. -/
theorem BLSSigner.agrees_of_accepted_signRequest :
    ∃ accepted reply, anySigner.onSignRequest libraries signRequest signDraw =
        .ok (.inr accepted) ∧
      parseAckReply libraries.tlv libraries.ssl [3] (List.replicate 32 0) accepted.ack =
        .ok reply ∧ reply.keys.aesKey = accepted.state.aesKey := by
  have lossless : libraries.tlv.Lossless := PacketFormat.tlv_lossless
  have matching : libraries.ssl.Matching := openssl_matching
  -- The request is the one that an initiator prepares for this packet.
  have requested : signRequest = libraries.keyChain.signInterest (.ofTexts ["i", "KEY", "1"])
      [9] (prepareSignRequestInterest libraries.tlv (.ofTexts ["a"])
        (.ofTexts ["i", "mps", "param", "5"]) (libraries.ssl.ecdhPublic [3])) := rfl
  obtain ⟨accepted, keys, accepts, -⟩ :=
    anySigner.exists_accepted lossless matching requested rfl signDraw
  obtain ⟨reply, read, aesKey, -⟩ := agrees_of_accepted lossless matching openssl_expands anySigner
    List.length_replicate requested accepts
  exact ⟨accepted, reply, accepts, read, aesKey⟩

end NdnMps
