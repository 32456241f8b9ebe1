import NdnMps.Signer.Approval

/-! What the initiator packs for a signer the signer unpacks, and the other way round. -/

namespace NdnMps

variable {SecretKey PublicKey Signature : Type}

/-- The elements of a result say what state the request is in. -/
structure ReadsResult (tlv : Tlv) (state : SignRequestState) (blocks : List Block) : Prop where
  status : ∃ block, getBlock blocks Tlv.status = .ok block ∧ block.value = state.code.text
  /-- A request in progress has a time to wait for, and the name of the next version's result. -/
  processing : state.code = .processing →
    (∃ block, getBlock blocks Tlv.resultAfter = .ok block ∧
      tlv.numberOf block = .ok estimateProcessTime) ∧
    ∃ block value, getBlock blocks Tlv.resultName = .ok block ∧
      tlv.blockFromValue block = .ok value ∧
      tlv.nameOf value = .ok
        (state.resultPrefix.append (tlv.fromVersion ((state.version + 1) % 2 ^ 64)))
  /-- A final result has the octets of the signature. -/
  ok : state.code = .ok →
    ∃ block, getBlock blocks Tlv.blsSigValue = .ok block ∧ block.value = state.signatureValue

/-- The elements that a result is made of are read as its state. -/
theorem readsResult_resultElements {tlv : Tlv} (lossless : tlv.Lossless)
    (state : SignRequestState) : ReadsResult tlv state (resultElements tlv state) where
  status := by
    obtain ⟨rest, front⟩ := exists_resultElements tlv state
    rw [front]
    exact ⟨_, getBlock_front _ _ _, rfl⟩
  processing code := by
    let newResultName :=
      state.resultPrefix.append (tlv.fromVersion ((state.version + 1) % 2 ^ 64))
    -- The three elements have three types, so each of them is found.
    have after : getBlock (resultElements tlv state) Tlv.resultAfter =
        .ok ⟨Tlv.resultAfter, tlv.encodeNumber estimateProcessTime⟩ := by
      simp only [resultElements, code]
      rw [getBlock_pass (by decide)]
      exact getBlock_front _ _ _
    have named : getBlock (resultElements tlv state) Tlv.resultName =
        .ok ⟨Tlv.resultName, tlv.encode [tlv.encodeName newResultName]⟩ := by
      simp only [resultElements, code]
      rw [getBlock_pass (by decide), getBlock_pass (by decide), Tlv.nestedName, Tlv.nested]
      exact getBlock_front _ _ _
    exact ⟨⟨_, after, lossless.numberOf_encodeNumber _ _⟩, _, _, named,
      lossless.blockFromValue_encode _ _, lossless.nameOf_encodeName _⟩
  ok code := by
    simp only [resultElements, code]
    exact ⟨_, (getBlock_pass (by decide) _ _).trans (getBlock_front _ _ _), rfl⟩

/-- A remote call that goes on after an acknowledgement has read it. -/
theorem parseAckReply_of_proceed {libs : Libraries SecretKey PublicKey Signature}
    {tpm kept : List Buffer} {perSigner further : MultiSignPerSignerState}
    {draw : Draw Signature} {ack : Data} {put : List Data}
    (went : ackCallback libs tpm perSigner draw ack = .proceed further kept put) :
    ∃ reply, parseAckReply libs.tlv libs.ssl perSigner.ecdh draw.salt ack = .ok reply := by
  -- An acknowledgement that cannot be read ends the remote call.
  unfold ackCallback at went
  cases read : parseAckReply libs.tlv libs.ssl perSigner.ecdh draw.salt ack with
  | ok reply => exact ⟨reply, rfl⟩
  | error fault => cases fault <;> simp [read] at went

/-- Both sides of a request understand each other. The signer unpacks the very packet to be signed,
so what it signs is what is verified once the signature value is set, and the initiator reads from
a result the state of the request. -/
theorem roundTrips (libs : Libraries SecretKey PublicKey Signature) (lossless : libs.tlv.Lossless)
    (matching : libs.ssl.Matching) (unsignedData : Data) (initiatorPrefix : Name)
    (keyLocatorRandomness : Nat) (state : SignRequestState) :
    let toBeSigned := (prepareUnfinishedDataAndInfoData libs.tlv unsignedData initiatorPrefix
      keyLocatorRandomness).1
    (∀ signingKeyName signerKeyName rpcDraw tpm draw ack perSigner kept put,
      ackCallback libs tpm (Session.newRpc libs initiatorPrefix toBeSigned signingKeyName
        signerKeyName rpcDraw) draw ack = .proceed perSigner kept put →
      perSigner.aesKey = state.aesKey →
      ∃ para, perSigner.paraDataPromise = some para ∧
        parseParameterData libs.tlv libs.ssl state.aesKey para = .ok toBeSigned) ∧
    (∃ message,
      (∀ signingKey, libs.bls.ndnGenBLSSignature libs.tlv signingKey toBeSigned =
        libs.bls.serialize (libs.bls.sign signingKey message)) ∧
      ∀ indeterminate pubKey value,
        libs.bls.ndnBLSVerify libs.tlv indeterminate pubKey
            { toBeSigned with signatureValue := some value } =
          .ok (libs.bls.verify (libs.bls.deserializeInto indeterminate value) pubKey message)) ∧
    ∀ interestName random hmacKey, ∃ blocks,
      parseResultData libs.tlv libs.ssl state.aesKey (libs.keyChain.signWithHmac hmacKey
        (generateResultData libs.tlv libs.ssl interestName state random).1) = .ok blocks ∧
      ReadsResult libs.tlv state blocks := by
  intro toBeSigned
  refine ⟨?_, ⟨toBeSigned.unsignedPortion libs.tlv, fun signingKey => rfl, ?_⟩, ?_⟩
  · intro signingKeyName signerKeyName rpcDraw tpm draw ack perSigner kept put went same
    obtain ⟨reply, read⟩ := parseAckReply_of_proceed went
    -- The packet to be signed is the content of the unencrypted parameter packet.
    have content : (Session.newRpc libs initiatorPrefix toBeSigned signingKeyName signerKeyName
        rpcDraw).paraData.content = libs.tlv.encode [libs.tlv.encodeData toBeSigned] := by
      simp [Session.newRpc, prepareParameterData, Data.setContent, lossless.type_encodeData,
        Tlv.dataType, Tlv.contentType]
    obtain ⟨para, carries, -, proceeded⟩ := ackCallback_reply tpm read content
    rw [proceeded] at went
    cases went
    refine ⟨para, rfl, ?_⟩
    rw [← same]
    exact parseParameterData_carries lossless matching rfl rfl carries
  · -- The signed portion leaves the signature value out.
    intro indeterminate pubKey value
    unfold Bls.ndnBLSVerify
    rw [lossless.extractSignedRanges_eq rfl]
    rfl
  · intro interestName random hmacKey
    exact ⟨_, parseResultData_generateResultData lossless matching interestName state random
      hmacKey, readsResult_resultElements lossless state⟩

namespace Reference

/-- A packet as it is sent to the signers. -/
def packetToSign : Data :=
  (prepareUnfinishedDataAndInfoData libraries.tlv (.ofName (.ofTexts ["data"])) (.ofTexts ["i"])
    4).1

/-- The remote call that has sent the sign request. -/
def askingCall : MultiSignPerSignerState :=
  Session.newRpc libraries (.ofTexts ["i"]) packetToSign (.ofTexts ["i", "KEY", "1"])
    (.ofTexts ["a", "KEY", "1"]) ⟨5, [3], [9]⟩

/-- Randomness for its callback. -/
def ackDraw : Draw Nat :=
  ⟨List.replicate 32 0, List.length_replicate, [1], [9], 0, 0, fun _ => ⟨5, [3], [9]⟩⟩

end Reference

open Reference in
/-- The packet to be signed arrives at a signer that has accepted the request. -/
theorem roundTrips_signRequest :
    ∃ accepted perSigner kept put para,
      anySigner.onSignRequest libraries signRequest signDraw = .ok (.inr accepted) ∧
      ackCallback libraries [] askingCall ackDraw accepted.ack = .proceed perSigner kept put ∧
      perSigner.paraDataPromise = some para ∧
      parseParameterData libraries.tlv libraries.ssl accepted.state.aesKey para =
        .ok packetToSign := by
  have lossless : libraries.tlv.Lossless := PacketFormat.tlv_lossless
  have matching : libraries.ssl.Matching := openssl_matching
  have requested : signRequest = libraries.keyChain.signInterest (.ofTexts ["i", "KEY", "1"])
      [9] (prepareSignRequestInterest libraries.tlv (.ofTexts ["a"])
        (.ofTexts ["i", "mps", "param", "5"]) (libraries.ssl.ecdhPublic [3])) := rfl
  obtain ⟨accepted, keys, accepts, answers⟩ :=
    anySigner.exists_accepted lossless matching requested rfl signDraw
  -- The remote call with the same ECDH key reads the acknowledgement.
  have read : parseAckReply libraries.tlv libraries.ssl askingCall.ecdh ackDraw.salt accepted.ack =
      .ok _ := answers.reply (List.replicate 32 0) List.length_replicate
  have content : askingCall.paraData.content =
      libraries.tlv.encode [libraries.tlv.encodeData packetToSign] := rfl
  obtain ⟨_, -, -, proceeded⟩ := ackCallback_reply [] read content
  obtain ⟨para, promised, parsed⟩ := (roundTrips libraries lossless matching
    (.ofName (.ofTexts ["data"])) (.ofTexts ["i"]) 4 accepted.state).1 (.ofTexts ["i", "KEY", "1"])
    (.ofTexts ["a", "KEY", "1"]) ⟨5, [3], [9]⟩ [] ackDraw accepted.ack _ _ _ proceeded
    answers.aesKey.symm
  exact ⟨accepted, _, _, _, para, accepts, proceeded, promised, parsed⟩

end NdnMps
