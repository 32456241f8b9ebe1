import NdnMps.System.Rpc

/-! Where the exchange with one signer can stand when packets are lost, timers fire early, and the
signer may refuse: whatever it returns is its signature on what the session signs. -/

namespace NdnMps

variable {SecretKey PublicKey Signature : Type}

/-- A packet that can be sent to a signer, with the octets it would sign. -/
structure Presents (libs : Libraries SecretKey PublicKey Signature) (portion : Buffer)
    (toBeSigned : Data) : Prop where
  info : toBeSigned.signatureInfo.isSome
  value : toBeSigned.signatureValue.isSome
  portion : toBeSigned.unsignedPortion libs.tlv = portion

/-- A parameter packet under the keys of a request, with such a packet in it. -/
def Conveys (libs : Libraries SecretKey PublicKey Signature) (portion aesKey hmacKey : Buffer)
    (para : Data) : Prop :=
  ∃ toBeSigned, Presents libs portion toBeSigned ∧
    CarriesParameter libs aesKey hmacKey toBeSigned para

/-- A request with the keys of a remote call, which has no other signature than a given one. -/
structure SignRequestState.Answering (piece aesKey hmacKey : Buffer) (resultPrefix : Name)
    (state : SignRequestState) : Prop where
  aesKey : state.aesKey = aesKey
  hmacKey : state.hmacKey = hmacKey
  resultPrefix : state.resultPrefix = resultPrefix
  signed : state.code = .ok → state.signatureValue = piece

section Signer

variable {libs : Libraries SecretKey PublicKey Signature} {signer : BLSSigner SecretKey}
variable {portion piece aesKey hmacKey : Buffer} {resultPrefix : Name}
variable {state later : SignRequestState}

/-- What a signer generates for a packet with a given portion. -/
def BLSSigner.pieceFor (libs : Libraries SecretKey PublicKey Signature)
    (signer : BLSSigner SecretKey) (portion : Buffer) : Buffer :=
  libs.bls.serialize (libs.bls.sign signer.secretKey portion)

/-- However the signer takes the parameter packet, it signs nothing else than what is in it. -/
theorem SignRequestState.Answering.onParameterData (lossless : libs.tlv.Lossless)
    (matching : libs.ssl.Matching) {tpm : List Buffer} {para : Data}
    (answering : state.Answering (signer.pieceFor libs portion) aesKey hmacKey resultPrefix)
    (conveys : Conveys libs portion aesKey hmacKey para)
    (received : signer.onParameterData libs tpm state para = .ok later) :
    later.Answering (signer.pieceFor libs portion) aesKey hmacKey resultPrefix := by
  obtain ⟨toBeSigned, presents, carries⟩ := conveys
  obtain ⟨rfl, rfl, rfl, signed⟩ := answering
  have parsed := parseParameterData_carries lossless matching presents.info presents.value carries
  simp only [BLSSigner.onParameterData, parsed] at received
  -- The HMAC is checked first, and then the application.
  split at received
  · cases received
    exact ⟨rfl, rfl, rfl, signed⟩
  · split at received
    · cases received
      exact ⟨rfl, rfl, rfl, fun impossible => by cases impossible⟩
    · cases received
      refine ⟨rfl, rfl, rfl, fun _ => ?_⟩
      simp only [Bls.ndnGenBLSSignature, BLSSigner.pieceFor, presents.portion]

/-- A failed fetch of the parameter packet signs nothing. -/
theorem SignRequestState.Answering.onParameterFailure
    (answering : state.Answering piece aesKey hmacKey resultPrefix) :
    (BLSSigner.onParameterFailure state).Answering piece aesKey hmacKey resultPrefix :=
  ⟨answering.aesKey, answering.hmacKey, answering.resultPrefix, fun impossible => by
    cases impossible⟩

/-- Replying changes neither keys nor signature. -/
theorem SignRequestState.Answering.generateResultData
    (answering : state.Answering piece aesKey hmacKey resultPrefix) (tlv : Tlv) (ssl : Openssl)
    (interestName : Name) (random : Buffer) :
    (generateResultData tlv ssl interestName state random).2.Answering piece aesKey hmacKey
      resultPrefix := by
  rw [BLSSigner.generateResultData_state]
  exact ⟨answering.aesKey, answering.hmacKey, answering.resultPrefix, answering.signed⟩

/-- A reply that a request with the keys of a remote call has given at some time. -/
def Replies (libs : Libraries SecretKey PublicKey Signature) (piece aesKey : Buffer)
    (result : Data) : Prop :=
  ∃ (earlier : SignRequestState) (hmacKey : Buffer) (resultPrefix interestName : Name)
    (random : Buffer), earlier.Answering piece aesKey hmacKey resultPrefix ∧
      result = libs.keyChain.signWithHmac hmacKey
        (generateResultData libs.tlv libs.ssl interestName earlier random).1

/-- The initiator collects from a reply nothing but the signature of the request. -/
theorem Replies.collect (lossless : libs.tlv.Lossless) (matching : libs.ssl.Matching)
    {tpm : List Buffer} {perSigner : MultiSignPerSignerState} {result : Data} {other : Buffer}
    (replies : Replies libs piece perSigner.aesKey result)
    (collected : resultCallback libs tpm perSigner result = .collect other) : other = piece := by
  obtain ⟨earlier, hmacKey, resultPrefix, interestName, random, answering, rfl⟩ := replies
  have parsed := parseResultData_generateResultData lossless matching interestName earlier random
    hmacKey
  rw [answering.aesKey] at parsed
  unfold resultCallback at collected
  split at collected
  · cases collected
  · cases read : readResult libs tpm perSigner (libs.keyChain.signWithHmac hmacKey
        (NdnMps.generateResultData libs.tlv libs.ssl interestName earlier random).1) with
    | error fault => cases fault <;> simp [read] at collected
    | ok reaction =>
      simp only [read] at collected
      subst collected
      simp only [readResult, parsed, Bind.bind, Except.bind] at read
      -- A signature is taken from the element of a final reply only.
      repeat' split at read
      all_goals first
        | cases read; done
        | skip
      rename_i found
      cases read
      obtain ⟨final, value⟩ := getBlock_blsSigValue found
      rw [value, answering.signed final]

end Signer

/-- Where the exchange with a signer can stand. -/
inductive Passage (libs : Libraries SecretKey PublicKey Signature) (signer : BLSSigner SecretKey)
    (portion : Buffer) (perSigner : MultiSignPerSignerState) (link : Link) : Prop where
  /-- The signer has not accepted the request, and what it has replied cannot be read. -/
  | requested {request : Interest} {toBeSigned : Data}
      (phase : perSigner.phase = .awaitingAck request)
      (unpromised : perSigner.paraDataPromise = none)
      (presents : Presents libs portion toBeSigned)
      (content : perSigner.paraData.content = libs.tlv.encode [libs.tlv.encodeData toBeSigned])
      (requested : ∃ keyName nonce signerPrefix, request = libs.keyChain.signInterest keyName
        nonce (prepareSignRequestInterest libs.tlv signerPrefix perSigner.paraData.name
          (libs.ssl.ecdhPublic perSigner.ecdh)))
      (interest : ∀ sent, link.interest = some sent → sent = request)
      (reply : ∀ ack, link.reply = some ack → ∀ array, ∃ fault,
        parseAckReply libs.tlv libs.ssl perSigner.ecdh array ack = .error fault)
      (parameter : link.parameter = none) (state : link.state = none)
  /-- The signer has accepted the request, and the initiator does not know. -/
  | acknowledged {request : Interest} {toBeSigned : Data} {state : SignRequestState}
      {keys : SessionKeys} {requestId : Nat}
      (phase : perSigner.phase = .awaitingAck request)
      (unpromised : perSigner.paraDataPromise = none)
      (plain : signer.signerPrefix.digests = 0)
      (presents : Presents libs portion toBeSigned)
      (content : perSigner.paraData.content = libs.tlv.encode [libs.tlv.encodeData toBeSigned])
      (interest : link.interest = none) (kept : link.state = some state)
      (answering : state.Answering (signer.pieceFor libs portion) keys.aesKey keys.hmacKey
        (resultPrefixOf libs.tlv signer.signerPrefix requestId))
      (reply : ∀ ack, link.reply = some ack → ∀ array : Buffer, array.length = 32 →
        parseAckReply libs.tlv libs.ssl perSigner.ecdh array ack = .ok ⟨keys, estimateProcessTime,
          (resultPrefixOf libs.tlv signer.signerPrefix requestId).append (libs.tlv.fromVersion 0)⟩)
      (parameter : link.parameter = none)
  /-- Both parties have the same keys. -/
  | exchanging {state : SignRequestState} {requestId : Nat} {para : Data}
      (phase : ∀ request, perSigner.phase ≠ .awaitingAck request)
      (promised : perSigner.paraDataPromise = some para)
      (plain : signer.signerPrefix.digests = 0)
      (conveys : Conveys libs portion perSigner.aesKey perSigner.hmacKey para)
      (resultName : perSigner.nextResultName = (resultPrefixOf libs.tlv signer.signerPrefix
        requestId).append (libs.tlv.fromVersion 0))
      (interest : ∀ sent, link.interest = some sent → ∃ digest,
        sent.name = perSigner.nextResultName.append digest)
      (kept : link.state = some state)
      (answering : state.Answering (signer.pieceFor libs portion) perSigner.aesKey
        perSigner.hmacKey (resultPrefixOf libs.tlv signer.signerPrefix requestId))
      (reply : ∀ result, link.reply = some result →
        Replies libs (signer.pieceFor libs portion) perSigner.aesKey result)
      (parameter : ∀ sent, link.parameter = some sent →
        Conveys libs portion perSigner.aesKey perSigner.hmacKey sent)
  /-- The remote call waits for nothing any more. -/
  | concluded (ended : perSigner.live = false)

namespace Passage

variable {libs : Libraries SecretKey PublicKey Signature} {signer : BLSSigner SecretKey}
variable {portion : Buffer} {perSigner : MultiSignPerSignerState} {link further : Link}

/-- Losing packets leaves an exchange where it stands. -/
theorem lose (passage : Passage libs signer portion perSigner link)
    (interest : further.interest = link.interest ∨ further.interest = none)
    (reply : further.reply = link.reply ∨ further.reply = none)
    (parameter : further.parameter = link.parameter ∨ further.parameter = none)
    (state : further.state = link.state) : Passage libs signer portion perSigner further := by
  -- What is still on its way was on its way before.
  have subset : ∀ {α : Type} {before after : Option α}, after = before ∨ after = none →
      ∀ item, after = some item → before = some item := by
    rintro α before after (same | lost) item found
    · exact same ▸ found
    · simp [lost] at found
  cases passage with
  | requested phase unpromised presents content requested sent replied unsent unknown =>
    refine .requested phase unpromised presents content requested
      (fun one found => sent one (subset interest one found))
      (fun one found => replied one (subset reply one found)) ?_ (state.trans unknown)
    exact parameter.elim (fun same => same.trans unsent) id
  | acknowledged phase unpromised plain presents content gone kept answering replied unsent =>
    refine .acknowledged phase unpromised plain presents content ?_ (state.trans kept) answering
      (fun one found => replied one (subset reply one found)) ?_
    · exact interest.elim (fun same => same.trans gone) id
    · exact parameter.elim (fun same => same.trans unsent) id
  | exchanging phase promised plain conveys resultName sent kept answering replied carried =>
    exact .exchanging phase promised plain conveys resultName
      (fun one found => sent one (subset interest one found)) (state.trans kept) answering
      (fun one found => replied one (subset reply one found))
      fun one found => carried one (subset parameter one found)
  | concluded ended => exact .concluded ended

/-- A failed fetch of the parameter packet leaves an exchange where it stands. -/
theorem fetchFailed {state : SignRequestState}
    (passage : Passage libs signer portion perSigner link) (kept : link.state = some state) :
    Passage libs signer portion perSigner
      { link with state := some (BLSSigner.onParameterFailure state) } := by
  -- Only the status of the signer's state changes, and no reply was read from it.
  cases passage with
  | requested phase unpromised presents content requested sent replied unsent unknown =>
    simp [unknown] at kept
  | acknowledged phase unpromised plain presents content gone stored answering replied unsent =>
    cases stored.symm.trans kept
    exact .acknowledged phase unpromised plain presents content gone rfl
      answering.onParameterFailure replied unsent
  | exchanging phase promised plain conveys resultName sent stored answering replied carried =>
    cases stored.symm.trans kept
    exact .exchanging phase promised plain conveys resultName sent rfl answering.onParameterFailure
      replied carried
  | concluded ended => exact .concluded ended

/-- The parameter packet reaches the signer. -/
theorem parameter (lossless : libs.tlv.Lossless) (matching : libs.ssl.Matching)
    {tpm : List Buffer} {data : Data} {state later : SignRequestState}
    (passage : Passage libs signer portion perSigner link)
    (sent : link.parameter = some data) (kept : link.state = some state)
    (received : signer.onParameterData libs tpm state data = .ok later) :
    Passage libs signer portion perSigner
      { link with parameter := none, state := some later } := by
  -- A parameter packet is on its way only once both parties have the same keys.
  cases passage with
  | requested phase unpromised presents content requested interest replied unsent unknown =>
    simp [unsent] at sent
  | acknowledged phase unpromised plain presents content gone stored answering replied unsent =>
    simp [unsent] at sent
  | exchanging phase promised plain conveys resultName interest stored answering replied carried =>
    cases stored.symm.trans kept
    exact .exchanging phase promised plain conveys resultName interest rfl
      (answering.onParameterData lossless matching (carried data sent) received) replied (by simp)
  | concluded ended => exact .concluded ended

/-- The initiator's Interest reaches the signer. -/
theorem interest (lossless : libs.tlv.Lossless) (matching : libs.ssl.Matching)
    (nothing : libs.tlv.encode [] = []) {tpm more : List Buffer} {sent : Interest}
    {draw : RequestDraw} (passage : Passage libs signer portion perSigner link)
    (arrived : link.interest = some sent)
    (handled : signer.onInterest libs tpm link sent draw = some (further, more)) :
    Passage libs signer portion perSigner further := by
  cases passage with
  | acknowledged phase unpromised plain presents content gone kept answering replied unsent =>
    simp [gone] at arrived
  | concluded ended => exact .concluded ended
  | requested phase unpromised presents content requested interest replied unsent unknown =>
    obtain ⟨keyName, nonce, signerPrefix, requested⟩ := requested
    cases interest sent arrived
    obtain ⟨-, -, plain, ⟨refused, gone, parameter, empty⟩ |
        ⟨accepted, keys, answers, -, state, gone, parameter, reply⟩⟩ :=
      RpcExchange.onInterest_request_cases lossless matching requested unknown handled
    · -- A refusal carries nothing, so it is not read as an acknowledgement.
      exact .requested phase unpromised presents content ⟨keyName, nonce, signerPrefix, requested⟩
        (by simp [gone]) (fun ack found array => ⟨.exception, RpcExchange.parseAckReply_of_content
          lossless nothing (empty ack found) _ array⟩) (parameter.trans unsent) refused
    · refine .acknowledged phase unpromised plain presents content gone state
        ⟨answers.aesKey, answers.hmacKey, answers.resultPrefix, fun final => ?_⟩
        (fun ack found array full => ?_) (parameter.trans unsent)
      · cases answers.code.symm.trans final
      · cases reply.symm.trans found
        exact answers.reply array full
  | @exchanging state requestId para phase promised plain conveys resultName interest kept
      answering replied carried =>
    obtain ⟨digest, named⟩ := interest sent arrived
    -- The name is that of a result, and the signer replies with the state of the request.
    rw [resultName, ← answering.resultPrefix] at named
    obtain ⟨-, -, later, gone, parameter, reply⟩ :=
      RpcExchange.onInterest_result_cases kept answering.resultPrefix named handled
    refine .exchanging phase promised plain conveys resultName (by simp [gone]) later
      (answering.generateResultData libs.tlv libs.ssl sent.name draw.random)
      (fun result found => ?_) (parameter ▸ carried)
    cases reply.symm.trans found
    exact ⟨state, state.hmacKey, _, sent.name, draw.random,
      ⟨answering.aesKey, rfl, answering.resultPrefix, answering.signed⟩, rfl⟩

section Initiator

variable {tpm : List Buffer} {signingKeyName : Name} {draw : Draw Signature} {reaction : Reaction}

/-- The signer's Data reaches the initiator, which collects nothing but the signer's signature. -/
theorem data (lossless : libs.tlv.Lossless) (matching : libs.ssl.Matching) {received : Data}
    (passage : Passage libs signer portion perSigner link)
    (arrived : link.reply = some received)
    (reacted : react libs tpm signingKeyName perSigner draw (.data received) = some reaction) :
    (∀ piece, reaction = .collect piece → piece = signer.pieceFor libs portion) ∧
      Passage libs signer portion (reaction.leaves perSigner) { link with reply := none } := by
  have lost : Passage libs signer portion perSigner { link with reply := none } :=
    passage.lose (.inl rfl) (.inr rfl) (.inl rfl) rfl
  have live : ∀ {pending}, perSigner.phase = .awaitingAck pending ∨
      perSigner.phase = .awaitingResult pending → perSigner.live = true := by
    rintro pending (waits | waits) <;> simp [MultiSignPerSignerState.live, waits]
  cases react_responds reacted with
  | unreadable waits failed => exact ⟨by simp, .concluded rfl⟩
  | overrun waits failed => exact ⟨by simp, lost⟩
  | refused waits => exact ⟨by simp, .concluded rfl⟩
  | discarded waits => exact ⟨by simp, .concluded rfl⟩
  | corrupted waits => exact ⟨by simp, lost⟩
  | @returned _ pending piece waits =>
    -- What is returned was read from a reply, and replies carry the signer's own signature.
    refine ⟨fun other same => ?_, .concluded rfl⟩
    cases same
    rw [react_awaitingResult waits (asked_of_react (.inr waits) reacted)] at reacted
    cases passage with
    | requested phase => simp [waits] at phase
    | acknowledged phase => simp [waits] at phase
    | exchanging phase promised plain conveys resultName interest kept answering replied carried =>
      exact (replied received arrived).collect lossless matching (Option.some.inj reacted)
    | concluded ended => simp [live (.inr waits)] at ended
  | delayed waits names =>
    refine ⟨by simp, ?_⟩
    cases passage with
    | requested phase => simp [waits] at phase
    | acknowledged phase => simp [waits] at phase
    | exchanging phase promised plain conveys resultName interest kept answering replied carried =>
      exact .exchanging (by simp [Reaction.leaves]) promised plain conveys resultName interest kept
        answering (by simp) carried
    | concluded ended => simp [live (.inr waits)] at ended
  | @acknowledged _ para pending reply waits read encrypted =>
    refine ⟨by simp, ?_⟩
    cases passage with
    | requested phase unpromised presents content requested interest replied unsent unknown =>
      obtain ⟨fault, unread⟩ := replied received arrived draw.salt
      simp [unread] at read
    | @acknowledged _ toBeSigned state keys requestId phase unpromised plain presents content
        gone kept answering replied unsent =>
      -- From here on both parties have the keys of the acknowledgement.
      have known := replied received arrived draw.salt draw.salt_length
      cases known.symm.trans read
      obtain ⟨finalized, carries, -, proceeds⟩ := ackCallback_reply tpm read content
      rw [react_awaitingAck waits (asked_of_react (.inl waits) reacted), proceeds] at reacted
      cases reacted
      exact .exchanging (by simp [Reaction.leaves]) rfl plain ⟨toBeSigned, presents, carries⟩ rfl
        (by simp [gone]) kept answering (by simp) (by simp [unsent])
    | exchanging phase => exact absurd waits (phase _)
    | concluded ended => simp [live (.inl waits)] at ended

/-- The signer's Interest for the parameter packet reaches the initiator, which answers it only with
what it has finalized. -/
theorem fetch (interest : Interest) (passage : Passage libs signer portion perSigner link)
    (reacted : react libs tpm signingKeyName perSigner draw .paraInterest = some reaction) :
    (∀ piece, reaction = .collect piece → piece = signer.pieceFor libs portion) ∧
      Passage libs signer portion (reaction.leaves perSigner)
        { link with fetch := none, parameter := reaction.puts.find? interest.matchesData } := by
  have lost : Passage libs signer portion perSigner
      { link with fetch := none, parameter := none } :=
    passage.lose (.inl rfl) (.inl rfl) (.inr rfl) rfl
  -- Nothing is put on the face but a finalized packet, and there is one only after the keys.
  cases react_responds reacted with
  | broken registered unset ended => exact ⟨by simp, lost⟩
  | blocks registered unset waits => exact ⟨by simp, lost⟩
  | @answers para registered promised =>
    refine ⟨by simp, ?_⟩
    cases passage with
    | requested phase unpromised => simp [unpromised] at promised
    | acknowledged phase unpromised => simp [unpromised] at promised
    | concluded ended => exact .concluded ended
    | exchanging phase finalized plain conveys resultName sent kept answering replied carried =>
      cases finalized.symm.trans promised
      refine .exchanging phase finalized plain conveys resultName sent kept answering replied
        fun data found => ?_
      cases List.mem_singleton.mp (List.mem_of_find?_eq_some found)
      exact conveys

/-- The scheduled fetch of the result fires. -/
theorem fetchResult (lossless : libs.tlv.Lossless)
    (passage : Passage libs signer portion perSigner link)
    (reacted : react libs tpm signingKeyName perSigner draw .fetchResult = some reaction) :
    (∀ piece, reaction = .collect piece → piece = signer.pieceFor libs portion) ∧
      Passage libs signer portion (reaction.leaves perSigner)
        { link with interest := (reaction.leaves perSigner).pending } := by
  cases react_responds reacted with
  | unnameable waits unsignable => exact ⟨by simp, .concluded rfl⟩
  | fetches waits signable named =>
    -- A result is fetched by whoever has read an acknowledgement.
    refine ⟨by simp, ?_⟩
    cases passage with
    | requested phase => simp [waits] at phase
    | acknowledged phase => simp [waits] at phase
    | concluded ended => simp [MultiSignPerSignerState.live, waits] at ended
    | exchanging phase promised plain conveys resultName interest kept answering replied carried =>
      refine .exchanging (by simp [Reaction.leaves]) promised plain conveys resultName
        (fun sent found => ?_) kept answering replied carried
      cases found
      -- The name that the signer has given has no digest yet.
      have unnamed : perSigner.nextResultName.digests = 0 := by
        rw [resultName, digests_resultName lossless, plain]
      exact ⟨_, named.trans (Name.setDigest_of_plain unnamed _)⟩

/-- A NACK or a timeout ends the remote call. -/
theorem unavailable {event : RpcEvent} (lost : event = .nack ∨ event = .timeout)
    (reacted : react libs tpm signingKeyName perSigner draw event = some reaction) :
    (∀ piece, reaction = .collect piece → piece = signer.pieceFor libs portion) ∧
      Passage libs signer portion (reaction.leaves perSigner) link := by
  rcases lost with rfl | rfl
  · cases react_responds reacted with
    | nacked live => exact ⟨by simp, .concluded rfl⟩
  · cases react_responds reacted with
    | timedOut live => exact ⟨by simp, .concluded rfl⟩

end Initiator

/-- A new remote call has sent its request. -/
theorem newRpc (lossless : libs.tlv.Lossless) {toBeSigned : Data}
    (presents : Presents libs portion toBeSigned) (initiatorPrefix signingKeyName name : Name)
    (draw : RpcDraw) (polls : Name → Nat) :
    Passage libs signer portion
      (Session.newRpc libs initiatorPrefix toBeSigned signingKeyName name draw)
      (Link.ofRpc polls (Session.newRpc libs initiatorPrefix toBeSigned signingKeyName name
        draw)) := by
  have wrapped : (libs.tlv.encodeData toBeSigned).type ≠ Tlv.contentType := by
    rw [lossless.type_encodeData]
    decide
  refine .requested rfl rfl presents ?_ ⟨signingKeyName, draw.nonce, name.getPrefix (-2), rfl⟩
    (fun sent found => ?_) (by simp [Link.ofRpc]) rfl rfl
  · -- A Data element is not taken for a Content element.
    simp only [Session.newRpc, prepareParameterData, Data.setContent, wrapped, if_false]
  · cases found
    rfl

end Passage

end NdnMps
