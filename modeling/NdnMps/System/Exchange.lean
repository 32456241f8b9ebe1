import NdnMps.Initiator
import NdnMps.Signer

/-! What the initiator and a signer make of each other's packets when their keys match. -/

namespace NdnMps

variable {SecretKey PublicKey Signature : Type}

/-- An element of the wanted type is found at the front. -/
theorem getBlock_front (type : Nat) (value : Buffer) (rest : List Block) :
    getBlock (⟨type, value⟩ :: rest) type = .ok ⟨type, value⟩ := by
  simp [getBlock]

/-- An element of another type is passed over. -/
theorem getBlock_pass {other type : Nat} (differ : other ≠ type) (value : Buffer)
    (rest : List Block) : getBlock (⟨other, value⟩ :: rest) type = getBlock rest type := by
  simp [getBlock, differ]

section Encryption

variable {tlv : Tlv} {ssl : Openssl}

/-- Elements read back from a value that encodes them. -/
theorem Tlv.Lossless.elements_encode (lossless : tlv.Lossless) (type : Nat) (blocks : List Block) :
    tlv.elements ⟨type, tlv.encode blocks⟩ = .ok blocks := by
  simp only [Tlv.elements, lossless.parse_encode]

/-- A single element reads back from a value that encodes it. -/
theorem Tlv.Lossless.blockFromValue_encode (lossless : tlv.Lossless) (type : Nat)
    (inner : Block) : tlv.blockFromValue ⟨type, tlv.encode [inner]⟩ = .ok inner := by
  simp only [Tlv.blockFromValue, lossless.parse_encode]

/-- A name reads back from its element. -/
theorem Tlv.Lossless.nameOf_encodeName (lossless : tlv.Lossless) (name : Name) :
    tlv.nameOf (tlv.encodeName name) = .ok name := by
  simp only [Tlv.nameOf, lossless.decodeName_encodeName]

/-- A number reads back from an element of its octets. -/
theorem Tlv.Lossless.numberOf_encodeNumber (lossless : tlv.Lossless) (type number : Nat) :
    tlv.numberOf ⟨type, tlv.encodeNumber number⟩ = .ok number := by
  simp only [Tlv.numberOf, lossless.readNumber_encodeNumber]

/-- The initialization vector has twelve octets however many random ones there are. -/
theorem length_encryptionIv (random : Buffer) :
    (random.take 8 ++ List.replicate (12 - (random.take 8).length) (0 : UInt8)).length = 12 := by
  have few : (random.take 8).length ≤ 8 := List.length_take_le 8 random
  rw [List.length_append, List.length_replicate]
  omega

/-- An encrypted payload decrypts under the key, whatever elements follow it. -/
theorem decodeBlockWithAesGcm128_encode (lossless : tlv.Lossless) (matching : ssl.Matching)
    (type tlvType : Nat) (key payload random : Buffer) (others : List Block) :
    decodeBlockWithAesGcm128 tlv ssl ⟨type, tlv.encode
        ((encodeBlockWithAesGcm128 tlv ssl tlvType key payload random).pushed ++ others)⟩ key =
      .ok payload := by
  -- The vector and the tag have exactly the lengths that are read.
  have vector := length_encryptionIv random
  have decrypted := matching.decrypt_encrypt key _ payload vector
  have lengths := matching.length_ciphertext key
    (random.take 8 ++ List.replicate (12 - (random.take 8).length) 0) payload
  have tag := matching.length_tag key
    (random.take 8 ++ List.replicate (12 - (random.take 8).length) 0) payload
  simp only [decodeBlockWithAesGcm128, lossless.elements_encode, encodeBlockWithAesGcm128,
    BlockBuilder.ofType, BlockBuilder.pushBack, BlockBuilder.encode, List.nil_append,
    List.cons_append, Bind.bind, Except.bind]
  generalize random.take 8 ++ List.replicate (12 - (random.take 8).length) (0 : UInt8) = iv at *
  have wholeVector : iv.take 12 = iv := List.take_of_length_le vector.le
  have wholeTag := List.take_of_length_le tag.le
  simp (disch := decide) only [getBlock_front, getBlock_pass, vector, tag, wholeVector, wholeTag,
    decrypted, lengths, Nat.lt_irrefl, if_false, ne_eq, not_true_eq_false]

/-- An encrypted payload decrypts under the key. -/
theorem decodeBlockWithAesGcm128_wire (lossless : tlv.Lossless) (matching : ssl.Matching)
    (type tlvType : Nat) (key payload random : Buffer) :
    decodeBlockWithAesGcm128 tlv ssl
      ⟨type, (encodeBlockWithAesGcm128 tlv ssl tlvType key payload random).wire.value⟩ key =
      .ok payload := by
  have decoded := decodeBlockWithAesGcm128_encode lossless matching type tlvType key payload
    random []
  rwa [List.append_nil] at decoded

/-- The elements behind the encrypted ones are found where their types differ. -/
theorem getBlock_encrypted (tlvType : Nat) (key payload random : Buffer) (others : List Block)
    {type : Nat}
    (differ : type ∉ [Tlv.initializationVector, Tlv.authenticationTag, Tlv.encryptedPayload]) :
    getBlock ((encodeBlockWithAesGcm128 tlv ssl tlvType key payload random).pushed ++ others)
      type = getBlock others type := by
  -- The three encrypted elements have types of their own and are passed over.
  simp only [List.mem_cons, List.not_mem_nil, or_false, not_or] at differ
  obtain ⟨vector, tag, encrypted⟩ := differ
  simp only [encodeBlockWithAesGcm128, BlockBuilder.ofType, BlockBuilder.pushBack,
    BlockBuilder.encode, List.nil_append, List.cons_append]
  rw [getBlock_pass (Ne.symm vector), getBlock_pass (Ne.symm tag),
    getBlock_pass (Ne.symm encrypted)]

/-- The initiator derives the signer's keys from its acknowledgement, and reads when and where to
ask for the result. -/
theorem parseAckReply_generateSignRequestAck (lossless : tlv.Lossless) (matching : ssl.Matching)
    {mine its secret salt indeterminate : Buffer} {keys : SessionKeys}
    (filled : salt.length = 32) (array : indeterminate.length = 32)
    (derived : ssl.ecdhDerive mine (ssl.ecdhPublic its) = some secret)
    (expanded : deriveKeys ssl secret salt = .ok keys) (interestName selfPrefix : Name)
    (requestId : Nat) (random : Buffer) {ack : Data}
    (same : ack.content = (generateSignRequestAck tlv ssl interestName selfPrefix .processing
      requestId salt (ssl.ecdhPublic its) keys.aesKey random).content) :
    parseAckReply tlv ssl mine indeterminate ack = .ok ⟨keys, estimateProcessTime,
      (resultPrefixOf tlv selfPrefix requestId).append (tlv.fromVersion 0)⟩ := by
  -- The further elements stand behind the encrypted ones, and the salt fills its array.
  have content : ack.getContent = ⟨Tlv.contentType, tlv.encode
      ((encodeBlockWithAesGcm128 tlv ssl Tlv.contentType keys.aesKey
        (tlv.encode [⟨Tlv.resultAfter, tlv.encodeNumber estimateProcessTime⟩,
          ⟨Tlv.resultName, tlv.encode [tlv.encodeName ((resultPrefixOf tlv selfPrefix
            requestId).append (tlv.fromVersion 0))]⟩]) random).pushed ++
        [⟨Tlv.status, ReplyCode.processing.text⟩, ⟨Tlv.salt, salt⟩,
          ⟨Tlv.ecdhPub, ssl.ecdhPublic its⟩])⟩ := by
    rw [Data.getContent, same]
    rfl
  have status : (ReplyCode.processing.text = asciiBytes "102") = True := by decide +kernel
  have whole : salt ++ indeterminate.drop 32 = salt := by
    rw [← array, List.drop_length, List.append_nil]
  simp (disch := decide) only [parseAckReply, content, lossless.elements_encode,
    getBlock_encrypted, decodeBlockWithAesGcm128_encode lossless matching, getBlock_front,
    getBlock_pass, status, filled, whole, derived, expanded, lossless.numberOf_encodeNumber,
    lossless.blockFromValue_encode, lossless.nameOf_encodeName, Nat.lt_irrefl, if_false, ne_eq,
    not_true_eq_false, Bind.bind, Except.bind]

end Encryption

/-- The digest component of a signed Interest is the digest of its parameters and signature. -/
theorem KeyChain.isParametersDigestValid_signInterest (keyChain : KeyChain)
    (keyName : Name) (nonce : Buffer) (interest : Interest) :
    keyChain.isParametersDigestValid (keyChain.signInterest keyName nonce interest) =
      true := by
  -- The digest just appended is the last component.
  simp [isParametersDigestValid, signInterest, signedUnder, Name.append]

variable {libs : Libraries SecretKey PublicKey Signature}

/-- The digest of its parameters is the only one in the name of a sign request to a signer whose
prefix has none. -/
theorem digests_request (keyName : Name) (nonce : Buffer) (signerPrefix paraDataName : Name)
    (publicKey : Buffer) :
    (libs.keyChain.signInterest keyName nonce (prepareSignRequestInterest libs.tlv signerPrefix
      paraDataName publicKey)).name.digests = signerPrefix.digests + 1 := by
  have own (digest : Buffer) :
      Component.isParametersDigest ⟨Component.parametersDigestType, digest⟩ = true := rfl
  simp [KeyChain.signInterest, KeyChain.signedUnder, prepareSignRequestInterest, own]

/-- The name of a result has no digests but those of the signer's prefix. -/
theorem digests_resultName (lossless : libs.tlv.Lossless) (signerPrefix : Name)
    (requestId version : Nat) :
    ((resultPrefixOf libs.tlv signerPrefix requestId).append
      (libs.tlv.fromVersion version)).digests = signerPrefix.digests := by
  simp [resultPrefixOf, lossless.fromVersion_plain, lossless.fromNumber_plain]

/-- The signer reads the parameter packet's name and the initiator's public key back. -/
theorem parseSignRequestPayload_signInterest (lossless : libs.tlv.Lossless)
    (keyName : Name) (nonce : Buffer) (signerPrefix paraDataName : Name) (publicKey : Buffer) :
    parseSignRequestPayload libs.tlv (libs.keyChain.signInterest keyName nonce
      (prepareSignRequestInterest libs.tlv signerPrefix paraDataName publicKey)) =
        .ok (paraDataName, publicKey) := by
  -- Signing adds components to the name and leaves the parameters as they are.
  have payload : (libs.keyChain.signInterest keyName nonce (prepareSignRequestInterest
      libs.tlv signerPrefix paraDataName publicKey)).applicationParameters =
        some ⟨Tlv.applicationParametersType, libs.tlv.encode
          [⟨Tlv.parameterDataName, libs.tlv.encode [libs.tlv.encodeName paraDataName]⟩,
            ⟨Tlv.ecdhPub, publicKey⟩]⟩ := rfl
  simp (disch := decide) only [parseSignRequestPayload, payload, Option.getD_some,
    lossless.elements_encode, getBlock_front, getBlock_pass, lossless.blockFromValue_encode,
    lossless.nameOf_encodeName, Bind.bind, Except.bind]

/-- What a signer that accepts a request leaves behind, seen by the initiator that sent it. -/
structure BLSSigner.Accepted.Answers (libs : Libraries SecretKey PublicKey Signature)
    (accepted : BLSSigner.Accepted) (signerPrefix : Name) (request : Interest)
    (paraDataName : Name) (ecdh : Buffer) (keys : SessionKeys) (requestId : Nat) : Prop where
  aesKey : accepted.state.aesKey = keys.aesKey
  hmacKey : accepted.state.hmacKey = keys.hmacKey
  code : accepted.state.code = .processing
  resultPrefix : accepted.state.resultPrefix = resultPrefixOf libs.tlv signerPrefix requestId
  registered : accepted.state.resultPrefixRegistered = true
  fetches : accepted.fetch = libs.tlv.expressInterest paraDataName (some signerTimeout)
  acknowledges : accepted.ack.name = request.name
  /-- The initiator reads the same keys from the acknowledgement. -/
  reply : ∀ array : Buffer, array.length = 32 →
    parseAckReply libs.tlv libs.ssl ecdh array accepted.ack = .ok ⟨keys, estimateProcessTime,
      (resultPrefixOf libs.tlv signerPrefix requestId).append (libs.tlv.fromVersion 0)⟩

/-- The Interest for the parameter packet, if it is sent, asks for that packet. -/
theorem BLSSigner.Accepted.Answers.asks {accepted : BLSSigner.Accepted}
    {signerPrefix paraDataName : Name} {request fetchInterest : Interest} {ecdh : Buffer}
    {keys : SessionKeys} {requestId : Nat}
    (answers : accepted.Answers libs signerPrefix request paraDataName ecdh keys requestId)
    (fetch : accepted.fetch = .ok fetchInterest) :
    fetchInterest.name = paraDataName ∧ fetchInterest.canBePrefix = true := by
  rw [answers.fetches] at fetch
  obtain ⟨-, rfl⟩ := libs.tlv.expressInterest_eq_ok_iff.mp fetch
  exact ⟨rfl, rfl⟩

/-- It is sent where an Interest can be expressed for the name of the packet. -/
theorem BLSSigner.Accepted.Answers.exists_fetch {accepted : BLSSigner.Accepted}
    {signerPrefix paraDataName : Name} {request : Interest} {ecdh : Buffer} {keys : SessionKeys}
    {requestId : Nat}
    (answers : accepted.Answers libs signerPrefix request paraDataName ecdh keys requestId)
    (expressible : libs.tlv.Expressible paraDataName (some signerTimeout)) :
    ∃ fetchInterest, accepted.fetch = .ok fetchInterest := by
  rw [answers.fetches, libs.tlv.expressInterest_eq_ok_iff.mpr ⟨expressible, rfl⟩]
  exact ⟨_, rfl⟩

/-- A signer whose callback accepts a sign request acknowledges it. -/
theorem BLSSigner.exists_accepted (lossless : libs.tlv.Lossless) (matching : libs.ssl.Matching)
    (signer : BLSSigner SecretKey) {keyName signerPrefix paraDataName : Name}
    {nonce ecdh : Buffer} {request : Interest}
    (requested : request = libs.keyChain.signInterest keyName nonce
      (prepareSignRequestInterest libs.tlv signerPrefix paraDataName (libs.ssl.ecdhPublic ecdh)))
    (accepts : signer.verifySignRequest request = true) (draw : RequestDraw) :
    ∃ accepted keys, signer.onSignRequest libs request draw = .ok (.inr accepted) ∧
      accepted.Answers libs signer.signerPrefix request paraDataName ecdh keys
        draw.requestId := by
  -- Both parties derive one secret, and from it and the salt the same keys.
  obtain ⟨secret, mine, its⟩ := matching.agree ecdh draw.ecdh
  obtain ⟨octets, expanded⟩ :=
    Option.isSome_iff_exists.mp (matching.hkdf_isSome secret draw.salt 48)
  have keys : deriveKeys libs.ssl secret draw.salt = .ok ⟨octets.take 16, octets.drop 16⟩ := by
    simp only [deriveKeys, expanded]
  have digest : libs.keyChain.isParametersDigestValid request = true := by
    rw [requested]
    exact libs.keyChain.isParametersDigestValid_signInterest _ _ _
  have payload : parseSignRequestPayload libs.tlv request =
      .ok (paraDataName, libs.ssl.ecdhPublic ecdh) := by
    rw [requested]
    exact parseSignRequestPayload_signInterest lossless _ _ _ _ _
  let ack := libs.bls.ndnBLSSign libs.tlv signer.secretKey
    (generateSignRequestAck libs.tlv libs.ssl request.name signer.signerPrefix .processing
      draw.requestId draw.salt (libs.ssl.ecdhPublic draw.ecdh) (octets.take 16) draw.random)
    signer.keyName
  let state : SignRequestState :=
    { ecdh := draw.ecdh, aesKey := octets.take 16, code := .processing, signatureValue := []
      version := 0
      resultPrefix := resultPrefixOf libs.tlv signer.signerPrefix draw.requestId
      resultPrefixRegistered := true, hmacKey := octets.drop 16 }
  refine ⟨⟨ack, state, libs.tlv.expressInterest paraDataName (some signerTimeout)⟩,
    ⟨octets.take 16, octets.drop 16⟩, ?_, rfl, rfl, rfl, rfl, rfl, rfl, ?_,
    fun array full => ?_⟩
  · simp only [onSignRequest, accepts, digest, payload, its, keys, Bool.not_true, Bool.or_self,
      Bool.false_eq_true, if_false, Bind.bind, Except.bind, ack, state]
  · simp [ack, Bls.ndnBLSSign, generateSignRequestAck, Data.ofName, Data.setContent,
      Data.setFreshnessPeriod]
  · exact parseAckReply_generateSignRequestAck lossless matching draw.salt_length full mine keys
      request.name signer.signerPrefix draw.requestId draw.random rfl

/-- The packet to be signed, encrypted and signed with the keys of a request. -/
def CarriesParameter (libs : Libraries SecretKey PublicKey Signature) (aesKey hmacKey : Buffer)
    (toBeSigned para : Data) : Prop :=
  ∃ (base : Data) (random : Buffer), para = libs.keyChain.signWithHmac hmacKey
    (base.setContent libs.tlv (encodeBlockWithAesGcm128 libs.tlv libs.ssl Tlv.contentType aesKey
      (libs.tlv.encode [libs.tlv.encodeData toBeSigned]) random).wire)

/-- The acknowledgement makes the initiator finalize the parameter packet under the derived keys
and wait for the result. -/
theorem ackCallback_reply (tpm : List Buffer) {perSigner : MultiSignPerSignerState}
    {draw : Draw Signature} {ack : Data} {reply : AckReply}
    (read : parseAckReply libs.tlv libs.ssl perSigner.ecdh draw.salt ack = .ok reply)
    {toBeSigned : Data}
    (content : perSigner.paraData.content = libs.tlv.encode [libs.tlv.encodeData toBeSigned]) :
    ∃ para, CarriesParameter libs reply.keys.aesKey reply.keys.hmacKey toBeSigned para ∧
      para.name = perSigner.paraData.name ∧
      ackCallback libs tpm perSigner draw ack = .proceed
        { perSigner with
          paraDataPromise := some para, aesKey := reply.keys.aesKey, hmacKey := reply.keys.hmacKey
          paraData := para, nextResultName := reply.resultName
          phase := .scheduled reply.resultAfter }
        (tpm.insert reply.keys.hmacKey) [] := by
  refine ⟨_, ⟨perSigner.paraData, draw.random, rfl⟩, rfl, ?_⟩
  simp only [ackCallback, read, content]

/-- The signer reads the packet to be signed from the parameter packet that carries it. -/
theorem parseParameterData_carries (lossless : libs.tlv.Lossless) (matching : libs.ssl.Matching)
    {aesKey hmacKey : Buffer} {toBeSigned para : Data}
    (hasInfo : toBeSigned.signatureInfo.isSome) (hasValue : toBeSigned.signatureValue.isSome)
    (carries : CarriesParameter libs aesKey hmacKey toBeSigned para) :
    parseParameterData libs.tlv libs.ssl aesKey para = .ok toBeSigned := by
  obtain ⟨base, random, same⟩ := carries
  subst same
  -- The content that decrypts is the packet's element and nothing else.
  have decoded := decodeBlockWithAesGcm128_wire lossless matching Tlv.contentType
    Tlv.contentType aesKey (libs.tlv.encode [libs.tlv.encodeData toBeSigned]) random
  have typed : (encodeBlockWithAesGcm128 libs.tlv libs.ssl Tlv.contentType aesKey
    (libs.tlv.encode [libs.tlv.encodeData toBeSigned]) random).wire.type = Tlv.contentType := rfl
  simp only [parseParameterData, Data.getContent, KeyChain.signWithHmac, Data.setContent, typed,
    if_true, decoded, lossless.blockFromValue_encode, Tlv.dataOf,
    lossless.decodeData_encodeData toBeSigned hasInfo hasValue, Bind.bind, Except.bind]

/-- The signer decrypts the parameter packet, accepts it, and signs what it carries. -/
theorem BLSSigner.onParameterData_carries (lossless : libs.tlv.Lossless)
    (matching : libs.ssl.Matching) (verifies : libs.keyChain.Verifies)
    (signer : BLSSigner SecretKey) {tpm : List Buffer} {state : SignRequestState}
    {toBeSigned para : Data} (hasInfo : toBeSigned.signatureInfo.isSome)
    (hasValue : toBeSigned.signatureValue.isSome)
    (carries : CarriesParameter libs state.aesKey state.hmacKey toBeSigned para)
    (held : state.hmacKey ∈ tpm) (accepts : signer.verifyToBeSigned toBeSigned = true) :
    signer.onParameterData libs tpm state para = .ok { state with
      code := .ok
      signatureValue := libs.bls.ndnGenBLSSignature libs.tlv signer.secretKey toBeSigned } := by
  have parsed := parseParameterData_carries lossless matching hasInfo hasValue carries
  obtain ⟨base, random, same⟩ := carries
  -- Its HMAC is checked with the key that the initiator has signed it with.
  have verified : libs.keyChain.verifySignature tpm state.hmacKey para = true := by
    rw [same]
    exact verifies tpm state.hmacKey _ held
  simp only [onParameterData, verified, parsed, accepts, Bool.not_true, Bool.false_eq_true,
    if_false]

/-- A reply that the signer is processing counts the version up. -/
theorem generateResultData_processing {tlv : Tlv} {ssl : Openssl} {state : SignRequestState}
    (code : state.code = .processing) (interestName : Name) (random : Buffer) :
    (generateResultData tlv ssl interestName state random).2 =
      { state with version := (state.version + 1) % 2 ^ 64 } := by
  simp only [generateResultData, code]

/-- A final result ends the request at the signer. -/
theorem generateResultData_ok {tlv : Tlv} {ssl : Openssl} {state : SignRequestState}
    (code : state.code = .ok) (interestName : Name) (random : Buffer) :
    (generateResultData tlv ssl interestName state random).2 =
      { state with resultPrefixRegistered := false } := by
  simp only [generateResultData, code]

/-- A result whose payload holds some elements gives the initiator these elements. -/
theorem parseResultData_encrypted (lossless : libs.tlv.Lossless) (matching : libs.ssl.Matching)
    (aesKey random : Buffer) (elements : List Block) (result : Data)
    (content : result.content = (encodeBlockWithAesGcm128 libs.tlv libs.ssl Tlv.contentType aesKey
      (libs.tlv.encode elements) random).wire.value) :
    parseResultData libs.tlv libs.ssl aesKey result = .ok elements := by
  -- Decryption gives the octets of the elements back.
  have decoded := decodeBlockWithAesGcm128_wire lossless matching Tlv.contentType
    Tlv.contentType aesKey (libs.tlv.encode elements) random
  simp only [parseResultData, Data.getContent, content, decoded, lossless.elements_encode,
    Bind.bind, Except.bind]

/-- A result in progress makes the initiator schedule another fetch. -/
theorem readResult_processing (lossless : libs.tlv.Lossless) (matching : libs.ssl.Matching)
    {perSigner : MultiSignPerSignerState} {state : SignRequestState}
    (keys : state.aesKey = perSigner.aesKey) (code : state.code = .processing)
    (interestName : Name) (random : Buffer) (tpm : List Buffer) (result : Data)
    (content : result.content =
      (generateResultData libs.tlv libs.ssl interestName state random).1.content) :
    readResult libs tpm perSigner result =
      .ok (.proceed { perSigner with phase := .scheduled estimateProcessTime } tpm []) := by
  -- The content is the encrypted payload of a reply in progress.
  have parsed := parseResultData_encrypted lossless matching perSigner.aesKey random
    [⟨Tlv.status, ReplyCode.processing.text⟩,
      ⟨Tlv.resultAfter, libs.tlv.encodeNumber estimateProcessTime⟩,
      ⟨Tlv.resultName, libs.tlv.encode [libs.tlv.encodeName (state.resultPrefix.append
        (libs.tlv.fromVersion ((state.version + 1) % 2 ^ 64)))]⟩] result
    (by
      rw [content, ← keys]
      simp only [generateResultData, code]
      rfl)
  have status : (ReplyCode.processing.text = asciiBytes "200") = False := by decide +kernel
  have again : (ReplyCode.processing.text = asciiBytes "102") = True := by decide +kernel
  simp (disch := decide) only [readResult, parsed, getBlock_front, getBlock_pass, status, again,
    lossless.numberOf_encodeNumber, lossless.blockFromValue_encode, lossless.nameOf_encodeName,
    if_false, ne_eq, not_true_eq_false, Bind.bind, Except.bind]

/-- A final result hands its signature over. -/
theorem readResult_ok (lossless : libs.tlv.Lossless) (matching : libs.ssl.Matching)
    {perSigner : MultiSignPerSignerState} {state : SignRequestState}
    (keys : state.aesKey = perSigner.aesKey) (code : state.code = .ok)
    (interestName : Name) (random : Buffer) (tpm : List Buffer) (result : Data)
    (content : result.content =
      (generateResultData libs.tlv libs.ssl interestName state random).1.content) :
    readResult libs tpm perSigner result = .ok (.collect state.signatureValue) := by
  -- The content is the encrypted payload of a final reply.
  have parsed := parseResultData_encrypted lossless matching perSigner.aesKey random
    [⟨Tlv.status, ReplyCode.ok.text⟩, ⟨Tlv.blsSigValue, state.signatureValue⟩] result
    (by
      rw [content, ← keys]
      simp only [generateResultData, code]
      rfl)
  have status : (ReplyCode.ok.text = asciiBytes "200") = True := by decide +kernel
  simp (disch := decide) only [readResult, parsed, getBlock_front, getBlock_pass, status, if_true,
    Bind.bind, Except.bind]

/-- A signed reply that the signer is processing is accepted. -/
theorem resultCallback_processing (lossless : libs.tlv.Lossless) (matching : libs.ssl.Matching)
    (verifies : libs.keyChain.Verifies) {perSigner : MultiSignPerSignerState}
    {state : SignRequestState} (aesKey : state.aesKey = perSigner.aesKey)
    (hmacKey : state.hmacKey = perSigner.hmacKey) (code : state.code = .processing)
    (interestName : Name) (random : Buffer) {tpm : List Buffer}
    (held : perSigner.hmacKey ∈ tpm) :
    resultCallback libs tpm perSigner (libs.keyChain.signWithHmac state.hmacKey
      (generateResultData libs.tlv libs.ssl interestName state random).1) =
        .proceed { perSigner with phase := .scheduled estimateProcessTime } tpm [] := by
  -- The HMAC verifies, so what is read decides.
  have verified := verifies tpm perSigner.hmacKey
    (generateResultData libs.tlv libs.ssl interestName state random).1 held
  have read := readResult_processing lossless matching aesKey code interestName random tpm
    (libs.keyChain.signWithHmac perSigner.hmacKey
      (generateResultData libs.tlv libs.ssl interestName state random).1) rfl
  simp only [resultCallback, hmacKey, verified, Bool.not_true, Bool.false_eq_true, if_false, read]

/-- A signed final result is accepted. -/
theorem resultCallback_ok (lossless : libs.tlv.Lossless) (matching : libs.ssl.Matching)
    (verifies : libs.keyChain.Verifies) {perSigner : MultiSignPerSignerState}
    {state : SignRequestState} (aesKey : state.aesKey = perSigner.aesKey)
    (hmacKey : state.hmacKey = perSigner.hmacKey) (code : state.code = .ok)
    (interestName : Name) (random : Buffer) {tpm : List Buffer}
    (held : perSigner.hmacKey ∈ tpm) :
    resultCallback libs tpm perSigner (libs.keyChain.signWithHmac state.hmacKey
      (generateResultData libs.tlv libs.ssl interestName state random).1) =
        .collect state.signatureValue := by
  -- The HMAC verifies, so what is read decides.
  have verified := verifies tpm perSigner.hmacKey
    (generateResultData libs.tlv libs.ssl interestName state random).1 held
  have read := readResult_ok lossless matching aesKey code interestName random tpm
    (libs.keyChain.signWithHmac perSigner.hmacKey
      (generateResultData libs.tlv libs.ssl interestName state random).1) rfl
  simp only [resultCallback, hmacKey, verified, Bool.not_true, Bool.false_eq_true, if_false, read]

end NdnMps
