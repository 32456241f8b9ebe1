import Mathlib.Algebra.Group.Nat.Defs
import NdnMps.KeyChain

/-! The signer: its answers to sign requests, the parameter packet it fetches, and its results. -/

namespace NdnMps

/-- `TIMEOUT`, in milliseconds. -/
def signerTimeout : Nat := 4000

/-- `ESTIMATE_PROCESS_TIME`, in milliseconds. -/
def estimateProcessTime : Nat := 1000

/-- What the signer keeps for one sign request. -/
structure SignRequestState where
  /-- The ECDH private key. -/
  ecdh : Buffer
  aesKey : Buffer
  code : ReplyCode
  signatureValue : Buffer
  version : Nat
  resultPrefix : Name
  /-- Whether Interests under the result prefix are answered. -/
  resultPrefixRegistered : Bool
  hmacKey : Buffer
  deriving DecidableEq, Repr

/-- Randomness of one accepted sign request. -/
structure RequestDraw where
  ecdh : Buffer
  salt : Buffer
  salt_length : salt.length = 32
  requestId : Nat
  random : Buffer

/-- `parseSignRequestPayload`: the parameter packet's name and the peer's public key. -/
def parseSignRequestPayload (tlv : Tlv) (interest : Interest) : Except Fault (Name × Buffer) := do
  let paramBlock := interest.applicationParameters.getD ⟨Tlv.applicationParametersType, []⟩
  let blocks ← tlv.elements paramBlock
  let nameBlock ← getBlock blocks Tlv.parameterDataName
  let nameValue ← tlv.blockFromValue nameBlock
  let parameterDataName ← tlv.nameOf nameValue
  let ecdhBlock ← getBlock blocks Tlv.ecdhPub
  .ok (parameterDataName, ecdhBlock.value)

/-- The prefix under which the results of a request are answered. -/
def resultPrefixOf (tlv : Tlv) (selfPrefix : Name) (requestId : Nat) : Name :=
  ((selfPrefix.append (.ofString "mps")).append (.ofString "result")).append
    (tlv.fromNumber requestId)

/-- A packet with its freshness period set. -/
def Data.setFreshnessPeriod (data : Data) (freshnessPeriod : Nat) : Data :=
  { data with metaInfo := { data.metaInfo with freshnessPeriod } }

/-- `generateSignRequestAck`. -/
def generateSignRequestAck (tlv : Tlv) (ssl : Openssl) (interestName selfPrefix : Name)
    (code : ReplyCode) (requestId : Nat) (salt selfPub aesKey random : Buffer) : Data :=
  let ack := Data.ofName interestName
  if code ≠ .processing then
    -- The status of the refusal is that of a request in progress, and it is never encoded.
    let contentBlock := BlockBuilder.ofType Tlv.contentType
    let contentBlock := contentBlock.pushBack ⟨Tlv.status, ReplyCode.processing.text⟩
    (ack.setContent tlv contentBlock.wire).setFreshnessPeriod signerTimeout
  else
    let newResultName := (resultPrefixOf tlv selfPrefix requestId).append (tlv.fromVersion 0)
    let unencryptedBlock := tlv.nested Tlv.encryptedPayload
      [⟨Tlv.resultAfter, tlv.encodeNumber estimateProcessTime⟩,
        tlv.nestedName Tlv.resultName newResultName]
    let encryptedBlock := encodeBlockWithAesGcm128 tlv ssl Tlv.contentType aesKey
      unencryptedBlock.value random
    let encryptedBlock := encryptedBlock.pushBack ⟨Tlv.status, ReplyCode.processing.text⟩
    let encryptedBlock := encryptedBlock.pushBack ⟨Tlv.salt, salt⟩
    let encryptedBlock := encryptedBlock.pushBack ⟨Tlv.ecdhPub, selfPub⟩
    (ack.setContent tlv (encryptedBlock.encode tlv).wire).setFreshnessPeriod signerTimeout

/-- `generateResultData`: the unsigned reply, and the request's state after it. -/
def generateResultData (tlv : Tlv) (ssl : Openssl) (interestName : Name)
    (state : SignRequestState) (random : Buffer) : Data × SignRequestState :=
  let status : Block := ⟨Tlv.status, state.code.text⟩
  let (elements, state) :=
    match state.code with
    | .processing =>
      -- The version is a 64-bit counter.
      let state := { state with version := (state.version + 1) % 2 ^ 64 }
      let newResultName := state.resultPrefix.append (tlv.fromVersion state.version)
      ([status, ⟨Tlv.resultAfter, tlv.encodeNumber estimateProcessTime⟩,
        tlv.nestedName Tlv.resultName newResultName], state)
    | .ok =>
      ([status, ⟨Tlv.blsSigValue, state.signatureValue⟩],
        { state with resultPrefixRegistered := false })
    | _ => ([status], { state with resultPrefixRegistered := false })
  let unencryptedBlock := tlv.nested Tlv.encryptedPayload elements
  let encryptedBlock := encodeBlockWithAesGcm128 tlv ssl Tlv.contentType state.aesKey
    unencryptedBlock.value random
  (((Data.ofName interestName).setContent tlv encryptedBlock.wire).setFreshnessPeriod
    signerTimeout, state)

/-- `parseParameterData`: the packet inside an encrypted parameter packet. -/
def parseParameterData (tlv : Tlv) (ssl : Openssl) (aesKey : Buffer) (data : Data) :
    Except Fault Data := do
  let decrypted ← decodeBlockWithAesGcm128 tlv ssl data.getContent aesKey
  let dataBlock ← tlv.blockFromValue ⟨Tlv.contentType, decrypted⟩
  tlv.dataOf dataBlock

/-- A signer with its key and the checks the application makes. -/
structure BLSSigner (SecretKey : Type) where
  signerPrefix : Name
  secretKey : SecretKey
  keyName : Name
  verifyToBeSigned : Data → Bool
  verifySignRequest : Interest → Bool

namespace BLSSigner

variable {SecretKey PublicKey Signature : Type}
variable (libs : Libraries SecretKey PublicKey Signature) (signer : BLSSigner SecretKey)

/-- The signed acknowledgement of a refused request. -/
def refuse (interest : Interest) : Data :=
  let ack := generateSignRequestAck libs.tlv libs.ssl interest.name signer.signerPrefix
    .unauthorized 0 [] [] [] []
  libs.bls.ndnBLSSign libs.tlv signer.secretKey ack signer.keyName

/-- What an accepted request leaves behind. -/
structure Accepted where
  ack : Data
  state : SignRequestState
  /-- The Interest for the parameter packet, or the exception of making or expressing it, which
  leaves the callback after the acknowledgement has been put on the face. -/
  fetch : Except Fault Interest

/-- `BLSSigner::onSignRequest`: a refusal, or the start of a request. -/
def onSignRequest (interest : Interest) (draw : RequestDraw) :
    Except Fault (Data ⊕ Accepted) :=
  if !signer.verifySignRequest interest || !libs.keyChain.isParametersDigestValid interest then
    .ok (.inl (signer.refuse libs interest))
  else
    -- parse
    match parseSignRequestPayload libs.tlv interest with
    | .error .undefined => .error .undefined
    | .error .exception => .ok (.inl (signer.refuse libs interest))
    | .ok (parameterDataName, peerPubKey) =>
      -- ECDH
      match libs.ssl.ecdhDerive draw.ecdh peerPubKey with
      | none => .error .exception
      | some dhSecret => do
        let keys ← deriveKeys libs.ssl dhSecret draw.salt
        -- generate state for the request
        let state : SignRequestState :=
          { ecdh := draw.ecdh, aesKey := keys.aesKey, code := .processing, signatureValue := []
            version := 0
            resultPrefix := resultPrefixOf libs.tlv signer.signerPrefix draw.requestId
            resultPrefixRegistered := true, hmacKey := keys.hmacKey }
        let ack := generateSignRequestAck libs.tlv libs.ssl interest.name signer.signerPrefix
          .processing draw.requestId draw.salt (libs.ssl.ecdhPublic draw.ecdh) keys.aesKey
          draw.random
        let ack := libs.bls.ndnBLSSign libs.tlv signer.secretKey ack signer.keyName
        -- fetch parameter
        let fetch := libs.tlv.expressInterest parameterDataName (some signerTimeout)
        .ok (.inr ⟨ack, state, fetch⟩)

/-- The callback for the parameter packet. -/
def onParameterData (tpm : List Buffer) (state : SignRequestState) (data : Data) :
    Except Fault SignRequestState :=
  -- A packet whose HMAC does not verify leaves the request in progress.
  if !libs.keyChain.verifySignature tpm state.hmacKey data then .ok state
  else
    match parseParameterData libs.tlv libs.ssl state.aesKey data with
    | .error .undefined => .error .undefined
    | .error .exception => .ok { state with code := .failedDependency }
    | .ok unsignedData =>
      if !signer.verifyToBeSigned unsignedData then .ok { state with code := .unauthorized }
      else
        -- generate result
        .ok { state with
          code := .ok
          signatureValue := libs.bls.ndnGenBLSSignature libs.tlv signer.secretKey unsignedData }

/-- The callback for a NACK or a timeout of the parameter packet's Interest. -/
def onParameterFailure (state : SignRequestState) : SignRequestState :=
  { state with code := .failedDependency }

/-- What an answered result Interest leaves behind. -/
structure Answered where
  result : Data
  state : SignRequestState
  tpm : List Buffer

/-- The filter for result Interests, which ignores names of another length. -/
def onResultInterest (tpm : List Buffer) (state : SignRequestState) (interest : Interest)
    (random : Buffer) : Option Answered :=
  -- parse request: /signer/mps/result/randomness/version/hash
  if interest.name.size ≠ signer.signerPrefix.size + 5 then none
  else
    let (result, state) := generateResultData libs.tlv libs.ssl interest.name state random
    let result := libs.keyChain.signWithHmac state.hmacKey result
    some ⟨result, state, tpm.insert state.hmacKey⟩

end BLSSigner

end NdnMps
