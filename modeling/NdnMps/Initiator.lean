import NdnMps.Initiator.Packets
import NdnMps.Schema
import NdnMps.SignerList

/-! The initiator: its sessions, the remote calls of each, and the callbacks that drive them. -/

namespace NdnMps

/-- What a multi-signature session keeps. -/
structure MultiSignGlobalState where
  signers : List Name
  schema : MultipartySchema
  toBeSigned : Data
  signInfo : Data
  fetchedSignatures : List Buffer
  signingKeyName : Name

/-- What a remote call waits for. -/
inductive RpcPhase where
  /-- The sign request Interest is pending at the face. -/
  | awaitingAck (pending : Interest)
  /-- The result fetch is scheduled after a number of milliseconds. -/
  | scheduled (after : Nat)
  /-- The result Interest is pending at the face. -/
  | awaitingResult (pending : Interest)
  /-- Nothing is pending and nothing is scheduled. -/
  | ended

/-- What the remote call to one signer keeps. -/
structure MultiSignPerSignerState where
  signerKeyName : Name
  /-- The ECDH private key. -/
  ecdh : Buffer
  /-- The finalized parameter packet, once it is set. -/
  paraDataPromise : Option Data
  aesKey : Buffer
  hmacKey : Buffer
  paraData : Data
  nextResultName : Name
  /-- Whether Interests for the parameter packet are answered. -/
  paraPrefixRegistered : Bool
  phase : RpcPhase

/-- The remote call waits for something. -/
def MultiSignPerSignerState.live (perSigner : MultiSignPerSignerState) : Bool :=
  match perSigner.phase with
  | .ended => false
  | _ => true

/-- What a session has done: remote calls by their index, and the application's callbacks. -/
inductive Call where
  | performRPC (signerKeyName : Name)
  /-- A signature is appended to the fetched ones. -/
  | collected (rpc : Nat) (signerKeyName : Name) (piece : Buffer)
  | onUnavailableSigner (rpc : Nat) (signerKeyName : Name)
  | successCb (data info : Data)
  | failureCb (reason : String)
  deriving DecidableEq

/-- A session with its remote calls and everything it has done, in order. -/
structure Session where
  global : MultiSignGlobalState
  rpcs : List MultiSignPerSignerState
  history : List Call

/-- Whether the initiator's thread goes on. -/
inductive Liveness where
  | running
  /-- The thread waits for a promise that only itself could keep. -/
  | blocked
  /-- The program has no defined behaviour any more. -/
  | undefined
  deriving DecidableEq

/-- An initiator and the HMAC keys in its TPM. -/
structure MPSInitiator (κ : Type) where
  initiatorPrefix : Name
  schemaContainer : MultipartySchemaContainer κ
  tpm : List Buffer
  sessions : List Session
  liveness : Liveness

/-- Randomness of one remote call. -/
structure RpcDraw where
  paraRandomness : Nat
  ecdh : Buffer
  nonce : Buffer

/-- Randomness and indeterminate values of one callback. -/
structure Draw (Signature : Type) where
  /-- What the array for the salt holds before the salt is copied into it. -/
  salt : Buffer
  salt_length : salt.length = 32
  random : Buffer
  nonce : Buffer
  aggSig : Signature
  tempSig : Signature
  rpcs : Name → RpcDraw

/-- What may happen to a remote call. -/
inductive RpcEvent where
  /-- A Data packet satisfies the pending Interest. -/
  | data (data : Data)
  | nack
  | timeout
  /-- The scheduled result fetch fires. -/
  | fetchResult
  /-- An Interest for the parameter packet arrives. -/
  | paraInterest

/-- What may happen to the initiator. -/
inductive Event (Signature : Type) where
  | multiPartySign (unsignedData : Data) (schema : MultipartySchema) (signingKeyName : Name)
      (keyLocatorRandomness : Nat) (rpcs : Name → RpcDraw)
  | resetCachedUnavailableSigners
  | rpc (session rpc : Nat) (event : RpcEvent) (draw : Draw Signature)

/-- What a callback makes of its argument. -/
inductive Reaction where
  /-- The callback returns early or throws, and nothing is left that would call back; the parameter
  packet may still be answered. -/
  | abandon (paraPrefixRegistered : Bool)
  /-- The remote call goes on in another state, and some Data is put on the face. -/
  | proceed (perSigner : MultiSignPerSignerState) (tpm : List Buffer) (put : List Data)
  /-- A signature has been returned. -/
  | collect (piece : Buffer)
  /-- The signer is given up for a reason. -/
  | unavailable (reason : String)
  /-- The thread never gets past the callback. -/
  | stop (liveness : Liveness)

section Callbacks

variable {SecretKey PublicKey Signature : Type}
variable (libs : Libraries SecretKey PublicKey Signature)

/-- The callback for the acknowledgement. -/
def ackCallback (tpm : List Buffer) (perSigner : MultiSignPerSignerState) (draw : Draw Signature)
    (ackData : Data) : Reaction :=
  match parseAckReply libs.tlv libs.ssl perSigner.ecdh draw.salt ackData with
  -- should abort and change to another signer
  | .error .exception => .abandon perSigner.paraPrefixRegistered
  | .error .undefined => .stop .undefined
  | .ok reply =>
    -- update paraData to be ready to be fetched
    let encryptedBlock := encodeBlockWithAesGcm128 libs.tlv libs.ssl Tlv.contentType
      reply.keys.aesKey perSigner.paraData.content draw.random
    let paraData := perSigner.paraData.setContent libs.tlv encryptedBlock.wire
    let paraData := libs.keyChain.signWithHmac reply.keys.hmacKey paraData
    -- set the scheduler to fetch the result
    .proceed
      { perSigner with
        paraDataPromise := some paraData
        aesKey := reply.keys.aesKey
        hmacKey := reply.keys.hmacKey
        paraData
        nextResultName := reply.resultName
        phase := .scheduled reply.resultAfter }
      (tpm.insert reply.keys.hmacKey) []

/-- The Interest for the result of a name, or an exception where no signed Interest can have it. -/
def resultFetchInterest (signingKeyName : Name) (nonce : Buffer) (nextResultName : Name) :
    Except Fault Interest :=
  match Interest.ofName nextResultName with
  | .error fault => .error fault
  | .ok resultFetchInt =>
    libs.keyChain.makeSignedInterest signingKeyName nonce
      { resultFetchInt with canBePrefix := true, mustBeFresh := true }

/-- The scheduled callback that asks for the result. -/
def resultFetchCallback (tpm : List Buffer) (perSigner : MultiSignPerSignerState)
    (signingKeyName : Name) (nonce : Buffer) : Reaction :=
  match resultFetchInterest libs signingKeyName nonce perSigner.nextResultName with
  -- The handle is cancelled before the Interest is made, which may throw.
  | .error _ => .abandon false
  | .ok resultFetchInt =>
    .proceed
      { perSigner with paraPrefixRegistered := false, phase := .awaitingResult resultFetchInt }
      tpm []

/-- What the callback for the result reads from a packet whose HMAC verifies. -/
def readResult (tpm : List Buffer) (perSigner : MultiSignPerSignerState) (resultData : Data) :
    Except Fault Reaction := do
  let resultBlocks ← parseResultData libs.tlv libs.ssl perSigner.aesKey resultData
  let code ← getBlock resultBlocks Tlv.status
  if code.value = asciiBytes "200" then
    let sigBlock ← getBlock resultBlocks Tlv.blsSigValue
    .ok (.collect sigBlock.value)
  else if code.value ≠ asciiBytes "102" then
    .ok (.unavailable ("Received Error code when requesting signer " ++
      libs.tlv.toUri (perSigner.signerKeyName.getPrefix (-2))))
  else
    -- processing: the new result name is decoded, but the next fetch asks for the old one
    let resultAfterBlock ← getBlock resultBlocks Tlv.resultAfter
    let resultAfter ← libs.tlv.numberOf resultAfterBlock
    let newResultNameBlock ← getBlock resultBlocks Tlv.resultName
    let newResultNameValue ← libs.tlv.blockFromValue newResultNameBlock
    let _newResultName ← libs.tlv.nameOf newResultNameValue
    .ok (.proceed { perSigner with phase := .scheduled resultAfter } tpm [])

/-- The callback for the result. -/
def resultCallback (tpm : List Buffer) (perSigner : MultiSignPerSignerState)
    (resultData : Data) : Reaction :=
  if !libs.keyChain.verifySignature tpm perSigner.hmacKey resultData then
    .abandon perSigner.paraPrefixRegistered
  else
    match readResult libs tpm perSigner resultData with
    | .error .exception => .abandon perSigner.paraPrefixRegistered
    | .error .undefined => .stop .undefined
    | .ok reaction => reaction

/-- The callback for an Interest for the parameter packet, which waits for the promise. -/
def paraInterestCallback (tpm : List Buffer) (perSigner : MultiSignPerSignerState) : Reaction :=
  match perSigner.paraDataPromise with
  | some paraData => .proceed perSigner tpm [paraData]
  | none =>
    match perSigner.phase with
    -- The callbacks that held the state are gone, and with the state its promise: `wait` returns,
    -- `get` throws, and nothing is put on the face.
    | .ended => .proceed perSigner tpm []
    | _ => .stop .blocked

/-- The reaction of a remote call to an event, if the event can happen to it. The face hands over
only Data that the pending Interest asks for. -/
def react (tpm : List Buffer) (signingKeyName : Name) (perSigner : MultiSignPerSignerState)
    (draw : Draw Signature) : RpcEvent → Option Reaction
  | .data data =>
    match perSigner.phase with
    | .awaitingAck pending =>
      if pending.matchesData data then some (ackCallback libs tpm perSigner draw data) else none
    | .awaitingResult pending =>
      if pending.matchesData data then some (resultCallback libs tpm perSigner data) else none
    | _ => none
  | .nack =>
    match perSigner.phase with
    | .awaitingAck _ | .awaitingResult _ =>
      some (.unavailable ("Received NACK when requesting signer " ++
        libs.tlv.toUri (perSigner.signerKeyName.getPrefix (-2))))
    | _ => none
  | .timeout =>
    match perSigner.phase with
    | .awaitingAck _ | .awaitingResult _ =>
      some (.unavailable ("Interest timeout when requesting signer " ++
        libs.tlv.toUri (perSigner.signerKeyName.getPrefix (-2))))
    | _ => none
  | .fetchResult =>
    match perSigner.phase with
    | .scheduled _ => some (resultFetchCallback libs tpm perSigner signingKeyName draw.nonce)
    | _ => none
  | .paraInterest =>
    if perSigner.paraPrefixRegistered then some (paraInterestCallback tpm perSigner) else none

end Callbacks

namespace Session

variable {SecretKey PublicKey Signature : Type}
variable (libs : Libraries SecretKey PublicKey Signature)

/-- The session with something added to what it has done. -/
def record (session : Session) (call : Call) : Session :=
  { session with history := session.history ++ [call] }

/-- The session with one remote call in another state. -/
def setRpc (session : Session) (index : Nat) (perSigner : MultiSignPerSignerState) : Session :=
  { session with rpcs := session.rpcs.set index perSigner }

/-- The state of a new remote call, for a key whose name holds no parameters digest: of others no
signed request can be made. -/
def newRpc (initiatorPrefix : Name) (toBeSigned : Data) (signingKeyName signerKeyName : Name)
    (draw : RpcDraw) : MultiSignPerSignerState :=
  -- prepare un-encrypted parameter data
  let paraData := prepareParameterData libs.tlv toBeSigned initiatorPrefix draw.paraRandomness
  -- send sign request Interest: /signer/mps/sign/hash
  let signRequestInt := prepareSignRequestInterest libs.tlv (signerKeyName.getPrefix (-2))
    paraData.name (libs.ssl.ecdhPublic draw.ecdh)
  let signRequestInt := libs.keyChain.signInterest signingKeyName draw.nonce signRequestInt
  { signerKeyName, ecdh := draw.ecdh, paraDataPromise := none, aesKey := [], hmacKey := []
    paraData, nextResultName := .root, paraPrefixRegistered := true
    phase := .awaitingAck signRequestInt }

/-- `MPSInitiator::performRPC`. -/
def performRPC (initiatorPrefix : Name) (draw : RpcDraw) (session : Session)
    (signerKeyName : Name) : Session :=
  let perSigner := newRpc libs initiatorPrefix session.global.toBeSigned
    session.global.signingKeyName signerKeyName draw
  { session with
    rpcs := session.rpcs ++ [perSigner]
    history := session.history ++ [.performRPC signerKeyName] }

/-- `performRPC` for some signers one after the other. -/
def performRPCs (initiatorPrefix : Name) (draws : Name → RpcDraw) (signerKeyNames : List Name)
    (session : Session) : Session :=
  signerKeyNames.foldl
    (fun session signerKeyName =>
      performRPC libs initiatorPrefix (draws signerKeyName) session signerKeyName)
    session

/-- `MPSInitiator::onUnavailableSigner` for the remote call of an index. -/
def onUnavailableSigner (initiatorPrefix : Name) (draws : Name → RpcDraw)
    (container : MultipartySchemaContainer PublicKey) (session : Session) (reason : String)
    (index : Nat) (unavailableKey : Name) : MultipartySchemaContainer PublicKey × Session :=
  let session := session.record (.onUnavailableSigner index unavailableKey)
  let (container, newSigners, diffSigners) :=
    container.replaceSigner session.global.signers unavailableKey session.global.schema
  if newSigners.isEmpty then
    (container, session.record (.failureCb
      (reason ++ " And we cannot find replacements for the unavailable signer")))
  else
    let session := { session with global := { session.global with signers := newSigners } }
    (container, performRPCs libs initiatorPrefix draws diffSigners session)

/-- All signatures have been fetched: aggregate them and hand over the two packets. -/
def finish (aggSig tempSig : Signature) (nonce : Buffer) (session : Session) :
    Except Fault Session := do
  let aggSignature ←
    libs.bls.ndnBLSAggregateSignature aggSig tempSig session.global.fetchedSignatures
  let toBeSigned := { session.global.toBeSigned with signatureValue := some aggSignature }
  -- prepare the signature info packet
  let signInfo := session.global.signInfo.setContent libs.tlv
    (MpsSignerList.wireEncode libs.tlv session.global.signers)
  let signInfo := libs.keyChain.signWithKey session.global.signingKeyName nonce signInfo
  -- end the multiparty signature
  let session := { session with global := { session.global with toBeSigned, signInfo } }
  .ok (session.record (.successCb toBeSigned signInfo))

/-- A returned signature is stored, and the session finishes once there are enough. -/
def collect (aggSig tempSig : Signature) (nonce : Buffer) (session : Session) (index : Nat)
    (signerKeyName : Name) (piece : Buffer) : Except Fault Session :=
  let session := session.record (.collected index signerKeyName piece)
  let fetchedSignatures := session.global.fetchedSignatures ++ [piece]
  let session := { session with global := { session.global with fetchedSignatures } }
  if fetchedSignatures.length = session.global.signers.length then
    finish libs aggSig tempSig nonce session
  else .ok session

end Session

namespace MPSInitiator

variable {SecretKey PublicKey Signature : Type}
variable (libs : Libraries SecretKey PublicKey Signature)

/-- The initiator with one session in another state. -/
def setSession (initiator : MPSInitiator PublicKey) (index : Nat) (session : Session) :
    MPSInitiator PublicKey :=
  { initiator with sessions := initiator.sessions.set index session }

/-- The session that `multiPartySign` starts with the selected signers. -/
def startSession (initiator : MPSInitiator PublicKey) (unsignedData : Data)
    (schema : MultipartySchema) (signingKeyName : Name) (keyLocatorRandomness : Nat)
    (rpcs : Name → RpcDraw) (signers : List Name) : Session :=
  let history := if signers.isEmpty then [.failureCb "No sufficient number of known signers."]
    else []
  -- prepare the packet to be signed and the signature info packet
  let (toBeSigned, signInfo) := prepareUnfinishedDataAndInfoData libs.tlv unsignedData
    initiator.initiatorPrefix keyLocatorRandomness
  let global := { signers, schema, toBeSigned, signInfo, fetchedSignatures := [], signingKeyName }
  -- perform RPC with each signer
  Session.performRPCs libs initiator.initiatorPrefix rpcs signers ⟨global, [], history⟩

/-- What a reaction of one remote call does to the initiator. -/
def act (initiator : MPSInitiator PublicKey) (sessionIndex index : Nat) (session : Session)
    (perSigner : MultiSignPerSignerState) (draw : Draw Signature) :
    Reaction → MPSInitiator PublicKey × List Data
  | .abandon paraPrefixRegistered =>
    (initiator.setSession sessionIndex
      (session.setRpc index { perSigner with paraPrefixRegistered, phase := .ended }), [])
  | .proceed perSigner tpm put =>
    ({ initiator.setSession sessionIndex (session.setRpc index perSigner) with tpm }, put)
  | .collect piece =>
    let session := session.setRpc index { perSigner with phase := .ended }
    match session.collect libs draw.aggSig draw.tempSig draw.nonce index perSigner.signerKeyName
        piece with
    | .error _ => ({ initiator with liveness := .undefined }, [])
    | .ok session => (initiator.setSession sessionIndex session, [])
  | .unavailable reason =>
    let session := session.setRpc index { perSigner with phase := .ended }
    let (schemaContainer, renewed) := session.onUnavailableSigner libs initiator.initiatorPrefix
      draw.rpcs initiator.schemaContainer reason index perSigner.signerKeyName
    ({ initiator.setSession sessionIndex renewed with schemaContainer }, [])
  | .stop liveness => ({ initiator with liveness }, [])

/-- One step of the initiator, with the Data it puts on the face. The Interests it expresses are
the pending ones of its remote calls. -/
def step (initiator : MPSInitiator PublicKey) (event : Event Signature) :
    Option (MPSInitiator PublicKey × List Data) :=
  if initiator.liveness ≠ .running then none
  else
    match event with
    | .multiPartySign unsignedData schema signingKeyName keyLocatorRandomness rpcs =>
      match initiator.schemaContainer.getAvailableSigners schema with
      -- The exception leaves `multiPartySign` before anything has been done.
      | .error _ => some (initiator, [])
      | .ok signers =>
        let session := initiator.startSession libs unsignedData schema signingKeyName
          keyLocatorRandomness rpcs signers
        some ({ initiator with sessions := initiator.sessions ++ [session] }, [])
    | .resetCachedUnavailableSigners =>
      some ({ initiator with
        schemaContainer := initiator.schemaContainer.resetCachedUnavailableSigners }, [])
    | .rpc sessionIndex index event draw => do
      let session ← initiator.sessions[sessionIndex]?
      let perSigner ← session.rpcs[index]?
      let reaction ← react libs initiator.tpm session.global.signingKeyName perSigner draw event
      some (initiator.act libs sessionIndex index session perSigner draw reaction)

end MPSInitiator

end NdnMps
