import NdnMps.KeyChain

/-! The packets the initiator prepares and the replies it parses. -/

namespace NdnMps

/-- `prepareUnfinishedDataAndInfoData`: the packet to be signed, with the info packet's name in its
key locator, and the empty info packet. -/
def prepareUnfinishedDataAndInfoData (tlv : Tlv) (unsignedData : Data) (initiatorPrefix : Name)
    (keyLocatorRandomness : Nat) : Data × Data :=
  let keyLocatorName :=
    (initiatorPrefix.append (.ofString "mps")).append (tlv.fromNumber keyLocatorRandomness)
  let unfinishedData := { unsignedData with
    signatureInfo := some ⟨Tlv.signatureSha256WithBls, some (.name keyLocatorName)⟩
    -- placeholder sig value for wireEncode
    signatureValue := some [] }
  (unfinishedData, .ofName keyLocatorName)

/-- `prepareParameterData`: the unencrypted parameter packet around the packet to be signed. -/
def prepareParameterData (tlv : Tlv) (unfinishedData : Data) (initiatorPrefix : Name)
    (paraRandomness : Nat) : Data :=
  let paraDataName := ((initiatorPrefix.append (.ofString "mps")).append (.ofString "param")).append
    (tlv.fromNumber paraRandomness)
  let paraData := (Data.ofName paraDataName).setContent tlv (tlv.encodeData unfinishedData)
  { paraData with metaInfo := { paraData.metaInfo with freshnessPeriod := 4000 } }

/-- `prepareSignRequestInterest`, for a signer whose name has no digest of parameters. -/
def prepareSignRequestInterest (tlv : Tlv) (signerPrefix paraDataName : Name)
    (selfPubKey : Buffer) : Interest :=
  let signRequestName := (signerPrefix.append (.ofString "mps")).append (.ofString "sign")
  let appParam := tlv.nested Tlv.applicationParametersType
    [tlv.nestedName Tlv.parameterDataName paraDataName, ⟨Tlv.ecdhPub, selfPubKey⟩]
  ⟨signRequestName, some appParam, false, true, none, none⟩

/-- What an accepted acknowledgement tells the initiator. -/
structure AckReply where
  keys : SessionKeys
  /-- The time to wait for the result, in milliseconds. -/
  resultAfter : Nat
  resultName : Name
  deriving DecidableEq, Repr

/-- `parseAckReply`; the salt's array is indeterminate before the element is copied over it. -/
def parseAckReply (tlv : Tlv) (ssl : Openssl) (ecdh salt : Buffer) (data : Data) :
    Except Fault AckReply := do
  let blocks ← tlv.elements data.getContent
  let ackCode ← getBlock blocks Tlv.status
  if ackCode.value ≠ asciiBytes "102" then .error .exception
  let ecdhBlock ← getBlock blocks Tlv.ecdhPub
  let saltBlock ← getBlock blocks Tlv.salt
  -- The element is copied whole into an array of 32 octets.
  if 32 < saltBlock.value.length then .error .undefined
  let salt := saltBlock.value ++ salt.drop saltBlock.value.length
  -- ECDH and generate HMAC KEY and AES KEY
  match ssl.ecdhDerive ecdh ecdhBlock.value with
  | none => .error .exception
  | some dhSecret =>
    let keys ← deriveKeys ssl dhSecret salt
    -- Decrypt
    let decrypted ← decodeBlockWithAesGcm128 tlv ssl data.getContent keys.aesKey
    let decryptedBlocks ← tlv.elements ⟨Tlv.contentType, decrypted⟩
    let resultAfterBlock ← getBlock decryptedBlocks Tlv.resultAfter
    let resultAfter ← tlv.numberOf resultAfterBlock
    let resultNameBlock ← getBlock decryptedBlocks Tlv.resultName
    let resultNameValue ← tlv.blockFromValue resultNameBlock
    let resultName ← tlv.nameOf resultNameValue
    .ok ⟨keys, resultAfter, resultName⟩

/-- `parseResultData`: the elements of the decrypted content. -/
def parseResultData (tlv : Tlv) (ssl : Openssl) (aesKey : Buffer) (data : Data) :
    Except Fault (List Block) := do
  let decryptedBuf ← decodeBlockWithAesGcm128 tlv ssl data.getContent aesKey
  tlv.elements ⟨Tlv.contentType, decryptedBuf⟩

/-- The name of the next result in a reply that the signer is processing. -/
def nextNameOf (tlv : Tlv) (ssl : Openssl) (aesKey : Buffer) (result : Data) : Option Name := do
  let blocks ← (parseResultData tlv ssl aesKey result).toOption
  let code ← (getBlock blocks Tlv.status).toOption
  if code.value = asciiBytes "102" then
    let nameBlock ← (getBlock blocks Tlv.resultName).toOption
    let nameValue ← (tlv.blockFromValue nameBlock).toOption
    (tlv.nameOf nameValue).toOption
  else none

end NdnMps
