import NdnMps.BlsHelpers

/-! BLS signing, verification and aggregation over Interests, and for several keys at once. -/

namespace NdnMps

/-- An Interest with the elements that its signature covers. The packet library admits one digest
component in its name at most. -/
structure SigningInterest where
  name : Name
  applicationParameters : Option Block
  signatureInfo : Option SignatureInfo
  signatureValue : Option Buffer
  oneDigest : name.components.countP Component.isParametersDigest ≤ 1
  deriving DecidableEq, Repr

/-- What the packet library computes from an Interest, given by its results. -/
structure InterestFormat where
  /-- The value of the digest component. -/
  parametersDigest : Option Block → Option SignatureInfo → Option Buffer → Buffer
  /-- The octets of the name without its digest, the parameters and the signature information. -/
  encodeSigned : List Component → Option Block → SignatureInfo → Buffer

/-- The name keeps its digest in its place. -/
theorem Name.countP_setDigest {name : Name} (digest : Buffer)
    (one : name.components.countP Component.isParametersDigest ≤ 1) :
    (name.setDigest digest).components.countP Component.isParametersDigest ≤ 1 := by
  -- Either the digest is replaced where it is, or it is appended to a name without one.
  unfold setDigest
  split
  · -- A component is a digest afterwards exactly when it was one before.
    rw [List.countP_map]
    have same : (Component.isParametersDigest ∘ fun component : Component =>
        if component.isParametersDigest then ⟨Component.parametersDigestType, digest⟩
        else component) = Component.isParametersDigest := by
      funext component
      rw [Function.comp_apply]
      cases kind : component.isParametersDigest with
      | true =>
        rw [if_pos rfl]
        rfl
      | false =>
        rw [if_neg Bool.false_ne_true]
        exact kind
    rw [same]
    exact one
  · rename_i absent
    -- The name had no digest, so the appended one is the only one.
    have none : name.components.countP Component.isParametersDigest = 0 := by
      rw [List.countP_eq_zero]
      intro component member digest
      exact absent (List.any_eq_true.mpr ⟨component, member, digest⟩)
    simp only [append, List.countP_append, none, List.countP_singleton]
    split <;> omega

namespace SigningInterest

variable (format : InterestFormat)

/-- `Interest::setSignatureInfo`, which renews the digest in the name. -/
def setSignatureInfo (interest : SigningInterest) (sigInfo : SignatureInfo) : SigningInterest where
  name := interest.name.setDigest (format.parametersDigest interest.applicationParameters
    (some sigInfo) interest.signatureValue)
  applicationParameters := interest.applicationParameters
  signatureInfo := some sigInfo
  signatureValue := interest.signatureValue
  oneDigest := Name.countP_setDigest _ interest.oneDigest

/-- `Interest::setSignatureValue`, which renews the digest as well. -/
def setSignatureValue (interest : SigningInterest) (sigValue : Buffer) : SigningInterest where
  name := interest.name.setDigest (format.parametersDigest interest.applicationParameters
    interest.signatureInfo (some sigValue))
  applicationParameters := interest.applicationParameters
  signatureInfo := interest.signatureInfo
  signatureValue := some sigValue
  oneDigest := Name.countP_setDigest _ interest.oneDigest

/-- The name ends with the digest. -/
def endsWithDigest (interest : SigningInterest) : Bool :=
  interest.name.components.getLast?.any Component.isParametersDigest

/-- `Interest::isSigned`. -/
def isSigned (interest : SigningInterest) : Bool :=
  interest.applicationParameters.isSome && interest.signatureInfo.isSome &&
    interest.signatureValue.isSome && interest.endsWithDigest

/-- The concatenation of `Interest::extractSignedRanges`, or an exception. -/
def extractSignedRanges (interest : SigningInterest) : Except Fault Buffer :=
  if !interest.endsWithDigest then .error .exception
  else
    match interest.signatureInfo with
    | none => .error .exception
    | some sigInfo => .ok (format.encodeSigned interest.name.components.dropLast
        interest.applicationParameters sigInfo)

end SigningInterest

namespace Bls

variable {SecretKey PublicKey Signature : Type} (bls : Bls SecretKey PublicKey Signature)

/-- `ndnGenBLSSignature` for Data and a signature info. -/
def ndnGenBLSSignatureData (tlv : Tlv) (signingKey : SecretKey) (data : Data)
    (sigInfo : SignatureInfo) : Except Fault Buffer :=
  if sigInfo.signatureType ≠ Tlv.signatureSha256WithBls then .error .exception
  else
    let dataWithInfo := { data with signatureInfo := some sigInfo }
    .ok (bls.ndnGenBLSSignature tlv signingKey dataWithInfo)

/-- `ndnGenBLSSignature` for an Interest with its signature info. -/
def ndnGenBLSSignatureWithInfo (format : InterestFormat) (signingKey : SecretKey)
    (interestWithInfo : SigningInterest) : Except Fault Buffer :=
  match interestWithInfo.extractSignedRanges format with
  | .error fault => .error fault
  | .ok contiguousBuf => .ok (bls.serialize (bls.sign signingKey contiguousBuf))

/-- `ndnGenBLSSignature` for an Interest and a signature info. -/
def ndnGenBLSSignatureInterest (format : InterestFormat) (signingKey : SecretKey)
    (interest : SigningInterest) (sigInfo : SignatureInfo) : Except Fault Buffer :=
  if sigInfo.signatureType ≠ Tlv.signatureSha256WithBls then .error .exception
  else
    bls.ndnGenBLSSignatureWithInfo format signingKey (interest.setSignatureInfo format sigInfo)

/-- `ndnBLSVerify` for an Interest; the signature object is indeterminate as it is for Data. -/
def ndnBLSVerifyInterest (format : InterestFormat) (indeterminate : Signature)
    (pubKey : PublicKey) (interest : SigningInterest) : Except Fault Bool :=
  if !interest.isSigned then .ok false
  else
    let sig := bls.deserializeInto indeterminate (interest.signatureValue.getD [])
    match interest.extractSignedRanges format with
    | .error fault => .error fault
    | .ok contiguousBuf => .ok (bls.verify sig pubKey contiguousBuf)

/-- `ndnBLSAggregatePublicKey`. -/
def ndnBLSAggregatePublicKey : List PublicKey → Except Fault PublicKey
  -- The first element of an empty vector does not exist.
  | [] => .error .undefined
  | first :: rest => .ok (rest.foldl bls.publicKeyAdd first)

/-- `ndnBLSVerify` for Data and several keys, with a loop of its own. -/
def ndnBLSVerifyAll (tlv : Tlv) (indeterminate : Signature) (pubKeys : List PublicKey)
    (data : Data) : Except Fault Bool :=
  match pubKeys with
  | [] => .error .undefined
  | first :: rest =>
    let aggKey := rest.foldl bls.publicKeyAdd first
    bls.ndnBLSVerify tlv indeterminate aggKey data

/-- `ndnBLSVerify` for an Interest and several keys. -/
def ndnBLSVerifyInterestAll (format : InterestFormat) (indeterminate : Signature)
    (pubKeys : List PublicKey) (interest : SigningInterest) : Except Fault Bool :=
  match bls.ndnBLSAggregatePublicKey pubKeys with
  | .error fault => .error fault
  | .ok aggKey => bls.ndnBLSVerifyInterest format indeterminate aggKey interest

/-- `ndnBLSAggregateSignature` for signature objects. -/
def ndnBLSAggregateSignatures : List Signature → Except Fault Signature
  | [] => .error .undefined
  | first :: rest => .ok (rest.foldl bls.signatureAdd first)

end Bls

/-- A packet that can be signed. -/
inductive Packet where
  | data (packet : Data)
  | interest (packet : SigningInterest)
  deriving DecidableEq, Repr

namespace Packet

/-- The packet under a signature: with its information, and with its value. -/
def signed (format : InterestFormat) (sigInfo : SignatureInfo) (sigValue : Buffer) :
    Packet → Packet
  | .data packet =>
    .data { packet with signatureInfo := some sigInfo, signatureValue := some sigValue }
  | .interest packet =>
    .interest ((packet.setSignatureInfo format sigInfo).setSignatureValue format sigValue)

/-- The octets of the signature value. -/
def signatureValue : Packet → Buffer
  | .data packet => packet.signatureValue.getD []
  | .interest packet => packet.signatureValue.getD []

/-- An Interest has application parameters. -/
def hasParameters : Packet → Bool
  | .data _ => true
  | .interest packet => packet.applicationParameters.isSome

section

variable {SecretKey PublicKey Signature : Type} (tlv : Tlv) (format : InterestFormat)
variable (bls : Bls SecretKey PublicKey Signature)

/-- `ndnGenBLSSignature` for either kind of packet. -/
def ndnGenBLSSignature (signingKey : SecretKey) (sigInfo : SignatureInfo) :
    Packet → Except Fault Buffer
  | .data packet => bls.ndnGenBLSSignatureData tlv signingKey packet sigInfo
  | .interest packet => bls.ndnGenBLSSignatureInterest format signingKey packet sigInfo

/-- `ndnBLSVerify` for either kind of packet. -/
def ndnBLSVerify (indeterminate : Signature) (pubKey : PublicKey) : Packet → Except Fault Bool
  | .data packet => bls.ndnBLSVerify tlv indeterminate pubKey packet
  | .interest packet => bls.ndnBLSVerifyInterest format indeterminate pubKey packet

/-- `ndnBLSVerify` with several keys for either kind of packet. -/
def ndnBLSVerifyAll (indeterminate : Signature) (pubKeys : List PublicKey) :
    Packet → Except Fault Bool
  | .data packet => bls.ndnBLSVerifyAll tlv indeterminate pubKeys packet
  | .interest packet => bls.ndnBLSVerifyInterestAll format indeterminate pubKeys packet

end

end Packet

end NdnMps
