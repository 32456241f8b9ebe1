import NdnMps.Ndn.Packet

/-! BLS signing, verification and aggregation over Data packets. -/

namespace NdnMps

/-- The operations of the BLS library on its secret keys, public keys and signatures. -/
structure Bls (SecretKey PublicKey Signature : Type) where
  getPublicKey : SecretKey → PublicKey
  sign : SecretKey → Buffer → Signature
  verify : Signature → PublicKey → Buffer → Bool
  publicKeyAdd : PublicKey → PublicKey → PublicKey
  signatureAdd : Signature → Signature → Signature
  serialize : Signature → Buffer
  /-- The signature some octets encode, if they encode one. -/
  deserialize : Buffer → Option Signature

namespace Bls

variable {SecretKey PublicKey Signature : Type} (bls : Bls SecretKey PublicKey Signature)

/-- `blsSignatureDeserialize`: the target keeps its old value on invalid octets. -/
def deserializeInto (target : Signature) (buffer : Buffer) : Signature :=
  (bls.deserialize buffer).getD target

/-- Ideal signatures: each key has one valid signature on a message, and sums of keys have the
sums of the signatures. -/
structure Ideal (valid : PublicKey → Buffer → Signature) : Prop where
  publicKeyAdd_assoc : ∀ a b c,
    bls.publicKeyAdd (bls.publicKeyAdd a b) c = bls.publicKeyAdd a (bls.publicKeyAdd b c)
  publicKeyAdd_comm : ∀ a b, bls.publicKeyAdd a b = bls.publicKeyAdd b a
  signatureAdd_assoc : ∀ a b c,
    bls.signatureAdd (bls.signatureAdd a b) c = bls.signatureAdd a (bls.signatureAdd b c)
  signatureAdd_comm : ∀ a b, bls.signatureAdd a b = bls.signatureAdd b a
  verify_iff : ∀ signature key message,
    bls.verify signature key message = true ↔ signature = valid key message
  valid_add : ∀ left right message, valid (bls.publicKeyAdd left right) message =
    bls.signatureAdd (valid left message) (valid right message)
  sign_valid : ∀ secret message, bls.sign secret message = valid (bls.getPublicKey secret) message
  deserialize_serialize : ∀ signature, bls.deserialize (bls.serialize signature) = some signature

/-- `ndnGenBLSSignature`: the serialized signature on the unsigned portion. -/
def ndnGenBLSSignature (tlv : Tlv) (signingKey : SecretKey) (dataWithInfo : Data) : Buffer :=
  bls.serialize (bls.sign signingKey (dataWithInfo.unsignedPortion tlv))

/-- `ndnBLSSign` for Data with a key locator name. -/
def ndnBLSSign (tlv : Tlv) (signingKey : SecretKey) (data : Data) (keyLocatorName : Name) : Data :=
  let data := { data with
    signatureInfo := some ⟨Tlv.signatureSha256WithBls, some (.name keyLocatorName)⟩ }
  { data with signatureValue := some (bls.ndnGenBLSSignature tlv signingKey data) }

/-- `ndnBLSVerify` for Data; the signature object is indeterminate before deserialization. -/
def ndnBLSVerify (tlv : Tlv) (indeterminate : Signature) (pubKey : PublicKey) (data : Data) :
    Except Fault Bool :=
  let sig := bls.deserializeInto indeterminate (data.signatureValue.getD [])
  match tlv.extractSignedRanges data with
  | .error fault => .error fault
  | .ok contiguousBuf => .ok (bls.verify sig pubKey contiguousBuf)

/-- The loop of `ndnBLSAggregateSignature`: one temporary serves all later buffers. -/
def aggregateLoop : List Buffer → Signature → Signature → Signature
  | [], aggSig, _ => aggSig
  | buffer :: rest, aggSig, tempSig =>
    let tempSig := bls.deserializeInto tempSig buffer
    aggregateLoop rest (bls.signatureAdd aggSig tempSig) tempSig

/-- `ndnBLSAggregateSignature` for buffers; both signature objects start indeterminate. -/
def ndnBLSAggregateSignature (aggSig tempSig : Signature) : List Buffer → Except Fault Buffer
  -- The first element of an empty vector does not exist.
  | [] => .error .undefined
  | first :: rest =>
    .ok (bls.serialize (bls.aggregateLoop rest (bls.deserializeInto aggSig first) tempSig))

end Bls

end NdnMps
