import NdnMps.BlsHelpers
import NdnMps.CryptoHelpers

/-! Signing packets with named keys and with the HMAC keys of requests. -/

namespace NdnMps

/-- The signatures of the security library, given by their results. -/
structure KeyChain where
  /-- Signature info and value of a Data packet under an HMAC key. -/
  hmacSignature : Buffer → Data → SignatureInfo × Buffer
  /-- `security::verifySignature` under an HMAC key, with the HMAC keys the TPM holds. -/
  verifySignature : List Buffer → Buffer → Data → Bool
  /-- Signature info of the packets signed with a named key. -/
  keyInfo : Name → SignatureInfo
  /-- Signature value of a Data packet under a named key, with the randomness of the signing. -/
  keySignature : Name → Buffer → Data → Buffer
  /-- Signature info and value of an Interest under a named key, with a nonce and a time. -/
  interestSignature : Name → Buffer → Interest → SignatureInfo × Buffer
  /-- The digest of an Interest's parameters and signature. -/
  parametersDigest : Option Block → Option (SignatureInfo × Buffer) → Buffer

namespace KeyChain

variable (keyChain : KeyChain)

/-- `KeyChain::sign` of Data with an HMAC key. -/
def signWithHmac (hmacKey : Buffer) (data : Data) : Data :=
  let (signatureInfo, signatureValue) := keyChain.hmacSignature hmacKey data
  { data with signatureInfo := some signatureInfo, signatureValue := some signatureValue }

/-- `KeyChain::sign` of Data with a named key. -/
def signWithKey (keyName : Name) (nonce : Buffer) (data : Data) : Data :=
  let data := { data with signatureInfo := some (keyChain.keyInfo keyName) }
  { data with signatureValue := some (keyChain.keySignature keyName nonce data) }

/-- The Interest with a signature, under the name that the digest of its parameters gives it. -/
def signedUnder (rename : Buffer → Name) (keyName : Name) (nonce : Buffer)
    (interest : Interest) : Interest :=
  -- A signed Interest has application parameters, empty ones if none were set.
  let parameters := interest.applicationParameters.getD ⟨Tlv.applicationParametersType, []⟩
  let interest := { interest with applicationParameters := some parameters }
  let signature := keyChain.interestSignature keyName nonce interest
  let name := rename (keyChain.parametersDigest (some parameters) (some signature))
  { interest with name, signature := some signature }

/-- The signed Interest for a name without a digest, which gets one at its end. -/
def signInterest (keyName : Name) (nonce : Buffer) (interest : Interest) : Interest :=
  keyChain.signedUnder
    (fun digest => interest.name.append ⟨Component.parametersDigestType, digest⟩)
    keyName nonce interest

/-- `InterestSigner::makeSignedInterest`: the digest takes the place of the one the name has, and
the signed ranges of an Interest whose name does not end with it are an exception. -/
def makeSignedInterest (keyName : Name) (nonce : Buffer) (interest : Interest) :
    Except Fault Interest :=
  let signed := keyChain.signedUnder interest.name.setDigest keyName nonce interest
  if signed.name.endsWithDigest then .ok signed else .error .exception

/-- An Interest is signed exactly where its name has no digest yet, or ends with one. -/
theorem makeSignedInterest_isOk {keyName : Name} {nonce : Buffer} {interest : Interest} :
    (∃ signed, keyChain.makeSignedInterest keyName nonce interest = .ok signed) ↔
      interest.name.digests = 0 ∨ interest.name.endsWithDigest = true := by
  have named : (keyChain.signedUnder interest.name.setDigest keyName nonce
      interest).name.endsWithDigest = true ↔
        interest.name.digests = 0 ∨ interest.name.endsWithDigest = true :=
    Name.endsWithDigest_setDigest _
  rw [← named, makeSignedInterest]
  -- Only the test of the signed name decides.
  by_cases ends : (keyChain.signedUnder interest.name.setDigest keyName nonce
      interest).name.endsWithDigest = true
  · exact iff_of_true ⟨_, if_pos ends⟩ ends
  · refine iff_of_false (fun ⟨signed, made⟩ => ?_) ends
    rw [if_neg ends] at made
    cases made

/-- `Interest::isParametersDigestValid`. -/
def isParametersDigestValid (interest : Interest) : Bool :=
  -- The name of an Interest has at most one digest component.
  match interest.name.components.reverse.find? fun component =>
      component.type == Component.parametersDigestType with
  | none => interest.applicationParameters.isNone
  | some component =>
    component.value ==
      keyChain.parametersDigest interest.applicationParameters interest.signature

/-- A packet signed with an HMAC key verifies where the TPM holds the key. -/
def Verifies : Prop :=
  ∀ tpm hmacKey data, hmacKey ∈ tpm →
    keyChain.verifySignature tpm hmacKey (keyChain.signWithHmac hmacKey data) = true

/-- A packet verifies under an HMAC key only where the TPM holds the key. -/
def NeedsKey : Prop :=
  ∀ tpm hmacKey data, keyChain.verifySignature tpm hmacKey data = true → hmacKey ∈ tpm

end KeyChain

/-- The libraries the parties are built on. -/
structure Libraries (SecretKey PublicKey Signature : Type) where
  tlv : Tlv
  ssl : Openssl
  keyChain : KeyChain
  bls : Bls SecretKey PublicKey Signature

end NdnMps
