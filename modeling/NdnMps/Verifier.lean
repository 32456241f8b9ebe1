import NdnMps.BlsHelpers
import NdnMps.Schema
import NdnMps.SignerList

/-! The verifier's check of a signed packet against its signature info packet. -/

namespace NdnMps

variable {SecretKey PublicKey Signature : Type}

/-- What an automatic variable holds before it is assigned. -/
structure Indeterminate (PublicKey Signature : Type) where
  publicKey : PublicKey
  signature : Signature

/-- The signer list of a signature info packet, or an exception where there is none. -/
def signerListOf (tlv : Tlv) (signatureInfoData : Data) : Except Fault (List Name) := do
  let blocks ← tlv.elements signatureInfoData.getContent
  let signerListBlock ← getBlock blocks Tlv.mpsSignerList
  MpsSignerList.wireDecode tlv signerListBlock

/-- `BLSVerifier::verify`. -/
def BLSVerifier.verify (tlv : Tlv) (bls : Bls SecretKey PublicKey Signature)
    (indeterminate : Indeterminate PublicKey Signature)
    (schemaContainer : MultipartySchemaContainer PublicKey) (data signatureInfoData : Data) :
    Except Fault Bool :=
  -- check key locator matches infoData
  match data.keyLocatorName with
  | .error _ => .ok false
  | .ok keyLocatorName =>
    if !keyLocatorName.isPrefixOf signatureInfoData.name then .ok false
    else do
      -- check signer list
      let signerList ← signerListOf tlv signatureInfoData
      if !schemaContainer.passSchema data.name signerList then .ok false
      else
        -- verify signature
        let aggKey ← schemaContainer.aggregateKey bls.publicKeyAdd indeterminate.publicKey
          signerList
        bls.ndnBLSVerify tlv indeterminate.signature aggKey data

/-- `BLSVerifier::asyncVerify`: the Interest for the signature info packet, or the answer that the
callback is given at once. -/
def BLSVerifier.asyncVerify (tlv : Tlv) (data : Data) : Except Fault (Interest ⊕ Bool) :=
  match data.keyLocatorName with
  | .error _ => .ok (.inr false)
  | .ok keyLocatorName =>
    -- The `try` block ends before the Interest is made.
    (tlv.expressInterest keyLocatorName none).map .inl

/-- How the Interest for the signature info packet ends. -/
inductive InfoEvent where
  | data (signatureInfoData : Data)
  | nack
  | timeout
  deriving DecidableEq, Repr

/-- Whether the packet and the callback that `asyncVerify` was given are still there. -/
inductive Referents where
  | alive
  /-- One of the two objects has been destroyed since `asyncVerify` returned. -/
  | gone
  deriving DecidableEq, Repr

/-- The functions that `asyncVerify` registers, which hold its arguments by reference: the answer
they give to the callback. -/
def BLSVerifier.onInfoEvent (tlv : Tlv) (bls : Bls SecretKey PublicKey Signature)
    (indeterminate : Indeterminate PublicKey Signature)
    (schemaContainer : MultipartySchemaContainer PublicKey) (data : Data) (referents : Referents)
    (event : InfoEvent) : Except Fault Bool :=
  match referents with
  | .gone => .error .undefined
  | .alive =>
    match event with
    | .data signatureInfoData =>
      verify tlv bls indeterminate schemaContainer data signatureInfoData
    | .nack => .ok false
    | .timeout => .ok false

/-- The answers that the callback is given until the Interest, if there is one, has ended, unless
`asyncVerify` throws or something is used that is not there any more. -/
def BLSVerifier.answers (tlv : Tlv) (bls : Bls SecretKey PublicKey Signature)
    (indeterminate : Indeterminate PublicKey Signature)
    (schemaContainer : MultipartySchemaContainer PublicKey) (data : Data) (referents : Referents)
    (event : InfoEvent) : Except Fault (List Bool) :=
  match asyncVerify tlv data with
  | .error fault => .error fault
  | .ok (.inr isValid) => .ok [isValid]
  | .ok (.inl _) =>
    match onInfoEvent tlv bls indeterminate schemaContainer data referents event with
    | .ok isValid => .ok [isValid]
    -- An exception leaves through the event loop before the callback is reached.
    | .error .exception => .ok []
    | .error .undefined => .error .undefined

/-- A verified packet carries a signer list that the container accepts for its name. -/
theorem BLSVerifier.verify_passes {tlv : Tlv} {bls : Bls SecretKey PublicKey Signature}
    {indeterminate : Indeterminate PublicKey Signature}
    {schemaContainer : MultipartySchemaContainer PublicKey} {data signatureInfoData : Data}
    (verified : verify tlv bls indeterminate schemaContainer data signatureInfoData = .ok true) :
    ∃ signers, signerListOf tlv signatureInfoData = .ok signers ∧
      schemaContainer.passSchema data.name signers = true := by
  -- Every earlier exit returns false or throws.
  unfold verify at verified
  cases located : data.keyLocatorName with
  | error fault => simp [located] at verified
  | ok keyLocatorName =>
    simp only [located] at verified
    split at verified
    · cases verified
    · cases listed : signerListOf tlv signatureInfoData with
      | error fault => simp [listed, Bind.bind, Except.bind] at verified
      | ok signers =>
        refine ⟨signers, rfl, ?_⟩
        cases answer : schemaContainer.passSchema data.name signers with
        | true => rfl
        | false => simp [listed, answer, Bind.bind, Except.bind] at verified

end NdnMps
