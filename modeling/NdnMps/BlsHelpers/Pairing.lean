import NdnMps.BlsHelpers
import NdnMps.Data.Pairing
import NdnMps.Ndn.Codec
import Mathlib.Logic.Equiv.Nat

/-! Signatures that are checked with a bilinear pairing are ideal ones. -/

namespace NdnMps

namespace Bls

variable {SecretKey PublicKey Signature T : Type}
variable [AddCommGroup PublicKey] [AddCommGroup Signature] [AddCommGroup T]

/-- Boneh-Lynn-Shacham signatures: a key is a multiple of the generator, a signature is the same
multiple of the hashed message, and the pairing compares the two. -/
structure Pairs (bls : Bls SecretKey PublicKey Signature)
    (pairing : Pairing Signature PublicKey T) (scalar : SecretKey → ℤ)
    (hash : Buffer → Signature) : Prop where
  publicKeyAdd_eq : ∀ left right, bls.publicKeyAdd left right = left + right
  signatureAdd_eq : ∀ left right, bls.signatureAdd left right = left + right
  getPublicKey_eq : ∀ secret, bls.getPublicKey secret = scalar secret • pairing.generator
  sign_eq : ∀ secret message, bls.sign secret message = scalar secret • hash message
  verify_iff : ∀ signature key message, bls.verify signature key message = true ↔
    pairing.pair signature pairing.generator = pairing.pair (hash message) key
  deserialize_serialize : ∀ signature, bls.deserialize (bls.serialize signature) = some signature

/-- The valid signature of a key is the multiple of the hash that the key is of the generator. -/
theorem Pairs.ideal {bls : Bls SecretKey PublicKey Signature}
    {pairing : Pairing Signature PublicKey T} {scalar : SecretKey → ℤ}
    {hash : Buffer → Signature} (pairs : bls.Pairs pairing scalar hash) :
    bls.Ideal fun key message => pairing.multiple (hash message) key where
  publicKeyAdd_assoc a b c := by
    simp only [pairs.publicKeyAdd_eq]
    exact add_assoc a b c
  publicKeyAdd_comm a b := by
    simp only [pairs.publicKeyAdd_eq]
    exact add_comm a b
  signatureAdd_assoc a b c := by
    simp only [pairs.signatureAdd_eq]
    exact add_assoc a b c
  signatureAdd_comm a b := by
    simp only [pairs.signatureAdd_eq]
    exact add_comm a b
  verify_iff signature key message :=
    (pairs.verify_iff signature key message).trans (pairing.pair_eq_iff _ _ _)
  -- Keys are added in one group, and signatures in the other.
  valid_add left right message := by
    rw [pairs.publicKeyAdd_eq, pairs.signatureAdd_eq, pairing.multiple_add]
  sign_valid secret message := by
    rw [pairs.sign_eq, pairs.getPublicKey_eq, pairing.multiple_zsmul]
  deserialize_serialize := pairs.deserialize_serialize

/-- The signatures of a digest with integers for keys and signatures. -/
def integral (digest : Buffer → ℤ) : Bls ℤ ℤ ℤ where
  getPublicKey secret := secret
  sign secret message := secret * digest message
  verify signature key message := signature == digest message * key
  publicKeyAdd left right := left + right
  signatureAdd left right := left + right
  serialize signature := PacketFormat.encodeNumber (Equiv.intEquivNat signature)
  deserialize buffer := (PacketFormat.readNumber buffer).map Equiv.intEquivNat.symm

/-- They are checked with the pairing of the integers. -/
theorem integral_pairs (digest : Buffer → ℤ) :
    (integral digest).Pairs Pairing.multiplication id digest where
  publicKeyAdd_eq _ _ := rfl
  signatureAdd_eq _ _ := rfl
  getPublicKey_eq secret := by simp [integral, Pairing.multiplication]
  sign_eq secret message := by simp [integral]
  verify_iff signature key message := by simp [integral, Pairing.multiplication]
  deserialize_serialize signature := by simp [integral]

end Bls

end NdnMps
