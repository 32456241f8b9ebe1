import NdnMps.BlsHelpers
import NdnMps.Ndn.Codec

/-! Signatures that add up: a number signs a message by its multiple of the message's digest. -/

namespace NdnMps

/-- A checksum of a message, never zero. -/
def checksum (message : Buffer) : Nat :=
  message.foldl (fun total octet => (total * 31 + octet.toNat) % 65521) 1 + 1

namespace Bls

/-- The signatures of a digest, with numbers for keys and signatures. -/
def additive (digest : Buffer → Nat) : Bls Nat Nat Nat where
  getPublicKey secret := secret
  sign secret message := secret * digest message
  verify signature key message := signature == key * digest message
  publicKeyAdd left right := left + right
  signatureAdd left right := left + right
  serialize signature := PacketFormat.encodeNumber signature
  deserialize buffer := PacketFormat.readNumber buffer

/-- Multiples of one number add up as their keys do. -/
theorem additive_ideal (digest : Buffer → Nat) :
    (additive digest).Ideal fun key message => key * digest message where
  publicKeyAdd_assoc := Nat.add_assoc
  publicKeyAdd_comm := Nat.add_comm
  signatureAdd_assoc := Nat.add_assoc
  signatureAdd_comm := Nat.add_comm
  verify_iff _ _ _ := beq_iff_eq
  valid_add left right message := Nat.add_mul left right (digest message)
  sign_valid _ _ := rfl
  deserialize_serialize := PacketFormat.readNumber_encodeNumber

end Bls

end NdnMps
