import NdnMps.BlsHelpers.Additive
import NdnMps.KeyChain

/-! Libraries to compute with: the packet format, and small arithmetic for the cryptography. -/

namespace NdnMps

namespace Reference

/-- The modulus of the key agreement. -/
def modulus : Nat := 65521

/-- Diffie-Hellman modulo a small prime, with the public power as octets. -/
def ecdhPublic (mine : Buffer) : Buffer :=
  PacketFormat.encodeNumber (17 ^ Octets.value mine % modulus)

/-- The peer's public power raised to the own private number. -/
def ecdhDerive (mine its : Buffer) : Option Buffer :=
  (PacketFormat.readNumber its).map fun power =>
    PacketFormat.encodeNumber (power ^ Octets.value mine % modulus)

/-- The octets of a secret and a salt, filled up to a length. -/
def hkdf (secret salt : Buffer) (length : Nat) : Option Buffer :=
  some ((secret ++ salt ++ List.replicate length 0).take length)

/-- The octet that a key and an initialization vector mask a text with. -/
def mask (key iv : Buffer) : UInt8 := UInt8.ofNat (checksum (key ++ iv))

/-- The tag of a ciphertext. -/
def tag (key iv ciphertext : Buffer) : Buffer :=
  Octets.big 16 (checksum (key ++ iv ++ ciphertext))

/-- Mask every octet, and tag the result. -/
def encrypt (key iv plaintext : Buffer) : Buffer × Buffer :=
  let ciphertext := plaintext.map (mask key iv ^^^ ·)
  (ciphertext, tag key iv ciphertext)

/-- Unmask every octet, if the tag is right. -/
def decrypt (key iv given ciphertext : Buffer) : Option Buffer :=
  if given = tag key iv ciphertext then some (ciphertext.map (mask key iv ^^^ ·)) else none

/-- The cryptographic library. -/
def openssl : Openssl where
  ecdhPublic := ecdhPublic
  ecdhDerive := ecdhDerive
  hkdf := hkdf
  aesGcm128Encrypt := encrypt
  aesGcm128Decrypt := decrypt

/-- Matching parties understand each other. -/
theorem openssl_matching : openssl.Matching where
  agree mine its := by
    -- Powers of a power commute, also modulo a number.
    refine ⟨PacketFormat.encodeNumber
      (17 ^ (Octets.value its * Octets.value mine) % modulus), ?_, ?_⟩
    · simp only [openssl, ecdhDerive, ecdhPublic, PacketFormat.readNumber_encodeNumber,
        Option.map_some, ← Nat.pow_mod, ← pow_mul]
    · simp only [openssl, ecdhDerive, ecdhPublic, PacketFormat.readNumber_encodeNumber,
        Option.map_some, ← Nat.pow_mod, ← pow_mul, Nat.mul_comm]
  hkdf_isSome _ _ _ := rfl
  decrypt_encrypt key iv plaintext _ := by
    have unmasked : (plaintext.map (mask key iv ^^^ ·)).map (mask key iv ^^^ ·) = plaintext := by
      rw [List.map_map]
      have same : ((mask key iv ^^^ ·) ∘ (mask key iv ^^^ ·)) = id := by
        funext octet
        change mask key iv ^^^ (mask key iv ^^^ octet) = octet
        rw [← UInt8.xor_assoc, UInt8.xor_self, UInt8.zero_xor]
      rw [same, List.map_id]
    simp only [openssl, encrypt, decrypt, if_true, unmasked]
  length_ciphertext key iv plaintext := List.length_map _
  length_tag key iv plaintext := Octets.length_big _ _

/-- The signature of a signed portion under a key. -/
def code (key message : Buffer) : Buffer := Octets.big 32 (checksum (key ++ message))

/-- The octets of an Interest that its signature covers. -/
def interestOctets (nonce : Buffer) (interest : Interest) : Buffer :=
  nonce ++ PacketFormat.encode (PacketFormat.encodeName interest.name ::
    interest.applicationParameters.toList)

/-- The security library. -/
def keyChain : KeyChain where
  hmacSignature hmacKey data :=
    let info : SignatureInfo := ⟨4, some (.digest (code hmacKey []))⟩
    (info, code hmacKey
      (PacketFormat.encodeUnsignedPortion data.name data.metaInfo data.content (some info)))
  verifySignature tpm hmacKey data :=
    decide (hmacKey ∈ tpm) && data.signatureValue == some (code hmacKey
      (PacketFormat.encodeUnsignedPortion data.name data.metaInfo data.content
        data.signatureInfo))
  keyInfo keyName := ⟨3, some (.name keyName)⟩
  keySignature keyName nonce data :=
    code ((PacketFormat.encodeName keyName).value ++ nonce)
      (PacketFormat.encodeUnsignedPortion data.name data.metaInfo data.content data.signatureInfo)
  interestSignature keyName nonce interest :=
    (⟨3, some (.name keyName)⟩,
      code (PacketFormat.encodeName keyName).value (interestOctets nonce interest))
  parametersDigest parameters signature :=
    code (PacketFormat.encode parameters.toList)
      ((signature.map fun pair => pair.2).getD [])

/-- A packet verifies under the key it was signed with. -/
theorem keyChain_verifies : keyChain.Verifies := by
  intro tpm hmacKey data held
  simp only [keyChain, KeyChain.signWithHmac, held, decide_true, Bool.true_and, beq_self_eq_true]

/-- All libraries together. -/
def libraries : Libraries Nat Nat Nat where
  tlv := PacketFormat.tlv
  ssl := openssl
  keyChain := keyChain
  bls := Bls.additive checksum

/-- The salt that the signers draw has the length of a salt. -/
theorem length_salt : (List.replicate 32 (2 : UInt8)).length = 32 := List.length_replicate

end Reference

end NdnMps
