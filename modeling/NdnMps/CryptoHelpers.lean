import NdnMps.Ndn.Packet

/-! Key agreement, key derivation and authenticated encryption around the TLV blocks. -/

namespace NdnMps

/-- The primitives of the cryptographic library, given by their results. -/
structure Openssl where
  /-- The public key octets of an ECDH private key. -/
  ecdhPublic : Buffer → Buffer
  /-- The ECDH secret of a private key and a peer's public key octets, unless it throws. -/
  ecdhDerive : Buffer → Buffer → Option Buffer
  /-- HKDF of a secret and a salt to a number of octets, unless it throws. -/
  hkdf : Buffer → Buffer → Nat → Option Buffer
  /-- Ciphertext and tag of a key, an initialization vector and a plaintext. -/
  aesGcm128Encrypt : Buffer → Buffer → Buffer → Buffer × Buffer
  /-- Plaintext of a key, an initialization vector, a tag and a ciphertext, unless it throws. -/
  aesGcm128Decrypt : Buffer → Buffer → Buffer → Buffer → Option Buffer

/-- Key agreement, derivation and encryption succeed between two matching parties. -/
structure Openssl.Matching (ssl : Openssl) : Prop where
  /-- Both parties derive one secret from their own private and the other's public key. -/
  agree : ∀ mine its, ∃ secret, ssl.ecdhDerive mine (ssl.ecdhPublic its) = some secret ∧
    ssl.ecdhDerive its (ssl.ecdhPublic mine) = some secret
  hkdf_isSome : ∀ secret salt length, (ssl.hkdf secret salt length).isSome = true
  decrypt_encrypt : ∀ key iv plaintext, iv.length = 12 →
    ssl.aesGcm128Decrypt key iv (ssl.aesGcm128Encrypt key iv plaintext).2
      (ssl.aesGcm128Encrypt key iv plaintext).1 = some plaintext
  length_ciphertext : ∀ key iv plaintext,
    (ssl.aesGcm128Encrypt key iv plaintext).1.length = plaintext.length
  length_tag : ∀ key iv plaintext, (ssl.aesGcm128Encrypt key iv plaintext).2.length = 16

/-- Encrypt a payload into vector, tag and ciphertext elements; eight octets of the vector are
random and the last four are zero. -/
def encodeBlockWithAesGcm128 (tlv : Tlv) (ssl : Openssl) (tlvType : Nat)
    (key payload random : Buffer) : BlockBuilder :=
  let encryptionIv := random.take 8 ++ List.replicate (12 - (random.take 8).length) 0
  let (encryptedPayload, tag) := ssl.aesGcm128Encrypt key encryptionIv payload
  let content := BlockBuilder.ofType tlvType
  let content := content.pushBack ⟨Tlv.initializationVector, encryptionIv⟩
  let content := content.pushBack ⟨Tlv.authenticationTag, tag⟩
  let content := content.pushBack ⟨Tlv.encryptedPayload, encryptedPayload⟩
  content.encode tlv

/-- Decrypt a block of vector, tag and ciphertext elements. -/
def decodeBlockWithAesGcm128 (tlv : Tlv) (ssl : Openssl) (block : Block) (key : Buffer) :
    Except Fault Buffer := do
  let blocks ← tlv.elements block
  let encryptedPayloadBlock ← getBlock blocks Tlv.encryptedPayload
  let ivBlock ← getBlock blocks Tlv.initializationVector
  -- Twelve octets are copied from the element whatever its length is.
  if ivBlock.value.length < 12 then .error .undefined
  let tagBlock ← getBlock blocks Tlv.authenticationTag
  -- The tag is read as sixteen octets whatever the length of its element is.
  if tagBlock.value.length < 16 then .error .undefined
  match ssl.aesGcm128Decrypt key (ivBlock.value.take 12) (tagBlock.value.take 16)
      encryptedPayloadBlock.value with
  | none => .error .exception
  | some result =>
    if result.length ≠ encryptedPayloadBlock.value.length then .error .exception
    else .ok result

/-- The two keys of one request: sixteen octets for AES and thirty-two for the HMAC. -/
structure SessionKeys where
  aesKey : Buffer
  hmacKey : Buffer
  deriving DecidableEq, Repr

/-- The keys both parties derive from their ECDH secret and the salt. -/
def deriveKeys (ssl : Openssl) (dhSecret salt : Buffer) : Except Fault SessionKeys :=
  match ssl.hkdf dhSecret salt 48 with
  | none => .error .exception
  | some aesAndHmac => .ok ⟨aesAndHmac.take 16, aesAndHmac.drop 16⟩

end NdnMps
