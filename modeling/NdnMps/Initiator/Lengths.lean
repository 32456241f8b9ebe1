import NdnMps.Initiator.Packets
import NdnMps.Libraries.Reference

/-! How long the elements of a reply have to be for the initiator to stay inside them. -/

namespace NdnMps

variable {tlv : Tlv} {ssl : Openssl} {content : Buffer}

/-- The value of the first element of a type in some content. -/
def Tlv.valueOf (tlv : Tlv) (content : Buffer) (type : Nat) : Option Buffer :=
  (tlv.parse content).bind fun blocks =>
    (blocks.find? fun block => block.type == type).map Block.value

/-- Content that is no sequence of elements has no value of any type. -/
theorem Tlv.valueOf_unparsed (parsed : tlv.parse content = none) (type : Nat) :
    tlv.valueOf content type = none := by
  rw [valueOf, parsed, Option.bind_none]

/-- The first element of a type is found with its value, or looking for it throws. -/
theorem Tlv.getBlock_cases {blocks : List Block} (parsed : tlv.parse content = some blocks)
    (type : Nat) :
    (tlv.valueOf content type = none ∧ getBlock blocks type = .error .exception) ∨
      ∃ block, tlv.valueOf content type = some block.value ∧ getBlock blocks type = .ok block := by
  unfold valueOf getBlock
  rw [parsed, Option.bind_some]
  -- Both of them search for the type, and differ in what they do without a find.
  cases blocks.find? fun block => block.type == type with
  | none => exact .inl ⟨rfl, rfl⟩
  | some block => exact .inr ⟨block, rfl, rfl⟩

/-- A run goes on with what was returned. -/
theorem ok_bind {α β : Type} (value : α) (next : α → Except Fault β) :
    (Except.ok value >>= next) = next value := rfl

/-- A run that has failed does not go on. -/
theorem error_bind {α β : Type} (fault : Fault) (next : α → Except Fault β) :
    (Except.error fault >>= next) = .error fault := rfl

/-- What the decoder makes of the payload, the vector and the tag that it finds. -/
def decodeValues (ssl : Openssl) (key : Buffer) :
    Option Buffer → Option Buffer → Option Buffer → Except Fault Buffer
  | some payload, some iv, tag =>
    if iv.length < 12 then .error .undefined
    else
      match tag with
      | none => .error .exception
      | some tag =>
        if tag.length < 16 then .error .undefined
        else
          match ssl.aesGcm128Decrypt key (iv.take 12) (tag.take 16) payload with
          | none => .error .exception
          | some result =>
            if result.length ≠ payload.length then .error .exception else .ok result
  | _, _, _ => .error .exception

/-- Decoding depends on the content through three of its elements. -/
theorem decodeBlockWithAesGcm128_eq (type : Nat) (key : Buffer) :
    decodeBlockWithAesGcm128 tlv ssl ⟨type, content⟩ key =
      decodeValues ssl key (tlv.valueOf content Tlv.encryptedPayload)
        (tlv.valueOf content Tlv.initializationVector)
        (tlv.valueOf content Tlv.authenticationTag) := by
  unfold decodeBlockWithAesGcm128
  -- Without elements the code throws before it looks for any of them.
  cases parsed : tlv.parse content with
  | none =>
    simp only [Tlv.elements, parsed, Tlv.valueOf_unparsed parsed, error_bind, decodeValues]
  | some blocks =>
    simp only [Tlv.elements, parsed, ok_bind]
    -- The payload and the vector are looked for first, and the tag behind the first check.
    rcases Tlv.getBlock_cases parsed Tlv.encryptedPayload with
      ⟨absent, thrown⟩ | ⟨payload, present, found⟩
    · simp only [absent, thrown, error_bind, decodeValues]
    simp only [present, found, ok_bind]
    rcases Tlv.getBlock_cases parsed Tlv.initializationVector with
      ⟨absent, thrown⟩ | ⟨iv, present, found⟩
    · simp only [absent, thrown, error_bind, decodeValues]
    simp only [present, found, ok_bind, decodeValues]
    rcases Tlv.getBlock_cases parsed Tlv.authenticationTag with
      ⟨absent, thrown⟩ | ⟨tag, present, found⟩
    · simp only [absent, thrown, error_bind]
    -- All three are there, and both sides ask the library for the same text.
    cases opened : ssl.aesGcm128Decrypt key (iv.value.take 12) (tag.value.take 16)
        payload.value <;>
      simp only [present, found, opened, ok_bind, error_bind]

/-- The time and the name that the initiator reads from a decrypted acknowledgement. -/
def readReply (tlv : Tlv) (decrypted : Buffer) : Except Fault (Nat × Name) := do
  let decryptedBlocks ← tlv.elements ⟨Tlv.contentType, decrypted⟩
  let resultAfterBlock ← getBlock decryptedBlocks Tlv.resultAfter
  let resultAfter ← tlv.numberOf resultAfterBlock
  let resultNameBlock ← getBlock decryptedBlocks Tlv.resultName
  let resultNameValue ← tlv.blockFromValue resultNameBlock
  let resultName ← tlv.nameOf resultNameValue
  .ok (resultAfter, resultName)

/-- What the initiator makes of a peer's public key and a full salt. -/
def openReply (tlv : Tlv) (ssl : Openssl) (content ecdh peerPub salt : Buffer) :
    Except Fault AckReply :=
  match ssl.ecdhDerive ecdh peerPub with
  | none => .error .exception
  | some dhSecret => do
    let keys ← deriveKeys ssl dhSecret salt
    let decrypted ← decodeBlockWithAesGcm128 tlv ssl ⟨Tlv.contentType, content⟩ keys.aesKey
    let (resultAfter, resultName) ← readReply tlv decrypted
    .ok ⟨keys, resultAfter, resultName⟩

/-- What the initiator makes of the status, the public key and the salt that it finds. -/
def ackValues (tlv : Tlv) (ssl : Openssl) (content ecdh array : Buffer) :
    Option Buffer → Option Buffer → Option Buffer → Except Fault AckReply
  | some code, some peerPub, some salt =>
    if code ≠ asciiBytes "102" then .error .exception
    else if 32 < salt.length then .error .undefined
    else openReply tlv ssl content ecdh peerPub (salt ++ array.drop salt.length)
  | _, _, _ => .error .exception

/-- Reading an acknowledgement depends on three further elements. -/
theorem parseAckReply_eq (ecdh array : Buffer) {data : Data} (same : data.content = content) :
    parseAckReply tlv ssl ecdh array data =
      ackValues tlv ssl content ecdh array (tlv.valueOf content Tlv.status)
        (tlv.valueOf content Tlv.ecdhPub) (tlv.valueOf content Tlv.salt) := by
  -- The content element of the packet is taken apart, whatever else the packet has.
  have whole : data.getContent = ⟨Tlv.contentType, content⟩ := by
    rw [Data.getContent, same]
  unfold parseAckReply
  cases parsed : tlv.parse content with
  | none =>
    simp only [whole, Tlv.elements, parsed, Tlv.valueOf_unparsed parsed, error_bind, ackValues]
  | some blocks =>
    have elements : tlv.elements ⟨Tlv.contentType, content⟩ = .ok blocks := by
      simp only [Tlv.elements, parsed]
    simp only [whole, elements, ok_bind]
    -- The elements are looked for in this order, and each of them may be missing.
    rcases Tlv.getBlock_cases parsed Tlv.status with ⟨absent, thrown⟩ | ⟨code, present, found⟩
    · simp only [absent, thrown, error_bind, ackValues]
    simp only [present, found, ok_bind]
    by_cases accepted : code.value = asciiBytes "102"
    · simp only [accepted, ne_eq, not_true_eq_false, if_false]
      rcases Tlv.getBlock_cases parsed Tlv.ecdhPub with
        ⟨absent, thrown⟩ | ⟨peerPub, present, found⟩
      · simp only [absent, thrown, error_bind, ackValues]
      simp only [present, found, ok_bind]
      rcases Tlv.getBlock_cases parsed Tlv.salt with ⟨absent, thrown⟩ | ⟨salt, present, found⟩
      · simp only [absent, thrown, error_bind, ackValues]
      -- The salt's length is checked on both sides, and what follows is the opening of the reply.
      cases derived : ssl.ecdhDerive ecdh peerPub.value <;>
        simp only [present, found, derived, ok_bind, error_bind, ackValues, openReply, readReply,
          bind_assoc, ne_eq, not_true_eq_false, if_false]
    · -- The rejection is thrown before the other two elements are looked for.
      simp only [accepted, ne_eq, not_false_eq_true, if_true, error_bind]
      cases tlv.valueOf content Tlv.ecdhPub <;> cases tlv.valueOf content Tlv.salt <;>
        simp [ackValues, accepted]

/-- The content has a vector of twelve octets or more, and a tag of sixteen or more. -/
def HasVectorAndTag (tlv : Tlv) (content : Buffer) : Prop :=
  ∃ iv tag, tlv.valueOf content Tlv.initializationVector = some iv ∧ 12 ≤ iv.length ∧
    tlv.valueOf content Tlv.authenticationTag = some tag ∧ 16 ≤ tag.length

/-- Neither function leaves the elements of some content or the salt's array: each of them throws,
or the elements it has read are as long as it takes them to be. -/
structure StaysInside (tlv : Tlv) (ssl : Openssl) (content : Buffer) : Prop where
  decode : ∀ type key,
    decodeBlockWithAesGcm128 tlv ssl ⟨type, content⟩ key = .error .exception ∨
      (∃ result, decodeBlockWithAesGcm128 tlv ssl ⟨type, content⟩ key = .ok result) ∧
        HasVectorAndTag tlv content
  ack : ∀ (ecdh array : Buffer) (data : Data), array.length = 32 → data.content = content →
    parseAckReply tlv ssl ecdh array data = .error .exception ∨
      (∃ reply, parseAckReply tlv ssl ecdh array data = .ok reply) ∧
        (∃ salt, tlv.valueOf content Tlv.salt = some salt ∧ salt.length = 32) ∧
        HasVectorAndTag tlv content

/-- Some text of a length is what an acknowledgement encrypts: a time and a name. -/
def FitsReply (tlv : Tlv) (length : Nat) : Prop :=
  ∃ text reply, text.length = length ∧ readReply tlv text = .ok reply

/-- The vector, the tag and the salt are long enough wherever they are read, and not too long. -/
structure LengthsSuffice (tlv : Tlv) (content : Buffer) : Prop where
  /-- The vector is read behind a payload, and the tag behind the vector. -/
  vector : ∀ payload iv, tlv.valueOf content Tlv.encryptedPayload = some payload →
    tlv.valueOf content Tlv.initializationVector = some iv → 12 ≤ iv.length ∧
      ∀ tag, tlv.valueOf content Tlv.authenticationTag = some tag → 16 ≤ tag.length
  /-- The salt is read behind an accepting status and a public key. A short one does no harm where
  the payload is too short, or too long, for what should be decrypted from it. -/
  salt : ∀ peerPub salt, tlv.valueOf content Tlv.status = some (asciiBytes "102") →
    tlv.valueOf content Tlv.ecdhPub = some peerPub → tlv.valueOf content Tlv.salt = some salt →
    salt.length ≤ 32 ∧ (salt.length < 32 →
      ∀ payload iv tag, tlv.valueOf content Tlv.encryptedPayload = some payload →
        tlv.valueOf content Tlv.initializationVector = some iv →
        tlv.valueOf content Tlv.authenticationTag = some tag → ¬ FitsReply tlv payload.length)

/-- Reading a decrypted text only throws. -/
theorem readReply_onlyThrows (tlv : Tlv) (decrypted : Buffer) :
    OnlyThrows (readReply tlv decrypted) := by
  -- Each of the six readers throws where it does not return.
  unfold readReply
  refine (tlv.elements_onlyThrows _).bind fun blocks => ?_
  refine (getBlock_onlyThrows _ _).bind fun block => ?_
  refine OnlyThrows.bind ?_ fun resultAfter => ?_
  · unfold Tlv.numberOf
    split
    · exact .ok _
    · exact .throw
  refine (getBlock_onlyThrows _ _).bind fun block => ?_
  refine (tlv.blockFromValue_onlyThrows _).bind fun value => ?_
  exact (tlv.nameOf_onlyThrows _).bind fun name => .ok _

/-- The decoder throws, leaves an element that is too short, or returns a text of the payload's
length. -/
theorem decode_cases (tlv : Tlv) (ssl : Openssl) (content : Buffer) (type : Nat) (key : Buffer) :
    decodeBlockWithAesGcm128 tlv ssl ⟨type, content⟩ key = .error .exception ∨
      (decodeBlockWithAesGcm128 tlv ssl ⟨type, content⟩ key = .error .undefined ∧
        ∃ payload iv, tlv.valueOf content Tlv.encryptedPayload = some payload ∧
          tlv.valueOf content Tlv.initializationVector = some iv ∧ (iv.length < 12 ∨
            ∃ tag, tlv.valueOf content Tlv.authenticationTag = some tag ∧ tag.length < 16)) ∨
      ∃ payload result, decodeBlockWithAesGcm128 tlv ssl ⟨type, content⟩ key = .ok result ∧
        tlv.valueOf content Tlv.encryptedPayload = some payload ∧
        result.length = payload.length ∧ HasVectorAndTag tlv content := by
  -- The exits are taken in the order of the code, each with what it shows of the elements.
  rw [decodeBlockWithAesGcm128_eq]
  cases aPayload : tlv.valueOf content Tlv.encryptedPayload with
  | none => exact .inl rfl
  | some payload =>
    cases aVector : tlv.valueOf content Tlv.initializationVector with
    | none => exact .inl rfl
    | some iv =>
      by_cases shortVector : iv.length < 12
      · exact .inr (.inl ⟨by simp only [decodeValues, shortVector, if_true],
          payload, iv, rfl, rfl, .inl shortVector⟩)
      cases aTag : tlv.valueOf content Tlv.authenticationTag with
      | none => exact .inl (by simp only [decodeValues, shortVector, if_false])
      | some tag =>
        by_cases shortTag : tag.length < 16
        · exact .inr (.inl ⟨by simp only [decodeValues, shortVector, shortTag, if_true, if_false],
            payload, iv, rfl, rfl, .inr ⟨tag, rfl, shortTag⟩⟩)
        -- Only here is the library asked, and its answer compared with the payload.
        simp only [decodeValues, shortVector, shortTag, if_false]
        cases opened : ssl.aesGcm128Decrypt key (iv.take 12) (tag.take 16) payload with
        | none => exact .inl rfl
        | some result =>
          by_cases sameLength : result.length = payload.length
          · refine .inr (.inr ⟨payload, result, ?_, rfl, sameLength, iv, tag, aVector,
              not_lt.mp shortVector, aTag, not_lt.mp shortTag⟩)
            simp only [sameLength, ne_eq, not_true_eq_false, if_false]
          · exact .inl (by simp only [sameLength, ne_eq, not_false_eq_true, if_true])

/-- A vector or a tag that is too short is read beyond its end. -/
theorem decode_undefined {payload iv : Buffer}
    (aPayload : tlv.valueOf content Tlv.encryptedPayload = some payload)
    (aVector : tlv.valueOf content Tlv.initializationVector = some iv)
    (short : iv.length < 12 ∨ ∃ tag, tlv.valueOf content Tlv.authenticationTag = some tag ∧
      tag.length < 16) (ssl : Openssl) (type : Nat) (key : Buffer) :
    decodeBlockWithAesGcm128 tlv ssl ⟨type, content⟩ key = .error .undefined := by
  rw [decodeBlockWithAesGcm128_eq, aPayload, aVector]
  -- The vector is copied before the tag is looked for.
  by_cases shortVector : iv.length < 12
  · simp only [decodeValues, shortVector, if_true]
  · obtain ⟨tag, aTag, shortTag⟩ := short.resolve_left shortVector
    simp only [aTag, decodeValues, shortVector, shortTag, if_true, if_false]

namespace LengthsSuffice

/-- With elements that are long enough the decoder throws or returns. -/
theorem decode_cases (suffice : LengthsSuffice tlv content) (ssl : Openssl) (type : Nat)
    (key : Buffer) :
    decodeBlockWithAesGcm128 tlv ssl ⟨type, content⟩ key = .error .exception ∨
      ∃ payload result, decodeBlockWithAesGcm128 tlv ssl ⟨type, content⟩ key = .ok result ∧
        tlv.valueOf content Tlv.encryptedPayload = some payload ∧
        result.length = payload.length ∧ HasVectorAndTag tlv content := by
  rcases NdnMps.decode_cases tlv ssl content type key with
    thrown | ⟨-, payload, iv, aPayload, aVector, short⟩ | returned
  · exact .inl thrown
  · obtain ⟨long, tags⟩ := suffice.vector payload iv aPayload aVector
    rcases short with short | ⟨tag, aTag, short⟩
    · omega
    · have longTag := tags tag aTag
      omega
  · exact .inr returned

/-- A salt is then opened to a text that fits the payload, or there is an exception. -/
theorem openReply_cases (suffice : LengthsSuffice tlv content) (ssl : Openssl)
    (ecdh peerPub salt : Buffer) :
    openReply tlv ssl content ecdh peerPub salt = .error .exception ∨
      ∃ payload reply, openReply tlv ssl content ecdh peerPub salt = .ok reply ∧
        tlv.valueOf content Tlv.encryptedPayload = some payload ∧ FitsReply tlv payload.length ∧
        HasVectorAndTag tlv content := by
  -- Deriving and expanding the secret throw, or give keys to decrypt with.
  unfold openReply deriveKeys
  cases ssl.ecdhDerive ecdh peerPub with
  | none => exact .inl rfl
  | some dhSecret =>
    cases expanded : ssl.hkdf dhSecret salt 48 with
    | none =>
      left
      simp only [expanded, error_bind]
    | some aesAndHmac =>
      simp only [expanded, ok_bind]
      rcases suffice.decode_cases ssl Tlv.contentType (aesAndHmac.take 16) with
        thrown | ⟨payload, decrypted, returned, aPayload, sameLength, long⟩
      · left
        rw [thrown, error_bind]
      · rw [returned, ok_bind]
        -- What was decrypted is read, and has the length of the payload.
        cases read : readReply tlv decrypted with
        | error fault =>
          left
          rw [readReply_onlyThrows tlv decrypted fault read, error_bind]
        | ok reply =>
          exact .inr ⟨payload, _, rfl, aPayload, ⟨decrypted, reply, sameLength, read⟩, long⟩

/-- Neither function leaves elements whose lengths suffice, whatever the library answers. -/
theorem staysInside (suffice : LengthsSuffice tlv content) (ssl : Openssl) :
    StaysInside tlv ssl content where
  decode type key := by
    rcases suffice.decode_cases ssl type key with thrown | ⟨_, result, returned, _, _, long⟩
    · exact .inl thrown
    · exact .inr ⟨⟨result, returned⟩, long⟩
  ack ecdh array data filled same := by
    -- For the acknowledgement each missing element is an exception.
    rw [parseAckReply_eq ecdh array same]
    cases aCode : tlv.valueOf content Tlv.status with
    | none => exact .inl rfl
    | some code =>
      cases aKey : tlv.valueOf content Tlv.ecdhPub with
      | none => exact .inl rfl
      | some peerPub =>
        cases aSalt : tlv.valueOf content Tlv.salt with
        | none => exact .inl rfl
        | some salt =>
          by_cases accepted : code = asciiBytes "102"
          · obtain ⟨room, short⟩ := suffice.salt peerPub salt (accepted ▸ aCode) aKey aSalt
            simp only [ackValues, accepted, ne_eq, not_true_eq_false, if_false, not_lt.mpr room]
            rcases suffice.openReply_cases ssl ecdh peerPub (salt ++ array.drop salt.length) with
              thrown | ⟨payload, reply, returned, aPayload, fits, long⟩
            · exact .inl thrown
            · -- A reply was read, so the salt cannot be short.
              have exact : salt.length = 32 := by
                by_contra other
                obtain ⟨iv, tag, aVector, -, aTag, -⟩ := long
                exact short (by omega) payload iv tag aPayload aVector aTag fits
              exact .inr ⟨⟨reply, returned⟩, ⟨salt, rfl, exact⟩, long⟩
          · exact .inl (by simp only [ackValues, accepted, ne_eq, not_false_eq_true, if_true])

end LengthsSuffice

/-- Two texts in each other's place, and all others in their own. -/
def exchange (first second text : Buffer) : Buffer :=
  if text = first then second else if text = second then first else text

theorem exchange_exchange (first second text : Buffer) :
    exchange first second (exchange first second text) = text := by
  -- Two exchanges give back either text, and any other one was left alone twice.
  unfold exchange
  by_cases isFirst : text = first
  · simp [isFirst]
  · by_cases isSecond : text = second <;> simp [isFirst, isSecond]

theorem exchange_second (first second : Buffer) : exchange first second second = first := by
  unfold exchange
  by_cases same : second = first
  · rw [if_pos same, same]
  · rw [if_neg same, if_pos rfl]

theorem length_exchange {first second : Buffer} (same : first.length = second.length)
    (text : Buffer) : (exchange first second text).length = text.length := by
  -- Only the two texts change, and they are equally long.
  unfold exchange
  by_cases isFirst : text = first
  · rw [if_pos isFirst, isFirst, same]
  · by_cases isSecond : text = second
    · rw [if_neg isFirst, if_pos isSecond, isSecond, same]
    · rw [if_neg isFirst, if_neg isSecond]

/-- A library with one secret and one tag, which encrypts one text as another. -/
def Openssl.exchanging (text payload tag : Buffer) : Openssl where
  ecdhPublic _ := []
  ecdhDerive _ _ := some []
  hkdf _ _ length := some (List.replicate length 0)
  aesGcm128Encrypt _ _ plaintext := (exchange text payload plaintext, tag.take 16)
  aesGcm128Decrypt _ _ _ ciphertext := some (exchange text payload ciphertext)

/-- Both parties understand each other with such a library. -/
theorem Openssl.exchanging_matching {text payload tag : Buffer}
    (same : text.length = payload.length) (long : 16 ≤ tag.length) :
    (exchanging text payload tag).Matching where
  agree _ _ := ⟨[], rfl, rfl⟩
  hkdf_isSome _ _ _ := rfl
  decrypt_encrypt _ _ plaintext _ := congrArg some (exchange_exchange text payload plaintext)
  length_ciphertext _ _ plaintext := length_exchange same plaintext
  length_tag _ _ _ := by
    show (tag.take 16).length = 16
    rw [List.length_take]
    omega

/-- Where neither function leaves the elements with any library that works, their lengths
suffice. -/
theorem lengthsSuffice_of_staysInside
    (inside : ∀ ssl : Openssl, ssl.Matching → StaysInside tlv ssl content) :
    LengthsSuffice tlv content := by
  -- Any library will do where the lengths alone decide.
  have zeros : (List.replicate 16 (0 : UInt8)).length = 16 := List.length_replicate
  have plain := inside (.exchanging [] [] (List.replicate 16 0))
    (Openssl.exchanging_matching rfl zeros.ge)
  -- The decoder shows that the vector and the tag are long enough.
  have noShort : ∀ payload iv, tlv.valueOf content Tlv.encryptedPayload = some payload →
      tlv.valueOf content Tlv.initializationVector = some iv → ¬ (iv.length < 12 ∨
        ∃ tag, tlv.valueOf content Tlv.authenticationTag = some tag ∧ tag.length < 16) := by
    intro payload iv aPayload aVector short
    have left := decode_undefined aPayload aVector short
    rcases plain.decode Tlv.contentType [] with thrown | ⟨⟨result, returned⟩, -⟩
    · rw [left] at thrown
      cases thrown
    · rw [left] at returned
      cases returned
  have vector : ∀ payload iv, tlv.valueOf content Tlv.encryptedPayload = some payload →
      tlv.valueOf content Tlv.initializationVector = some iv → 12 ≤ iv.length ∧
        ∀ tag, tlv.valueOf content Tlv.authenticationTag = some tag → 16 ≤ tag.length := by
    intro payload iv aPayload aVector
    refine ⟨?_, fun tag aTag => ?_⟩
    · by_contra short
      exact noShort payload iv aPayload aVector (.inl (not_le.mp short))
    · by_contra short
      exact noShort payload iv aPayload aVector (.inr ⟨tag, aTag, not_le.mp short⟩)
  -- The initiator reads the acknowledgement into an array of zeros.
  let data : Data := { Data.ofName .root with content }
  have array : (List.replicate 32 (0 : UInt8)).length = 32 := List.length_replicate
  refine ⟨vector, fun peerPub salt aCode aKey aSalt => ⟨?_, ?_⟩⟩
  · -- A salt that is too long is copied before anything else is asked for.
    by_contra long
    have left : parseAckReply tlv (.exchanging [] [] (List.replicate 16 0)) []
        (List.replicate 32 0) data = .error .undefined := by
      rw [parseAckReply_eq _ _ rfl, aCode, aKey, aSalt]
      simp only [ackValues, ne_eq, not_true_eq_false, if_false, not_le.mp long, if_true]
    rcases plain.ack [] _ data array rfl with thrown | ⟨⟨reply, returned⟩, -⟩
    · rw [left] at thrown
      cases thrown
    · rw [left] at returned
      cases returned
  · -- A library that decrypts the payload to a reply makes the initiator accept a short salt.
    intro short payload iv tag aPayload aVector aTag fits
    obtain ⟨text, reply, sameLength, read⟩ := fits
    obtain ⟨longVector, tags⟩ := vector payload iv aPayload aVector
    have longTag := tags tag aTag
    have opened : ∀ key, decodeBlockWithAesGcm128 tlv (.exchanging text payload tag)
        ⟨Tlv.contentType, content⟩ key = .ok text := by
      intro key
      rw [decodeBlockWithAesGcm128_eq, aPayload, aVector, aTag]
      simp only [decodeValues, Openssl.exchanging, exchange_second, sameLength, ne_eq,
        not_true_eq_false, if_false, not_lt.mpr longVector, not_lt.mpr longTag]
    have accepted : ∃ result, parseAckReply tlv (.exchanging text payload tag) []
        (List.replicate 32 0) data = .ok result := by
      rw [parseAckReply_eq _ _ rfl, aCode, aKey, aSalt]
      have room : ¬ 32 < salt.length := by omega
      have derived : (Openssl.exchanging text payload tag).ecdhDerive [] peerPub = some [] := rfl
      have expanded : ∀ array, deriveKeys (.exchanging text payload tag) [] array =
          .ok ⟨(List.replicate 48 0).take 16, (List.replicate 48 0).drop 16⟩ := fun _ => rfl
      simp only [ackValues, openReply, derived, expanded, ok_bind, room, ne_eq,
        not_true_eq_false, if_false]
      rw [opened, ok_bind, read]
      exact ⟨_, rfl⟩
    obtain ⟨result, accepted⟩ := accepted
    -- The initiator accepts, and so the salt it read should have been a full one.
    rcases (inside _ (Openssl.exchanging_matching sameLength longTag)).ack [] _ data array rfl with
      thrown | ⟨-, ⟨other, found, exact⟩, -⟩
    · rw [accepted] at thrown
      cases thrown
    · rw [aSalt] at found
      cases found
      omega

/-- Neither function leaves the elements of some content, whatever the library answers, exactly when
their lengths suffice, and to consider the libraries that work is enough. -/
theorem staysInside_iff (tlv : Tlv) (content : Buffer) :
    ((∀ ssl : Openssl, StaysInside tlv ssl content) ↔ LengthsSuffice tlv content) ∧
      ((∀ ssl : Openssl, ssl.Matching → StaysInside tlv ssl content) ↔
        LengthsSuffice tlv content) := by
  refine ⟨⟨fun inside => ?_, fun suffice => suffice.staysInside⟩,
    ⟨lengthsSuffice_of_staysInside, fun suffice ssl _ => suffice.staysInside ssl⟩⟩
  exact lengthsSuffice_of_staysInside fun ssl _ => inside ssl

namespace Reference

/-- Encrypted elements of which the vector is one octet short. -/
def shortVector : Buffer :=
  PacketFormat.encode [⟨Tlv.initializationVector, List.replicate 11 0⟩,
    ⟨Tlv.authenticationTag, List.replicate 16 0⟩, ⟨Tlv.encryptedPayload, []⟩]

/-- An accepting acknowledgement whose salt is one octet longer than its array. -/
def longSalt : Buffer :=
  PacketFormat.encode [⟨Tlv.status, asciiBytes "102"⟩, ⟨Tlv.ecdhPub, []⟩,
    ⟨Tlv.salt, List.replicate 33 0⟩]

end Reference

open Reference in
/-- The vector is read beyond its end, and the salt is written beyond its array. -/
theorem not_staysInside :
    (∀ key, decodeBlockWithAesGcm128 libraries.tlv libraries.ssl
        ⟨Tlv.contentType, shortVector⟩ key = .error .undefined) ∧
      ¬ StaysInside libraries.tlv libraries.ssl shortVector ∧
      (∀ ecdh array, parseAckReply libraries.tlv libraries.ssl ecdh array
        { Data.ofName .root with content := longSalt } = .error .undefined) ∧
      ¬ StaysInside libraries.tlv libraries.ssl longSalt := by
  -- Both runs are evaluated up to the check that fails, whatever the keys are.
  have beyond : ∀ key, decodeBlockWithAesGcm128 libraries.tlv libraries.ssl
      ⟨Tlv.contentType, shortVector⟩ key = .error .undefined := fun _ => rfl
  have overrun : ∀ ecdh array, parseAckReply libraries.tlv libraries.ssl ecdh array
      { Data.ofName .root with content := longSalt } = .error .undefined := fun _ _ => rfl
  refine ⟨beyond, fun inside => ?_, overrun, fun inside => ?_⟩
  · -- Undefined behaviour is neither an exception nor an answer.
    rcases inside.decode Tlv.contentType [] with thrown | ⟨⟨result, returned⟩, -⟩
    · rw [beyond] at thrown
      cases thrown
    · rw [beyond] at returned
      cases returned
  · rcases inside.ack [] (List.replicate 32 0) { Data.ofName .root with content := longSalt }
      (by decide) rfl with thrown | ⟨⟨reply, returned⟩, -⟩
    · rw [overrun] at thrown
      cases thrown
    · rw [overrun] at returned
      cases returned

end NdnMps
