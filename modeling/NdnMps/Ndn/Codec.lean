import NdnMps.Data.Octets
import NdnMps.Ndn.Packet

/-! The NDN packet format, as an instance of the encoders and decoders the library relies on. -/

namespace NdnMps

namespace PacketFormat

/-! TLV-TYPE numbers inside a Data packet. -/

def metaInfoType : Nat := 20
def signatureInfoType : Nat := 22
def signatureValueType : Nat := 23
def contentTypeType : Nat := 24
def freshnessPeriodType : Nat := 25
def finalBlockType : Nat := 26
def signatureTypeType : Nat := 27
def keyLocatorType : Nat := 28
def keyDigestType : Nat := 29

/-- TLV-TYPE of a version component. -/
def versionComponentType : Nat := 35

/-- Type, length and value. -/
def encodeBlock (block : Block) : Buffer :=
  Octets.encode block.type ++ (Octets.encode block.value.length ++ block.value)

/-- The encodings of some elements one after the other. -/
def encode (blocks : List Block) : Buffer := blocks.flatMap encodeBlock

/-- At most so many elements, filling the octets. -/
def parseWithin : Nat → Buffer → Option (List Block)
  | _, [] => some []
  | 0, _ :: _ => none
  | fuel + 1, buffer => do
    let (type, rest) ← Octets.decode buffer
    let (length, rest) ← Octets.decode rest
    if rest.length < length then none
    else
      let others ← parseWithin fuel (rest.drop length)
      some (⟨type, rest.take length⟩ :: others)

/-- The elements that fill the octets. -/
def parse (buffer : Buffer) : Option (List Block) := parseWithin buffer.length buffer

/-- Reading with enough fuel is reading element by element to the end. -/
theorem parseWithin_eq (fuel : Nat) (buffer : Buffer) (enough : buffer.length ≤ fuel) :
    parseWithin fuel buffer =
      (Octets.varNumber.parseAll buffer).map (List.map fun element => ⟨element.1, element.2⟩) := by
  -- Induction on the fuel, of which every element takes one unit and at least one octet.
  induction fuel generalizing buffer with
  | zero =>
    have empty : buffer = [] := List.length_eq_zero_iff.mp (Nat.le_zero.mp enough)
    rw [empty]
    simp [parseWithin]
  | succ fuel ih =>
    cases buffer with
    | nil => simp [parseWithin]
    | cons first rest =>
      rw [Octets.varNumber.parseAll_of_ne_nil (List.cons_ne_nil _ _)]
      have read : ∀ octets, Octets.varNumber.decode octets = Octets.decode octets := fun _ => rfl
      -- The type and the length are read in the same way, and decide together what is left.
      cases head : Octets.decode (first :: rest) with
      | none => simp [parseWithin, NumberCode.takeElement, read, head]
      | some type =>
        cases next : Octets.decode type.2 with
        | none => simp [parseWithin, NumberCode.takeElement, read, head, next]
        | some length =>
          by_cases short : length.2.length < length.1
          · simp [parseWithin, NumberCode.takeElement, read, head, next, short]
          · have shorter := Octets.length_decode head
            have shorterStill := Octets.length_decode next
            have others := ih (length.2.drop length.1) (by rw [List.length_drop]; omega)
            -- The rest is read by the induction, and both sides put the element in front.
            cases tail : Octets.varNumber.parseAll (length.2.drop length.1) with
            | none =>
              rw [tail] at others
              simp [parseWithin, NumberCode.takeElement, read, head, next, short, others, tail]
            | some elements =>
              rw [tail] at others
              simp [parseWithin, NumberCode.takeElement, read, head, next, short, others, tail]

/-- The octets are read as a sequence of elements over the code for numbers. -/
theorem parse_eq (buffer : Buffer) :
    parse buffer =
      (Octets.varNumber.parseAll buffer).map (List.map fun element => ⟨element.1, element.2⟩) :=
  parseWithin_eq buffer.length buffer (Nat.le_refl _)

/-- The octets are written as such a sequence. -/
theorem encode_eq (blocks : List Block) :
    encode blocks =
      Octets.varNumber.encodeAll (blocks.map fun block => (block.type, block.value)) := by
  rw [NumberCode.encodeAll, List.flatMap_map]
  rfl

@[simp] theorem parse_encode (blocks : List Block) : parse (encode blocks) = some blocks := by
  -- A block is an element of the sequence under the names of its fields.
  rw [parse_eq, encode_eq, Octets.varNumber.parseAll_encodeAll, Option.map_some, List.map_map]
  exact congrArg some (List.map_id blocks)

/-- One, two, four or eight octets, and more for the numbers no packet has. -/
def encodeNumber (number : Nat) : Buffer :=
  if number < 256 then Octets.big 1 number
  else if number < 256 ^ 2 then Octets.big 2 number
  else if number < 256 ^ 4 then Octets.big 4 number
  else if number < 256 ^ 8 then Octets.big 8 number
  else Octets.big (number + 9) number

/-- The number in some octets of an admitted length. -/
def readNumber (octets : Buffer) : Option Nat :=
  if octets.length ∈ [1, 2, 4, 8] ∨ 9 ≤ octets.length then some (Octets.value octets) else none

@[simp] theorem readNumber_encodeNumber (number : Nat) :
    readNumber (encodeNumber number) = some number := by
  -- Each branch writes an admitted number of octets that the number fits.
  have exact : ∀ width, width ∈ [1, 2, 4, 8] ∨ 9 ≤ width → number < 256 ^ width →
      readNumber (Octets.big width number) = some number := by
    intro width admitted fits
    rw [readNumber, Octets.length_big, if_pos admitted, Octets.value_big_of_lt fits]
  unfold encodeNumber
  split_ifs with one two four eight
  · exact exact 1 (by decide) (by omega)
  · exact exact 2 (by decide) two
  · exact exact 4 (by decide) four
  · exact exact 8 (by decide) eight
  · have fits : number < 256 ^ (number + 9) :=
      (Nat.lt_pow_self (by decide)).trans_le (Nat.pow_le_pow_right (by decide) (by omega))
    exact exact (number + 9) (.inr (by omega)) fits

/-- A name is the element of its components. -/
def encodeName (name : Name) : Block :=
  ⟨Tlv.nameType, encode (name.components.map fun component => ⟨component.type, component.value⟩)⟩

/-- The name in a name element. -/
def decodeName (block : Block) : Option Name :=
  if block.type ≠ Tlv.nameType then none
  else (parse block.value).map fun blocks => ⟨blocks.map fun inner => ⟨inner.type, inner.value⟩⟩

@[simp] theorem decodeName_encodeName (name : Name) :
    decodeName (encodeName name) = some name := by
  simp [decodeName, encodeName, Function.comp_def]

/-- The digits of an octet. -/
def hexOctet (octet : UInt8) : List Char :=
  [Nat.digitChar (octet.toNat / 16), Nat.digitChar (octet.toNat % 16)].map Char.toUpper

/-- An octet in a URI: itself where it is unreserved, and escaped otherwise. -/
def escapeOctet (octet : UInt8) : List Char :=
  let char := Char.ofNat octet.toNat
  if char.isAlphanum || char ∈ ['-', '.', '_', '~'] then [char] else '%' :: hexOctet octet

/-- A component in a URI. -/
def componentUri (component : Component) : String :=
  let escaped := component.value.flatMap escapeOctet
  let text := if escaped.all (· == '.') then "..." ++ String.ofList escaped
    else String.ofList escaped
  if component.type = Component.genericType then text
  else if component.type = Component.parametersDigestType then
    "params-sha256=" ++ String.ofList (component.value.flatMap hexOctet)
  else toString component.type ++ "=" ++ text

/-- `Name::toUri`. -/
def toUri (name : Name) : String :=
  if name.empty then "/"
  else String.join (name.components.map fun component => "/" ++ componentUri component)

/-- The metadata element, whose defaults are left out. -/
def encodeMetaInfo (metaInfo : MetaInfo) : Block :=
  ⟨metaInfoType, encode (
    (if metaInfo.contentType = 0 then []
      else [⟨contentTypeType, encodeNumber metaInfo.contentType⟩]) ++
    ((if metaInfo.freshnessPeriod = 0 then []
      else [⟨freshnessPeriodType, encodeNumber metaInfo.freshnessPeriod⟩]) ++
    (match metaInfo.finalBlock with
      | none => []
      | some component =>
        [⟨finalBlockType, encode [⟨component.type, component.value⟩]⟩])))⟩

/-- An optional number in front of some elements. -/
def takeNumber (type : Nat) : List Block → Nat × List Block
  | [] => (0, [])
  | block :: rest =>
    if block.type = type then ((readNumber block.value).getD 0, rest) else (0, block :: rest)

/-- The metadata in its element. -/
def decodeMetaInfo (block : Block) : Option MetaInfo := do
  let blocks ← parse block.value
  let (contentType, blocks) := takeNumber contentTypeType blocks
  let (freshnessPeriod, blocks) := takeNumber freshnessPeriodType blocks
  match blocks with
  | [] => some ⟨contentType, freshnessPeriod, none⟩
  | final :: _ =>
    match parse final.value with
    | some [component] =>
      some ⟨contentType, freshnessPeriod, some ⟨component.type, component.value⟩⟩
    | _ => none

@[simp] theorem decodeMetaInfo_encodeMetaInfo (metaInfo : MetaInfo) :
    decodeMetaInfo (encodeMetaInfo metaInfo) = some metaInfo := by
  -- Each of the three fields is either left out or written.
  obtain ⟨contentType, freshnessPeriod, finalBlock⟩ := metaInfo
  cases finalBlock <;> by_cases noType : contentType = 0 <;>
    by_cases noPeriod : freshnessPeriod = 0 <;>
    simp [decodeMetaInfo, encodeMetaInfo, takeNumber, noType, noPeriod, contentTypeType,
      freshnessPeriodType, finalBlockType]

/-- The element of a key locator. -/
def encodeKeyLocator : KeyLocator → Block
  | .name name => ⟨keyLocatorType, encode [encodeName name]⟩
  | .digest value => ⟨keyLocatorType, encode [⟨keyDigestType, value⟩]⟩

/-- The key locator in its element. -/
def decodeKeyLocator (block : Block) : Option KeyLocator := do
  match ← parse block.value with
  | [inner] =>
    if inner.type = keyDigestType then some (.digest inner.value)
    else (decodeName inner).map .name
  | _ => none

@[simp] theorem decodeKeyLocator_encodeKeyLocator (locator : KeyLocator) :
    decodeKeyLocator (encodeKeyLocator locator) = some locator := by
  -- The type of the block inside tells a name from a key digest.
  cases locator with
  | name name =>
    have type : (encodeName name).type ≠ keyDigestType := by
      show (7 : Nat) ≠ 29
      decide
    simp [decodeKeyLocator, encodeKeyLocator, type]
  | digest value => simp [decodeKeyLocator, encodeKeyLocator]

/-- The signature information element. -/
def encodeSignatureInfo (info : SignatureInfo) : Block :=
  ⟨signatureInfoType, encode (⟨signatureTypeType, encodeNumber info.signatureType⟩ ::
    (match info.keyLocator with
      | none => []
      | some locator => [encodeKeyLocator locator]))⟩

/-- The signature information in its element. -/
def decodeSignatureInfo (block : Block) : Option SignatureInfo := do
  match ← parse block.value with
  | [type] => some ⟨← readNumber type.value, none⟩
  | [type, locator] => some ⟨← readNumber type.value, some (← decodeKeyLocator locator)⟩
  | _ => none

@[simp] theorem decodeSignatureInfo_encodeSignatureInfo (info : SignatureInfo) :
    decodeSignatureInfo (encodeSignatureInfo info) = some info := by
  obtain ⟨signatureType, keyLocator⟩ := info
  cases keyLocator <;> simp [decodeSignatureInfo, encodeSignatureInfo]

/-- The elements a signature covers. -/
def unsignedBlocks (name : Name) (metaInfo : MetaInfo) (content : Buffer)
    (signatureInfo : Option SignatureInfo) : List Block :=
  [encodeName name, encodeMetaInfo metaInfo, ⟨Tlv.contentType, content⟩] ++
    (signatureInfo.map encodeSignatureInfo).toList

/-- A Data packet. -/
def encodeData (data : Data) : Block :=
  ⟨Tlv.dataType, encode (
    unsignedBlocks data.name data.metaInfo data.content data.signatureInfo ++
      (data.signatureValue.map (Block.mk signatureValueType)).toList)⟩

/-- The packet in a Data element. -/
def decodeData (block : Block) : Option Data := do
  if block.type ≠ Tlv.dataType then none
  else
    match ← parse block.value with
    | [name, metaInfo, content, info, signature] =>
      some ⟨← decodeName name, ← decodeMetaInfo metaInfo, content.value,
        some (← decodeSignatureInfo info), some signature.value⟩
    | _ => none

theorem decodeData_encodeData (data : Data) (hasInfo : data.signatureInfo.isSome)
    (hasValue : data.signatureValue.isSome) : decodeData (encodeData data) = some data := by
  -- Both parts of the signature are there, so the blocks of the packet are all written.
  obtain ⟨name, metaInfo, content, signatureInfo, signatureValue⟩ := data
  obtain ⟨info, rfl⟩ := Option.isSome_iff_exists.mp hasInfo
  obtain ⟨value, rfl⟩ := Option.isSome_iff_exists.mp hasValue
  simp [decodeData, encodeData, unsignedBlocks]

/-- The octets a signature covers. -/
def encodeUnsignedPortion (name : Name) (metaInfo : MetaInfo) (content : Buffer)
    (signatureInfo : Option SignatureInfo) : Buffer :=
  encode (unsignedBlocks name metaInfo content signatureInfo)

/-- The encoders and decoders of the packet format. -/
def tlv : Tlv where
  encode := encode
  parse := parse
  fromNumber number := ⟨Component.genericType, encodeNumber number⟩
  fromVersion number := ⟨versionComponentType, encodeNumber number⟩
  encodeName := encodeName
  decodeName := decodeName
  toUri := toUri
  encodeNumber := encodeNumber
  readNumber := readNumber
  encodeData := encodeData
  decodeData := decodeData
  encodeUnsignedPortion := encodeUnsignedPortion
  encodeSignedPortion name metaInfo content info :=
    encodeUnsignedPortion name metaInfo content (some info)
  -- A digest in the name goes with parameters, and these with a digest.
  encodesInterest interest :=
    interest.applicationParameters.isSome == decide (interest.name.digests = 1)

/-- What the packet format encodes it decodes. -/
theorem tlv_lossless : tlv.Lossless where
  parse_encode := parse_encode
  decodeName_encodeName := decodeName_encodeName
  readNumber_encodeNumber := readNumber_encodeNumber
  decodeData_encodeData := decodeData_encodeData
  type_encodeData _ := rfl
  encodeSignedPortion_eq _ _ _ _ := rfl
  fromVersion_plain _ := rfl
  fromNumber_plain _ := rfl

end PacketFormat

end NdnMps
