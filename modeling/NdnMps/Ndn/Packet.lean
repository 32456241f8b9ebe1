import NdnMps.Ndn.Name

/-! TLV blocks and the Data and Interest packets built from them. -/

namespace NdnMps

/-- A TLV element on the wire. -/
structure Block where
  /-- TLV-TYPE. -/
  type : Nat
  /-- TLV-VALUE. -/
  value : Buffer
  deriving DecidableEq, Repr

/-- A run that may stop before returning. -/
inductive Fault where
  /-- A C++ exception that the caller may catch. -/
  | exception
  /-- An access outside an object, after which the program has no defined behaviour. -/
  | undefined
  deriving DecidableEq, Repr

/-- A run that stops with an exception where it does not return. -/
def OnlyThrows {α : Type} (run : Except Fault α) : Prop :=
  ∀ fault, run = .error fault → fault = .exception

namespace OnlyThrows

variable {α β : Type}

theorem ok (value : α) : OnlyThrows (.ok value) := fun _ failed => nomatch failed

theorem throw : OnlyThrows (.error .exception : Except Fault α) :=
  fun _ failed => (Except.error.inj failed).symm

/-- A run that goes on after another one throws only where both do. -/
theorem bind {run : Except Fault α} {next : α → Except Fault β} (first : OnlyThrows run)
    (rest : ∀ value, OnlyThrows (next value)) : OnlyThrows (run >>= next) := by
  intro fault failed
  cases run with
  | error earlier => exact Except.error.inj failed ▸ first earlier rfl
  | ok value => exact rest value fault failed

end OnlyThrows

namespace Tlv

/-! TLV-TYPE numbers of NDN packets. -/

def dataType : Nat := 6
def nameType : Nat := 7
def contentType : Nat := 21
def applicationParametersType : Nat := 36

/-! Custom TLV-TYPE numbers of the multi-signature protocol. -/

def ecdhPub : Nat := 145
def salt : Nat := 149
def initializationVector : Nat := 157
def encryptedPayload : Nat := 159
def authenticationTag : Nat := 175
def mpsSignerList : Nat := 200
def status : Nat := 203
def parameterDataName : Nat := 205
def resultAfter : Nat := 209
def resultName : Nat := 211
def blsSigValue : Nat := 213

/-- SignatureType of an aggregated or single BLS signature. -/
def signatureSha256WithBls : Nat := 64

end Tlv

/-- The HTTP-like reply status of the protocol. -/
inductive ReplyCode where
  | processing
  | ok
  | badRequest
  | unauthorized
  | notFound
  | failedDependency
  | internalError
  | unavailable
  deriving DecidableEq, Repr

/-- The number carried by a reply status. -/
def ReplyCode.toNat : ReplyCode → Nat
  | .processing => 102
  | .ok => 200
  | .badRequest => 400
  | .unauthorized => 401
  | .notFound => 404
  | .failedDependency => 424
  | .internalError => 500
  | .unavailable => 503

/-- The decimal text of a reply status. -/
def ReplyCode.text (code : ReplyCode) : Buffer := asciiBytes (toString code.toNat)

/-- What identifies the key behind a signature. -/
inductive KeyLocator where
  | name (name : Name)
  | digest (value : Buffer)
  deriving DecidableEq, Repr

/-- Signature type and key locator of a signed packet. -/
structure SignatureInfo where
  signatureType : Nat
  keyLocator : Option KeyLocator
  deriving DecidableEq, Repr

/-- Metadata of a Data packet. -/
structure MetaInfo where
  contentType : Nat
  freshnessPeriod : Nat
  finalBlock : Option Component
  deriving DecidableEq, Repr

/-- Metadata of a Data packet nobody set. -/
def MetaInfo.default : MetaInfo := ⟨0, 0, none⟩

/-- A Data packet, signed or not. -/
structure Data where
  name : Name
  metaInfo : MetaInfo
  /-- TLV-VALUE of the Content element. -/
  content : Buffer
  signatureInfo : Option SignatureInfo
  signatureValue : Option Buffer
  deriving DecidableEq, Repr

namespace Data

/-- A fresh packet of a given name. -/
def ofName (name : Name) : Data := ⟨name, .default, [], none, none⟩

/-- `Data::getContent`. -/
def getContent (data : Data) : Block := ⟨Tlv.contentType, data.content⟩

/-- The name in the key locator, or an exception where there is none. -/
def keyLocatorName (data : Data) : Except Fault Name :=
  match data.signatureInfo with
  | some ⟨_, some (.name name)⟩ => .ok name
  | _ => .error .exception

end Data

/-- An Interest packet. -/
structure Interest where
  name : Name
  applicationParameters : Option Block
  canBePrefix : Bool
  mustBeFresh : Bool
  lifetime : Option Nat
  signature : Option (SignatureInfo × Buffer)
  deriving DecidableEq, Repr

/-- `Interest(name)`: a fresh Interest, or an exception where the name has several digests. -/
def Interest.ofName (name : Name) : Except Fault Interest :=
  if 1 < name.digests then .error .exception else .ok ⟨name, none, false, false, none, none⟩

/-- An Interest is made of a name with one digest at most. -/
theorem Interest.ofName_eq_ok_iff {name : Name} {interest : Interest} :
    ofName name = .ok interest ↔
      name.digests ≤ 1 ∧ interest = ⟨name, none, false, false, none, none⟩ := by
  unfold ofName
  split
  · exact iff_of_false (by simp) (by omega)
  · simp only [Except.ok.injEq]
    exact ⟨fun same => ⟨by omega, same.symm⟩, fun parts => parts.2.symm⟩

/-- `Interest::matchesData`, for Interests that do not name the digest of a packet. -/
def Interest.matchesData (interest : Interest) (data : Data) : Bool :=
  if interest.canBePrefix then interest.name.isPrefixOf data.name
  else decide (interest.name = data.name)

/-- A packet of the very name asked for is a match. -/
theorem Interest.matchesData_of_name {interest : Interest} {data : Data}
    (same : data.name = interest.name) : interest.matchesData data = true := by
  simp [matchesData, same]

/-- Encoders and decoders of the packet library, given by their results. -/
structure Tlv where
  /-- The concatenated encodings of some elements. -/
  encode : List Block → Buffer
  /-- `Block::parse`: the elements of a TLV-VALUE, unless it is malformed. -/
  parse : Buffer → Option (List Block)
  /-- `Component::fromNumber`. -/
  fromNumber : Nat → Component
  /-- `Component::fromVersion`. -/
  fromVersion : Nat → Component
  /-- `Name::wireEncode`. -/
  encodeName : Name → Block
  /-- `Name::wireDecode`, unless the element is not a name. -/
  decodeName : Block → Option Name
  /-- `Name::toUri`. -/
  toUri : Name → String
  /-- The octets of a non-negative integer. -/
  encodeNumber : Nat → Buffer
  /-- `readNonNegativeInteger`, unless the octets are not one. -/
  readNumber : Buffer → Option Nat
  /-- `Data::wireEncode`. -/
  encodeData : Data → Block
  /-- `Data::wireDecode`, unless the element is not a Data packet. -/
  decodeData : Block → Option Data
  /-- `Data::wireEncode` restricted to the unsigned portion. -/
  encodeUnsignedPortion : Name → MetaInfo → Buffer → Option SignatureInfo → Buffer
  /-- The octets of `Data::wireEncode` in front of the signature value. -/
  encodeSignedPortion : Name → MetaInfo → Buffer → SignatureInfo → Buffer
  /-- Whether `Interest::wireEncode` returns, rather than throws. -/
  encodesInterest : Interest → Bool

namespace Tlv

variable (tlv : Tlv)

/-- Decoding gives back what was encoded. -/
structure Lossless : Prop where
  parse_encode : ∀ blocks, tlv.parse (tlv.encode blocks) = some blocks
  decodeName_encodeName : ∀ name, tlv.decodeName (tlv.encodeName name) = some name
  readNumber_encodeNumber : ∀ number, tlv.readNumber (tlv.encodeNumber number) = some number
  decodeData_encodeData : ∀ data, data.signatureInfo.isSome → data.signatureValue.isSome →
    tlv.decodeData (tlv.encodeData data) = some data
  type_encodeData : ∀ data, (tlv.encodeData data).type = Tlv.dataType
  /-- The octets a verifier reads are the portion a signer encodes. -/
  encodeSignedPortion_eq : ∀ name metaInfo content info,
    tlv.encodeSignedPortion name metaInfo content info =
      tlv.encodeUnsignedPortion name metaInfo content (some info)
  /-- No version is a digest of parameters. -/
  fromVersion_plain : ∀ version, (tlv.fromVersion version).isParametersDigest = false
  /-- No number is one. -/
  fromNumber_plain : ∀ number, (tlv.fromNumber number).isParametersDigest = false

/-- The concatenation of `Data::extractSignedRanges`; a packet without signature information has no
encoding, and the exception says so. -/
def extractSignedRanges (data : Data) : Except Fault Buffer :=
  match data.signatureInfo with
  | none => .error .exception
  | some info => .ok (tlv.encodeSignedPortion data.name data.metaInfo data.content info)

/-- An element holding further elements. -/
def nested (type : Nat) (blocks : List Block) : Block := ⟨type, tlv.encode blocks⟩

/-- `makeNestedBlock` around a name. -/
def nestedName (type : Nat) (name : Name) : Block := tlv.nested type [tlv.encodeName name]

/-- `Block::parse`, with an exception on a malformed value. -/
def elements (block : Block) : Except Fault (List Block) :=
  match tlv.parse block.value with
  | some blocks => .ok blocks
  | none => .error .exception

/-- `Block::blockFromValue`: the one element that fills the value. -/
def blockFromValue (block : Block) : Except Fault Block :=
  match tlv.parse block.value with
  | some [inner] => .ok inner
  | _ => .error .exception

/-- A name decoded from an element, with an exception on anything else. -/
def nameOf (block : Block) : Except Fault Name :=
  match tlv.decodeName block with
  | some name => .ok name
  | none => .error .exception

theorem elements_onlyThrows (block : Block) : OnlyThrows (tlv.elements block) := by
  unfold elements
  split
  · exact .ok _
  · exact .throw

theorem blockFromValue_onlyThrows (block : Block) : OnlyThrows (tlv.blockFromValue block) := by
  unfold blockFromValue
  split
  · exact .ok _
  · exact .throw

theorem nameOf_onlyThrows (block : Block) : OnlyThrows (tlv.nameOf block) := by
  unfold nameOf
  split
  · exact .ok _
  · exact .throw

/-- `readNonNegativeInteger`, with an exception on anything else. -/
def numberOf (block : Block) : Except Fault Nat :=
  match tlv.readNumber block.value with
  | some number => .ok number
  | none => .error .exception

/-- A Data packet decoded from an element, with an exception on anything else. -/
def dataOf (block : Block) : Except Fault Data :=
  match tlv.decodeData block with
  | some data => .ok data
  | none => .error .exception

/-- An Interest without parameters that is made for a name and expressed, or the exception of its
constructor or its encoder. -/
def expressInterest (name : Name) (lifetime : Option Nat) : Except Fault Interest :=
  match Interest.ofName name with
  | .error fault => .error fault
  | .ok interest =>
    let interest := { interest with canBePrefix := true, mustBeFresh := true, lifetime }
    if tlv.encodesInterest interest then .ok interest else .error .exception

/-- An Interest can have the name, and can be encoded without parameters. -/
def Expressible (name : Name) (lifetime : Option Nat) : Prop :=
  name.digests ≤ 1 ∧ tlv.encodesInterest ⟨name, none, true, true, lifetime, none⟩ = true

/-- An Interest is expressed for exactly such a name. -/
theorem expressInterest_eq_ok_iff {name : Name} {lifetime : Option Nat} {interest : Interest} :
    tlv.expressInterest name lifetime = .ok interest ↔
      tlv.Expressible name lifetime ∧ interest = ⟨name, none, true, true, lifetime, none⟩ := by
  -- Either of two exceptions may be thrown on the way.
  unfold expressInterest Expressible
  cases made : Interest.ofName name with
  | error fault =>
    refine iff_of_false (by simp) fun parts => ?_
    rw [Interest.ofName_eq_ok_iff.mpr ⟨parts.1.1, rfl⟩] at made
    cases made
  | ok fresh =>
    obtain ⟨few, rfl⟩ := Interest.ofName_eq_ok_iff.mp made
    by_cases encoded : tlv.encodesInterest ⟨name, none, true, true, lifetime, none⟩ = true
    · simp only [few, encoded, if_true, true_and, Except.ok.injEq]
      exact eq_comm
    · simp [encoded]

end Tlv

/-- `Block::get`: the first element of a type, or an exception. -/
def getBlock (blocks : List Block) (type : Nat) : Except Fault Block :=
  match blocks.find? (fun block => block.type == type) with
  | some block => .ok block
  | none => .error .exception

theorem getBlock_onlyThrows (blocks : List Block) (type : Nat) :
    OnlyThrows (getBlock blocks type) := by
  unfold getBlock
  split
  · exact .ok _
  · exact .throw

/-- `Data::setContent`: a Content element is taken as it is, any other one is wrapped. -/
def Data.setContent (tlv : Tlv) (data : Data) (block : Block) : Data :=
  { data with content :=
      if block.type = Tlv.contentType then block.value else tlv.encode [block] }

/-- The octets a signature of the packet covers. -/
def Data.unsignedPortion (tlv : Tlv) (data : Data) : Buffer :=
  tlv.encodeUnsignedPortion data.name data.metaInfo data.content data.signatureInfo

/-- Where a packet has signature information, the octets a verifier reads are what it signs. -/
theorem Tlv.Lossless.extractSignedRanges_eq {tlv : Tlv} (lossless : tlv.Lossless) {data : Data}
    (hasInfo : data.signatureInfo.isSome = true) :
    tlv.extractSignedRanges data = .ok (data.unsignedPortion tlv) := by
  obtain ⟨info, present⟩ := Option.isSome_iff_exists.mp hasInfo
  simp only [extractSignedRanges, Data.unsignedPortion, present, lossless.encodeSignedPortion_eq]

/-- An element under construction: pushing drops the encoding, which only `encode` restores. -/
structure BlockBuilder where
  type : Nat
  pushed : List Block
  /-- The encoded value, absent until `encode` runs. -/
  encoded : Option Buffer

namespace BlockBuilder

/-- An element without content. -/
def ofType (type : Nat) : BlockBuilder := ⟨type, [], none⟩

/-- `Block::push_back`. -/
def pushBack (builder : BlockBuilder) (block : Block) : BlockBuilder :=
  { builder with pushed := builder.pushed ++ [block], encoded := none }

/-- `Block::encode`. -/
def encode (tlv : Tlv) (builder : BlockBuilder) : BlockBuilder :=
  { builder with encoded := some (tlv.encode builder.pushed) }

/-- What a packet carries: the encoded value, or nothing at all where it is missing. -/
def wire (builder : BlockBuilder) : Block := ⟨builder.type, builder.encoded.getD []⟩

end BlockBuilder

end NdnMps
