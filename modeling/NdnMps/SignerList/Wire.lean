import NdnMps.Data.Traversal
import NdnMps.Ndn.Codec
import NdnMps.SignerList

/-! Signer lists as octets: what comes back, and which elements are accepted. -/

namespace NdnMps

/-- The elements on the wire are types, lengths and values over one code for numbers. -/
structure Tlv.WritesElements (tlv : Tlv) (code : NumberCode UInt8) : Prop where
  encode_eq : ∀ blocks : List Block,
    tlv.encode blocks = code.encodeAll (blocks.map fun block => (block.type, block.value))
  parse_eq : ∀ buffer : Buffer,
    tlv.parse buffer = (code.parseAll buffer).map (List.map fun element => ⟨element.1, element.2⟩)

/-- The elements that are written are the ones that are read. -/
theorem Tlv.WritesElements.parse_encode {tlv : Tlv} {code : NumberCode UInt8}
    (writes : tlv.WritesElements code) (blocks : List Block) :
    tlv.parse (tlv.encode blocks) = some blocks := by
  -- Writing and reading both go by way of the sequence of types and values.
  rw [writes.parse_eq, writes.encode_eq, code.parseAll_encodeAll, Option.map_some, List.map_map]
  exact congrArg some (List.map_id blocks)

namespace MpsSignerList

variable {tlv : Tlv}

/-- An element is decoded to some names exactly when it is a signer list whose elements are these
names, in this order. -/
theorem wireDecode_eq_ok_iff (wire : Block) (signers : List Name) :
    wireDecode tlv wire = .ok signers ↔ wire.type = Tlv.mpsSignerList ∧
      ∃ blocks, tlv.parse wire.value = some blocks ∧
        blocks.map tlv.decodeName = signers.map some := by
  -- The type is looked at first, and then the value is taken apart.
  by_cases typed : wire.type = Tlv.mpsSignerList
  · -- A value that is no sequence of elements throws.
    cases parsed : tlv.parse wire.value with
    | none => simp [wireDecode, typed, Tlv.elements, parsed, Bind.bind, Except.bind]
    | some blocks => simp [wireDecode, typed, Tlv.elements, parsed, Bind.bind, Except.bind,
        tlv.mapM_nameOf_iff]
  · simp [wireDecode, typed]

/-- An element is decoded exactly when it is a signer list and each of its elements is a name. -/
theorem exists_wireDecode_iff (wire : Block) :
    (∃ signers, wireDecode tlv wire = .ok signers) ↔ wire.type = Tlv.mpsSignerList ∧
      ∃ blocks, tlv.parse wire.value = some blocks ∧
        ∀ block ∈ blocks, (tlv.decodeName block).isSome = true := by
  -- Some list is decoded as soon as every element gives a name.
  simp only [wireDecode_eq_ok_iff, ← exists_map_some_iff]
  constructor
  · rintro ⟨signers, typed, blocks, parsed, names⟩
    exact ⟨typed, blocks, parsed, signers, names⟩
  · rintro ⟨typed, blocks, parsed, signers, names⟩
    exact ⟨signers, typed, blocks, parsed, names⟩

/-- A list comes back from its octets, and what else is decoded are the signer lists of names, as
exactly the names they hold. -/
theorem wire_roundTrip {code : NumberCode UInt8} (writes : tlv.WritesElements code)
    (names : ∀ name, tlv.decodeName (tlv.encodeName name) = some name) :
    (∀ signers, ∃ block, tlv.parse (tlv.encode [wireEncode tlv signers]) = some [block] ∧
        wireDecode tlv block = .ok signers) ∧
      (∀ wire, (∃ signers, wireDecode tlv wire = .ok signers) ↔
        wire.type = Tlv.mpsSignerList ∧ ∃ blocks, tlv.parse wire.value = some blocks ∧
          ∀ block ∈ blocks, (tlv.decodeName block).isSome = true) ∧
      ∀ wire signers, wireDecode tlv wire = .ok signers → ∃ blocks,
        tlv.parse wire.value = some blocks ∧ blocks.map tlv.decodeName = signers.map some := by
  refine ⟨fun signers => ?_, exists_wireDecode_iff, fun wire signers decoded => ?_⟩
  · refine ⟨wireEncode tlv signers, writes.parse_encode _, ?_⟩
    -- Its value is the sequence of the encoded names, each of which is decoded.
    apply (wireDecode_eq_ok_iff _ _).mpr
    refine ⟨rfl, signers.map tlv.encodeName, writes.parse_encode _, ?_⟩
    rw [List.map_map]
    exact List.map_congr_left fun name _ => names name
  · exact ((wireDecode_eq_ok_iff wire signers).mp decoded).2

end MpsSignerList

namespace PacketFormat

/-- The elements of the packet format are written over its code for numbers. -/
theorem tlv_writesElements : tlv.WritesElements Octets.varNumber where
  encode_eq := encode_eq
  parse_eq := parse_eq

end PacketFormat

namespace MpsSignerList

/-- The packet format gives back a list with an empty name, a repeated one, and one that takes three
octets for its length. -/
theorem wire_roundTrip_packetFormat :
    let long : Name := .ofTexts ["a", String.ofList (List.replicate 300 'b')]
    let signers : List Name := [.root, long, .ofTexts ["a"], long]
    ∃ block, PacketFormat.tlv.parse
        (PacketFormat.tlv.encode [wireEncode PacketFormat.tlv signers]) = some [block] ∧
      wireDecode PacketFormat.tlv block = .ok signers := by
  intro long signers
  exact (wire_roundTrip PacketFormat.tlv_writesElements
    PacketFormat.decodeName_encodeName).1 signers

end MpsSignerList

end NdnMps
