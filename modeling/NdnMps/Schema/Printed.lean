import NdnMps.Schema.Reload
import NdnMps.Schema.Wildcards

/-! Which names are matched by the pattern that is read from their printed form. -/

namespace NdnMps

/-- The URIs that tell more than octets: of the name without components, and of the components that
are not generic. -/
structure Tlv.MarksTypes (tlv : Tlv) (componentUri : Component → String) : Prop where
  toUri_root : tlv.toUri .root = "/"
  /-- A component of another type has its type in front, so its URI is not its octets. -/
  octets_ne : ∀ component : Component, component.type ≠ Component.genericType →
    asciiBytes (componentUri component) ≠ component.value

/-- A name with components, each of which is generic and stands in a URI as it is. -/
def Name.Plain (name : Name) : Prop :=
  name.components ≠ [] ∧ ∀ component ∈ name.components, component.Plain

namespace WildCardName

variable {tlv : Tlv} {componentUri : Component → String}

/-- The URI of a component spells its octets exactly when the component is plain. -/
theorem octets_uri_iff (uris : tlv.WritesUris componentUri)
    (marks : tlv.MarksTypes componentUri) (component : Component) :
    asciiBytes (componentUri component) = component.value ↔ component.Plain := by
  -- Only a generic component is written without its type.
  by_cases generic : component.type = Component.genericType
  · rw [uris.octets_iff component generic]
    exact ⟨fun unreserved => ⟨generic, unreserved⟩, fun plain => plain.2⟩
  · -- The type in front is part of the text.
    exact ⟨fun same => absurd same (marks.octets_ne component generic),
      fun plain => absurd plain.1 generic⟩

/-- A part of a URI is read as a generic component with the octets of its text. -/
theorem componentOf_uri (uris : tlv.WritesUris componentUri) (component : Component) :
    componentOf (componentUri component).toList =
      ⟨Component.genericType, asciiBytes (componentUri component)⟩ := by
  -- No URI is the lone star, so the part is taken as octets.
  rw [componentOf, if_neg (uris.not_star component), String.ofList_toList]

/-- The pattern read from a URI matches the name exactly when every component is plain. -/
theorem rewritten_match_iff (uris : tlv.WritesUris componentUri)
    (marks : tlv.MarksTypes componentUri) (name : Name) :
    ((ofName name).rewritten componentUri).match name = true ↔
      ∀ component ∈ name.components, component.Plain := by
  rw [match_iff]
  -- At every place the pattern has the octets that the URI of the component spells.
  have place : ∀ (index : Nat) (its : Component), name.components[index]? = some its →
      ((ofName name).rewritten componentUri).name.components[index]? =
        some ⟨Component.genericType, asciiBytes (componentUri its)⟩ := by
    intro index its there
    simp only [rewritten, ofName, List.getElem?_map, there, Option.map_some, componentOf_uri uris]
  -- Each place compares the octets of a component with the text it was printed as.
  constructor
  · rintro ⟨_, equal⟩ component member
    obtain ⟨index, there⟩ := List.getElem?_of_mem member
    have literal : Component.genericType ≠ wildcardNameType := by decide
    exact (octets_uri_iff uris marks component).mp
      (equal index _ _ (place index component there) there literal)
  · intro plain
    refine ⟨List.length_map _, fun index mine its here there _ => ?_⟩
    have read : ⟨Component.genericType, asciiBytes (componentUri its)⟩ = mine :=
      Option.some.inj ((place index its there).symm.trans here)
    rw [← read]
    exact (octets_uri_iff uris marks its).mpr (plain its (List.mem_of_getElem? there))

/-- The name without components is printed as a slash, which is read as one empty component. -/
theorem ofText_root (marks : tlv.MarksTypes componentUri) :
    ofText (tlv.toUri .root) = .ok ⟨⟨[⟨Component.genericType, []⟩]⟩, 1⟩ := by
  rw [marks.toUri_root]
  rfl

/-- A name is matched by the pattern read from its printed form, and is the name that is read,
exactly when each of its components stands in a URI as it is. -/
theorem match_toUri_iff (uris : tlv.WritesUris componentUri)
    (marks : tlv.MarksTypes componentUri) (name : Name) :
    ((∃ pattern, ofText (tlv.toUri name) = .ok pattern ∧ pattern.match name = true) ↔
        name.Plain) ∧
      (ofText (tlv.toUri name) = .ok (.ofName name) ↔ name.Plain) := by
  by_cases empty : name.components = []
  · -- The one component that is read has no counterpart in the name.
    have same : name = .root := Name.ext empty
    have unplain : ¬ name.Plain := fun plain => plain.1 empty
    rw [same] at unplain ⊢
    rw [ofText_root marks]
    refine ⟨⟨?_, fun plain => absurd plain unplain⟩, ⟨?_, fun plain => absurd plain unplain⟩⟩
    · rintro ⟨pattern, read, matched⟩
      cases read
      cases matched
    · intro read
      cases read
  · have named : (ofName name).name.components ≠ [] := empty
    have read : ofText (tlv.toUri name) = .ok ((ofName name).rewritten componentUri) :=
      ofText_toUri uris named
    have plain : name.Plain ↔ ∀ component ∈ name.components, component.Plain :=
      and_iff_right empty
    -- The pattern is now known, and both conditions are about its components.
    rw [read, plain]
    constructor
    · rw [← rewritten_match_iff uris marks]
      simp
    · -- The constructors agree exactly when the pattern is left alone by printing and reading.
      rw [Except.ok.injEq, rewritten_eq_iff uris]
      exact and_iff_right rfl

end WildCardName

namespace PacketFormat

/-- Hexadecimal digits take more room than the octets. -/
theorem length_le_hex (octets : Buffer) :
    octets.length ≤ (octets.flatMap hexOctet).length := by
  -- Induction on the octets, each of which is written in two digits.
  induction octets with
  | nil => exact Nat.zero_le _
  | cons octet rest ih =>
    have two : (hexOctet octet).length = 2 := rfl
    rw [List.flatMap_cons, List.length_append, List.length_cons]
    omega

/-- The packet format writes types in front of the components that are not generic. -/
theorem tlv_marksTypes : tlv.MarksTypes componentUri where
  toUri_root := rfl
  octets_ne component other same := by
    -- The text is at least as long as the octets even without the type and the equals sign.
    have escaped := (length_escaped component.value).1
    have hexadecimal := length_le_hex component.value
    have length := congrArg List.length same
    simp only [asciiBytes, List.length_map] at length
    by_cases digest : component.type = Component.parametersDigestType
    · have written : componentUri component =
          "params-sha256=" ++ String.ofList (component.value.flatMap hexOctet) := by
        rw [componentUri, if_neg other, if_pos digest]
      have front : 0 < "params-sha256=".toList.length := by decide
      simp only [written, String.toList_append, String.toList_ofList, List.length_append] at length
      omega
    · obtain ⟨text, written, long⟩ : ∃ text, componentUri component =
          toString component.type ++ "=" ++ text ∧
            component.value.length ≤ text.toList.length := by
        -- Only periods are written with three more of them.
        by_cases dots : (component.value.flatMap escapeOctet).all (· == '.') = true
        · refine ⟨"..." ++ String.ofList (component.value.flatMap escapeOctet), ?_, ?_⟩
          · simp only [componentUri, if_neg other, if_neg digest, if_pos dots]
          · simp only [String.toList_append, String.toList_ofList, List.length_append]
            omega
        · refine ⟨String.ofList (component.value.flatMap escapeOctet), ?_, ?_⟩
          · simp only [componentUri, if_neg other, if_neg digest, if_neg dots]
          · rw [String.toList_ofList]
            exact escaped
      have equals : "=".toList.length = 1 := by decide
      simp only [written, String.toList_append, List.length_append] at length
      omega

end PacketFormat

namespace WildCardName

/-- Letters and digits in generic components come back. -/
theorem match_toUri_iff_plain :
    let name : Name := .ofTexts ["example", "a", "KEY", "1"]
    ((∃ pattern, ofText (PacketFormat.tlv.toUri name) = .ok pattern ∧
        pattern.match name = true) ↔ name.Plain) ∧
      (ofText (PacketFormat.tlv.toUri name) = .ok (.ofName name) ↔ name.Plain) :=
  match_toUri_iff PacketFormat.tlv_writesUris PacketFormat.tlv_marksTypes _

/-- TLV-TYPE of a timestamp component. -/
def timestampType : Nat := 36

/-- A key name as a signer makes it, a component with a space, an empty component, and no component
at all. -/
def unprintable : List Name :=
  [(Name.ofTexts ["a", "KEY"]).append ⟨timestampType, PacketFormat.encodeNumber 1600000000000000⟩,
    .ofTexts ["a b"], .ofTexts ["a", ""], .root]

/-- Each of these names is printed as a text from which a pattern is read, and none of the patterns
matches the name or holds it. -/
theorem unprintable_not_matched :
    (unprintable.map fun name => (ofText (PacketFormat.tlv.toUri name)).toOption.map fun pattern =>
      (pattern.match name, decide (pattern = .ofName name))) =
        List.replicate 4 (some (false, false)) := by
  decide +kernel

end WildCardName

end NdnMps
