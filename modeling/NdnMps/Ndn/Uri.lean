import NdnMps.Ndn.Codec

/-! Names as URIs: which components stand in a URI as they are. -/

namespace NdnMps

/-- The octets that a URI does not escape: letters, digits, and four marks. -/
def unreservedOctet (octet : UInt8) : Bool :=
  (Char.ofNat octet.toNat).isAlphanum || Char.ofNat octet.toNat ∈ ['-', '.', '_', '~']

/-- A URI shows the octets of a component as they are: none is escaped, and they are not all
periods. -/
def Unreserved (octets : Buffer) : Prop :=
  (∀ octet ∈ octets, unreservedOctet octet = true) ∧ ∃ octet ∈ octets, octet ≠ 46

/-- A generic component whose octets stand in a URI as they are. -/
def Component.Plain (component : Component) : Prop :=
  component.type = Component.genericType ∧ Unreserved component.value

/-- The URIs of names: a slash in front of every component, and no slash in it. -/
structure Tlv.WritesUris (tlv : Tlv) (componentUri : Component → String) : Prop where
  toUri_eq : ∀ name : Name, name.components ≠ [] → (tlv.toUri name).toList =
    name.components.flatMap fun component => '/' :: (componentUri component).toList
  no_slash : ∀ component, '/' ∉ (componentUri component).toList
  /-- A star is escaped, and a component of another type has its type in front. -/
  not_star : ∀ component, (componentUri component).toList ≠ ['*']
  octets_iff : ∀ component : Component, component.type = Component.genericType →
    (asciiBytes (componentUri component) = component.value ↔ Unreserved component.value)

/-- Slashes in front of some texts are one slash and the texts with slashes between them. -/
theorem flatMap_slash (text : List Char) (texts : List (List Char)) :
    (text :: texts).flatMap (fun part => '/' :: part) =
      '/' :: ['/'].intercalate (text :: texts) := by
  -- Induction on the texts behind the first one.
  induction texts generalizing text with
  | nil => simp
  | cons next rest ih =>
    rw [List.flatMap_cons, ih next]
    simp [List.intercalate_cons_cons]

namespace PacketFormat

/-- The characters a component is written with. -/
def uriChar (char : Char) : Bool :=
  char.isAlphanum || char ∈ ['-', '.', '_', '~', '%', '=']

/-- An unreserved octet is written as it is, and any other one in three characters. -/
theorem escapeOctet_cases (octet : UInt8) :
    (escapeOctet octet).all uriChar = true ∧ (hexOctet octet).all uriChar = true ∧
      (unreservedOctet octet = true →
        (escapeOctet octet).map (fun char => UInt8.ofNat char.toNat) = [octet]) ∧
      (unreservedOctet octet = false → (escapeOctet octet).length = 3) ∧
      ((escapeOctet octet).all (· == '.') = true ↔ octet = 46) := by
  -- There are only so many octets to look at.
  have each : ∀ number < 256, let octet := UInt8.ofNat number
      (escapeOctet octet).all uriChar = true ∧ (hexOctet octet).all uriChar = true ∧
        (unreservedOctet octet = true →
          (escapeOctet octet).map (fun char => UInt8.ofNat char.toNat) = [octet]) ∧
        (unreservedOctet octet = false → (escapeOctet octet).length = 3) ∧
        ((escapeOctet octet).all (· == '.') = true ↔ octet = 46) := by
    decide +kernel
  have here := each octet.toNat (UInt8.toNat_lt octet)
  rwa [UInt8.ofNat_toNat] at here

/-- A written component has only characters for that. -/
theorem componentUri_all (component : Component) :
    (componentUri component).toList.all uriChar = true := by
  -- Each way to write a component puts such characters together.
  have escaped : (component.value.flatMap escapeOctet).all uriChar = true := by
    rw [List.all_flatMap, List.all_eq_true]
    exact fun octet _ => (escapeOctet_cases octet).1
  have hexadecimal : (component.value.flatMap hexOctet).all uriChar = true := by
    rw [List.all_flatMap, List.all_eq_true]
    exact fun octet _ => (escapeOctet_cases octet).2.1
  have digits : (Nat.toDigits 10 component.type).all uriChar = true := by
    rw [List.all_eq_true]
    intro char member
    have digit := Nat.isDigit_of_mem_toDigits (by decide) (by decide) member
    simp [uriChar, Char.isAlphanum, digit]
  have periods : "...".toList.all uriChar = true := by decide
  have equals : "=".toList.all uriChar = true := by decide
  have sha : "params-sha256=".toList.all uriChar = true := by decide
  unfold componentUri
  dsimp only
  split_ifs <;>
    simp only [String.toList_append, String.toList_ofList, List.all_append, escaped, hexadecimal,
      periods, equals, sha, toString, Nat.toList_repr, digits, Bool.and_self]

/-- Escaping shortens nothing, and keeps the length only where nothing is escaped. -/
theorem length_escaped (octets : Buffer) :
    octets.length ≤ (octets.flatMap escapeOctet).length ∧
      ((octets.flatMap escapeOctet).length = octets.length →
        ∀ octet ∈ octets, unreservedOctet octet = true) := by
  -- An octet is written as itself, or as three characters that make the text too long.
  induction octets with
  | nil => simp
  | cons octet rest ih =>
    obtain ⟨-, -, plain, escaped, -⟩ := escapeOctet_cases octet
    rw [List.flatMap_cons, List.length_append, List.length_cons]
    cases free : unreservedOctet octet with
    | true =>
      have one : (escapeOctet octet).length = 1 := by
        have same := congrArg List.length (plain free)
        rwa [List.length_map, List.length_singleton] at same
      refine ⟨by omega, fun same other member => ?_⟩
      rcases List.mem_cons.mp member with here | there
      · rw [here]
        exact free
      · exact ih.2 (by omega) other there
    | false =>
      have three := escaped free
      refine ⟨by omega, fun same => ?_⟩
      omega

/-- Unreserved octets are written as they are. -/
theorem octets_escaped {octets : Buffer}
    (free : ∀ octet ∈ octets, unreservedOctet octet = true) :
    (octets.flatMap escapeOctet).map (fun char => UInt8.ofNat char.toNat) = octets := by
  -- Induction on the octets, each of which is written as one character.
  induction octets with
  | nil => rfl
  | cons octet rest ih =>
    obtain ⟨-, -, plain, -, -⟩ := escapeOctet_cases octet
    rw [List.flatMap_cons, List.map_append, plain (free octet List.mem_cons_self),
      ih fun other member => free other (List.mem_cons_of_mem _ member)]
    rfl

/-- The written octets are all periods exactly when the octets are. -/
theorem all_periods_iff (octets : Buffer) :
    (octets.flatMap escapeOctet).all (· == '.') = true ↔ ∀ octet ∈ octets, octet = 46 := by
  rw [List.all_flatMap, List.all_eq_true]
  constructor
  · exact fun all octet member => (escapeOctet_cases octet).2.2.2.2.mp (all octet member)
  · exact fun all octet member => (escapeOctet_cases octet).2.2.2.2.mpr (all octet member)

/-- The packet format writes names in this way. -/
theorem tlv_writesUris : tlv.WritesUris componentUri where
  toUri_eq name nonempty := by
    have present : name.empty = false := List.isEmpty_eq_false_iff.mpr nonempty
    -- The components are joined one by one, each with a slash in front.
    have joined : ∀ components : List Component,
        (String.join (components.map fun component => "/" ++ componentUri component)).toList =
          components.flatMap fun component => '/' :: (componentUri component).toList := by
      intro components
      induction components with
      | nil => rfl
      | cons component rest ih =>
        rw [List.map_cons, String.join_cons, String.toList_append, ih, String.toList_append,
          List.flatMap_cons]
        rfl
    simp only [tlv, toUri, present, Bool.false_eq_true, if_false, joined]
  no_slash component member := by
    have fine := List.all_eq_true.mp (componentUri_all component) _ member
    revert fine
    decide
  not_star component same := by
    have member : '*' ∈ (componentUri component).toList := by
      rw [same]
      exact List.mem_singleton.mpr rfl
    have fine := List.all_eq_true.mp (componentUri_all component) _ member
    revert fine
    decide
  octets_iff component generic := by
    have lengths := length_escaped component.value
    by_cases periods : (component.value.flatMap escapeOctet).all (· == '.') = true
    · -- Three periods are put in front, so the text is too long.
      have written : componentUri component =
          "..." ++ String.ofList (component.value.flatMap escapeOctet) := by
        simp only [componentUri, generic, periods, if_true]
      have all := (all_periods_iff component.value).mp periods
      constructor
      · intro same
        -- The three periods make the text longer than the octets.
        have length := congrArg List.length same
        simp only [written, asciiBytes, List.length_map, String.toList_append,
          String.toList_ofList, List.length_append] at length
        have three : "...".toList.length = 3 := by decide
        omega
      · intro unreserved
        obtain ⟨octet, member, other⟩ := unreserved.2
        exact absurd (all octet member) other
    · have written : componentUri component =
          String.ofList (component.value.flatMap escapeOctet) := by
        simp only [componentUri, generic, periods, if_true, Bool.false_eq_true, if_false]
      -- Some octet is not a period, as an unreserved component demands.
      have mixed : ∃ octet ∈ component.value, octet ≠ 46 := by
        by_contra none
        apply periods
        rw [all_periods_iff]
        intro octet member
        by_contra other
        exact none ⟨octet, member, other⟩
      simp only [written, asciiBytes, String.toList_ofList]
      constructor
      · intro same
        have length := congrArg List.length same
        rw [List.length_map] at length
        exact ⟨lengths.2 length, mixed⟩
      · exact fun unreserved => octets_escaped unreserved.1

end PacketFormat

end NdnMps
