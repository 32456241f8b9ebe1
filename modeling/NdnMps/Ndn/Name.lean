import NdnMps.Data.SortedSet

/-! NDN names: typed components, canonical order, and the prefix operations the library uses. -/

namespace NdnMps

/-- A run of octets, as held by `ndn::Buffer`. -/
abbrev Buffer := List UInt8

/-- The octets of a text made of ASCII characters. -/
def asciiBytes (text : String) : Buffer := text.toList.map fun char => UInt8.ofNat char.toNat

/-- A name component is a TLV element of its own type. -/
structure Component where
  /-- The TLV-TYPE of the component. -/
  type : Nat
  /-- The TLV-VALUE of the component. -/
  value : Buffer
  deriving Repr

namespace Component

/-- TLV-TYPE of a generic component. -/
def genericType : Nat := 8

/-- TLV-TYPE of the digest appended to an Interest with parameters. -/
def parametersDigestType : Nat := 2

/-- Largest TLV-TYPE a component may have. -/
def maxType : Nat := 65535

/-- A generic component spelled by a text. -/
def ofString (text : String) : Component := ⟨genericType, asciiBytes text⟩

/-- A component is the digest that the name of an Interest with parameters has. -/
def isParametersDigest (component : Component) : Bool := component.type == parametersDigestType

/-- A component spelled by a text is no digest. -/
@[simp] theorem isParametersDigest_ofString (text : String) :
    (ofString text).isParametersDigest = false := rfl

/-- Canonical order compares the type, then the length, then the octets. -/
def orderKey (component : Component) : List Nat :=
  component.type :: component.value.length :: component.value.map UInt8.toNat

/-- The order key determines the component. -/
theorem orderKey_injective : Function.Injective orderKey := by
  -- Octets are recovered from their values, so equal keys give equal types and values.
  rintro ⟨leftType, leftValue⟩ ⟨rightType, rightValue⟩ same
  simp only [orderKey, List.cons.injEq] at same
  obtain ⟨sameType, -, sameOctets⟩ := same
  have sameValue : leftValue = rightValue :=
    List.map_injective_iff.mpr (fun _ _ equal => UInt8.toNat_inj.mp equal) sameOctets
  rw [sameType, sameValue]

instance : LinearOrder Component := LinearOrder.lift' orderKey orderKey_injective

end Component

/-- An NDN name is a sequence of components. -/
@[ext] structure Name where
  /-- The components from the root down. -/
  components : List Component
  deriving Repr

namespace Name

/-- A name is determined by its components. -/
theorem components_injective : Function.Injective components := fun _ _ same => Name.ext same

/-- Canonical order of names is lexicographic in their components. -/
instance : LinearOrder Name := LinearOrder.lift' components components_injective

/-- The name without components. -/
def root : Name := ⟨[]⟩

/-- The name spelled by generic components. -/
def ofTexts (texts : List String) : Name := ⟨texts.map Component.ofString⟩

/-- The number of components. -/
def size (name : Name) : Nat := name.components.length

/-- A name is empty when it has no components. -/
def empty (name : Name) : Bool := name.components.isEmpty

/-- The name extended by one component. -/
def append (name : Name) (component : Component) : Name := ⟨name.components ++ [component]⟩

/-- The leading components: a count from the front, or a number left out at the back. -/
def getPrefix (name : Name) (count : Int) : Name :=
  -- A negative argument drops that many trailing components; where there are not so many, the
  -- unsigned count wraps around and the whole name is kept.
  if 0 ≤ count then ⟨name.components.take count.toNat⟩
  else if name.size < (-count).toNat then name
  else ⟨name.components.take (name.size - (-count).toNat)⟩

/-- Whether every component of the first name starts the second one. -/
def isPrefixOf (name other : Name) : Bool := name.components.isPrefixOf other.components

/-- How many digests of parameters a name has. -/
def digests (name : Name) : Nat := name.components.countP Component.isParametersDigest

/-- The last component of a name is a digest. -/
def endsWithDigest (name : Name) : Bool :=
  name.components.getLast?.any Component.isParametersDigest

/-- The name with another digest component, which takes the place of the one it has. -/
def setDigest (name : Name) (digest : Buffer) : Name :=
  if name.components.any Component.isParametersDigest then
    ⟨name.components.map fun component =>
      if component.isParametersDigest then ⟨Component.parametersDigestType, digest⟩
      else component⟩
  else name.append ⟨Component.parametersDigestType, digest⟩

/-- A name that a signed Interest can have: without a digest, or with one at its end. -/
def signable (name : Name) : Bool :=
  decide (name.digests = 0) || (decide (name.digests = 1) && name.endsWithDigest)

@[simp] theorem size_append (name : Name) (component : Component) :
    (name.append component).size = name.size + 1 := by
  simp [size, append]

/-- Every name is a prefix of itself. -/
@[simp] theorem isPrefixOf_self (name : Name) : name.isPrefixOf name = true := by
  simp [isPrefixOf]

/-- A name is a prefix of its extensions. -/
@[simp] theorem isPrefixOf_append (name : Name) (component : Component) :
    name.isPrefixOf (name.append component) = true := by
  simp [isPrefixOf, append]

/-- Leaving out the component just appended gives the name back. -/
theorem getPrefix_append (name : Name) (component : Component) :
    (name.append component).getPrefix (-1) = name := by
  -- A negative number counts the components that are left out at the end.
  have long : ¬ (name.append component).size < (- -1 : Int).toNat := by
    simp
  have dropped : (name.append component).size - (- -1 : Int).toNat = name.size := by
    simp
  simp only [getPrefix, dropped, if_neg long]
  simp [append, size]

/-- Leaving out the two components just appended gives the name back. -/
theorem getPrefix_append_append (name : Name) (first second : Component) :
    ((name.append first).append second).getPrefix (-2) = name := by
  -- The two components are the last two of the extended name.
  have long : ¬ ((name.append first).append second).size < (- -2 : Int).toNat := by
    simp
  have dropped : ((name.append first).append second).size - (- -2 : Int).toNat = name.size := by
    simp
  simp only [getPrefix, dropped, if_neg long]
  simp [append, size]

@[simp] theorem digests_append (name : Name) (component : Component) :
    (name.append component).digests =
      name.digests + if component.isParametersDigest then 1 else 0 := by
  simp [digests, append, List.countP_append, List.countP_singleton]

@[simp] theorem endsWithDigest_append (name : Name) (component : Component) :
    (name.append component).endsWithDigest = component.isParametersDigest := by
  simp [endsWithDigest, append]

/-- What comes before the only digest of a name has none. -/
theorem digests_of_isPrefixOf {first name : Name} {digest : Component}
    (starts : first.isPrefixOf (name.append digest) = true)
    (other : first.endsWithDigest = false) (kind : digest.isParametersDigest = true)
    (single : (name.append digest).digests ≤ 1) : first.digests = 0 := by
  rw [isPrefixOf, List.isPrefixOf_iff_prefix, append, List.prefix_concat_iff] at starts
  rcases starts with whole | before
  · -- The whole name ends with its digest.
    simp [endsWithDigest, whole, kind] at other
  · have fewer : first.digests ≤ name.digests := before.sublist.countP_le
    rw [digests_append, if_pos kind] at single
    omega

/-- Some component is a digest exactly when there is one to be counted. -/
theorem any_isParametersDigest_iff {name : Name} :
    name.components.any Component.isParametersDigest = true ↔ name.digests ≠ 0 := by
  rw [digests, Ne, List.countP_eq_zero, List.any_eq_true]
  simp

/-- A name without a digest gets one at its end. -/
theorem setDigest_of_plain {name : Name} (plain : name.digests = 0) (digest : Buffer) :
    name.setDigest digest = name.append ⟨Component.parametersDigestType, digest⟩ := by
  rw [setDigest, if_neg fun present => any_isParametersDigest_iff.mp present plain]

/-- The renewed digest is where the old one was, and at the end if there was none. -/
theorem endsWithDigest_setDigest {name : Name} (digest : Buffer) :
    (name.setDigest digest).endsWithDigest = true ↔
      name.digests = 0 ∨ name.endsWithDigest = true := by
  by_cases plain : name.digests = 0
  · rw [setDigest_of_plain plain]
    exact iff_of_true (endsWithDigest_append _ _) (.inl plain)
  · -- Each component stays what it was, the last one included.
    rw [setDigest, if_pos (any_isParametersDigest_iff.mpr plain), or_iff_right plain]
    simp only [endsWithDigest, List.getLast?_map]
    cases name.components.getLast? with
    | none => simp
    | some last =>
      by_cases kind : last.isParametersDigest = true
      · simp only [Option.map_some, Option.any_some, kind, if_true, iff_true]
        rfl
      · simp [kind]

end Name

end NdnMps
