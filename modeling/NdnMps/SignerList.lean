import NdnMps.Data.Traversal
import NdnMps.Ndn.Packet
import Mathlib.Data.List.Sort

/-! The signer list carried by a signature info packet. -/

namespace NdnMps

/-- Elements are read as names exactly when each of them is the name. -/
theorem Tlv.mapM_nameOf_iff (tlv : Tlv) {blocks : List Block} {names : List Name} :
    blocks.mapM tlv.nameOf = .ok names ↔ blocks.map tlv.decodeName = names.map some := by
  rw [mapM_ok_iff]
  apply map_eq_map_congr
  -- An element that is no name throws.
  intro block name
  unfold nameOf
  cases tlv.decodeName block <;> simp

namespace MpsSignerList

/-- `MpsSignerList::wireEncode`: one name element for every signer, in order. -/
def wireEncode (tlv : Tlv) (signers : List Name) : Block :=
  tlv.nested Tlv.mpsSignerList (signers.map tlv.encodeName)

/-- `MpsSignerList::wireDecode`, with an exception on any other element. -/
def wireDecode (tlv : Tlv) (wire : Block) : Except Fault (List Name) :=
  if wire.type ≠ Tlv.mpsSignerList then .error .exception
  else do
    let blocks ← tlv.elements wire
    blocks.mapM tlv.nameOf

/-- Decoding an encoded list gives the list back, repetitions and order included. -/
theorem wireDecode_wireEncode {tlv : Tlv} (lossless : tlv.Lossless) (signers : List Name) :
    wireDecode tlv (wireEncode tlv signers) = .ok signers := by
  -- The elements are recovered first, and then each of them is a name.
  have names : (signers.map tlv.encodeName).mapM tlv.nameOf = .ok signers := by
    rw [tlv.mapM_nameOf_iff, List.map_map]
    exact List.map_congr_left fun name _ => lossless.decodeName_encodeName name
  have parsed : tlv.elements (wireEncode tlv signers) = .ok (signers.map tlv.encodeName) := by
    simp only [Tlv.elements, wireEncode, Tlv.nested, lossless.parse_encode]
  simp only [wireDecode, parsed, Bind.bind, Except.bind, names]
  simp [wireEncode, Tlv.nested]

/-- `MpsSignerList::operator==`: copies of the two lists are sorted and then compared. -/
def equals (first second : List Name) : Bool :=
  decide (first.insertionSort (· ≤ ·) = second.insertionSort (· ≤ ·))

/-- Two lists are equal exactly when they have the same names, each as many times. -/
theorem equals_iff_perm (first second : List Name) :
    equals first second = true ↔ first.Perm second := by
  have firstSorted := first.perm_insertionSort (· ≤ ·)
  have secondSorted := second.perm_insertionSort (· ≤ ·)
  rw [equals, decide_eq_true_eq]
  constructor
  · intro same
    exact firstSorted.symm.trans (same ▸ secondSorted)
  · -- The sorted copies are permutations of each other, and there is only one sorted order.
    intro perm
    have sorted : (first.insertionSort (· ≤ ·)).Perm (second.insertionSort (· ≤ ·)) :=
      (firstSorted.trans perm).trans secondSorted.symm
    exact sorted.eq_of_pairwise' (List.pairwise_insertionSort (· ≤ ·) first)
      (List.pairwise_insertionSort (· ≤ ·) second)

end MpsSignerList

end NdnMps
