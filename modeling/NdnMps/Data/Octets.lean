import NdnMps.Data.Elements
import Mathlib.Data.Nat.Basic
import Mathlib.Tactic.Ring

/-! Numbers as octets: fixed widths in network byte order, and a self-delimiting code. -/

namespace Octets

/-- The last octets of a number, most significant first. -/
def big : Nat → Nat → List UInt8
  | 0, _ => []
  | width + 1, number => big width (number / 256) ++ [UInt8.ofNat number]

/-- The number some octets spell, most significant first. -/
def value (octets : List UInt8) : Nat :=
  octets.foldl (fun total octet => total * 256 + octet.toNat) 0

@[simp] theorem length_big (width number : Nat) : (big width number).length = width := by
  -- Every step of the recursion writes one octet.
  induction width generalizing number with
  | zero => rfl
  | succ width ih => simp only [big, List.length_append, ih, List.length_singleton]

/-- A further octet shifts the number by one place. -/
theorem value_append (octets : List UInt8) (last : UInt8) :
    value (octets ++ [last]) = value octets * 256 + last.toNat := by
  simp only [value, List.foldl_append, List.foldl_cons, List.foldl_nil]

/-- Reading back a fixed width keeps the number modulo that width. -/
theorem value_big (width number : Nat) : value (big width number) = number % 256 ^ width := by
  -- The leading octets spell the quotient, and the last one the remainder.
  induction width generalizing number with
  | zero =>
    show 0 = number % 256 ^ 0
    omega
  | succ width ih =>
    have last : (UInt8.ofNat number).toNat = number % 256 := UInt8.toNat_ofNat'
    rw [big, value_append, ih, last, pow_succ', Nat.mod_mul]
    ring

/-- A number that fits a width reads back from it. -/
theorem value_big_of_lt {width number : Nat} (fits : number < 256 ^ width) :
    value (big width number) = number := by
  rw [value_big, Nat.mod_eq_of_lt fits]

/-- Read a fixed number of octets. -/
def readBig (width : Nat) (octets : List UInt8) : Option (Nat × List UInt8) :=
  if octets.length < width then none
  else some (value (octets.take width), octets.drop width)

/-- A number written in a fixed width reads back, whatever follows it. -/
theorem readBig_big {width number : Nat} (fits : number < 256 ^ width) (rest : List UInt8) :
    readBig width (big width number ++ rest) = some (number, rest) := by
  -- The octets of the number are exactly as many as are read.
  have enough : ¬ (big width number ++ rest).length < width := by
    rw [List.length_append, length_big]
    omega
  have taken : (big width number ++ rest).take width = big width number :=
    List.take_left' (length_big width number)
  have dropped : (big width number ++ rest).drop width = rest :=
    List.drop_left' (length_big width number)
  rw [readBig, if_neg enough, taken, dropped, value_big_of_lt fits]

/-- Count the octets in front of a zero. -/
def countOnes : List UInt8 → Option (Nat × List UInt8)
  | [] => none
  | octet :: rest =>
    if octet = 0 then some (0, rest)
    else (countOnes rest).map fun answer => (answer.1 + 1, answer.2)

/-- Ones closed by a zero read back as their number. -/
theorem countOnes_replicate (number : Nat) (rest : List UInt8) :
    countOnes (List.replicate number 1 ++ 0 :: rest) = some (number, rest) := by
  -- Induction on the number, where every one is counted and skipped.
  induction number with
  | zero => rfl
  | succ number ih =>
    have one : ¬ (1 : UInt8) = 0 := by decide
    simp only [List.replicate_succ, List.cons_append, countOnes, if_neg one, ih, Option.map_some]

/-- A number in one, three, five or nine octets. Numbers of more than eight octets, which no
packet has, follow a zero in nine octets in unary, so that the code is total. -/
def encode (number : Nat) : List UInt8 :=
  if number < 253 then [UInt8.ofNat number]
  else if number < 256 ^ 2 then 253 :: big 2 number
  else if number < 256 ^ 4 then 254 :: big 4 number
  else if number < 256 ^ 8 then 255 :: big 8 number
  else 255 :: (big 8 0 ++ (List.replicate number 1 ++ [0]))

/-- The number in front of some octets, and the octets behind it. -/
def decode : List UInt8 → Option (Nat × List UInt8)
  | [] => none
  | first :: rest =>
    if first.toNat < 253 then some (first.toNat, rest)
    else if first = 253 then readBig 2 rest
    else if first = 254 then readBig 4 rest
    else
      match readBig 8 rest with
      | none => none
      | some (number, rest) => if number = 0 then countOnes rest else some (number, rest)

/-- No number is written in no octets. -/
theorem encode_ne_nil (number : Nat) : encode number ≠ [] := by
  unfold encode
  split_ifs <;> exact List.cons_ne_nil _ _

/-- A number reads back, whatever follows it. -/
theorem decode_encode (number : Nat) (rest : List UInt8) :
    decode (encode number ++ rest) = some (number, rest) := by
  -- The first octet tells the five lengths apart.
  have wide : ¬ UInt8.toNat 255 < 253 := by decide
  unfold encode
  split_ifs with one two four eight
  · have first : (UInt8.ofNat number).toNat = number := by
      rw [UInt8.toNat_ofNat']
      omega
    simp only [List.cons_append, List.nil_append, decode, first, if_pos one]
  · rw [List.cons_append, decode, if_neg (by decide), if_pos rfl, readBig_big two]
  · rw [List.cons_append, decode, if_neg (by decide), if_neg (by decide), if_pos rfl,
      readBig_big four]
  · rw [List.cons_append, decode, if_neg wide, if_neg (by decide), if_neg (by decide),
      readBig_big eight]
    exact if_neg (by omega)
  · rw [List.cons_append, decode, if_neg wide, if_neg (by decide), if_neg (by decide),
      List.append_assoc, List.append_assoc, readBig_big (by decide)]
    exact countOnes_replicate number rest

/-- Reading a fixed width leaves no more than there was. -/
theorem length_readBig {width number : Nat} {octets rest : List UInt8}
    (read : readBig width octets = some (number, rest)) : rest.length ≤ octets.length := by
  unfold readBig at read
  split at read
  · cases read
  · cases read
    rw [List.length_drop]
    omega

/-- Counting to a zero leaves less than there was. -/
theorem length_countOnes {number : Nat} {octets rest : List UInt8}
    (counted : countOnes octets = some (number, rest)) : rest.length < octets.length := by
  -- Induction on the octets, of which the zero at least is used.
  induction octets generalizing number rest with
  | nil => cases counted
  | cons octet others ih =>
    unfold countOnes at counted
    split at counted
    · cases counted
      exact Nat.lt_succ_self _
    · obtain ⟨⟨earlier, left⟩, found, same⟩ := Option.map_eq_some_iff.mp counted
      cases same
      have shorter : left.length < others.length := ih found
      rw [List.length_cons]
      exact Nat.lt_succ_of_lt shorter

/-- Reading a number leaves less than there was. -/
theorem length_decode {number : Nat} {octets rest : List UInt8}
    (read : decode octets = some (number, rest)) : rest.length < octets.length := by
  cases octets with
  | nil => cases read
  | cons first others =>
    -- The first octet is used in any case, and tells how the others are read.
    rw [List.length_cons]
    simp only [decode] at read
    split_ifs at read
    · cases read
      exact Nat.lt_succ_self _
    · exact Nat.lt_succ_of_le (length_readBig read)
    · exact Nat.lt_succ_of_le (length_readBig read)
    · cases eight : readBig 8 others with
      | none => simp [eight] at read
      | some pair =>
        have wide := length_readBig eight
        simp only [eight] at read
        split_ifs at read
        · have unary := length_countOnes read
          omega
        · cases read
          omega

/-- The numbers of the packet format, as a code that shows where a number ends. -/
def varNumber : NumberCode UInt8 where
  encode := encode
  decode := decode
  decode_encode := decode_encode
  length_lt _ _ _ := length_decode

end Octets
