import NdnMps.Data.SortedSet
import NdnMps.Ndn.Packet

/-! Wildcard names, signing schemas, and the container that selects and checks signers. -/

namespace NdnMps

/-- TLV-TYPE standing for any component in a wildcard name. -/
def wildcardNameType : Nat := Component.maxType - 1

/-- A name some of whose components match anything. -/
structure WildCardName where
  name : Name
  /-- The quantifying number in front of the name. -/
  times : Nat
  deriving DecidableEq, Repr

namespace WildCardName

/-- `WildCardName(const Name&)`: a plain name asked for once. -/
def ofName (format : Name) : WildCardName := ⟨format, 1⟩

/-- Whether a name has the pattern's length and its octets wherever the pattern is no wildcard. -/
def «match» (pattern : WildCardName) (name : Name) : Bool :=
  if pattern.name.size ≠ name.size then false
  else
    -- Only the octets are compared, not the type of the matched component.
    (pattern.name.components.zip name.components).all fun (mine, its) =>
      mine.type == wildcardNameType || mine.value == its.value

/-- The number of listed names the pattern matches, with repetitions. -/
def count (pattern : WildCardName) (names : List Name) : Nat := names.countP pattern.match

end WildCardName

/-- The rule a packet's signers have to satisfy. -/
structure MultipartySchema where
  /-- Packets the rule applies to. -/
  pktName : WildCardName
  ruleId : String
  /-- Required signers. -/
  signers : List WildCardName
  /-- Optional signers. -/
  optionalSigners : List WildCardName
  /-- The number of optional signers asked for. -/
  minOptionalSigners : Nat
  deriving DecidableEq, Repr

namespace MultipartySchema

/-- Whether the rule applies to a packet. -/
def «match» (schema : MultipartySchema) (packetName : Name) : Bool :=
  schema.pktName.match packetName

/-- Whether a signer list satisfies the rule. -/
def passSchema (schema : MultipartySchema) (signers : List Name) : Bool :=
  -- make sure all required signers are listed
  if schema.signers.any fun pattern => pattern.count signers < pattern.times then false
  else
    -- check optional signers
    let totalMatchedKeys := schema.optionalSigners.foldl
      (fun total pattern => total + min (pattern.count signers) pattern.times) 0
    decide (totalMatchedKeys ≥ schema.minOptionalSigners)

end MultipartySchema

/-- The trusted keys by name: different names, kept in the order of their keys. -/
structure TrustedIds (κ : Type) where
  entries : List (Name × κ)
  sorted : (entries.map Prod.fst).Pairwise (· < ·)

namespace TrustedIds

variable {κ : Type}

/-- The names with a trusted key. -/
def names (ids : TrustedIds κ) : SortedSet Name := ⟨ids.entries.map Prod.fst, ids.sorted⟩

/-- The key under a name, if there is one. -/
def find (ids : TrustedIds κ) (name : Name) : Option κ :=
  (ids.entries.find? fun entry => entry.1 = name).map Prod.snd

/-- A name has a key exactly when it is listed. -/
theorem find_isSome {ids : TrustedIds κ} {name : Name} :
    (ids.find name).isSome = true ↔ name ∈ ids.names := by
  -- The search succeeds as soon as an entry carries the name.
  simp only [find, Option.isSome_map, List.find?_isSome, decide_eq_true_eq, names]
  exact List.mem_map.symm

end TrustedIds

/-- Schemas, trusted keys, and the signers that were found unavailable. -/
structure MultipartySchemaContainer (κ : Type) where
  schemas : List MultipartySchema
  trustedIds : TrustedIds κ
  unavailableSigners : SortedSet Name

namespace MultipartySchemaContainer

variable {κ : Type} (container : MultipartySchemaContainer κ)

/-- Whether a packet may be signed by the listed signers. -/
def passSchema (packetName : Name) (signers : List Name) : Bool :=
  if signers.any fun item => decide (item ∉ container.trustedIds.names) then false
  else
    -- The first schema that applies to the packet decides.
    match container.schemas.find? fun schema => schema.match packetName with
    | some schema => schema.passSchema signers
    | none => false

/-- The trusted keys that match a pattern and are not known to be unavailable. -/
def getMatchedKeys (pattern : WildCardName) : List Name :=
  (container.trustedIds.names.filter fun name =>
    pattern.match name && decide (name ∉ container.unavailableSigners)).toList

/-- The required loop of `getAvailableSigners`, or an exception for a pattern short of keys. -/
def selectRequired :
    List WildCardName → SortedSet Name → Except Fault (SortedSet Name)
  | [], resultSet => .ok resultSet
  | pattern :: rest, resultSet =>
    -- As many of the matched keys as the pattern asks for are taken, in the order of names.
    let matchedKeys := container.getMatchedKeys pattern
    if matchedKeys.length < pattern.times then .error .exception
    else selectRequired rest (resultSet.insertAll (matchedKeys.take pattern.times))

/-- The inner optional loop of `getAvailableSigners`: stop once the count is reached. -/
def selectFromPattern (minimum : Nat) :
    List Name → SortedSet Name → Nat → SortedSet Name × Nat
  | [], resultSet, count => (resultSet, count)
  | key :: rest, resultSet, count =>
    if count + 1 ≥ minimum then (resultSet.insert key, count + 1)
    else selectFromPattern minimum rest (resultSet.insert key) (count + 1)

/-- The outer optional loop of `getAvailableSigners`, which also stops once the count is reached. -/
def selectOptional (minimum : Nat) :
    List WildCardName → SortedSet Name → Nat → SortedSet Name × Nat
  | [], resultSet, count => (resultSet, count)
  | pattern :: rest, resultSet, count =>
    let matchedKeys := container.getMatchedKeys pattern
    let (resultSet, count) := selectFromPattern minimum
      (matchedKeys.take (min matchedKeys.length pattern.times)) resultSet count
    if count ≥ minimum then (resultSet, count) else selectOptional minimum rest resultSet count

/-- A signer list for a schema from the available keys, or an exception if they do not suffice. -/
def getAvailableSigners (schema : MultipartySchema) : Except Fault (List Name) := do
  let resultSet ← container.selectRequired schema.signers .empty
  let (resultSet, count) :=
    container.selectOptional schema.minOptionalSigners schema.optionalSigners resultSet 0
  -- The loops stop early only with enough keys, so too small a count means a lack of them.
  if count < schema.minOptionalSigners then .error .exception
  else .ok resultSet.toList

/-- The loop of `aggregateKey`, whose accumulator is indeterminate until a first key is copied. -/
def aggregateLoop (add : κ → κ → κ) (indeterminate : κ) :
    List Name → Option κ → Except Fault κ
  | [], aggKey => .ok (aggKey.getD indeterminate)
  | item :: rest, aggKey =>
    match container.trustedIds.find item with
    | none => .error .exception
    | some key =>
      match aggKey with
      -- The first key is copied, and every later one is added to it.
      | none => aggregateLoop add indeterminate rest (some key)
      | some aggKey => aggregateLoop add indeterminate rest (some (add aggKey key))

/-- The aggregate of the listed keys, added in list order, or an exception for an unknown name. -/
def aggregateKey (add : κ → κ → κ) (indeterminate : κ) (signers : List Name) : Except Fault κ :=
  container.aggregateLoop add indeterminate signers none

/-- A key for a pattern that is not met yet: an empty name when it is met already. -/
def findANewKeyForPattern (existingSigners : SortedSet Name) (pattern : WildCardName) :
    Bool × Name :=
  -- no need to find replacement
  if pattern.count existingSigners.toList ≥ pattern.times then (true, .root)
  else
    match (container.getMatchedKeys pattern).find? fun key => decide (key ∉ existingSigners) with
    | some matchedKey => (true, matchedKey)
    | none => (false, .root)

/-- The required loop of `replaceSigner`: nothing when a pattern cannot be met again. -/
def replaceRequired (unavailableKey : Name) :
    List WildCardName → SortedSet Name → SortedSet Name →
      Option (SortedSet Name × SortedSet Name)
  | [], newResultSet, diffSet => some (newResultSet, diffSet)
  | pattern :: rest, newResultSet, diffSet =>
    if pattern.match unavailableKey then
      match container.findANewKeyForPattern newResultSet pattern with
      | (true, replacementName) =>
        if replacementName.empty then replaceRequired unavailableKey rest newResultSet diffSet
        else
          replaceRequired unavailableKey rest (newResultSet.insert replacementName)
            (diffSet.insert replacementName)
      -- Schema container does not have sufficient keys that are available
      | (false, _) => none
    else replaceRequired unavailableKey rest newResultSet diffSet

/-- The optional loop of `replaceSigner`: at most one key is added. -/
def replaceOptional :
    List WildCardName → SortedSet Name → SortedSet Name → SortedSet Name × SortedSet Name
  | [], newResultSet, diffSet => (newResultSet, diffSet)
  | pattern :: rest, newResultSet, diffSet =>
    match container.findANewKeyForPattern newResultSet pattern with
    | (true, replacementName) =>
      if replacementName.empty then replaceOptional rest newResultSet diffSet
      -- find a new matched name that has not been included yet
      else (newResultSet.insert replacementName, diffSet.insert replacementName)
    -- A pattern without any further key is passed over.
    | (false, _) => replaceOptional rest newResultSet diffSet

/-- The container once a key has been recorded as unavailable. -/
def markUnavailable (unavailableKey : Name) : MultipartySchemaContainer κ :=
  { container with unavailableSigners := container.unavailableSigners.insert unavailableKey }

/-- The renewed signer list and the keys new in it, both empty without a replacement. -/
def replaceSigner (signers : List Name) (unavailableKey : Name) (schema : MultipartySchema) :
    MultipartySchemaContainer κ × (List Name × List Name) :=
  let container := container.markUnavailable unavailableKey
  let newResultSet := (SortedSet.ofList signers).erase unavailableKey
  match container.replaceRequired unavailableKey schema.signers newResultSet .empty with
  -- The mark stays where no list is returned.
  | none => (container, ([], []))
  | some (newResultSet, diffSet) =>
    let (newResultSet, diffSet) :=
      container.replaceOptional schema.optionalSigners newResultSet diffSet
    (container, (newResultSet.toList, diffSet.toList))

/-- Forget which signers were unavailable. -/
def resetCachedUnavailableSigners : MultipartySchemaContainer κ :=
  { container with unavailableSigners := .empty }

end MultipartySchemaContainer

end NdnMps
