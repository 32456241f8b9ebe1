import NdnMps.Data.NonemptySum
import NdnMps.Data.Traversal
import NdnMps.Verifier

/-! Aggregates are sums, so the aggregate of valid signatures verifies under the sum of the keys. -/

namespace NdnMps

variable {SecretKey PublicKey Signature : Type}

namespace Bls

variable (bls : Bls SecretKey PublicKey Signature)

/-- What one object holds after each of some buffers has been read into it. -/
def readEach : Signature → List Buffer → List Signature
  | _, [] => []
  | target, buffer :: rest =>
    bls.deserializeInto target buffer :: readEach (bls.deserializeInto target buffer) rest

/-- The loop adds what the temporary holds after each buffer. -/
theorem aggregateLoop_eq_foldl (buffers : List Buffer) (aggSig tempSig : Signature) :
    bls.aggregateLoop buffers aggSig tempSig =
      (bls.readEach tempSig buffers).foldl bls.signatureAdd aggSig := by
  -- One buffer after the other, with the sum and the temporary as they are after the last one.
  induction buffers generalizing aggSig tempSig with
  | nil => rfl
  | cons buffer rest ih => exact ih _ _

/-- Buffers that all encode signatures are read as these. -/
theorem readEach_valid {buffers : List Buffer} {signatures : List Signature}
    (decoded : buffers.map bls.deserialize = signatures.map some) (target : Signature) :
    bls.readEach target buffers = signatures := by
  -- Each buffer overwrites what the one before has left.
  induction buffers generalizing signatures target with
  | nil =>
    cases signatures with
    | nil => rfl
    | cons signature others => cases decoded
  | cons buffer rest ih =>
    cases signatures with
    | nil => cases decoded
    | cons signature others =>
      obtain ⟨head, tail⟩ := List.cons.inj decoded
      rw [readEach, deserializeInto, head, Option.getD_some, ih tail]

/-- Where every buffer decodes, the loop adds the decoded signatures. -/
theorem aggregateLoop_eq {pieces : List Buffer} {signatures : List Signature}
    (decoded : pieces.map bls.deserialize = signatures.map some) (aggSig tempSig : Signature) :
    bls.aggregateLoop pieces aggSig tempSig = signatures.foldl bls.signatureAdd aggSig := by
  rw [aggregateLoop_eq_foldl, bls.readEach_valid decoded]

/-- The aggregate of buffers that decode is the serialized sum. -/
theorem ndnBLSAggregateSignature_eq {pieces : List Buffer} {signatures : List Signature}
    (decoded : pieces.map bls.deserialize = signatures.map some) {sum : Signature}
    (total : NonemptySum.total bls.signatureAdd signatures = some sum)
    (aggSig tempSig : Signature) :
    bls.ndnBLSAggregateSignature aggSig tempSig pieces = .ok (bls.serialize sum) := by
  cases pieces with
  | nil =>
    cases signatures with
    | nil => cases total
    | cons signature rest => cases decoded
  | cons piece rest =>
    cases signatures with
    | nil => cases decoded
    | cons signature others =>
      obtain ⟨head, tail⟩ := List.cons.inj decoded
      -- The code decodes the first buffer before its loop, which adds the others to it.
      have read : bls.deserializeInto aggSig piece = signature := by
        rw [deserializeInto, head, Option.getD_some]
      rw [ndnBLSAggregateSignature, read, bls.aggregateLoop_eq tail]
      have sum := Option.some.inj total
      rw [sum]

end Bls

namespace MultipartySchemaContainer

variable (container : MultipartySchemaContainer PublicKey)

/-- Where every name has a key, the loop adds the keys. -/
theorem aggregateLoop_eq {names : List Name} {keys : List PublicKey}
    (found : names.map container.trustedIds.find = keys.map some)
    (add : PublicKey → PublicKey → PublicKey) (indeterminate start : PublicKey) :
    container.aggregateLoop add indeterminate names (some start) = .ok (keys.foldl add start) := by
  -- One name after the other, with the sum so far as the start of the rest.
  induction names generalizing keys start with
  | nil =>
    cases keys with
    | nil => rfl
    | cons key rest => cases found
  | cons name rest ih =>
    cases keys with
    | nil => cases found
    | cons key others =>
      obtain ⟨head, tail⟩ := List.cons.inj found
      rw [aggregateLoop, head]
      exact ih tail _

/-- The aggregate key of names that have keys is the sum of these. -/
theorem aggregateKey_eq {names : List Name} {keys : List PublicKey}
    (found : names.map container.trustedIds.find = keys.map some)
    {add : PublicKey → PublicKey → PublicKey} {sum : PublicKey}
    (total : NonemptySum.total add keys = some sum) (indeterminate : PublicKey) :
    container.aggregateKey add indeterminate names = .ok sum := by
  -- The first key starts the sum, so the indeterminate one is never added.
  cases names with
  | nil =>
    cases keys with
    | nil => cases total
    | cons key rest => cases found
  | cons name rest =>
    cases keys with
    | nil => cases found
    | cons key others =>
      obtain ⟨head, tail⟩ := List.cons.inj found
      rw [aggregateKey, aggregateLoop, head]
      exact (container.aggregateLoop_eq tail add indeterminate key).trans
        (congrArg Except.ok (Option.some.inj total))

end MultipartySchemaContainer

/-- A buffer decodes to the valid signature of a trusted key on a message. -/
def ValidPiece (bls : Bls SecretKey PublicKey Signature) (trustedIds : TrustedIds PublicKey)
    (message : Buffer) (name : Name) (piece : Buffer) : Prop :=
  ∃ key signature, trustedIds.find name = some key ∧ bls.deserialize piece = some signature ∧
    bls.verify signature key message = true

/-- Valid pieces decode to the valid signatures of the keys of their names. -/
theorem exists_keys_of_valid {bls : Bls SecretKey PublicKey Signature}
    {validOf : PublicKey → Buffer → Signature} (ideal : bls.Ideal validOf)
    {trustedIds : TrustedIds PublicKey} {message : Buffer} {pairs : List (Name × Buffer)}
    (valid : ∀ pair ∈ pairs, ValidPiece bls trustedIds message pair.1 pair.2) :
    ∃ keys : List PublicKey, (pairs.map Prod.fst).map trustedIds.find = keys.map some ∧
      (pairs.map Prod.snd).map bls.deserialize =
        (keys.map fun key => validOf key message).map some := by
  induction pairs with
  | nil => exact ⟨[], rfl, rfl⟩
  | cons pair rest ih =>
    obtain ⟨keys, found, decoded⟩ := ih fun other member =>
      valid other (List.mem_cons_of_mem _ member)
    obtain ⟨key, signature, located, read, verified⟩ := valid pair List.mem_cons_self
    -- An ideal scheme has no other signature of the key that verifies.
    have exact := (ideal.verify_iff signature key message).mp verified
    refine ⟨key :: keys, ?_, ?_⟩
    · simp only [List.map_cons, located, found]
    · simp only [List.map_cons, read, decoded, exact]

/-- The aggregate of valid pieces verifies under the aggregate key of their names in any order. -/
theorem aggregate_verifies {bls : Bls SecretKey PublicKey Signature}
    {validOf : PublicKey → Buffer → Signature} (ideal : bls.Ideal validOf)
    {container : MultipartySchemaContainer PublicKey} {message : Buffer}
    {pairs : List (Name × Buffer)} (nonempty : pairs ≠ [])
    (valid : ∀ pair ∈ pairs, ValidPiece bls container.trustedIds message pair.1 pair.2)
    {signers : List Name} (perm : (pairs.map Prod.fst).Perm signers)
    (indeterminate : PublicKey) (aggSig tempSig : Signature) :
    ∃ aggKey signature,
      container.aggregateKey bls.publicKeyAdd indeterminate signers = .ok aggKey ∧
      bls.ndnBLSAggregateSignature aggSig tempSig (pairs.map Prod.snd) =
        .ok (bls.serialize signature) ∧
      bls.verify signature aggKey message = true := by
  obtain ⟨keys, found, decoded⟩ := exists_keys_of_valid ideal valid
  obtain ⟨others, foundOthers, permKeys⟩ := exists_map_some_of_perm perm found
  have nonemptyKeys : keys ≠ [] := by
    intro empty
    have length := congrArg List.length found
    simp only [List.length_map, empty, List.length_nil] at length
    exact nonempty (List.length_eq_zero_iff.mp length)
  obtain ⟨aggKey, keySum⟩ := NonemptySum.total_isSome bls.publicKeyAdd nonemptyKeys
  -- The sum of the signatures is the valid signature of the sum of the keys.
  have signatureSum : NonemptySum.total bls.signatureAdd
      (keys.map fun key => validOf key message) = some (validOf aggKey message) := by
    rw [NonemptySum.total_map (fun left right => ideal.valid_add left right message), keySum]
    rfl
  have reordered := NonemptySum.total_perm ideal.publicKeyAdd_assoc ideal.publicKeyAdd_comm permKeys
  refine ⟨aggKey, validOf aggKey message, ?_, ?_, ?_⟩
  · exact container.aggregateKey_eq foundOthers (reordered.symm.trans keySum) indeterminate
  · exact bls.ndnBLSAggregateSignature_eq decoded signatureSum aggSig tempSig
  · exact (ideal.verify_iff _ _ _).mpr rfl

/-- A packet verifies with a serialized signature that is valid for what the packet signs. -/
theorem ndnBLSVerify_serialize {tlv : Tlv} {bls : Bls SecretKey PublicKey Signature}
    {validOf : PublicKey → Buffer → Signature} (lossless : tlv.Lossless) (ideal : bls.Ideal validOf)
    {toBeSigned : Data} {signature : Signature} {key : PublicKey}
    (hasInfo : toBeSigned.signatureInfo.isSome = true)
    (verified : bls.verify signature key (toBeSigned.unsignedPortion tlv) = true)
    (indeterminate : Signature) :
    bls.ndnBLSVerify tlv indeterminate key
      { toBeSigned with signatureValue := some (bls.serialize signature) } = .ok true := by
  -- The octets decode to the signature, and the signed ranges are the unsigned portion.
  have ranges : tlv.extractSignedRanges
      { toBeSigned with signatureValue := some (bls.serialize signature) } =
        .ok (toBeSigned.unsignedPortion tlv) := lossless.extractSignedRanges_eq hasInfo
  simp only [Bls.ndnBLSVerify, Bls.deserializeInto, Option.getD_some, ideal.deserialize_serialize,
    ranges, verified]

end NdnMps
