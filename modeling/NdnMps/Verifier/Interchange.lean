import NdnMps.Libraries.Reference
import NdnMps.Schema.EmptyList
import NdnMps.Schema.Policy

/-! Signer lists that differ in their order only, and that no check tells apart. -/

namespace NdnMps

variable {SecretKey PublicKey Signature : Type}

namespace MultipartySchemaContainer

variable (container : MultipartySchemaContainer PublicKey)

/-- The order of the signers does not matter to the container either. -/
theorem passSchema_perm (packetName : Name) {first second : List Name}
    (perm : first.Perm second) :
    container.passSchema packetName first = container.passSchema packetName second := by
  -- The same names are looked up, and then the same rule is asked.
  have known : (first.any fun item => decide (item ∉ container.trustedIds.names)) =
      second.any fun item => decide (item ∉ container.trustedIds.names) := perm.any_eq
  simp only [passSchema, known]
  cases container.schemas.find? fun schema => schema.match packetName with
  | none => rfl
  | some schema => simp only [schema.passSchema_perm perm]

/-- A signer without a key makes the loop throw wherever it stands in the list. -/
theorem aggregateLoop_untrusted {signers : List Name} (untrusted : ¬ container.AllTrusted signers)
    (add : PublicKey → PublicKey → PublicKey) (indeterminate : PublicKey)
    (aggKey : Option PublicKey) :
    container.aggregateLoop add indeterminate signers aggKey = .error .exception := by
  -- Induction on the signers: the first one has no key, or some later one has none.
  induction signers generalizing aggKey with
  | nil => exact absurd (fun _ member => absurd member List.not_mem_nil) untrusted
  | cons signer rest ih =>
    cases found : container.trustedIds.find signer with
    | none => rw [aggregateLoop, found]
    | some key =>
      -- The first one has a key, so the one without is among the others.
      have later : ¬ container.AllTrusted rest := by
        intro trusted
        apply untrusted
        intro other member
        rcases List.mem_cons.mp member with here | there
        · exact here ▸ TrustedIds.find_isSome.mp (Option.isSome_iff_exists.mpr ⟨key, found⟩)
        · exact trusted other there
      cases aggKey with
      | none =>
        rw [aggregateLoop, found]
        exact ih later _
      | some sum =>
        rw [aggregateLoop, found]
        exact ih later _

/-- Lists in another order have the same aggregate key, or none of them has one. -/
theorem aggregateKey_perm {add : PublicKey → PublicKey → PublicKey}
    (assoc : ∀ a b c, add (add a b) c = add a (add b c)) (comm : ∀ a b, add a b = add b a)
    {first second : List Name} (perm : first.Perm second) (nonempty : first ≠ [])
    (own its : PublicKey) :
    container.aggregateKey add own first = container.aggregateKey add its second := by
  -- The lists have the same names, so they are trusted together or not at all.
  by_cases trusted : container.AllTrusted first
  · -- The keys are those of the same names, so they have one sum.
    obtain ⟨keys, found⟩ := container.exists_keys trusted
    obtain ⟨others, foundOthers, permKeys⟩ := exists_map_some_of_perm perm found
    have nonemptyKeys : keys ≠ [] := by
      intro empty
      rw [empty, List.map_nil, List.map_eq_nil_iff] at found
      exact nonempty found
    obtain ⟨sum, total⟩ := NonemptySum.total_isSome add nonemptyKeys
    have reordered := NonemptySum.total_perm assoc comm permKeys
    rw [container.aggregateKey_eq found total own,
      container.aggregateKey_eq foundOthers (reordered.symm.trans total) its]
  · -- Some name has no key in either list, and each loop meets it at some point.
    have untrusted : ¬ container.AllTrusted second := by
      intro all
      exact trusted fun signer member => all signer (perm.mem_iff.mp member)
    rw [aggregateKey, aggregateKey, container.aggregateLoop_untrusted trusted,
      container.aggregateLoop_untrusted untrusted]

end MultipartySchemaContainer

/-- No check of a container tells two signer lists apart, whatever its variables hold before they
are assigned. -/
structure Interchangeable (tlv : Tlv) (bls : Bls SecretKey PublicKey Signature)
    (container : MultipartySchemaContainer PublicKey) (first second : List Name) : Prop where
  /-- Every rule gives them the same answer, in the container or not. -/
  rule : ∀ schema : MultipartySchema, schema.passSchema first = schema.passSchema second
  passSchema : ∀ packetName,
    container.passSchema packetName first = container.passSchema packetName second
  aggregateKey : first ≠ [] → ∀ own its,
    container.aggregateKey bls.publicKeyAdd own first =
      container.aggregateKey bls.publicKeyAdd its second
  /-- A packet is verified in the same way with either list, as long as the same signature is read
  from it. -/
  verify : first ≠ [] → ∀ (own its : Indeterminate PublicKey Signature)
    (data firstInfoData secondInfoData : Data), firstInfoData.name = secondInfoData.name →
    signerListOf tlv firstInfoData = .ok first → signerListOf tlv secondInfoData = .ok second →
    (own.signature = its.signature ∨
      (bls.deserialize (data.signatureValue.getD [])).isSome = true) →
    BLSVerifier.verify tlv bls own container data firstInfoData =
      BLSVerifier.verify tlv bls its container data secondInfoData

/-- A packet with a valid signature value leaves nothing of what was there before. -/
theorem Bls.deserializeInto_eq (bls : Bls SecretKey PublicKey Signature) {own its : Signature}
    {buffer : Buffer} (same : own = its ∨ (bls.deserialize buffer).isSome = true) :
    bls.deserializeInto own buffer = bls.deserializeInto its buffer := by
  -- A valid encoding overwrites the object, and otherwise both objects were the same before.
  rcases same with same | valid
  · rw [same]
  · obtain ⟨signature, decoded⟩ := Option.isSome_iff_exists.mp valid
    rw [deserializeInto, deserializeInto, decoded, Option.getD_some, Option.getD_some]

/-- Permutations of a list are interchangeable. -/
theorem interchangeable_of_perm (tlv : Tlv) {bls : Bls SecretKey PublicKey Signature}
    (assoc : ∀ a b c,
      bls.publicKeyAdd (bls.publicKeyAdd a b) c = bls.publicKeyAdd a (bls.publicKeyAdd b c))
    (comm : ∀ a b, bls.publicKeyAdd a b = bls.publicKeyAdd b a)
    (container : MultipartySchemaContainer PublicKey) {first second : List Name}
    (perm : first.Perm second) : Interchangeable tlv bls container first second where
  rule schema := schema.passSchema_perm perm
  passSchema packetName := container.passSchema_perm packetName perm
  aggregateKey nonempty own its := container.aggregateKey_perm assoc comm perm nonempty own its
  verify nonempty own its data _ _ named firstListed secondListed same := by
    -- Each step of the verifier is one of the two checks above.
    have passes := container.passSchema_perm data.name perm
    have keys := container.aggregateKey_perm assoc comm perm nonempty own.publicKey its.publicKey
    have signature := bls.deserializeInto_eq same
    -- The two calls take the same exit, and the last one with the same key and signature.
    unfold BLSVerifier.verify
    simp only [named, firstListed, secondListed, passes, keys, Bls.ndnBLSVerify, signature,
      Bind.bind, Except.bind]

/-- Signer lists are equal exactly when one is a permutation of the other, and then they are
interchangeable. -/
theorem MpsSignerList.equals_interchangeable (tlv : Tlv) {bls : Bls SecretKey PublicKey Signature}
    (assoc : ∀ a b c,
      bls.publicKeyAdd (bls.publicKeyAdd a b) c = bls.publicKeyAdd a (bls.publicKeyAdd b c))
    (comm : ∀ a b, bls.publicKeyAdd a b = bls.publicKeyAdd b a) (first second : List Name) :
    (equals first second = true ↔ first.Perm second) ∧
      (equals first second = true →
        ∀ container, Interchangeable tlv bls container first second) := by
  refine ⟨equals_iff_perm first second, fun same container => ?_⟩
  have perm := (equals_iff_perm first second).mp same
  exact interchangeable_of_perm tlv assoc comm container perm

open Reference in
/-- One key listed twice, in front of another key and around it. -/
theorem MpsSignerList.equals_interchangeable_repeated :
    let first : List Name := [.ofTexts ["a"], .ofTexts ["a"], .ofTexts ["b"]]
    let second : List Name := [.ofTexts ["a"], .ofTexts ["b"], .ofTexts ["a"]]
    equals first second = true ∧ ((equals first second = true ↔ first.Perm second) ∧
      (equals first second = true →
        ∀ container, Interchangeable libraries.tlv libraries.bls container first second)) := by
  intro first second
  -- The sorted copies are the same list.
  have same : equals first second = true := by decide
  exact ⟨same, equals_interchangeable libraries.tlv Nat.add_assoc Nat.add_comm first second⟩

end NdnMps
