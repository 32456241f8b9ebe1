import NdnMps.BlsHelpers.Aggregation
import NdnMps.Schema.Rules
import NdnMps.System.Stages

/-! A session whose signers all answer: what it collects, what it hands over, and to whom the
packets verify. -/

namespace NdnMps

variable {SecretKey PublicKey Signature : Type}

/-- The packets handed over so far. -/
def successes (history : List Call) : List (Data × Data) :=
  history.filterMap fun
    | .successCb data info => some (data, info)
    | _ => none

theorem successes_append (first second : List Call) :
    successes (first ++ second) = successes first ++ successes second :=
  List.filterMap_append

/-- Starting remote calls hands nothing over. -/
@[simp] theorem successes_performRPC (names : List Name) :
    successes (names.map .performRPC) = [] := by
  simp [successes, List.filterMap_map]

/-- A packet and its info packet made of the signatures of all signers of a session, given the
session as it started. -/
def Assembled (libs : Libraries SecretKey PublicKey Signature) (pieceOf : Name → Buffer)
    (start : MultiSignGlobalState) (packets : Data × Data) : Prop :=
  ∃ (names : List Name) (value nonce : Buffer) (aggSig tempSig : Signature),
    names.Perm start.signers ∧
    libs.bls.ndnBLSAggregateSignature aggSig tempSig (names.map pieceOf) = .ok value ∧
    packets.1 = { start.toBeSigned with signatureValue := some value } ∧
    packets.2 = libs.keyChain.signWithKey start.signingKeyName nonce
      (start.signInfo.setContent libs.tlv (MpsSignerList.wireEncode libs.tlv start.signers))

/-- Assembled packets verify at every verifier that trusts the signers' keys and whose first rule
for the packet is one that the signers satisfy. -/
theorem Assembled.verify {libs : Libraries SecretKey PublicKey Signature}
    {validOf : PublicKey → Buffer → Signature} (lossless : libs.tlv.Lossless)
    (ideal : libs.bls.Ideal validOf) {secretOf : Name → SecretKey}
    {start : MultiSignGlobalState} {packets : Data × Data}
    (assembled : Assembled libs (fun name =>
      libs.bls.ndnGenBLSSignature libs.tlv (secretOf name) start.toBeSigned) start packets)
    (nonempty : start.signers ≠ []) {type : Nat}
    (located : start.toBeSigned.signatureInfo = some ⟨type, some (.name start.signInfo.name)⟩)
    {container : MultipartySchemaContainer PublicKey}
    (trusts : ∀ name ∈ start.signers,
      container.trustedIds.find name = some (libs.bls.getPublicKey (secretOf name)))
    {schema : MultipartySchema}
    (first : container.schemas.find? (fun schema => schema.match start.toBeSigned.name) =
      some schema)
    (passes : schema.passSchema start.signers = true)
    (indeterminate : Indeterminate PublicKey Signature) :
    BLSVerifier.verify libs.tlv libs.bls indeterminate container packets.1 packets.2 =
      .ok true := by
  obtain ⟨names, value, nonce, aggSig, tempSig, perm, aggregated, signed, announced⟩ := assembled
  -- Each piece is the valid signature of its signer's trusted key.
  have valid : ∀ pair ∈ names.map fun name => (name,
      libs.bls.ndnGenBLSSignature libs.tlv (secretOf name) start.toBeSigned),
      ValidPiece libs.bls container.trustedIds (start.toBeSigned.unsignedPortion libs.tlv)
        pair.1 pair.2 := by
    intro pair member
    obtain ⟨name, listed, same⟩ := List.mem_map.mp member
    subst same
    refine ⟨libs.bls.getPublicKey (secretOf name), _, trusts name (perm.mem_iff.mp listed),
      ideal.deserialize_serialize _, ?_⟩
    exact (ideal.verify_iff _ _ _).mpr (ideal.sign_valid _ _)
  -- There is a signature, because there is a signer.
  have some' : (names.map fun name => (name, libs.bls.ndnGenBLSSignature libs.tlv
      (secretOf name) start.toBeSigned)) ≠ [] := by
    intro empty
    rw [List.map_eq_nil_iff.mp empty] at perm
    exact nonempty perm.nil_eq.symm
  obtain ⟨aggKey, signature, keys, sum, verified⟩ := aggregate_verifies ideal some' valid
    (by simpa [Function.comp_def] using perm) indeterminate.publicKey aggSig tempSig
  have value := Except.ok.inj (aggregated.symm.trans (by simpa [Function.comp_def] using sum))
  have hasInfo : start.toBeSigned.signatureInfo.isSome = true := by rw [located]; rfl
  have accepted := ndnBLSVerify_serialize lossless ideal hasInfo verified indeterminate.signature
  rw [← value, ← signed] at accepted
  -- The key locator names the info packet, and that lists the signers.
  have locator : packets.1.keyLocatorName = .ok start.signInfo.name := by
    rw [signed, Data.keyLocatorName, located]
  have named : packets.2.name = start.signInfo.name := by
    rw [announced]
    rfl
  have listed : signerListOf libs.tlv packets.2 = .ok start.signers := by
    have content : packets.2.getContent = ⟨Tlv.contentType,
        libs.tlv.encode [MpsSignerList.wireEncode libs.tlv start.signers]⟩ := by
      rw [announced]
      rfl
    simp only [signerListOf, content, Tlv.elements, lossless.parse_encode, Bind.bind, Except.bind]
    exact MpsSignerList.wireDecode_wireEncode lossless start.signers
  have trusted : container.AllTrusted start.signers := by
    intro name member
    rw [← TrustedIds.find_isSome, trusts name member]
    rfl
  have rule : container.passSchema packets.1.name start.signers = true := by
    have same : packets.1.name = start.toBeSigned.name := by rw [signed]
    rw [container.passSchema_trusted _ trusted, same, first]
    exact passes
  simp only [BLSVerifier.verify, locator, named, Name.isPrefixOf_self, Bool.not_true,
    Bool.false_eq_true, if_false, listed, rule, keys, accepted, Bind.bind, Except.bind]

namespace Session

/-- How far a session with answering signers has come, given the session as it started. -/
inductive Outcome (libs : Libraries SecretKey PublicKey Signature) (pieceOf : Name → Buffer)
    (start : MultiSignGlobalState) (session : Session) : Prop where
  /-- Signatures are missing, and nothing has been handed over. -/
  | missing
      (few : session.global.fetchedSignatures.length < session.global.signers.length)
      (nothing : successes session.history = [])
      (same : session.global =
        { start with fetchedSignatures := session.global.fetchedSignatures })
  /-- All signatures have been fetched, and the packets have been handed over once. -/
  | reported {packets : Data × Data}
      (all : session.global.fetchedSignatures.length = session.global.signers.length)
      (once : successes session.history = [packets])
      (assembled : Assembled libs pieceOf start packets)

/-- A session all of whose remote calls wait for answering signers or have delivered. -/
structure OnCourse (libs : Libraries SecretKey PublicKey Signature) (pieceOf : Name → Buffer)
    (start : MultiSignGlobalState) (session : Session) : Prop where
  coherent : session.Coherent
  keys : session.rpcs.map MultiSignPerSignerState.signerKeyName = start.signers
  signers : session.global.signers = start.signers
  delivered : ∀ perSigner ∈ session.rpcs, perSigner.live = false →
    perSigner.signerKeyName ∈ session.collectedKeys
  pieces : ∀ pair ∈ collectedPairs session.history, pair.2 = pieceOf pair.1
  quiet : ∀ reason, .failureCb reason ∉ session.history
  outcome : session.Outcome libs pieceOf start

variable {libs : Libraries SecretKey PublicKey Signature} {pieceOf : Name → Buffer}
variable {start : MultiSignGlobalState} {session renewed : Session}

/-- A session with a waiting remote call misses a signature. -/
theorem OnCourse.missing (course : session.OnCourse libs pieceOf start) {index : Nat}
    {perSigner : MultiSignPerSignerState} (found : session.rpcs[index]? = some perSigner)
    (live : perSigner.live = true) :
    successes session.history = [] ∧ session.global =
      { start with fetchedSignatures := session.global.fetchedSignatures } := by
  cases course.outcome with
  | missing few nothing same => exact ⟨nothing, same⟩
  | reported all once assembled =>
    -- The waiting key would be one signer more than the session has.
    obtain ⟨distinct, listed⟩ := course.coherent.closed found live
    have bound := (distinct.subperm listed).length_le
    rw [List.length_cons, List.length_append] at bound
    rw [course.coherent.length_fetched] at all
    omega

/-- A remote call in another state keeps its key. -/
theorem keys_set {index : Nat} {perSigner : MultiSignPerSignerState}
    (found : session.rpcs[index]? = some perSigner) (other : MultiSignPerSignerState)
    (same : other.signerKeyName = perSigner.signerKeyName) :
    (session.rpcs.set index other).map MultiSignPerSignerState.signerKeyName =
      session.rpcs.map MultiSignPerSignerState.signerKeyName := by
  obtain ⟨before, later, split, -, set⟩ := exists_split_of_getElem? found
  rw [set, split, List.map_append, List.map_append, List.map_cons, List.map_cons, same]

/-- With its signature a remote call's key joins the delivered ones. -/
theorem OnCourse.delivered_collected (course : session.OnCourse libs pieceOf start) {index : Nat}
    {perSigner : MultiSignPerSignerState} {piece : Buffer}
    (rpcs : renewed.rpcs = (session.closeRpc index perSigner).rpcs)
    (pairs : collectedPairs renewed.history =
      collectedPairs session.history ++ [(perSigner.signerKeyName, piece)]) :
    ∀ item ∈ renewed.rpcs, item.live = false → item.signerKeyName ∈ renewed.collectedKeys := by
  -- The remote call that ends is the one whose key is collected.
  intro item member ended
  rw [collectedKeys, pairs, List.map_append]
  rw [rpcs] at member
  rcases List.mem_or_eq_of_mem_set member with old | new
  · exact List.mem_append_left _ (course.delivered item old ended)
  · subst new
    exact List.mem_append_right _ List.mem_cons_self

/-- A genuine signature keeps all signatures genuine. -/
theorem OnCourse.pieces_collected (course : session.OnCourse libs pieceOf start) {name : Name}
    {piece : Buffer} (genuine : piece = pieceOf name) {history : List Call}
    (pairs : collectedPairs history = collectedPairs session.history ++ [(name, piece)]) :
    ∀ pair ∈ collectedPairs history, pair.2 = pieceOf pair.1 := by
  intro pair member
  rw [pairs] at member
  rcases List.mem_append.mp member with old | new
  · exact course.pieces pair old
  · rw [List.mem_singleton.mp new]
    exact genuine

/-- The fetched signatures are the signers' own. -/
theorem OnCourse.fetched_eq (course : session.OnCourse libs pieceOf start) :
    session.global.fetchedSignatures = session.collectedKeys.map pieceOf := by
  rw [course.coherent.pieces, collectedKeys, List.map_map]
  exact List.map_congr_left course.pieces

/-- A session on course stays on course when a signer delivers its own signature or a remote call
goes on. -/
theorem OnCourse.move (course : session.OnCourse libs pieceOf start) {initiatorPrefix : Name}
    {container after : MultipartySchemaContainer PublicKey} {index : Nat}
    {perSigner : MultiSignPerSignerState} {reaction : Reaction}
    (move : session.Move libs initiatorPrefix container index perSigner reaction after renewed)
    (found : session.rpcs[index]? = some perSigner) (fits : reaction.Fits perSigner)
    (genuine : reaction.Genuine (pieceOf perSigner.signerKeyName)) :
    renewed.OnCourse libs pieceOf start := by
  have coherent := move.coherent found fits course.coherent
  -- A genuine reaction is neither a loss nor an abandonment, so three kinds of move are left.
  cases move with
  | abandoned => exact genuine.elim
  | failed needed => exact genuine.elim
  | replaced draws renews => exact genuine.elim
  | proceeded other tpm put =>
    refine ⟨coherent, (keys_set found other fits.1).trans course.keys, course.signers, ?_,
      course.pieces, course.quiet, ?_⟩
    · intro item member ended
      rcases List.mem_or_eq_of_mem_set member with old | new
      · exact course.delivered item old ended
      · subst new
        rw [fits.1]
        exact course.delivered perSigner (List.mem_of_getElem? found) (fits.2.symm.trans ended)
    · cases course.outcome with
      | missing few nothing same => exact .missing few nothing same
      | reported all once assembled => exact .reported all once assembled
  | @collected piece missing =>
    have pairs := collectedPairs_collected session.history index perSigner.signerKeyName piece
    obtain ⟨nothing, same⟩ := course.missing found fits
    refine ⟨coherent, (keys_set found { perSigner with phase := .ended } rfl).trans course.keys,
      course.signers, course.delivered_collected rfl pairs, course.pieces_collected genuine pairs,
      ?_, ?_⟩
    · intro reason member
      rcases List.mem_append.mp member with old | new
      · exact course.quiet reason old
      · simp at new
    · -- There is a signer yet to come, so nothing has been reported.
      have bound := coherent.length_fetched_le
      simp only [List.length_append, List.length_singleton] at bound
      refine .missing ?_ ?_ ?_
      · simp only [List.length_append, List.length_singleton]
        omega
      · rw [successes_append, nothing]
        rfl
      · rw [same]
  | @finished piece value nonce aggSig tempSig data info enough aggregated signed announced =>
    have pairs : collectedPairs (session.history ++
        [.collected index perSigner.signerKeyName piece] ++ [.successCb data info]) =
          collectedPairs session.history ++ [(perSigner.signerKeyName, piece)] := by
      rw [collectedPairs_successCb, collectedPairs_collected]
    obtain ⟨nothing, same⟩ := course.missing found fits
    have last : piece = pieceOf perSigner.signerKeyName := genuine
    -- The last signature completes those of all signers, in the order of their arrival.
    have assembled : Assembled libs pieceOf start (data, info) := by
      refine ⟨session.collectedKeys ++ [perSigner.signerKeyName], value, nonce, aggSig, tempSig,
        ?_, ?_, ?_, ?_⟩
      · rw [← course.signers]
        exact (course.coherent.last found fits enough).2
      · rw [List.map_append, ← course.fetched_eq, List.map_singleton, ← last]
        exact aggregated
      · rw [signed, same]
      · rw [announced, same]
    refine ⟨coherent, (keys_set found { perSigner with phase := .ended } rfl).trans course.keys,
      course.signers, course.delivered_collected rfl pairs, course.pieces_collected last pairs,
      ?_, .reported ?_ ?_ assembled⟩
    · intro reason member
      rcases List.mem_append.mp member with old | new
      · rcases List.mem_append.mp old with older | newer
        · exact course.quiet reason older
        · simp at newer
      · simp at new
    · simp only [List.length_append, List.length_singleton]
      exact enough
    · rw [successes_append, successes_append, nothing]
      rfl

end Session

end NdnMps
