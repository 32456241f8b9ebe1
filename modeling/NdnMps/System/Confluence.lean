import NdnMps.System.Mishaps

/-! Whatever happens around a session, and in whatever order: what it hands over is settled by the
list of its signers. -/

namespace NdnMps

variable {SecretKey PublicKey Signature : Type}

/-- A packet without its signature value, which may depend on the randomness of the signing. -/
def Data.unsigned (data : Data) : Data := { data with signatureValue := none }

/-- Signing a packet again changes its signature value only. -/
theorem KeyChain.unsigned_signWithKey (keyChain : KeyChain) (keyName : Name)
    (nonce other : Buffer) (data : Data) :
    (keyChain.signWithKey keyName nonce data).unsigned =
      (keyChain.signWithKey keyName other data).unsigned :=
  rfl

/-- The packets of a session that has started in a given state, with a list of signers, a
signature, and the randomness that the info packet is signed with. -/
def packetsFor (libs : Libraries SecretKey PublicKey Signature) (start : MultiSignGlobalState)
    (signers : List Name) (signature : Signature) (nonce : Buffer) : Data × Data :=
  ({ start.toBeSigned with signatureValue := some (libs.bls.serialize signature) },
    libs.keyChain.signWithKey start.signingKeyName nonce
      (start.signInfo.setContent libs.tlv (MpsSignerList.wireEncode libs.tlv signers)))

/-- The info packet says which signers it is for. -/
theorem signerListOf_packetsFor {libs : Libraries SecretKey PublicKey Signature}
    (lossless : libs.tlv.Lossless) (start : MultiSignGlobalState) (signers : List Name)
    (signature : Signature) (nonce : Buffer) :
    signerListOf libs.tlv (packetsFor libs start signers signature nonce).2 = .ok signers :=
  signerListOf_wireEncode lossless rfl

namespace Session

/-- A session has handed nothing over and still has the packets it started with, or it waits for
nobody and has handed over the packets of some signers with the signature of all their keys. -/
inductive Settles (libs : Libraries SecretKey PublicKey Signature)
    (trusting : MultipartySchemaContainer PublicKey) (validOf : PublicKey → Buffer → Signature)
    (indeterminate : PublicKey) (start : MultiSignGlobalState) (session : Session) : Prop where
  | pending (nothing : successes session.history = [])
      (toBeSigned : session.global.toBeSigned = start.toBeSigned)
      (signInfo : session.global.signInfo = start.signInfo)
      (signingKeyName : session.global.signingKeyName = start.signingKeyName)
  | settled {signers : List Name} {aggKey : PublicKey} (nonce : Buffer)
      (alone : liveKeys session.rpcs = [])
      (aggregated : trusting.aggregateKey libs.bls.publicKeyAdd indeterminate signers = .ok aggKey)
      (once : successes session.history = [packetsFor libs start signers
        (validOf aggKey (start.toBeSigned.unsignedPortion libs.tlv)) nonce])

/-- Once all signatures are there, no remote call is waited for. -/
theorem Coherent.liveKeys_eq_nil {session : Session} (coherent : session.Coherent)
    (all : session.global.fetchedSignatures.length = session.global.signers.length) :
    liveKeys session.rpcs = [] := by
  -- The keys of all remote calls are different, and they are keys of signers.
  have bound := (coherent.distinct.subperm coherent.listed).length_le
  rw [List.length_append, ← coherent.length_fetched] at bound
  exact List.eq_nil_of_length_eq_zero (by omega)

section Moves

variable {libs : Libraries SecretKey PublicKey Signature} {initiatorPrefix : Name}
variable {container after trusting : MultipartySchemaContainer PublicKey}
variable {validOf : PublicKey → Buffer → Signature} {indeterminate : PublicKey}
variable {start : MultiSignGlobalState} {session renewed : Session} {index : Nat}
variable {perSigner : MultiSignPerSignerState} {reaction : Reaction}

/-- A session that has settled is moved by nobody it waits for. -/
theorem Settles.move_over {signers : List Name} {aggKey : PublicKey} {nonce : Buffer}
    (move : session.Move libs initiatorPrefix container index perSigner reaction after renewed)
    (found : session.rpcs[index]? = some perSigner) (fits : reaction.Fits perSigner)
    (alone : liveKeys session.rpcs = [])
    (aggregated : trusting.aggregateKey libs.bls.publicKeyAdd indeterminate signers = .ok aggKey)
    (once : successes session.history = [packetsFor libs start signers
      (validOf aggKey (start.toBeSigned.unsignedPortion libs.tlv)) nonce]) :
    renewed.Settles libs trusting validOf indeterminate start := by
  -- Only a waiting remote call ends, so none does.
  have nobody : perSigner.live ≠ true := by
    intro live
    have member := mem_liveKeys found live
    rw [alone] at member
    cases member
  cases move with
  | proceeded other tpm put =>
    exact .settled nonce ((liveKeys_proceed found fits.1 fits.2).trans alone) aggregated once
  | abandoned => exact absurd fits nobody
  | collected missing => exact absurd fits nobody
  | finished enough => exact absurd fits nobody
  | failed needed => exact absurd fits nobody
  | replaced draws renews => exact absurd fits nobody

/-- A move that returns no invalid signature settles a session as its signers' keys say, or leaves
its packets as they are. -/
theorem Settles.move (ideal : libs.bls.Ideal validOf)
    (move : session.Move libs initiatorPrefix container index perSigner reaction after renewed)
    (found : session.rpcs[index]? = some perSigner) (fits : reaction.Fits perSigner)
    (returns : session.ReturnsValid libs trusting perSigner reaction)
    (coherent : session.Coherent) (collects : session.CollectsValid libs trusting)
    (settles : session.Settles libs trusting validOf indeterminate start) :
    renewed.Settles libs trusting validOf indeterminate start := by
  have renewedCoherent := move.coherent found fits coherent
  cases settles with
  | settled nonce alone aggregated once => exact .move_over move found fits alone aggregated once
  | pending nothing toBeSigned signInfo signingKeyName =>
    cases move with
    | abandoned => exact .pending nothing toBeSigned signInfo signingKeyName
    | proceeded other tpm put => exact .pending nothing toBeSigned signInfo signingKeyName
    | collected missing =>
      refine .pending ?_ toBeSigned signInfo signingKeyName
      rw [successes_append, nothing]
      rfl
    | failed needed =>
      refine .pending ?_ toBeSigned signInfo signingKeyName
      rw [successes_append, successes_append, nothing]
      rfl
    | replaced draws renews =>
      refine .pending ?_ toBeSigned signInfo signingKeyName
      rw [successes_append, successes_append, successes_performRPC, nothing]
      rfl
    | @finished piece value nonce aggSig tempSig data info enough aggregated signed announced =>
      have perm : ((collectedPairs session.history ++
          [(perSigner.signerKeyName, piece)]).map Prod.fst).Perm session.global.signers := by
        rw [List.map_append]
        exact (coherent.last found fits enough).2
      -- The sum of the signatures is the one valid signature of the sum of the keys.
      obtain ⟨aggKey, signature, keys, sum, verified⟩ := aggregate_verifies ideal (by simp)
        (collects.concat returns) perm indeterminate aggSig tempSig
      rw [List.map_append, ← coherent.pieces] at sum
      have value := Except.ok.inj (aggregated.symm.trans sum)
      refine .settled nonce (renewedCoherent.liveKeys_eq_nil ?_) keys ?_
      · rw [List.length_append]
        exact enough
      · rw [successes_append, successes_append, nothing, ← toBeSigned,
          ← (ideal.verify_iff _ _ _).mp verified, packetsFor, ← toBeSigned, ← signInfo,
          ← signingKeyName, ← value, ← signed, ← announced]
        rfl

/-- So does a session that proceeds. -/
theorem Settles.proceeds (ideal : libs.bls.Ideal validOf) {covered : Prop} {unsignedData : Data}
    {schema : MultipartySchema}
    (accountable : session.Accountable libs trusting covered unsignedData schema)
    (proceeds : session.Proceeds libs trusting renewed)
    (settles : session.Settles libs trusting validOf indeterminate start) :
    renewed.Settles libs trusting validOf indeterminate start := by
  cases proceeds with
  | stays => exact settles
  | moves found fits returns move =>
    exact settles.move ideal move found fits returns accountable.qualified.coherent
      accountable.collects

end Moves

end Session

/-- A new session has handed nothing over. -/
theorem Session.startSession_settles (libs : Libraries SecretKey PublicKey Signature)
    (initiator : MPSInitiator PublicKey) (trusting : MultipartySchemaContainer PublicKey)
    (validOf : PublicKey → Buffer → Signature) (indeterminate : PublicKey) (unsignedData : Data)
    (schema : MultipartySchema) (signingKeyName : Name) (keyLocatorRandomness : Nat)
    (rpcs others : Name → RpcDraw) (signers : List Name) :
    (initiator.startSession libs unsignedData schema signingKeyName keyLocatorRandomness rpcs
      signers).Settles libs trusting validOf indeterminate
        (initiator.startSession libs unsignedData schema signingKeyName keyLocatorRandomness others
          signers).global := by
  rw [startSession_eq, startSession_eq]
  refine .pending ?_ rfl rfl rfl
  cases signers with
  | nil => rfl
  | cons name rest => exact successes_performRPC (name :: rest)

/-- What is reported as signed are the packets handed over. -/
theorem mem_successes {history : List Call} {data info : Data} :
    (data, info) ∈ successes history ↔ .successCb data info ∈ history := by
  simp only [successes, List.mem_filterMap]
  constructor
  · rintro ⟨call, member, reports⟩
    cases call <;> simp at reports
    obtain ⟨rfl, rfl⟩ := reports
    exact member
  · exact fun member => ⟨_, member, rfl⟩

/-- Two sessions that settle from the same start hand over the same packets for the same signers,
but for the signature values of the info packets. -/
theorem Session.Settles.same_packets {libs : Libraries SecretKey PublicKey Signature}
    (lossless : libs.tlv.Lossless) {trusting : MultipartySchemaContainer PublicKey}
    {validOf : PublicKey → Buffer → Signature} {indeterminate : PublicKey}
    {start : MultiSignGlobalState} {first second : Session}
    (one : first.Settles libs trusting validOf indeterminate start)
    (other : second.Settles libs trusting validOf indeterminate start)
    {packets others : Data × Data} (reported : packets ∈ successes first.history)
    (also : others ∈ successes second.history)
    (same : signerListOf libs.tlv packets.2 = signerListOf libs.tlv others.2) :
    packets.1 = others.1 ∧ packets.2.unsigned = others.2.unsigned := by
  cases one with
  | pending nothing => simp [nothing] at reported
  | @settled signers aggKey nonce alone aggregated once =>
    cases other with
    | pending nothing => simp [nothing] at also
    | @settled signers aggKey another alone again twice =>
      rw [once, List.mem_singleton] at reported
      rw [twice, List.mem_singleton] at also
      subst reported also
      -- The lists are those of the info packets, and they have one sum of keys.
      rw [signerListOf_packetsFor lossless, signerListOf_packetsFor lossless] at same
      cases same
      cases aggregated.symm.trans again
      exact ⟨rfl, libs.keyChain.unsigned_signWithKey _ nonce another _⟩

/-- A session hands over packets once at most. -/
theorem Session.Settles.length_successes_le {libs : Libraries SecretKey PublicKey Signature}
    {trusting : MultipartySchemaContainer PublicKey} {validOf : PublicKey → Buffer → Signature}
    {indeterminate : PublicKey} {start : MultiSignGlobalState} {session : Session}
    (settles : session.Settles libs trusting validOf indeterminate start) :
    (successes session.history).length ≤ 1 := by
  cases settles with
  | pending nothing => simp [nothing]
  | settled nonce alone aggregated once => simp [once]

/-- Packets assembled from the signatures of trusted keys have the signature of all their keys. -/
theorem Assembled.eq_packetsFor {libs : Libraries SecretKey PublicKey Signature}
    {validOf : PublicKey → Buffer → Signature} (ideal : libs.bls.Ideal validOf)
    {secretOf : Name → SecretKey} {start : MultiSignGlobalState} {packets : Data × Data}
    (assembled : Assembled libs (fun name =>
      libs.bls.ndnGenBLSSignature libs.tlv (secretOf name) start.toBeSigned) start packets)
    (nonempty : start.signers ≠ []) {container : MultipartySchemaContainer PublicKey}
    (trusts : ∀ name ∈ start.signers,
      container.trustedIds.find name = some (libs.bls.getPublicKey (secretOf name)))
    (indeterminate : PublicKey) :
    ∃ aggKey nonce, container.aggregateKey libs.bls.publicKeyAdd indeterminate start.signers =
        .ok aggKey ∧
      packets = packetsFor libs start start.signers
        (validOf aggKey (start.toBeSigned.unsignedPortion libs.tlv)) nonce := by
  obtain ⟨names, value, nonce, aggSig, tempSig, perm, aggregated, signed, announced⟩ := assembled
  have valid : ∀ pair ∈ names.map fun name => (name,
      libs.bls.ndnGenBLSSignature libs.tlv (secretOf name) start.toBeSigned),
      ValidPiece libs.bls container.trustedIds (start.toBeSigned.unsignedPortion libs.tlv)
        pair.1 pair.2 := by
    intro pair member
    obtain ⟨name, listed, rfl⟩ := List.mem_map.mp member
    exact validPiece_ndnGenBLSSignature libs.tlv ideal (trusts name (perm.mem_iff.mp listed)) _
  have asked : (names.map fun name => (name,
      libs.bls.ndnGenBLSSignature libs.tlv (secretOf name) start.toBeSigned)) ≠ [] := by
    intro empty
    rw [List.map_eq_nil_iff.mp empty] at perm
    exact nonempty perm.nil_eq.symm
  -- In whatever order the signatures are added, their sum is the valid one of the sum of the keys.
  obtain ⟨aggKey, signature, keys, sum, verified⟩ := aggregate_verifies ideal asked valid
    (by simpa [Function.comp_def] using perm) indeterminate aggSig tempSig
  have exact' := Except.ok.inj (aggregated.symm.trans (by simpa [Function.comp_def] using sum))
  rw [(ideal.verify_iff _ _ _).mp verified] at exact'
  exact ⟨aggKey, nonce, keys, Prod.ext (by rw [signed, exact']; rfl) announced⟩

namespace World

/-- What is handed over in an orderly run of a session with honest signers is assembled from their
signatures. -/
theorem assembled_of_run {libs : Libraries SecretKey PublicKey Signature}
    (lossless : libs.tlv.Lossless) (matching : libs.ssl.Matching)
    (verifies : libs.keyChain.Verifies) {signerOf : Name → BLSSigner SecretKey}
    {polls : Name → Nat} {initiator started : MPSInitiator PublicKey} {unsignedData : Data}
    {schema : MultipartySchema} {signingKeyName : Name} {keyLocatorRandomness : Nat}
    {rpcs : Name → RpcDraw} {signers : List Name}
    (selected : initiator.schemaContainer.getAvailableSigners schema = .ok signers)
    (nonempty : signers ≠ []) {session : Session}
    (new : session = initiator.startSession libs unsignedData schema signingKeyName
      keyLocatorRandomness rpcs signers)
    (honest : HonestSigners libs signerOf initiator.schemaContainer.trustedIds session)
    (begun : initiator.next libs (.multiPartySign unsignedData schema signingKeyName
      keyLocatorRandomness rpcs) = some started)
    {events : List (Nat × LinkEvent Signature)} {world : World PublicKey}
    (run : Run.after (next libs signerOf polls) events
      (ofSession polls started initiator.sessions.length) = some world) :
    ∃ final, world.initiator.sessions[initiator.sessions.length]? = some final ∧
      ∀ packets ∈ successes final.history, Assembled libs (fun name =>
        libs.bls.ndnGenBLSSignature libs.tlv (signerOf name).secretKey session.global.toBeSigned)
          session.global packets := by
  obtain ⟨running, same⟩ := MPSInitiator.next_started selected begun
  rw [← new] at same
  subst same
  have hasInfo : session.global.toBeSigned.signatureInfo.isSome := by
    rw [new, Session.startSession_eq]
    rfl
  have hasValue : session.global.toBeSigned.signatureValue.isSome := by
    rw [new, Session.startSession_eq]
    rfl
  -- The world is on course at the start, so it is at the end of the run.
  obtain ⟨final, course, place, -⟩ := (ofSession_onCourse lossless running selected nonempty new
    honest).run lossless matching verifies hasInfo hasValue honest.acceptsData run
  have located := course.located
  rw [place] at located
  refine ⟨final, located, fun packets member => ?_⟩
  cases course.course.outcome with
  | missing few nothing same => simp [nothing] at member
  | reported all once assembled =>
    rw [once] at member
    rw [List.mem_singleton.mp member]
    exact assembled

/-- The same session in two networks, with signers that hold the same keys and refuse what they
please: it hands over packets at most once, and if the two info packets list the same signers then
the signed packets are the same, and the info packets too but for their signature values, whatever
is lost, in whatever order all else arrives, and whatever randomness is drawn. -/
theorem hands_over_same (libs : Libraries SecretKey PublicKey Signature)
    {validOf : PublicKey → Buffer → Signature} (lossless : libs.tlv.Lossless)
    (ideal : libs.bls.Ideal validOf) (matching : libs.ssl.Matching)
    (nothing : libs.tlv.encode [] = []) (signerOf otherOf : Name → BLSSigner SecretKey)
    (polls otherPolls : Name → Nat) {initiator started otherStarted : MPSInitiator PublicKey}
    (named : initiator.schemaContainer.NamesNonempty)
    (honest : ∀ name ∈ initiator.schemaContainer.trustedIds.names,
      initiator.schemaContainer.trustedIds.find name =
        some (libs.bls.getPublicKey (signerOf name).secretKey))
    (alsoHonest : ∀ name ∈ initiator.schemaContainer.trustedIds.names,
      initiator.schemaContainer.trustedIds.find name =
        some (libs.bls.getPublicKey (otherOf name).secretKey))
    {unsignedData : Data} {schema : MultipartySchema} {signingKeyName : Name}
    {keyLocatorRandomness : Nat} {rpcs otherRpcs : Name → RpcDraw} {signers : List Name}
    (selected : initiator.schemaContainer.getAvailableSigners schema = .ok signers)
    (begun : initiator.next libs (.multiPartySign unsignedData schema signingKeyName
      keyLocatorRandomness rpcs) = some started)
    (alsoBegun : initiator.next libs (.multiPartySign unsignedData schema signingKeyName
      keyLocatorRandomness otherRpcs) = some otherStarted)
    {occurrences others : List (Occurrence Signature)} {world other : World PublicKey}
    (run : Run.after (occur libs signerOf polls) occurrences
      (ofSession polls started initiator.sessions.length) = some world)
    (otherRun : Run.after (occur libs otherOf otherPolls) others
      (ofSession otherPolls otherStarted initiator.sessions.length) = some other) :
    ∃ session renewed, world.initiator.sessions[initiator.sessions.length]? = some session ∧
      other.initiator.sessions[initiator.sessions.length]? = some renewed ∧
      (successes session.history).length ≤ 1 ∧
      ∀ data info otherData otherInfo, .successCb data info ∈ session.history →
        .successCb otherData otherInfo ∈ renewed.history →
        signerListOf libs.tlv info = signerListOf libs.tlv otherInfo →
        data = otherData ∧ info.unsigned = otherInfo.unsigned := by
  have indeterminate := libs.bls.getPublicKey (signerOf .root).secretKey
  -- Both sessions settle from the same start, since the draws are of the remote calls only.
  obtain ⟨session, located, -, settles⟩ := safe_of_run lossless ideal matching nothing named honest
    selected begun False.elim _ (fun _ _ => Session.Settles.proceeds ideal)
    (Session.startSession_settles libs initiator _ validOf indeterminate unsignedData schema
      signingKeyName keyLocatorRandomness rpcs rpcs signers) run
  obtain ⟨renewed, alsoLocated, -, alsoSettles⟩ := safe_of_run lossless ideal matching nothing named
    alsoHonest selected alsoBegun False.elim _ (fun _ _ => Session.Settles.proceeds ideal)
    (Session.startSession_settles libs initiator _ validOf indeterminate unsignedData schema
      signingKeyName keyLocatorRandomness otherRpcs rpcs signers) otherRun
  refine ⟨session, renewed, located, alsoLocated, settles.length_successes_le, ?_⟩
  intro data info otherData otherInfo reported also same
  exact settles.same_packets lossless alsoSettles (mem_successes.mpr reported)
    (mem_successes.mpr also) same

/-- In the orderly runs of a session with honest signers the same packets are handed over, but for
the signature value of the info packet, in whatever order the signers answer, however often they are
still processing, and whatever randomness is drawn. -/
theorem delivers_same (libs : Libraries SecretKey PublicKey Signature)
    {validOf : PublicKey → Buffer → Signature} (lossless : libs.tlv.Lossless)
    (ideal : libs.bls.Ideal validOf) (matching : libs.ssl.Matching)
    (verifies : libs.keyChain.Verifies) (signerOf : Name → BLSSigner SecretKey)
    (polls otherPolls : Name → Nat) {initiator started otherStarted : MPSInitiator PublicKey}
    {unsignedData : Data} {schema : MultipartySchema} {signingKeyName : Name}
    {keyLocatorRandomness : Nat} {rpcs otherRpcs : Name → RpcDraw} {signers : List Name}
    (selected : initiator.schemaContainer.getAvailableSigners schema = .ok signers)
    (nonempty : signers ≠ [])
    (honest : HonestSigners libs signerOf initiator.schemaContainer.trustedIds
      (initiator.startSession libs unsignedData schema signingKeyName keyLocatorRandomness rpcs
        signers))
    (alsoHonest : HonestSigners libs signerOf initiator.schemaContainer.trustedIds
      (initiator.startSession libs unsignedData schema signingKeyName keyLocatorRandomness otherRpcs
        signers))
    (begun : initiator.next libs (.multiPartySign unsignedData schema signingKeyName
      keyLocatorRandomness rpcs) = some started)
    (alsoBegun : initiator.next libs (.multiPartySign unsignedData schema signingKeyName
      keyLocatorRandomness otherRpcs) = some otherStarted)
    {events others : List (Nat × LinkEvent Signature)} {world other : World PublicKey}
    (run : Run.after (next libs signerOf polls) events
      (ofSession polls started initiator.sessions.length) = some world)
    (otherRun : Run.after (next libs signerOf otherPolls) others
      (ofSession otherPolls otherStarted initiator.sessions.length) = some other) :
    ∃ session renewed, world.initiator.sessions[initiator.sessions.length]? = some session ∧
      other.initiator.sessions[initiator.sessions.length]? = some renewed ∧
      ∀ packets ∈ successes session.history, ∀ further ∈ successes renewed.history,
        packets.1 = further.1 ∧ packets.2.unsigned = further.2.unsigned := by
  have indeterminate := libs.bls.getPublicKey (signerOf .root).secretKey
  obtain ⟨session, located, assembled⟩ := assembled_of_run lossless matching verifies selected
    nonempty rfl honest begun run
  obtain ⟨renewed, alsoLocated, alsoAssembled⟩ := assembled_of_run lossless matching verifies
    selected nonempty rfl alsoHonest alsoBegun otherRun
  refine ⟨session, renewed, located, alsoLocated, fun packets member further also => ?_⟩
  -- Both sessions start from the same packets, for the same signers.
  have holds := honest.holds
  have alsoHolds := alsoHonest.holds
  have first := assembled packets member
  have second := alsoAssembled further also
  rw [Session.startSession_eq] at holds alsoHolds first second
  obtain ⟨aggKey, nonce, keys, rfl⟩ := first.eq_packetsFor ideal nonempty holds indeterminate
  obtain ⟨otherKey, another, otherKeys, rfl⟩ :=
    second.eq_packetsFor ideal nonempty alsoHolds indeterminate
  cases keys.symm.trans otherKeys
  exact ⟨rfl, libs.keyChain.unsigned_signWithKey _ nonce another _⟩

end World

namespace Reference

/-- The first signer delivers before the second one is refused, and the spare one comes last. -/
def refusedRequest : List (Occurrence Nat) :=
  delivers 0 ++ [.mishap 1 (.nack draw)] ++ delivers 2

/-- The initiator that trusts two keys, with a session for both signers. -/
def bothStarted : MPSInitiator Nat :=
  { initiator with sessions := [initiator.startSession libraries (.ofName (.ofTexts ["data"]))
      bothSigners (.ofTexts ["i", "KEY", "1"]) 4 rpcDraws [firstKey, secondKey]] }

/-- Other randomness for every callback of the initiator. -/
def otherDraw : Draw Nat := { draw with random := List.replicate 8 2, nonce := [8] }

/-- The turns of a signer that is never processing when it is asked for the result. -/
def turns (draw : Draw Nat) (index : Nat) : List (Nat × LinkEvent Nat) :=
  let request : RequestDraw := ⟨[6], List.replicate 32 2, length_salt, 11, [1]⟩
  [(index, .interest request), (index, .reply draw), (index, .fetch draw), (index, .parameter),
    (index, .fetchResult draw), (index, .interest request), (index, .reply draw)]

end Reference

open Reference in
/-- The second signer is lost before or after the first one delivers. -/
theorem World.hands_over_same_replaced :
    ∃ world other,
      Run.after (occur libraries holderOf fun _ => 1) lostRequest
        (ofSession (fun _ => 1) spareStarted 0) = some world ∧
      Run.after (occur libraries holderOf fun _ => 1) refusedRequest
        (ofSession (fun _ => 1) spareStarted 0) = some other ∧
      ∃ session renewed, world.initiator.sessions[0]? = some session ∧
        other.initiator.sessions[0]? = some renewed ∧
        (successes session.history).length ≤ 1 ∧
        ∀ data info otherData otherInfo, .successCb data info ∈ session.history →
          .successCb otherData otherInfo ∈ renewed.history →
          signerListOf libraries.tlv info = signerListOf libraries.tlv otherInfo →
          data = otherData ∧ info.unsigned = otherInfo.unsigned := by
  have alsoPossible : (Run.after (occur libraries holderOf fun _ => 1) refusedRequest
      (ofSession (fun _ => 1) spareStarted 0)).isSome = true := by decide +kernel
  obtain ⟨world, run⟩ := Option.isSome_iff_exists.mp lostRequest_possible
  obtain ⟨other, otherRun⟩ := Option.isSome_iff_exists.mp alsoPossible
  exact ⟨world, other, run, otherRun, hands_over_same libraries PacketFormat.tlv_lossless
    (Bls.additive_ideal checksum) openssl_matching rfl holderOf holderOf (fun _ => 1) (fun _ => 1)
    spareInitiator_named holderOf_holds holderOf_holds spare_selected spare_begun spare_begun run
    otherRun⟩

open Reference in
/-- Either signer delivers first, and the initiator draws other randomness. -/
theorem World.delivers_same_turns :
    ∃ world other,
      Run.after (next libraries signerOf fun _ => 0) (turns draw 0 ++ turns draw 1)
        (ofSession (fun _ => 0) bothStarted 0) = some world ∧
      Run.after (next libraries signerOf fun _ => 1) (turns otherDraw 1 ++ turns otherDraw 0)
        (ofSession (fun _ => 1) bothStarted 0) = some other ∧
      ∃ session renewed, world.initiator.sessions[0]? = some session ∧
        other.initiator.sessions[0]? = some renewed ∧
        ∀ packets ∈ successes session.history, ∀ further ∈ successes renewed.history,
          packets.1 = further.1 ∧ packets.2.unsigned = further.2.unsigned := by
  have possible : (Run.after (next libraries signerOf fun _ => 0) (turns draw 0 ++ turns draw 1)
      (ofSession (fun _ => 0) bothStarted 0)).isSome = true := by decide +kernel
  have alsoPossible : (Run.after (next libraries signerOf fun _ => 1)
      (turns otherDraw 1 ++ turns otherDraw 0) (ofSession (fun _ => 1) bothStarted 0)).isSome =
        true := by decide +kernel
  obtain ⟨world, run⟩ := Option.isSome_iff_exists.mp possible
  obtain ⟨other, otherRun⟩ := Option.isSome_iff_exists.mp alsoPossible
  have selected : Reference.initiator.schemaContainer.getAvailableSigners bothSigners =
      .ok [firstKey, secondKey] := by rfl
  have begun : Reference.initiator.next libraries (sign bothSigners) = some bothStarted := by rfl
  exact ⟨world, other, run, otherRun, delivers_same libraries PacketFormat.tlv_lossless
    (Bls.additive_ideal checksum) openssl_matching keyChain_verifies signerOf (fun _ => 0)
    (fun _ => 1) selected (by simp) honest_bothSigners honest_bothSigners begun begun run otherRun⟩

open Reference in
/-- There are packets to hand over. -/
example : (Run.after (World.next libraries signerOf fun _ => 1)
    (turns otherDraw 1 ++ turns otherDraw 0) (World.ofSession (fun _ => 1) bothStarted 0)).map
      (fun world => world.initiator.sessions.map fun session =>
        (successes session.history).length) = some [1] := by
  decide +kernel

end NdnMps
