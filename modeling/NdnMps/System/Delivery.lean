import NdnMps.Initiator.Completion
import NdnMps.System.Progress

/-! A session with honest signers from its start: every complete run ends with one success, whose
packets verify. -/

namespace NdnMps

variable {SecretKey PublicKey Signature : Type}

/-- The signers of a session hold the trusted keys, are reached by requests under their keys'
names, and accept the request and the packet to be signed. What they are sent, and what they ask
for, are Interests that can be expressed. -/
structure HonestSigners (libs : Libraries SecretKey PublicKey Signature)
    (signerOf : Name → BLSSigner SecretKey) (trustedIds : TrustedIds PublicKey)
    (session : Session) : Prop where
  holds : ∀ name ∈ session.global.signers,
    trustedIds.find name = some (libs.bls.getPublicKey (signerOf name).secretKey)
  reached : ∀ name ∈ session.global.signers, (signerOf name).signerPrefix.digests = 0 ∧
    ∃ first second : Component, name = ((signerOf name).signerPrefix.append first).append second
  expressible : ∀ perSigner ∈ session.rpcs,
    libs.tlv.Expressible perSigner.paraData.name (some signerTimeout)
  acceptsRequest : ∀ perSigner ∈ session.rpcs, ∀ request : Interest,
    perSigner.pending = some request →
      (signerOf perSigner.signerKeyName).verifySignRequest request = true
  acceptsData : ∀ name ∈ session.global.signers,
    (signerOf name).verifyToBeSigned session.global.toBeSigned = true

/-- The packets verify at every verifier that agrees on the signers' keys and whose first rule for
the packet's name is the schema. -/
def VerifiesEverywhere (libs : Libraries SecretKey PublicKey Signature)
    (trustedIds : TrustedIds PublicKey) (signers : List Name) (schema : MultipartySchema)
    (packetName : Name) (packets : Data × Data) : Prop :=
  ∀ (verifier : MultipartySchemaContainer PublicKey)
    (indeterminate : Indeterminate PublicKey Signature),
    (∀ name ∈ signers, verifier.trustedIds.find name = trustedIds.find name) →
    verifier.schemas.find? (fun rule => rule.match packetName) = some schema →
    BLSVerifier.verify libs.tlv libs.bls indeterminate verifier packets.1 packets.2 = .ok true

/-- A new remote call to an honest signer asks it with a request that it accepts. -/
theorem asks_newRpc {libs : Libraries SecretKey PublicKey Signature} (lossless : libs.tlv.Lossless)
    {signer : BLSSigner SecretKey} {name initiatorPrefix signingKeyName : Name}
    {toBeSigned : Data} {draw : RpcDraw} {first second : Component}
    (plain : signer.signerPrefix.digests = 0)
    (reached : name = (signer.signerPrefix.append first).append second)
    (expressible : libs.tlv.Expressible (Session.newRpc libs initiatorPrefix toBeSigned
      signingKeyName name draw).paraData.name (some signerTimeout))
    (accepts : ∀ request, (Session.newRpc libs initiatorPrefix toBeSigned signingKeyName name
      draw).pending = some request → signer.verifySignRequest request = true) :
    ∃ request, (Session.newRpc libs initiatorPrefix toBeSigned signingKeyName name draw).pending =
        some request ∧
      (Session.newRpc libs initiatorPrefix toBeSigned signingKeyName name draw).Asks libs signer
        toBeSigned request := by
  -- The signer's prefix is the key name without its last two components.
  have shorter : name.getPrefix (-2) = signer.signerPrefix := by
    rw [reached]
    exact Name.getPrefix_append_append _ _ _
  refine ⟨_, rfl, rfl, ⟨signingKeyName, draw.nonce, ?_⟩, ?_, rfl, rfl, plain, expressible,
    accepts _ rfl⟩
  · rw [← shorter]
    rfl
  · -- A Data element is not taken for a Content element.
    have wrapped : (libs.tlv.encodeData toBeSigned).type ≠ Tlv.contentType := by
      rw [lossless.type_encodeData]
      decide
    simp only [Session.newRpc, prepareParameterData, Data.setContent, wrapped, if_false]

section Start

variable {libs : Libraries SecretKey PublicKey Signature} {initiator : MPSInitiator PublicKey}
variable {unsignedData : Data} {schema : MultipartySchema} {signingKeyName : Name}
variable {keyLocatorRandomness : Nat} {rpcs : Name → RpcDraw} {signers : List Name}

/-- A new session with somebody to ask is on course. -/
theorem Session.startSession_onCourse {pieceOf : Name → Buffer}
    (selected : initiator.schemaContainer.getAvailableSigners schema = .ok signers)
    (nonempty : signers ≠ []) :
    (initiator.startSession libs unsignedData schema signingKeyName keyLocatorRandomness rpcs
      signers).OnCourse libs pieceOf (initiator.startSession libs unsignedData schema
        signingKeyName keyLocatorRandomness rpcs signers).global := by
  -- Nobody has ended and nothing is collected, so a signature of somebody is missing.
  have coherent : (initiator.startSession libs unsignedData schema signingKeyName
    keyLocatorRandomness rpcs signers).Coherent := startSession_coherent selected
  have asked : signers.isEmpty = false := List.isEmpty_eq_false_iff.mpr nonempty
  rw [startSession_eq] at coherent ⊢
  simp only [asked, Bool.false_eq_true, if_false, List.nil_append] at coherent ⊢
  refine ⟨coherent, ?_, rfl, ?_, ?_, ?_, .missing ?_ (successes_performRPC signers) rfl⟩
  · simp [newRpc, Function.comp_def]
  · intro perSigner member ended
    obtain ⟨name, -, same⟩ := List.mem_map.mp member
    rw [← same] at ended
    cases ended
  · intro pair member
    rw [collectedPairs_performRPC] at member
    cases member
  · intro reason member
    simp at member
  · exact List.length_pos_iff.mpr nonempty

namespace World

variable {signerOf : Name → BLSSigner SecretKey} {polls : Name → Nat}

/-- The world of a new session with honest signers is on course. -/
theorem ofSession_onCourse (lossless : libs.tlv.Lossless)
    (running : initiator.liveness = .running)
    (selected : initiator.schemaContainer.getAvailableSigners schema = .ok signers)
    (nonempty : signers ≠ []) {session : Session}
    (started : session = initiator.startSession libs unsignedData schema signingKeyName
      keyLocatorRandomness rpcs signers)
    (honest : HonestSigners libs signerOf initiator.schemaContainer.trustedIds session) :
    (ofSession polls { initiator with sessions := initiator.sessions ++ [session] }
      initiator.sessions.length).OnCourse libs signerOf session.global session := by
  have located : (initiator.sessions ++ [session])[initiator.sessions.length]? = some session :=
    by simp
  have links : (ofSession polls { initiator with sessions := initiator.sessions ++ [session] }
      initiator.sessions.length).links = session.rpcs.map (Link.ofRpc polls) := by
    simp only [ofSession, located]
  refine ⟨running, located, ?_, ?_, ?_⟩
  · rw [links, List.length_map]
  · rw [started]
    exact Session.startSession_onCourse selected nonempty
  · intro index perSigner link found linked
    have remoteCalls : session.rpcs = signers.map fun name => Session.newRpc libs
        initiator.initiatorPrefix session.global.toBeSigned signingKeyName name (rpcs name) := by
      rw [started, Session.startSession_eq]
    have asked : session.global.signers = signers := by
      rw [started, Session.startSession_eq]
    have member := List.mem_of_getElem? found
    -- The remote call is the new one to some signer, and its request is on its way.
    rw [links, List.getElem?_map, found] at linked
    cases linked
    obtain ⟨name, listed, same⟩ := List.mem_map.mp (remoteCalls ▸ member)
    subst same
    obtain ⟨plain, first, second, reached⟩ := honest.reached name (asked ▸ listed)
    obtain ⟨request, pending, asks⟩ := asks_newRpc lossless plain reached
      (honest.expressible _ member) (honest.acceptsRequest _ member)
    exact .requested asks pending rfl rfl rfl rfl

/-- Once every remote call has ended, the packets have been handed over. -/
theorem successes_of_ended {pieceOf : Name → Buffer} {start : MultiSignGlobalState}
    {session : Session} (course : session.OnCourse libs pieceOf start)
    (ended : ∀ perSigner ∈ session.rpcs, perSigner.live = false) :
    (successes session.history).length = 1 := by
  cases course.outcome with
  | reported all once assembled =>
    rw [once]
    rfl
  | missing few nothing same =>
    -- Every signer has delivered, so there are as many signatures as signers.
    have complete : ∀ name ∈ session.global.signers, name ∈ session.collectedKeys := by
      intro name listed
      rw [course.signers, ← course.keys] at listed
      obtain ⟨perSigner, member, same⟩ := List.mem_map.mp listed
      subst same
      exact course.delivered perSigner member (ended perSigner member)
    have bound := (course.coherent.signers_nodup.subperm complete).length_le
    rw [course.coherent.length_fetched] at few
    omega

/-- Packets assembled for a session that honest signers have been selected for verify wherever the
schema decides. -/
theorem verifiesEverywhere_of_assembled {validOf : PublicKey → Buffer → Signature}
    (lossless : libs.tlv.Lossless) (ideal : libs.bls.Ideal validOf)
    (selected : initiator.schemaContainer.getAvailableSigners schema = .ok signers)
    (nonempty : signers ≠ []) {session : Session}
    (started : session = initiator.startSession libs unsignedData schema signingKeyName
      keyLocatorRandomness rpcs signers)
    (honest : HonestSigners libs signerOf initiator.schemaContainer.trustedIds session)
    {packets : Data × Data}
    (assembled : Assembled libs (fun name => libs.bls.ndnGenBLSSignature libs.tlv
      (signerOf name).secretKey session.global.toBeSigned) session.global packets) :
    VerifiesEverywhere libs initiator.schemaContainer.trustedIds signers schema
      unsignedData.name packets := by
  -- The selection satisfies the schema, and the verifier knows the keys of honest signers.
  intro verifier indeterminate agrees first
  obtain ⟨-, -, accepted⟩ := MultipartySchemaContainer.getAvailableSigners_sound selected
  have holds := honest.holds
  rw [started, Session.startSession_eq] at holds assembled
  refine assembled.verify lossless ideal nonempty rfl (fun name member => ?_) first
    ((schema.passSchema_iff signers).mpr accepted) indeterminate
  exact (agrees name member).trans (holds name member)

/-- In every run of a session with honest signers, in which nothing is lost and each signer is
processing only so often, the failure callback is never called and the success callback at most
once, with packets that verify everywhere. The run is bounded, and once no event can happen any
more the success callback has been called. -/
theorem succeeds_once (libs : Libraries SecretKey PublicKey Signature)
    {validOf : PublicKey → Buffer → Signature} (lossless : libs.tlv.Lossless)
    (ideal : libs.bls.Ideal validOf) (matching : libs.ssl.Matching)
    (verifies : libs.keyChain.Verifies) (signerOf : Name → BLSSigner SecretKey)
    (polls : Name → Nat) {initiator : MPSInitiator PublicKey}
    (running : initiator.liveness = .running) (unsignedData : Data) {schema : MultipartySchema}
    (signingKeyName : Name) (keyLocatorRandomness : Nat) (rpcs : Name → RpcDraw)
    {signers : List Name}
    (selected : initiator.schemaContainer.getAvailableSigners schema = .ok signers)
    (nonempty : signers ≠ [])
    (honest : HonestSigners libs signerOf initiator.schemaContainer.trustedIds
      (initiator.startSession libs unsignedData schema signingKeyName keyLocatorRandomness rpcs
        signers)) :
    ∃ started, initiator.next libs (.multiPartySign unsignedData schema signingKeyName
        keyLocatorRandomness rpcs) = some started ∧
      ∃ bound, ∀ (events : List (Nat × LinkEvent Signature)) (world : World PublicKey),
        Run.after (next libs signerOf polls) events
          (ofSession polls started initiator.sessions.length) = some world →
        events.length ≤ bound ∧
        ∃ session, world.initiator.sessions[initiator.sessions.length]? = some session ∧
          (∀ reason, .failureCb reason ∉ session.history) ∧
          (successes session.history).length ≤ 1 ∧
          (∀ packets ∈ successes session.history, VerifiesEverywhere libs
            initiator.schemaContainer.trustedIds signers schema unsignedData.name packets) ∧
          ((∀ event : Nat × LinkEvent Signature, world.next libs signerOf polls event = none) →
            (successes session.history).length = 1) := by
  generalize started : initiator.startSession libs unsignedData schema signingKeyName
    keyLocatorRandomness rpcs signers = session at honest
  have hasInfo : session.global.toBeSigned.signatureInfo.isSome := by
    rw [← started, Session.startSession_eq]
    rfl
  have hasValue : session.global.toBeSigned.signatureValue.isSome := by
    rw [← started, Session.startSession_eq]
    rfl
  have begun : initiator.next libs (.multiPartySign unsignedData schema signingKeyName
      keyLocatorRandomness rpcs) =
        some { initiator with sessions := initiator.sessions ++ [session] } := by
    simp only [MPSInitiator.next, MPSInitiator.step, running, selected, started, ne_eq,
      not_true_eq_false, if_false, Option.map_some]
  refine ⟨_, begun, (ofSession polls { initiator with
    sessions := initiator.sessions ++ [session] } initiator.sessions.length).work, ?_⟩
  intro events world run
  -- The world is on course at the start, so it is at the end of the run.
  obtain ⟨final, course, place, bound⟩ := (ofSession_onCourse lossless running selected nonempty
    started.symm honest).run lossless matching verifies hasInfo hasValue honest.acceptsData run
  have located := course.located
  rw [place] at located
  refine ⟨bound, final, located, course.course.quiet, ?_, ?_, ?_⟩
  · cases course.course.outcome with
    | missing few nothing same => simp [nothing]
    | reported all once assembled => simp [once]
  · intro packets member
    cases course.course.outcome with
    | missing few nothing same => simp [nothing] at member
    | reported all once assembled =>
      rw [once] at member
      rw [List.mem_singleton.mp member]
      exact verifiesEverywhere_of_assembled lossless ideal selected nonempty started.symm honest
        assembled
  · intro stuck
    have signature := libs.bls.sign (signerOf .root).secretKey []
    have draw : Draw Signature :=
      ⟨List.replicate 32 0, rfl, [], [], signature, signature, fun _ => ⟨0, [], []⟩⟩
    exact successes_of_ended course.course (course.ended lossless matching verifies hasInfo
      hasValue honest.acceptsData draw ⟨[], List.replicate 32 0, rfl, 0, []⟩ stuck)

end World

end Start

namespace Reference

/-- Who holds the two keys. -/
def signerOf (name : Name) : BLSSigner Nat := if name = firstKey then firstSigner else secondSigner

/-- Both signers of the session for both of them are honest. -/
theorem honest_bothSigners : HonestSigners libraries signerOf initiator.schemaContainer.trustedIds
    (initiator.startSession libraries (.ofName (.ofTexts ["data"])) bothSigners
      (.ofTexts ["i", "KEY", "1"]) 4 rpcDraws [firstKey, secondKey]) := by
  -- Each of the two names has a signer of its own, which accepts everything.
  have other : secondKey ≠ firstKey := by decide
  rw [Session.startSession_eq]
  refine ⟨?_, ?_, ?_, ?_, ?_⟩
  · intro name listed
    simp only [List.mem_cons, List.not_mem_nil, or_false] at listed
    rcases listed with first | second
    · rw [first]
      decide
    · rw [second]
      decide
  · intro name listed
    simp only [List.mem_cons, List.not_mem_nil, or_false] at listed
    rcases listed with first | second
    · rw [first, signerOf, if_pos rfl]
      exact ⟨by decide, .ofString "KEY", .ofString "1", rfl⟩
    · rw [second, signerOf, if_neg other]
      exact ⟨by decide, .ofString "KEY", .ofString "1", rfl⟩
  · intro perSigner member
    obtain ⟨name, -, rfl⟩ := List.mem_map.mp member
    -- The name of the parameter packet does not depend on the signer.
    have expressible : libraries.tlv.Expressible (request firstKey).paraData.name
        (some signerTimeout) := ⟨by decide +kernel, by decide +kernel⟩
    exact expressible
  · intro perSigner _ request _
    unfold signerOf
    split <;> rfl
  · intro name _
    unfold signerOf
    split <;> rfl

end Reference

open Reference in
/-- Two honest signers, each of which may be processing twice. -/
theorem World.succeeds_once_bothSigners :
    ∃ started, Reference.initiator.next libraries (sign bothSigners) = some started ∧
      ∃ bound, ∀ (events : List (Nat × LinkEvent Nat)) (world : World Nat),
        Run.after (World.next libraries signerOf fun _ => 2) events
          (World.ofSession (fun _ => 2) started 0) = some world →
        events.length ≤ bound ∧
        ∃ session, world.initiator.sessions[0]? = some session ∧
          (∀ reason, .failureCb reason ∉ session.history) ∧
          (successes session.history).length ≤ 1 ∧
          (∀ packets ∈ successes session.history, VerifiesEverywhere libraries
            Reference.initiator.schemaContainer.trustedIds [firstKey, secondKey] bothSigners
            (.ofTexts ["data"]) packets) ∧
          ((∀ event : Nat × LinkEvent Nat,
              world.next libraries signerOf (fun _ => 2) event = none) →
            (successes session.history).length = 1) := by
  have selected : Reference.initiator.schemaContainer.getAvailableSigners bothSigners =
      .ok [firstKey, secondKey] := by rfl
  exact succeeds_once libraries PacketFormat.tlv_lossless (Bls.additive_ideal checksum)
    openssl_matching keyChain_verifies signerOf (fun _ => 2) rfl (.ofName (.ofTexts ["data"]))
    (.ofTexts ["i", "KEY", "1"]) 4 rpcDraws selected (by simp) honest_bothSigners

open Reference in
/-- Both signers deliver, the first one in its second reply. -/
example : (do
    let started ← Reference.initiator.next libraries (sign bothSigners)
    let request : RequestDraw := ⟨[6], List.replicate 32 2, rfl, 11, [1]⟩
    let world ← Run.after (World.next libraries signerOf fun _ => 1)
      [(0, .interest request), (1, .interest request), (0, .reply draw), (0, .fetch draw),
        (0, .fetchResult draw), (0, .interest request), (0, .reply draw), (1, .reply draw),
        (0, .fetchResult draw), (0, .parameter), (0, .interest request), (0, .reply draw),
        (1, .fetch draw), (1, .parameter), (1, .fetchResult draw), (1, .interest request),
        (1, .reply draw)] (World.ofSession (fun _ => 1) started 0)
    some (world.work, world.initiator.sessions.map fun session =>
      (successes session.history).length)) = some (0, [1]) := by
  decide +kernel

end NdnMps
