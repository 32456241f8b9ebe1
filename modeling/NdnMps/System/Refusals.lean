import NdnMps.Initiator.Rolls
import NdnMps.System.Mishaps

/-! What an initiator throws away when its signers are honest: acknowledgements that refuse its
requests, and nothing else. -/

namespace NdnMps

variable {SecretKey PublicKey Signature : Type}

/-- A reaction forgets no HMAC key. -/
theorem Responds.subset_keys {libs : Libraries SecretKey PublicKey Signature} {tpm : List Buffer}
    {perSigner : MultiSignPerSignerState} {draw : Draw Signature} {event : RpcEvent}
    {reaction : Reaction} (responds : Responds libs tpm perSigner draw event reaction) :
    tpm ⊆ reaction.keys tpm := by
  -- An acknowledgement that is read adds a key, and nothing else changes the keys.
  cases responds with
  | acknowledged waits read encrypted => exact fun _ member => List.mem_insert_of_mem member
  | _ => exact List.Subset.refl _

/-- An initiator forgets no HMAC key, whatever happens to it. -/
theorem MPSInitiator.subset_next {libs : Libraries SecretKey PublicKey Signature}
    {initiator after : MPSInitiator PublicKey} {event : Event Signature}
    (taken : initiator.next libs event = some after) : initiator.tpm ⊆ after.tpm := by
  obtain ⟨⟨result, put⟩, stepped, same⟩ := Option.map_eq_some_iff.mp taken
  cases same
  simp only [step] at stepped
  split at stepped
  · cases stepped
  cases event with
  | multiPartySign unsignedData schema signingKeyName keyLocatorRandomness rpcs =>
    dsimp only at stepped
    split at stepped
    · cases stepped
      exact List.Subset.refl _
    · cases stepped
      exact List.Subset.refl _
  | resetCachedUnavailableSigners =>
    cases stepped
    exact List.Subset.refl _
  | rpc sessionIndex index event draw =>
    -- What changes the keys is the reaction of a remote call.
    obtain ⟨session, -, stepped⟩ := Option.bind_eq_some_iff.mp stepped
    obtain ⟨perSigner, -, stepped⟩ := Option.bind_eq_some_iff.mp stepped
    obtain ⟨reaction, reacted, stepped⟩ := Option.bind_eq_some_iff.mp stepped
    have keys := initiator.act_keys libs sessionIndex index session perSigner draw reaction
    rw [Option.some.inj stepped] at keys
    rw [keys]
    exact (react_responds reacted).subset_keys

/-- A signer forgets no HMAC key either. -/
theorem BLSSigner.subset_onInterest {libs : Libraries SecretKey PublicKey Signature}
    {signer : BLSSigner SecretKey} {tpm more : List Buffer} {link further : Link}
    {interest : Interest} {draw : RequestDraw}
    (handled : signer.onInterest libs tpm link interest draw = some (further, more)) :
    tpm ⊆ more := by
  simp only [onInterest, Option.ite_none_left_eq_some] at handled
  obtain ⟨-, handled⟩ := handled
  split at handled
  · -- A sign request leaves the keys as they are.
    split at handled
    · cases handled
    · cases handled
      exact List.Subset.refl _
    · split at handled
      · cases handled
      · cases handled
        exact List.Subset.refl _
  · obtain ⟨state, -, handled⟩ := Option.bind_eq_some_iff.mp handled
    split at handled
    · obtain ⟨answered, answer, handled⟩ := Option.bind_eq_some_iff.mp handled
      rw [onResultInterest_eq answer] at handled
      cases handled
      exact fun _ member => List.mem_insert_of_mem member
    · cases handled

/-- A remote call that has ended stays ended. -/
theorem Reaction.Fits.ended {perSigner : MultiSignPerSignerState} {reaction : Reaction}
    (fits : reaction.Fits perSigner) (ended : perSigner.live = false) :
    (reaction.leaves perSigner).live = false := by
  cases reaction with
  | proceed other tpm put => exact fits.2.trans ended
  | stop liveness => exact ended
  | _ => rfl

/-- The remote call throws away what it has received, and ends. -/
def Reaction.Abandons (reaction : Reaction) : Prop := ∃ registered, reaction = .abandon registered

/-- A reply that a request with given keys has generated. -/
def RepliesUnder (libs : Libraries SecretKey PublicKey Signature) (aesKey hmacKey : Buffer)
    (result : Data) : Prop :=
  ∃ (earlier : SignRequestState) (interestName : Name) (random : Buffer),
    earlier.aesKey = aesKey ∧ earlier.hmacKey = hmacKey ∧
      result = libs.keyChain.signWithHmac hmacKey
        (generateResultData libs.tlv libs.ssl interestName earlier random).1

/-- A last reply without a signature is read as the loss of the signer. -/
theorem readResult_failure {libs : Libraries SecretKey PublicKey Signature}
    (lossless : libs.tlv.Lossless) (matching : libs.ssl.Matching)
    {perSigner : MultiSignPerSignerState} {state : SignRequestState}
    (keys : state.aesKey = perSigner.aesKey) (concluded : state.code ≠ .processing)
    (unsigned : state.code ≠ .ok) (interestName : Name) (random hmacKey : Buffer)
    (tpm : List Buffer) :
    ∃ reason, readResult libs tpm perSigner (libs.keyChain.signWithHmac hmacKey
      (generateResultData libs.tlv libs.ssl interestName state random).1) =
        .ok (.unavailable reason) := by
  have parsed := parseResultData_generateResultData lossless matching interestName state random
    hmacKey
  obtain ⟨rest, front⟩ := exists_resultElements libs.tlv state
  rw [front, keys] at parsed
  -- No two reply codes have the same number.
  have later : state.code.text ≠ asciiBytes "102" := by
    revert concluded
    cases state.code <;> decide +kernel
  have failed : state.code.text ≠ asciiBytes "200" := by
    revert unsigned
    cases state.code <;> decide +kernel
  simp only [readResult, parsed, getBlock_front, failed, later, Bind.bind, Except.bind, ne_eq,
    not_false_eq_true, if_true, if_false, Except.ok.injEq, Reaction.unavailable.injEq,
    exists_eq']

/-- An initiator with the key of a request discards no reply that the request has generated. -/
theorem RepliesUnder.not_abandons {libs : Libraries SecretKey PublicKey Signature}
    (lossless : libs.tlv.Lossless) (matching : libs.ssl.Matching)
    (verifies : libs.keyChain.Verifies) {tpm : List Buffer} {perSigner : MultiSignPerSignerState}
    {result : Data} (replies : RepliesUnder libs perSigner.aesKey perSigner.hmacKey result)
    (held : perSigner.hmacKey ∈ tpm) :
    ¬ (resultCallback libs tpm perSigner result).Abandons := by
  rintro ⟨registered, abandons⟩
  revert abandons
  obtain ⟨earlier, interestName, random, aesKey, hmacKey, rfl⟩ := replies
  -- The reply is a poll's answer, a signature, or the signer's failure.
  by_cases processing : earlier.code = .processing
  · rw [← hmacKey, resultCallback_processing lossless matching verifies aesKey hmacKey processing
      interestName random held]
    simp
  by_cases signed : earlier.code = .ok
  · rw [← hmacKey, resultCallback_ok lossless matching verifies aesKey hmacKey signed interestName
      random held]
    simp
  · have verified := verifies tpm perSigner.hmacKey
      (generateResultData libs.tlv libs.ssl interestName earlier random).1 held
    obtain ⟨reason, read⟩ := readResult_failure lossless matching aesKey processing signed
      interestName random perSigner.hmacKey tpm
    simp [resultCallback, verified, read]

/-- What the replies on a link are to its remote call. -/
inductive Heard (libs : Libraries SecretKey PublicKey Signature) (signer : BLSSigner SecretKey)
    (tpm : List Buffer) (perSigner : MultiSignPerSignerState) (link : Link) : Prop where
  /-- A signer that has not accepted the request has refused it, if it has replied. -/
  | asking {request : Interest} (phase : perSigner.phase = .awaitingAck request)
      (refusal : ∀ ack, link.reply = some ack → link.state = none →
        signer.verifySignRequest request = false ∧ ∀ array,
          parseAckReply libs.tlv libs.ssl perSigner.ecdh array ack = .error .exception)
  /-- Once its acknowledgement has been read, its replies verify. -/
  | answered (phase : ∀ request, perSigner.phase ≠ .awaitingAck request)
      (held : perSigner.hmacKey ∈ tpm) (reply : ∀ result, link.reply = some result →
        RepliesUnder libs perSigner.aesKey perSigner.hmacKey result)
  | concluded (ended : perSigner.live = false)

namespace Heard

variable {libs : Libraries SecretKey PublicKey Signature} {signer : BLSSigner SecretKey}
variable {tpm more : List Buffer} {perSigner : MultiSignPerSignerState} {link further : Link}
variable {portion : Buffer} {signingKeyName : Name} {draw : Draw Signature} {reaction : Reaction}

/-- Further keys and lost replies change nothing. -/
theorem quiet (heard : Heard libs signer tpm perSigner link) (subset : tpm ⊆ more)
    (reply : further.reply = link.reply ∨ further.reply = none)
    (state : further.state = none → link.state = none) :
    Heard libs signer more perSigner further := by
  -- A reply that is on its way was on its way before.
  have before : ∀ data, further.reply = some data → link.reply = some data := by
    intro data sent
    rcases reply with same | lost
    · exact same.symm.trans sent
    · simp [lost] at sent
  cases heard with
  | asking phase refusal =>
    exact .asking phase fun ack sent unknown => refusal ack (before ack sent) (state unknown)
  | answered phase held replies =>
    exact .answered phase (subset held) fun result sent => replies result (before result sent)
  | concluded ended => exact .concluded ended

/-- The initiator's Interest reaches the signer, which refuses it, accepts it, or replies under the
keys of the request. -/
theorem interest (lossless : libs.tlv.Lossless) (matching : libs.ssl.Matching)
    (nothing : libs.tlv.encode [] = []) {sent : Interest} {request : RequestDraw}
    (passage : Passage libs signer portion perSigner link)
    (heard : Heard libs signer tpm perSigner link) (arrived : link.interest = some sent)
    (handled : signer.onInterest libs tpm link sent request = some (further, more)) :
    Heard libs signer more perSigner further := by
  -- What the signer replies depends on whether it has accepted the request.
  cases passage with
  | acknowledged phase unpromised plain presents content gone => simp [gone] at arrived
  | concluded ended => exact .concluded ended
  | requested phase unpromised presents content requested interest replied unsent unknown =>
    obtain ⟨keyName, nonce, signerPrefix, requested⟩ := requested
    cases interest sent arrived
    refine .asking phase fun ack replied unaccepted => ?_
    obtain ⟨-, invoked, -, ⟨-, -, -, empty⟩ | ⟨accepted, keys, -, -, kept, -⟩⟩ :=
      RpcExchange.onInterest_request_cases lossless matching requested unknown handled
    · refine ⟨?_, RpcExchange.parseAckReply_of_content lossless nothing (empty ack replied) _⟩
      -- A request that is verified would have been accepted.
      cases verified : signer.verifySignRequest sent with
      | false => rfl
      | true =>
        obtain ⟨accepted, keys, answered, -⟩ := signer.exists_accepted lossless matching requested
          verified request
        simp only [BLSSigner.onInterest, Option.ite_none_left_eq_some, invoked, if_true,
          answered] at handled
        obtain ⟨-, handled⟩ := handled
        split at handled
        · cases handled
        · cases handled
          cases unaccepted
    · simp [kept] at unaccepted
  | exchanging phase promised plain conveys resultName interest kept answering replied carried =>
    obtain ⟨digest, named⟩ := interest sent arrived
    rw [resultName, ← answering.resultPrefix] at named
    obtain ⟨keys, -, -, -, -, reply⟩ :=
      RpcExchange.onInterest_result_cases kept answering.resultPrefix named handled
    cases heard with
    | asking waits => exact absurd waits (phase _)
    | concluded ended => exact .concluded ended
    | answered other held replies =>
      refine .answered phase ?_ fun result sent => ?_
      · rw [keys]
        exact List.mem_insert_of_mem held
      · cases reply.symm.trans sent
        exact ⟨_, _, request.random, answering.aesKey, answering.hmacKey, by
          rw [answering.hmacKey]⟩

/-- A remote call reacts. -/
theorem reacts {event : RpcEvent} (heard : Heard libs signer tpm perSigner link)
    (reacted : react libs tpm signingKeyName perSigner draw event = some reaction)
    (reply : further.reply = none ∨
      (further.reply = link.reply ∧ ∀ data, event ≠ .data data))
    (state : further.state = none → link.state = none) :
    Heard libs signer (reaction.keys tpm) (reaction.leaves perSigner) further := by
  have responds := react_responds reacted
  have same : Heard libs signer (reaction.keys tpm) perSigner further :=
    heard.quiet responds.subset_keys (reply.symm.imp_left And.left) state
  cases same with
  | concluded ended => exact .concluded ((react_fits reacted).ended ended)
  | answered phase held replies =>
    -- A remote call that has its keys keeps them.
    obtain ⟨terms, -, others, -⟩ := RpcExchange.later_of_responds responds phase
    refine .answered others ?_ ?_
    · rwa [terms.hmacKey]
    · rwa [terms.aesKey, terms.hmacKey]
  | asking phase refusal =>
    cases responds with
    | unreadable | nacked | timedOut => exact .concluded rfl
    | overrun | answers | broken | blocks => exact .asking phase refusal
    | acknowledged waits read encrypted =>
      -- The reply has been taken, and its key is held from now on.
      refine .answered (by simp [Reaction.leaves]) List.mem_insert_self fun result sent => ?_
      rcases reply with lost | ⟨-, other⟩
      · simp [lost] at sent
      · exact absurd rfl (other _)
    | delayed waits | returned waits | refused waits | discarded waits | corrupted waits
    | fetches waits | unnameable waits => simp [phase] at waits

/-- The remote call throws away what it receives exactly where it waits for the acknowledgement of
a signer that has not accepted its request. -/
theorem abandons_iff (lossless : libs.tlv.Lossless) (matching : libs.ssl.Matching)
    (verifies : libs.keyChain.Verifies) {received : Data}
    (passage : Passage libs signer portion perSigner link)
    (heard : Heard libs signer tpm perSigner link) (arrived : link.reply = some received)
    (reacted : react libs tpm signingKeyName perSigner draw (.data received) = some reaction) :
    reaction.Abandons ↔
      (∃ request, perSigner.phase = .awaitingAck request) ∧ link.state = none := by
  constructor
  · rintro ⟨registered, rfl⟩
    cases react_responds reacted with
    | unreadable waits failed =>
      refine ⟨⟨_, waits⟩, ?_⟩
      cases passage with
      | requested phase unpromised presents content requested interest replied unsent unknown =>
        exact unknown
      | acknowledged phase unpromised plain presents content gone kept answering reply =>
        -- The acknowledgement of an accepted request is read.
        have read := reply received arrived draw.salt draw.salt_length
        rw [failed] at read
        cases read
      | exchanging phase => exact absurd waits (phase _)
      | concluded ended => simp [MultiSignPerSignerState.live, waits] at ended
    | discarded waits =>
      -- A result that is generated under the keys of the request is not thrown away.
      rw [react_awaitingResult waits (asked_of_react (.inr waits) reacted),
        Option.some.injEq] at reacted
      cases heard with
      | asking phase => simp [waits] at phase
      | concluded ended => simp [MultiSignPerSignerState.live, waits] at ended
      | answered phase held replies =>
        exact absurd ⟨_, reacted⟩ ((replies received arrived).not_abandons lossless matching
          verifies held)
  · rintro ⟨⟨request, waits⟩, unknown⟩
    cases heard with
    | answered phase => exact absurd waits (phase request)
    | concluded ended => simp [MultiSignPerSignerState.live, waits] at ended
    | asking phase refusal =>
      have failed := (refusal received arrived unknown).2 draw.salt
      rw [react_awaitingAck waits (asked_of_react (.inl waits) reacted), ackCallback,
        failed] at reacted
      exact ⟨_, (Option.some.inj reacted).symm⟩

/-- A new remote call has heard nothing. -/
theorem newRpc (initiatorPrefix signingKeyName name : Name) (toBeSigned : Data) (start : RpcDraw)
    (polls : Name → Nat) :
    Heard libs signer tpm (Session.newRpc libs initiatorPrefix toBeSigned signingKeyName name start)
      (Link.ofRpc polls (Session.newRpc libs initiatorPrefix toBeSigned signingKeyName name
        start)) :=
  .asking rfl (by simp [Link.ofRpc])

end Heard

/-- Only a packet is thrown away, or the name of a result. -/
theorem Responds.not_abandons {libs : Libraries SecretKey PublicKey Signature}
    {tpm : List Buffer} {perSigner : MultiSignPerSignerState} {draw : Draw Signature}
    {event : RpcEvent} {reaction : Reaction}
    (responds : Responds libs tpm perSigner draw event reaction)
    (packet : ∀ data, event ≠ .data data) (fetch : event ≠ .fetchResult) :
    ¬ reaction.Abandons := by
  rintro ⟨registered, rfl⟩
  cases responds with
  | unreadable waits failed => exact packet _ rfl
  | discarded waits => exact packet _ rfl
  | unnameable waits unsignable => exact fetch rfl

/-- The name that an honest signer has given to its result can be asked for. -/
theorem Passage.fetchResult_not_abandons {libs : Libraries SecretKey PublicKey Signature}
    (lossless : libs.tlv.Lossless) {signer : BLSSigner SecretKey} {portion : Buffer}
    {perSigner : MultiSignPerSignerState} {link : Link} {tpm : List Buffer}
    {draw : Draw Signature} {reaction : Reaction}
    (passage : Passage libs signer portion perSigner link)
    (responds : Responds libs tpm perSigner draw .fetchResult reaction) :
    ¬ reaction.Abandons := by
  rintro ⟨registered, rfl⟩
  cases responds with
  | unnameable waits unsignable =>
    -- Only a remote call that has read an acknowledgement has a fetch scheduled.
    cases passage with
    | requested phase => simp [waits] at phase
    | acknowledged phase => simp [waits] at phase
    | concluded ended => simp [MultiSignPerSignerState.live, waits] at ended
    | exchanging phase promised plain conveys resultName =>
      have unnamed : perSigner.nextResultName.digests = 0 := by
        rw [resultName, digests_resultName lossless, plain]
      simp [Name.signable, unnamed] at unsignable

/-- A session that drops nobody and waits for nothing has failed, or it has every signature. -/
theorem Session.Refines.complete_of_handsOver {session : Session} (refines : session.Refines)
    (handsOver : session.HandsOver) (alone : liveKeys session.rpcs = [])
    (unfailed : ¬ session.HasFailed) : session.Complete := by
  obtain ⟨selected, roll, shows', -⟩ := refines.roll
  intro name listed
  -- Of the places on the roll all but one are ruled out.
  cases place : roll name with
  | none => exact absurd place ((shows'.listed name).mp listed)
  | some standing =>
    cases standing with
    | answered => exact (shows'.answered name).mpr place
    | lost => exact absurd (shows'.lost name place) unfailed
    | asked =>
      have asked := (shows'.asked name).mpr place
      simp [alone] at asked
    | dropped =>
      obtain ⟨index, perSigner, found, -, ended, free⟩ := (shows'.dropped name).mpr place
      have once := handsOver index perSigner found ended fun piece stored => by
        simpa [Call.concludes] using free _ stored
      have lost := List.count_pos_iff.mp (once ▸ Nat.one_pos)
      simpa [Call.concludes] using free _ lost

namespace World

/-- The initiator reads the reply of a signer that has not accepted its request. -/
def ReadsRefusal (world : World PublicKey) : Occurrence Signature → Prop
  | .link index (.reply _) => ∃ perSigner link, world.perSigner index = some perSigner ∧
    world.links[index]? = some link ∧ (∃ request, perSigner.phase = .awaitingAck request) ∧
    link.state = none
  | _ => False

/-- Every remote call of the session that ended without a signature has given its signer up exactly
once. -/
def HandsOver (world : World PublicKey) : Prop :=
  ∀ session, world.initiator.sessions[world.session]? = some session → session.HandsOver

/-- The session shows a roll, and it knows what the replies on its links are. -/
structure Listens (libs : Libraries SecretKey PublicKey Signature)
    (signerOf : Name → BLSSigner SecretKey) (world : World PublicKey) (session : Session) :
    Prop where
  located : world.initiator.sessions[world.session]? = some session
  refines : session.Refines
  heard : List.Forall₂ (fun perSigner link => Heard libs (signerOf perSigner.signerKeyName)
    world.initiator.tpm perSigner link) session.rpcs world.links

/-- The session goes on, and gives no signer up without a conclusion but by a refusal. -/
structure GoesOn (libs : Libraries SecretKey PublicKey Signature)
    (signerOf : Name → BLSSigner SecretKey) (after : World PublicKey) (session renewed : Session)
    (refused : Prop) : Prop where
  listens : Listens libs signerOf after renewed
  decides : session.HandsOver → (renewed.HandsOver ↔ ¬ refused)

section Steps

variable {libs : Libraries SecretKey PublicKey Signature}
variable {signerOf : Name → BLSSigner SecretKey} {polls : Name → Nat}
variable {world after : World PublicKey} {session renewed : Session} {index : Nat}
variable {perSigner : MultiSignPerSignerState}

/-- Where the session stays and no link changes but one, it goes on. -/
theorem Listens.setLink (listens : Listens libs signerOf world session) {tpm : List Buffer}
    {link : Link} (subset : world.initiator.tpm ⊆ tpm)
    (found : session.rpcs[index]? = some perSigner)
    (heard : Heard libs (signerOf perSigner.signerKeyName) tpm perSigner link) :
    GoesOn libs signerOf
      { world with
        initiator := { world.initiator with tpm }, links := world.links.set index link }
      session session False := by
  refine ⟨⟨listens.located, listens.refines, ?_⟩, fun before => iff_of_true before id⟩
  have all : List.Forall₂ (fun perSigner link => Heard libs (signerOf perSigner.signerKeyName)
      tpm perSigner link) session.rpcs world.links :=
    listens.heard.imp fun _ _ old => old.quiet subset (.inl rfl) id
  have kept := all.set heard index
  obtain ⟨_, rfl⟩ := List.getElem?_eq_some_iff.mp found
  rwa [List.set_getElem_self] at kept

/-- Where a remote call reacts, the session goes on, and only what is thrown away gives a signer up
without a conclusion. -/
theorem Listens.reacts (listens : Listens libs signerOf world session) {event : RpcEvent}
    {draw : Draw Signature} {renew : MultiSignPerSignerState → List Data → Link}
    {reaction : Reaction} {further : List MultiSignPerSignerState}
    (reacts : Reacts libs polls world after session renewed index event draw renew perSigner
      reaction further)
    (heard : Heard libs (signerOf perSigner.signerKeyName) (reaction.keys world.initiator.tpm)
      (reaction.leaves perSigner) (renew (reaction.leaves perSigner) reaction.puts)) :
    GoesOn libs signerOf after session renewed reaction.Abandons := by
  have fits := react_fits reacts.reacted
  have located := reacts.located
  rw [← reacts.place] at located
  -- The other links are heard as before, and the further remote calls have heard nothing.
  have all : List.Forall₂ (fun perSigner link => Heard libs (signerOf perSigner.signerKeyName)
      after.initiator.tpm perSigner link) renewed.rpcs after.links := by
    rw [reacts.rpcs, reacts.links, reacts.keys]
    refine List.Forall₂.renew (listens.heard.imp fun _ _ old => old.quiet
      (react_responds reacts.reacted).subset_keys (.inl rfl) id) ?_ index fun other member => ?_
    · rw [fits.signerKeyName_leaves]
      exact heard
    · obtain ⟨name, start, rfl⟩ := reacts.begun other member
      exact Heard.newRpc _ _ name _ start polls
  -- A thread that stops gives nobody up, and a move does so by throwing something away.
  rcases reacts.moves with ⟨rfl, liveness, stops⟩ | ⟨move, -⟩
  · exact ⟨⟨located, listens.refines, all⟩,
      fun before => iff_of_true before (by simp [stops, Reaction.Abandons])⟩
  · refine ⟨⟨located, move.refines reacts.found fits listens.refines, all⟩, fun before => ?_⟩
    rw [move.keeps_handsOver_iff reacts.found fits listens.refines.free before]
    exact not_exists.symm

/-- What a refusal is may be said in other words. -/
theorem GoesOn.congr {refused other : Prop}
    (goesOn : GoesOn libs signerOf after session renewed refused) (same : refused ↔ other) :
    GoesOn libs signerOf after session renewed other :=
  ⟨goesOn.listens, fun before => (goesOn.decides before).trans (not_congr same)⟩

/-- An event of a remote call that leaves its link with no other reply. -/
theorem Listens.atInitiator (listens : Listens libs signerOf world session)
    (aligned : world.links.length = session.rpcs.length) {event : RpcEvent}
    {draw : Draw Signature} {renew : MultiSignPerSignerState → List Data → Link} {link : Link}
    (linked : world.links[index]? = some link)
    (acted : world.atInitiator libs polls index event draw renew = some after)
    (reply : ∀ other put, (renew other put).reply = none ∨
      ((renew other put).reply = link.reply ∧ ∀ data, event ≠ .data data))
    (state : ∀ other put, (renew other put).state = link.state) :
    ∃ renewed perSigner reaction, session.rpcs[index]? = some perSigner ∧
      react libs world.initiator.tpm session.global.signingKeyName perSigner draw event =
        some reaction ∧
      GoesOn libs signerOf after session renewed reaction.Abandons := by
  obtain ⟨renewed, perSigner, reaction, further, reacts⟩ :=
    atInitiator_reacts listens.located aligned acted
  have heard := (List.forall₂_iff_getElem?.mp listens.heard).2 index perSigner link reacts.found
    linked
  exact ⟨renewed, perSigner, reaction, reacts.found, reacts.reacted, listens.reacts reacts
    (heard.reacts reacts.reacted (reply _ _) fun unknown => (state _ _).symm.trans unknown)⟩

/-- An event of a remote call that is no packet, and throws nothing away, gives nobody up. -/
theorem Listens.atInitiator_keeps (listens : Listens libs signerOf world session)
    (aligned : world.links.length = session.rpcs.length) {event : RpcEvent}
    {draw : Draw Signature} {renew : MultiSignPerSignerState → List Data → Link} {link : Link}
    (linked : world.links[index]? = some link)
    (acted : world.atInitiator libs polls index event draw renew = some after)
    (found : session.rpcs[index]? = some perSigner) (packet : ∀ data, event ≠ .data data)
    (keeps : ∀ reaction, Responds libs world.initiator.tpm perSigner draw event reaction →
      ¬ reaction.Abandons)
    (reply : ∀ other put, (renew other put).reply = link.reply)
    (state : ∀ other put, (renew other put).state = link.state) :
    ∃ renewed, GoesOn libs signerOf after session renewed False := by
  obtain ⟨renewed, other, reaction, there, reacted, goesOn⟩ := listens.atInitiator aligned linked
    acted (fun left put => .inr ⟨reply left put, packet⟩) state
  cases found.symm.trans there
  exact ⟨renewed, goesOn.congr (iff_of_false (keeps reaction (react_responds reacted)) id)⟩

/-- No mishap makes the initiator throw anything away. -/
theorem Listens.suffer (listens : Listens libs signerOf world session)
    (aligned : world.links.length = session.rpcs.length) {link : Link}
    (found : session.rpcs[index]? = some perSigner) (linked : world.links[index]? = some link)
    {mishap : Mishap Signature} (taken : world.suffer libs polls index link mishap = some after) :
    ∃ renewed, GoesOn libs signerOf after session renewed False := by
  have heard := (List.forall₂_iff_getElem?.mp listens.heard).2 index perSigner link found linked
  -- A link keeps what its signer has accepted, and gets no reply.
  have onLink : ∀ {further : Link}, some (world.setLink index further) = some after →
      (further.reply = link.reply ∨ further.reply = none) →
      (further.state = none → link.state = none) →
      ∃ renewed, GoesOn libs signerOf after session renewed False := by
    intro further changed reply state
    cases changed
    exact ⟨session, listens.setLink (List.Subset.refl _) found
      (heard.quiet (List.Subset.refl _) reply state)⟩
  cases mishap with
  | interestLost | fetchLost | parameterLost => exact onLink taken (.inl rfl) id
  | replyLost => exact onLink taken (.inr rfl) id
  | fetchFailed =>
    obtain ⟨state, kept, changed⟩ := Option.map_eq_some_iff.mp taken
    exact onLink (congrArg some changed) (.inl rfl) (by simp)
  | nack draw | timeout draw =>
    simp only [World.suffer] at taken
    exact listens.atInitiator_keeps aligned linked taken found (by simp)
      (fun _ responds => responds.not_abandons (by simp) (by simp)) (fun _ _ => rfl)
      fun _ _ => rfl

/-- Signers that accept every request are never read as refusing one. -/
theorem Listens.not_readsRefusal (listens : Listens libs signerOf world session)
    (approve : ∀ name request, (signerOf name).verifySignRequest request = true)
    {occurrence : Occurrence Signature}
    (taken : world.occur libs signerOf polls occurrence = some after) :
    ¬ world.ReadsRefusal occurrence := by
  intro refused
  match occurrence, refused with
  | .link index (.reply draw), ⟨perSigner, link, there, linked, ⟨request, waits⟩, unknown⟩ =>
    -- The reply that arrives is that of a signer that has not verified the request.
    simp only [World.occur, there, linked, Bind.bind, Option.bind_some] at taken
    obtain ⟨data, arrived, -⟩ := Option.bind_eq_some_iff.mp taken
    rw [World.perSigner, listens.located, Option.bind_some] at there
    cases (List.forall₂_iff_getElem?.mp listens.heard).2 index perSigner link there linked with
    | answered phase => exact phase request waits
    | concluded ended => simp [MultiSignPerSignerState.live, waits] at ended
    | asking phase refusal =>
      have unverified := (refusal data arrived unknown).1
      rw [approve] at unverified
      cases unverified

section Honest

variable {portion : Buffer} {link : Link}
variable (lossless : libs.tlv.Lossless) (matching : libs.ssl.Matching)
variable (verifies : libs.keyChain.Verifies) (nothing : libs.tlv.encode [] = [])

include lossless matching verifies nothing

/-- On a link of an honest signer the initiator throws nothing away but a refusal. -/
theorem Listens.act (listens : Listens libs signerOf world session)
    (passages : Passages libs signerOf portion session.rpcs world.links)
    (found : session.rpcs[index]? = some perSigner) (linked : world.links[index]? = some link)
    {event : LinkEvent Signature}
    (taken : world.act libs signerOf polls index perSigner link event = some after) :
    ∃ renewed, GoesOn libs signerOf after session renewed
      (world.ReadsRefusal (.link index event)) := by
  have heard := (List.forall₂_iff_getElem?.mp listens.heard).2 index perSigner link found linked
  have passage := passages.stands index perSigner link found linked
  cases event with
  | interest draw =>
    obtain ⟨interest, arrived, taken⟩ := Option.bind_eq_some_iff.mp taken
    obtain ⟨⟨further, tpm⟩, handled, taken⟩ := Option.bind_eq_some_iff.mp taken
    cases taken
    exact ⟨session, listens.setLink (BLSSigner.subset_onInterest handled) found
      (heard.interest lossless matching nothing passage arrived handled)⟩
  | reply draw =>
    obtain ⟨data, arrived, taken⟩ := Option.bind_eq_some_iff.mp taken
    obtain ⟨pending, waits, taken⟩ := Option.bind_eq_some_iff.mp taken
    split at taken
    · obtain ⟨renewed, other, reaction, there, reacted, goesOn⟩ := listens.atInitiator
        passages.aligned linked taken (fun _ _ => .inl rfl) fun _ _ => rfl
      cases found.symm.trans there
      refine ⟨renewed, goesOn.congr ((heard.abandons_iff lossless matching verifies passage arrived
        reacted).trans ⟨fun refused => ?_, ?_⟩)⟩
      · refine ⟨perSigner, link, ?_, linked, refused⟩
        rw [World.perSigner, listens.located, Option.bind_some, found]
      · rintro ⟨other, further, there, present, refused⟩
        rw [World.perSigner, listens.located, Option.bind_some] at there
        cases found.symm.trans there
        cases linked.symm.trans present
        exact refused
    · cases taken
  | fetch draw =>
    obtain ⟨interest, arrived, taken⟩ := Option.bind_eq_some_iff.mp taken
    split at taken
    · exact listens.atInitiator_keeps passages.aligned linked taken found (by simp)
        (fun _ responds => responds.not_abandons (by simp) (by simp)) (fun _ _ => rfl)
        fun _ _ => rfl
    · cases taken
  | parameter =>
    obtain ⟨data, sent, taken⟩ := Option.bind_eq_some_iff.mp taken
    obtain ⟨state, kept, taken⟩ := Option.bind_eq_some_iff.mp taken
    split at taken
    · cases taken
    · cases taken
      exact ⟨session, listens.setLink (List.Subset.refl _) found
        (heard.quiet (List.Subset.refl _) (.inl rfl) (by simp))⟩
  | fetchResult draw =>
    simp only [World.act] at taken
    exact listens.atInitiator_keeps passages.aligned linked taken found (by simp)
      (fun _ responds => passage.fetchResult_not_abandons lossless responds) (fun _ _ => rfl)
      fun _ _ => rfl

/-- Whatever occurs around a session of honest signers, nothing is thrown away but a refusal. -/
theorem Listens.occur (listens : Listens libs signerOf world session)
    (passages : Passages libs signerOf portion session.rpcs world.links)
    {occurrence : Occurrence Signature}
    (taken : world.occur libs signerOf polls occurrence = some after) :
    ∃ renewed, GoesOn libs signerOf after session renewed (world.ReadsRefusal occurrence) := by
  cases occurrence with
  | elsewhere event =>
    simp only [World.occur] at taken
    split at taken
    · cases taken
    · -- The session stays where it is, and the initiator forgets no key.
      rename_i apart
      obtain ⟨initiator, next, rfl⟩ := Option.map_eq_some_iff.mp taken
      refine ⟨session, ⟨(MPSInitiator.next_step next).elsewhere apart listens.located,
        listens.refines, ?_⟩, fun before => iff_of_true before id⟩
      exact listens.heard.imp fun _ _ old => old.quiet (MPSInitiator.subset_next next) (.inl rfl) id
  | mishap index mishap =>
    obtain ⟨link, linked, taken⟩ := Option.bind_eq_some_iff.mp taken
    obtain ⟨perSigner, found, -⟩ := passages.exists_stands linked
    exact listens.suffer passages.aligned found linked taken
  | link index event =>
    obtain ⟨perSigner, found, taken⟩ := Option.bind_eq_some_iff.mp taken
    obtain ⟨link, linked, taken⟩ := Option.bind_eq_some_iff.mp taken
    rw [World.perSigner, listens.located, Option.bind_some] at found
    exact listens.act lossless matching verifies nothing passages found linked taken

end Honest

section Runs

variable {validOf : PublicKey → Buffer → Signature}
variable {trusting : MultipartySchemaContainer PublicKey} {portion : Buffer} {unsignedData : Data}
variable {schema : MultipartySchema}

/-- The session in a place of the initiator has honest signers, and knows what their replies are. -/
def Attends (libs : Libraries SecretKey PublicKey Signature)
    (signerOf : Name → BLSSigner SecretKey) (trusting : MultipartySchemaContainer PublicKey)
    (portion : Buffer) (unsignedData : Data) (schema : MultipartySchema) (place : Nat)
    (world : World PublicKey) : Prop :=
  world.session = place ∧ ∃ session,
    Safe libs signerOf trusting False portion unsignedData schema world session ∧
      Listens libs signerOf world session

/-- A world hands over what its session hands over. -/
theorem Listens.world_handsOver_iff (listens : Listens libs signerOf world session) :
    world.HandsOver ↔ session.HandsOver := by
  refine ⟨fun all => all session listens.located, fun handsOver other located => ?_⟩
  cases listens.located.symm.trans located
  exact handsOver

/-- Every occurrence leaves the session with honest signers, and breaks the handing over exactly if
a refusal is read. -/
theorem Attends.occur (lossless : libs.tlv.Lossless) (ideal : libs.bls.Ideal validOf)
    (matching : libs.ssl.Matching) (verifies : libs.keyChain.Verifies)
    (nothing : libs.tlv.encode [] = [])
    (honest : ∀ name ∈ trusting.trustedIds.names, trusting.trustedIds.find name =
      some (libs.bls.getPublicKey (signerOf name).secretKey)) {place : Nat}
    (attends : Attends libs signerOf trusting portion unsignedData schema place world)
    {occurrence : Occurrence Signature}
    (taken : world.occur libs signerOf polls occurrence = some after) :
    Attends libs signerOf trusting portion unsignedData schema place after ∧
      (world.HandsOver → (after.HandsOver ↔ ¬ world.ReadsRefusal occurrence)) := by
  obtain ⟨there, session, safe, listens⟩ := attends
  obtain ⟨renewed, further, same, -⟩ :=
    safe.occur lossless ideal matching nothing honest False.elim taken
  obtain ⟨other, goesOn⟩ := listens.occur lossless matching verifies nothing safe.passages taken
  -- Both speak of the session in the same place.
  cases further.located.symm.trans goesOn.listens.located
  rw [listens.world_handsOver_iff, goesOn.listens.world_handsOver_iff]
  exact ⟨⟨same.trans there, renewed, further, goesOn.listens⟩, goesOn.decides⟩

/-- A new session of honest signers attends to them, and has nobody to give up. -/
theorem ofSession_attends (lossless : libs.tlv.Lossless)
    {initiator started : MPSInitiator PublicKey}
    (named : initiator.schemaContainer.NamesNonempty) {signingKeyName : Name}
    {keyLocatorRandomness : Nat} {rpcs : Name → RpcDraw} {signers : List Name}
    (selected : initiator.schemaContainer.getAvailableSigners schema = .ok signers)
    (begun : initiator.next libs (.multiPartySign unsignedData schema signingKeyName
      keyLocatorRandomness rpcs) = some started) :
    (∃ portion, Attends libs signerOf initiator.schemaContainer portion unsignedData schema
      initiator.sessions.length (ofSession polls started initiator.sessions.length)) ∧
      (ofSession polls started initiator.sessions.length).HandsOver := by
  generalize new : initiator.startSession libs unsignedData schema signingKeyName
    keyLocatorRandomness rpcs signers = session
  obtain ⟨-, same⟩ := MPSInitiator.next_started selected begun
  rw [new] at same
  subst same
  have safe : Safe libs signerOf initiator.schemaContainer False _ unsignedData schema
      (ofSession polls { initiator with sessions := initiator.sessions ++ [session] }
        initiator.sessions.length) session := ofSession_safe lossless named selected new.symm
  have refines : session.Refines := new ▸ Session.startSession_refines initiator selected
  have handsOver : session.HandsOver := new ▸ Session.startSession_handsOver initiator _ _ _ _ _ _
  have listens : Listens libs signerOf
      (ofSession polls { initiator with sessions := initiator.sessions ++ [session] }
        initiator.sessions.length) session := by
    refine ⟨safe.located, refines, List.forall₂_iff_getElem?.mpr ⟨safe.passages.aligned, ?_⟩⟩
    intro index perSigner link found linked
    have located := safe.located
    dsimp only [ofSession] at linked located
    rw [located, List.getElem?_map, found] at linked
    cases linked
    -- Every remote call is a new one.
    rw [← new, Session.startSession_eq] at found
    obtain ⟨name, -, rfl⟩ := List.mem_map.mp (List.mem_of_getElem? found)
    exact Heard.newRpc _ _ name _ _ polls
  exact ⟨⟨_, rfl, session, safe, listens⟩, listens.world_handsOver_iff.mpr handsOver⟩

end Runs

end Steps

/-- In every run of a session whose signers are honest, whatever packets are lost, whatever timers
fire, and whatever else the initiator does: every remote call that ended without a signature has
given its signer up exactly once, exactly as long as the initiator reads no refusal. -/
theorem handsOver_despite_mishaps_iff (libs : Libraries SecretKey PublicKey Signature)
    {validOf : PublicKey → Buffer → Signature} (lossless : libs.tlv.Lossless)
    (ideal : libs.bls.Ideal validOf) (matching : libs.ssl.Matching)
    (verifies : libs.keyChain.Verifies) (nothing : libs.tlv.encode [] = [])
    (signerOf : Name → BLSSigner SecretKey) (polls : Name → Nat)
    {initiator started : MPSInitiator PublicKey}
    (named : initiator.schemaContainer.NamesNonempty)
    (honest : ∀ name ∈ initiator.schemaContainer.trustedIds.names,
      initiator.schemaContainer.trustedIds.find name =
        some (libs.bls.getPublicKey (signerOf name).secretKey))
    {unsignedData : Data} {schema : MultipartySchema} {signingKeyName : Name}
    {keyLocatorRandomness : Nat} {rpcs : Name → RpcDraw} {signers : List Name}
    (selected : initiator.schemaContainer.getAvailableSigners schema = .ok signers)
    (begun : initiator.next libs (.multiPartySign unsignedData schema signingKeyName
      keyLocatorRandomness rpcs) = some started)
    {occurrences : List (Occurrence Signature)} {world : World PublicKey}
    (run : Run.after (occur libs signerOf polls) occurrences
      (ofSession polls started initiator.sessions.length) = some world) :
    Run.EveryState (occur libs signerOf polls) HandsOver occurrences
        (ofSession polls started initiator.sessions.length) ↔
      Run.EveryStep (occur libs signerOf polls)
        (fun world occurrence => ¬ world.ReadsRefusal occurrence) occurrences
        (ofSession polls started initiator.sessions.length) := by
  obtain ⟨⟨portion, attends⟩, first⟩ := ofSession_attends lossless named selected begun
  -- What one occurrence does decides about the whole run.
  have step : ∀ (state : World PublicKey) (occurrence : Occurrence Signature)
      (next : World PublicKey),
      Attends libs signerOf initiator.schemaContainer portion unsignedData schema
        initiator.sessions.length state →
      state.occur libs signerOf polls occurrence = some next →
      Attends libs signerOf initiator.schemaContainer portion unsignedData schema
          initiator.sessions.length next ∧
        (state.HandsOver → (next.HandsOver ↔ ¬ state.ReadsRefusal occurrence)) :=
    fun _ _ _ attends taken => attends.occur lossless ideal matching verifies nothing honest taken
  exact Run.everyState_iff_everyStep
    (Attends libs signerOf initiator.schemaContainer portion unsignedData schema
      initiator.sessions.length)
    (fun state occurrence next attends taken => (step state occurrence next attends taken).1)
    (fun state occurrence next attends handsOver taken =>
      (step state occurrence next attends taken).2 handsOver) attends first run

/-- In every run of a session whose signers are honest and accept all requests, whatever packets are
lost, whatever timers fire, and whatever else the initiator does: a session that waits for nothing
has called back, or has the signatures of all its signers. -/
theorem speaks_despite_mishaps (libs : Libraries SecretKey PublicKey Signature)
    {validOf : PublicKey → Buffer → Signature} (lossless : libs.tlv.Lossless)
    (ideal : libs.bls.Ideal validOf) (matching : libs.ssl.Matching)
    (verifies : libs.keyChain.Verifies) (nothing : libs.tlv.encode [] = [])
    (signerOf : Name → BLSSigner SecretKey) (polls : Name → Nat)
    {initiator started : MPSInitiator PublicKey}
    (named : initiator.schemaContainer.NamesNonempty)
    (honest : ∀ name ∈ initiator.schemaContainer.trustedIds.names,
      initiator.schemaContainer.trustedIds.find name =
        some (libs.bls.getPublicKey (signerOf name).secretKey))
    (approve : ∀ name request, (signerOf name).verifySignRequest request = true)
    {unsignedData : Data} {schema : MultipartySchema} {signingKeyName : Name}
    {keyLocatorRandomness : Nat} {rpcs : Name → RpcDraw} {signers : List Name}
    (selected : initiator.schemaContainer.getAvailableSigners schema = .ok signers)
    (begun : initiator.next libs (.multiPartySign unsignedData schema signingKeyName
      keyLocatorRandomness rpcs) = some started)
    {occurrences : List (Occurrence Signature)} {world : World PublicKey}
    (run : Run.after (occur libs signerOf polls) occurrences
      (ofSession polls started initiator.sessions.length) = some world) :
    ∃ session, world.initiator.sessions[initiator.sessions.length]? = some session ∧
      session.HandsOver ∧
      (liveKeys session.rpcs = [] → session.HasCalledBack ∨ session.Complete) := by
  obtain ⟨⟨portion, attends⟩, first⟩ := ofSession_attends lossless named selected begun
  -- Nothing is refused, so every step keeps the handing over.
  have kept : ∀ (state : World PublicKey) (occurrence : Occurrence Signature)
      (next : World PublicKey),
      Attends libs signerOf initiator.schemaContainer portion unsignedData schema
          initiator.sessions.length state ∧ state.HandsOver →
      state.occur libs signerOf polls occurrence = some next →
      Attends libs signerOf initiator.schemaContainer portion unsignedData schema
          initiator.sessions.length next ∧ next.HandsOver := by
    rintro state occurrence next ⟨attends, before⟩ taken
    obtain ⟨further, decides⟩ :=
      attends.occur lossless ideal matching verifies nothing honest taken
    obtain ⟨-, session, -, listens⟩ := attends
    exact ⟨further, (decides before).mpr (listens.not_readsRefusal approve taken)⟩
  obtain ⟨⟨place, session, safe, listens⟩, handsOver⟩ := Run.always kept ⟨attends, first⟩ run
  have located := listens.located
  rw [place] at located
  -- A session that has not failed and drops nobody has every signature once it waits for nothing.
  have gone := listens.world_handsOver_iff.mp handsOver
  refine ⟨session, located, gone, fun alone => ?_⟩
  by_cases failed : session.HasFailed
  · exact .inl (.inr failed)
  · exact .inr (listens.refines.complete_of_handsOver gone alone failed)

end World

namespace Reference

/-- The holders of the keys, of whom the first one refuses every request. -/
def refusingHolder (name : Name) : BLSSigner Nat :=
  { holderOf name with verifySignRequest := fun _ => name != firstKey }

/-- The first signer's refusal is read, and the other two deliver. -/
def refusalRead : List (Occurrence Nat) :=
  let request : RequestDraw := ⟨[6], List.replicate 32 2, length_salt, 11, [1]⟩
  [.link 0 (.interest request), .link 0 (.reply draw)] ++ delivers 1

/-- Each holder of a key accepts all requests. -/
theorem holderOf_approves (name : Name) (request : Interest) :
    (holderOf name).verifySignRequest request = true := by
  unfold holderOf signerOf
  split
  · rfl
  · split <;> rfl

end Reference

open Reference in
/-- The equivalence for the run in which the first signer refuses. -/
theorem World.handsOver_despite_mishaps_iff_refusalRead :
    Run.EveryState (occur libraries refusingHolder fun _ => 1) HandsOver refusalRead
        (ofSession (fun _ => 1) spareStarted 0) ↔
      Run.EveryStep (occur libraries refusingHolder fun _ => 1)
        (fun world occurrence => ¬ world.ReadsRefusal occurrence) refusalRead
        (ofSession (fun _ => 1) spareStarted 0) := by
  have possible : (Run.after (occur libraries refusingHolder fun _ => 1) refusalRead
      (ofSession (fun _ => 1) spareStarted 0)).isSome = true := by decide +kernel
  obtain ⟨world, run⟩ := Option.isSome_iff_exists.mp possible
  exact handsOver_despite_mishaps_iff libraries PacketFormat.tlv_lossless
    (Bls.additive_ideal checksum) openssl_matching keyChain_verifies rfl refusingHolder
    (fun _ => 1) spareInitiator_named holderOf_holds spare_selected spare_begun run

open Reference in
/-- The session whose second request is lost has called back. -/
theorem World.speaks_despite_mishaps_lostRequest :
    ∃ world, Run.after (occur libraries holderOf fun _ => 1) lostRequest
        (ofSession (fun _ => 1) spareStarted 0) = some world ∧
      ∃ session, world.initiator.sessions[0]? = some session ∧ session.HandsOver ∧
        (liveKeys session.rpcs = [] → session.HasCalledBack ∨ session.Complete) := by
  obtain ⟨world, run⟩ := Option.isSome_iff_exists.mp lostRequest_possible
  exact ⟨world, run, speaks_despite_mishaps libraries PacketFormat.tlv_lossless
    (Bls.additive_ideal checksum) openssl_matching keyChain_verifies rfl holderOf (fun _ => 1)
    spareInitiator_named holderOf_holds holderOf_approves spare_selected spare_begun run⟩

open Reference in
/-- After the refusal the session has the other signature, waits for nothing, and is silent. -/
example : (Run.after (World.occur libraries refusingHolder fun _ => 1) refusalRead
    (World.ofSession (fun _ => 1) spareStarted 0)).map
      (fun world => world.initiator.sessions.map fun session =>
        (liveKeys session.rpcs, session.global.fetchedSignatures.length,
          session.history.countP Call.isCallback)) =
    some [([], 1, 0)] := by
  decide +kernel

end NdnMps
