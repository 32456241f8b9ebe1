import NdnMps.System.Stages

/-! Every event on the link of an honest signer brings its exchange closer to its end. -/

namespace NdnMps

variable {SecretKey PublicKey Signature : Type}

/-- Setting the item that is there changes nothing. -/
theorem set_of_getElem? {α : Type} {list : List α} {index : Nat} {item : α}
    (found : list[index]? = some item) : list.set index item = list := by
  obtain ⟨before, later, split, -, set⟩ := exists_split_of_getElem? found
  rw [set, split]

namespace World

variable {libs : Libraries SecretKey PublicKey Signature}
variable {signerOf : Name → BLSSigner SecretKey} {polls : Name → Nat}

/-- The exchange of one remote call has come closer to its end, and no other has changed. -/
inductive Turn (libs : Libraries SecretKey PublicKey Signature) (signer : BLSSigner SecretKey)
    (toBeSigned : Data) (world : World PublicKey) (session : Session) (index : Nat)
    (perSigner : MultiSignPerSignerState) (link : Link) : World PublicKey → Prop where
  | turned {reaction : Reaction} {renewed : Session} {further : Link} {tpm : List Buffer}
      (fits : reaction.Fits perSigner)
      (genuine : reaction.Genuine
        (libs.bls.ndnGenBLSSignature libs.tlv signer.secretKey toBeSigned))
      (move : session.Move libs world.initiator.initiatorPrefix world.initiator.schemaContainer
        index perSigner reaction world.initiator.schemaContainer renewed)
      (subset : world.initiator.tpm ⊆ tpm)
      (stage : Stage libs signer toBeSigned tpm (reaction.remaining perSigner) further)
      (closer : further.work (reaction.remaining perSigner) < link.work perSigner) :
      Turn libs signer toBeSigned world session index perSigner link
        { world with
          initiator := { world.initiator.setSession world.session renewed with tpm }
          links := world.links.set index further }

/-- A remote call that goes on is a turn of its exchange. -/
theorem Turn.ofProceed {signer : BLSSigner SecretKey} {toBeSigned : Data}
    {world : World PublicKey} {session : Session} {index : Nat}
    {perSigner other : MultiSignPerSignerState} {link further : Link} {tpm : List Buffer}
    (sameKey : other.signerKeyName = perSigner.signerKeyName)
    (sameLive : other.live = perSigner.live) (subset : world.initiator.tpm ⊆ tpm)
    (stage : Stage libs signer toBeSigned tpm other further)
    (closer : further.work other < link.work perSigner) :
    Turn libs signer toBeSigned world session index perSigner link
      { world with
        initiator := { world.initiator.setSession world.session (session.setRpc index other) with
          tpm }
        links := world.links.set index further } := by
  have fits : (Reaction.proceed other tpm []).Fits perSigner := ⟨sameKey, sameLive⟩
  exact .turned fits trivial (.proceeded other tpm []) subset stage closer

/-- A signature handed over is the last turn of its exchange. -/
theorem Turn.ofCollect {signer : BLSSigner SecretKey} {toBeSigned : Data}
    {world : World PublicKey} {session renewed : Session} {index : Nat}
    {perSigner : MultiSignPerSignerState} {link further : Link} {piece : Buffer}
    (live : perSigner.live = true)
    (genuine : piece = libs.bls.ndnGenBLSSignature libs.tlv signer.secretKey toBeSigned)
    (move : session.Move libs world.initiator.initiatorPrefix world.initiator.schemaContainer
      index perSigner (.collect piece) world.initiator.schemaContainer renewed)
    (interest : further.interest = none) (fetch : further.fetch = none)
    (parameter : further.parameter = none) (positive : 0 < link.work perSigner) :
    Turn libs signer toBeSigned world session index perSigner link
      { world with
        initiator := world.initiator.setSession world.session renewed
        links := world.links.set index further } := by
  have fits : (Reaction.collect piece).Fits perSigner := live
  have delivered : Stage libs signer toBeSigned world.initiator.tpm
      { perSigner with phase := .ended } further := .delivered rfl interest fetch parameter
  exact .turned fits genuine move (List.Subset.refl _) delivered positive

/-- What a signer does leaves the session as it is. -/
theorem Turn.ofSigner {signer : BLSSigner SecretKey} {toBeSigned : Data} {world : World PublicKey}
    {session : Session} {index : Nat} {perSigner : MultiSignPerSignerState} {link further : Link}
    {tpm : List Buffer} (located : world.initiator.sessions[world.session]? = some session)
    (found : session.rpcs[index]? = some perSigner) (subset : world.initiator.tpm ⊆ tpm)
    (stage : Stage libs signer toBeSigned tpm perSigner further)
    (closer : further.work perSigner < link.work perSigner) :
    Turn libs signer toBeSigned world session index perSigner link
      { world with
        initiator := { world.initiator with tpm }, links := world.links.set index further } := by
  -- Writing the same remote call and the same session back changes nothing.
  have sameRpc : session.setRpc index perSigner = session := by
    rw [Session.setRpc, set_of_getElem? found]
  have sameSession : world.initiator.setSession world.session session = world.initiator := by
    rw [MPSInitiator.setSession, set_of_getElem? located]
  have turned : Turn libs signer toBeSigned world session index perSigner link _ :=
    .ofProceed rfl rfl subset stage closer
  rw [sameRpc, sameSession] at turned
  exact turned

/-- An event at the initiator happens only where the remote call reacts. -/
theorem exists_reaction {world after : World PublicKey} {session : Session} {index : Nat}
    {perSigner : MultiSignPerSignerState} {event : RpcEvent} {draw : Draw Signature}
    {renew : MultiSignPerSignerState → List Data → Link}
    (located : world.initiator.sessions[world.session]? = some session)
    (found : session.rpcs[index]? = some perSigner)
    (acted : world.atInitiator libs polls index event draw renew = some after) :
    ∃ reaction, react libs world.initiator.tpm session.global.signingKeyName perSigner draw
      event = some reaction := by
  -- Otherwise the initiator makes no step.
  obtain ⟨result, stepped, -⟩ := Option.bind_eq_some_iff.mp acted
  simp only [MPSInitiator.step] at stepped
  split at stepped
  · cases stepped
  · simp only [located, found, Bind.bind, Option.bind_some] at stepped
    obtain ⟨reaction, reacted, -⟩ := Option.bind_eq_some_iff.mp stepped
    exact ⟨reaction, reacted⟩

/-- The parameter packet reaches the signer. -/
theorem Turn.parameter (lossless : libs.tlv.Lossless) (matching : libs.ssl.Matching)
    (verifies : libs.keyChain.Verifies) {toBeSigned : Data}
    (hasInfo : toBeSigned.signatureInfo.isSome) (hasValue : toBeSigned.signatureValue.isSome)
    {world after : World PublicKey} {session : Session} {index : Nat}
    {perSigner : MultiSignPerSignerState} {link : Link}
    (located : world.initiator.sessions[world.session]? = some session)
    (found : session.rpcs[index]? = some perSigner)
    (accepts : (signerOf perSigner.signerKeyName).verifyToBeSigned toBeSigned = true)
    (stage : Stage libs (signerOf perSigner.signerKeyName) toBeSigned world.initiator.tpm
      perSigner link)
    (acted : world.act libs signerOf polls index perSigner link
      (.parameter : LinkEvent Signature) = some after) :
    Turn libs (signerOf perSigner.signerKeyName) toBeSigned world session index perSigner link
      after := by
  obtain ⟨data, arrived, acted⟩ := Option.bind_eq_some_iff.mp acted
  obtain ⟨kept, present, acted⟩ := Option.bind_eq_some_iff.mp acted
  -- Before the acknowledgement and after the delivery no parameter packet is on its way.
  cases stage with
  | requested asks interest reply fetch parameter state => simp [parameter] at arrived
  | acknowledged asks answers interest reply sent fetch parameter state =>
    simp [parameter] at arrived
  | delivered phase interest fetch parameter => simp [parameter] at arrived
  | @exchanging state requestId stored aesKey hmacKey held resultPrefix resultName plain
      parameter result =>
    cases stored.symm.trans present
    cases parameter with
    | asked waits unsent promised named asks shorter carries registered code =>
      simp [unsent] at arrived
    | signed fetched received code piece => simp [received] at arrived
    | sent fetched sent carries code =>
      cases sent.symm.trans arrived
      have signed := BLSSigner.onParameterData_carries lossless matching verifies
        (signerOf perSigner.signerKeyName) hasInfo hasValue carries (hmacKey ▸ held) accepts
      simp only [signed] at acted
      cases acted
      refine Turn.ofSigner located found (List.Subset.refl _) ?_ ?_
      · refine .exchanging rfl aesKey hmacKey held resultPrefix resultName plain
          (.signed fetched rfl rfl rfl) ?_
        -- The result stays where it is, and it cannot be final yet.
        cases result with
        | waiting phase interest reply registered =>
          exact .waiting phase interest reply registered
        | asked phase interest reply named fetched registered =>
          exact .asked phase interest reply named fetched registered
        | processing phase interest reply answers fetched registered read =>
          exact .processing phase interest reply answers fetched registered read
        | returned phase interest reply answers fetched registered final read =>
          cases code.symm.trans final
      · -- The packet is no longer on its way, and the signer has less to wait for.
        cases result with
        | waiting phase interest reply registered =>
          simp [Link.work, phase, fetched, sent]
        | asked phase interest reply named fetched registered =>
          simp [Link.work, phase, fetched, sent, interest]
        | processing phase interest reply answers fetched registered read =>
          simp [Link.work, phase, fetched, sent, interest, stored, registered]
        | returned phase interest reply answers fetched registered final read =>
          cases code.symm.trans final

/-- The signer's Interest for the parameter packet reaches the initiator. -/
theorem Turn.fetch {toBeSigned : Data} {world after : World PublicKey} {session : Session}
    {index : Nat} {perSigner : MultiSignPerSignerState} {link : Link} {draw : Draw Signature}
    {signer : BLSSigner SecretKey} (running : world.initiator.liveness = .running)
    (located : world.initiator.sessions[world.session]? = some session)
    (found : session.rpcs[index]? = some perSigner)
    (aligned : world.links.length = session.rpcs.length)
    (stage : Stage libs signer toBeSigned world.initiator.tpm perSigner link)
    (ordered : orderly perSigner link (.fetch draw) = true)
    (acted : world.act libs signerOf polls index perSigner link (.fetch draw) = some after) :
    Turn libs signer toBeSigned world session index perSigner link after := by
  obtain ⟨interest, arrived, acted⟩ := Option.bind_eq_some_iff.mp acted
  split at acted
  rotate_left
  · cases acted
  cases stage with
  | requested asks interest reply fetch parameter state => simp [fetch] at arrived
  | delivered phase interest fetch parameter => simp [fetch] at arrived
  | acknowledged asks answers interest reply sent fetch parameter state =>
    -- The acknowledgement has not been processed yet.
    simp [orderly, asks.unpromised] at ordered
  | exchanging kept aesKey hmacKey held resultPrefix resultName plain parameter result =>
    -- The fetch is on its way only before the parameter packet has been sent.
    cases parameter with
    | sent fetched sent carries code => simp [fetched] at arrived
    | signed fetched received code piece => simp [fetched] at arrived
    | @asked fetch para waits unsent promised named asks shorter carries registered code =>
      cases waits.symm.trans arrived
      have reacted : react libs world.initiator.tpm session.global.signingKeyName perSigner draw
          .paraInterest = some (.proceed perSigner world.initiator.tpm [para]) :=
        react_promised registered promised
      rw [atInitiator_proceed running located found aligned reacted] at acted
      cases acted
      -- The packet that was promised is the one the signer asks for.
      have answered : [para].find? interest.matchesData = some para := by
        simp [Interest.matchesData, shorter, asks]
      cases result with
      | waiting phase interestGone reply stillRegistered =>
        refine .ofProceed rfl rfl (List.Subset.refl _) ?_ ?_
        · exact .exchanging kept aesKey hmacKey held resultPrefix resultName plain
            (.sent rfl answered carries code) (.waiting phase interestGone reply stillRegistered)
        · simp [Link.work, phase, arrived, answered]
      | asked phase interest reply named fetched registered => simp [fetched] at arrived
      | processing phase interest reply answers fetched registered read =>
        simp [fetched] at arrived
      | returned phase interest reply answers fetched registered final read =>
        simp [fetched] at arrived

/-- The scheduled fetch of the result fires. -/
theorem Turn.fetchResult (lossless : libs.tlv.Lossless) {toBeSigned : Data}
    {world after : World PublicKey} {session : Session} {index : Nat}
    {perSigner : MultiSignPerSignerState} {link : Link} {draw : Draw Signature}
    {signer : BLSSigner SecretKey} (running : world.initiator.liveness = .running)
    (located : world.initiator.sessions[world.session]? = some session)
    (found : session.rpcs[index]? = some perSigner)
    (aligned : world.links.length = session.rpcs.length)
    (stage : Stage libs signer toBeSigned world.initiator.tpm perSigner link)
    (ordered : orderly perSigner link (.fetchResult draw) = true)
    (acted : world.act libs signerOf polls index perSigner link (.fetchResult draw) =
      some after) :
    Turn libs signer toBeSigned world session index perSigner link after := by
  simp only [act] at acted
  obtain ⟨reaction, happens⟩ := exists_reaction located found acted
  -- Only a remote call that waits for the time to ask lets the event fire.
  cases stage with
  | requested asks interest reply fetch parameter state => simp [react, asks.phase] at happens
  | acknowledged asks answers interest reply sent fetch parameter state =>
    simp [react, asks.phase] at happens
  | delivered phase interest fetch parameter => simp [react, phase] at happens
  | exchanging kept aesKey hmacKey held resultPrefix resultName plain parameter result =>
    cases result with
    | asked phase interest reply named fetched registered => simp [react, phase] at happens
    | processing phase interest reply answers fetched registered read =>
      simp [react, phase] at happens
    | returned phase interest reply answers fetched registered final read =>
      simp [react, phase] at happens
    | waiting phase interest reply registered =>
      have reacted : react libs world.initiator.tpm session.global.signingKeyName perSigner draw
          .fetchResult = some (resultFetchCallback libs world.initiator.tpm perSigner
            session.global.signingKeyName draw.nonce) := react_scheduled phase
      -- The name of the result has no digest, so a signed Interest can have it.
      have unnamed : perSigner.nextResultName.digests = 0 := by
        rw [resultName, resultPrefix, digests_resultName lossless, plain]
      obtain ⟨resultFetchInt, digest, named, fetches⟩ := resultFetchCallback_of_plain
        world.initiator.tpm session.global.signingKeyName draw.nonce unnamed
      rw [fetches] at reacted
      rw [atInitiator_proceed running located found aligned reacted] at acted
      cases acted
      have asked : link.fetch = none := Option.isNone_iff_eq_none.mp ordered
      refine .ofProceed rfl ?_ (List.Subset.refl _) ?_ ?_
      · simp only [MultiSignPerSignerState.live, phase]
      · exact .exchanging kept aesKey hmacKey held resultPrefix resultName plain
          (parameter.transport asked rfl rfl rfl rfl rfl rfl)
          (.asked rfl rfl reply named asked registered)
      · -- The poll that goes out costs less than the wait that it ends.
        simp only [Link.work, MultiSignPerSignerState.pending,
          Option.isSome_some, if_true, phase]
        omega

/-- The signer's Data reaches the initiator. -/
theorem Turn.reply {toBeSigned : Data} {world after : World PublicKey} {session : Session}
    {index : Nat} {perSigner : MultiSignPerSignerState} {link : Link} {draw : Draw Signature}
    {signer : BLSSigner SecretKey} (running : world.initiator.liveness = .running)
    (located : world.initiator.sessions[world.session]? = some session)
    (found : session.rpcs[index]? = some perSigner)
    (aligned : world.links.length = session.rpcs.length)
    (stage : Stage libs signer toBeSigned world.initiator.tpm perSigner link)
    (acted : world.act libs signerOf polls index perSigner link (.reply draw) = some after) :
    Turn libs signer toBeSigned world session index perSigner link after := by
  obtain ⟨data, arrived, acted⟩ := Option.bind_eq_some_iff.mp acted
  obtain ⟨pending, waits, acted⟩ := Option.bind_eq_some_iff.mp acted
  split at acted
  rotate_left
  · cases acted
  -- A reply is either the acknowledgement or a result.
  cases stage with
  | requested asks interest reply fetch parameter state => simp [reply] at arrived
  | delivered phase interest fetch parameter =>
    simp [MultiSignPerSignerState.pending, phase] at waits
  | @acknowledged request fetchInterest accepted keys requestId asks answers interest reply sent
      fetch parameter state =>
    cases reply.symm.trans arrived
    have asked : request.matchesData accepted.ack = true :=
      Interest.matchesData_of_name answers.acknowledges
    -- Both parties have the same keys from here on.
    obtain ⟨para, carries, named, proceeds⟩ := ackCallback_reply world.initiator.tpm
      (answers.reply draw.salt draw.salt_length) asks.content
    have reacted : react libs world.initiator.tpm session.global.signingKeyName perSigner draw
        (.data accepted.ack) = _ :=
      (react_awaitingAck asks.phase asked).trans (congrArg some proceeds)
    rw [atInitiator_proceed running located found aligned reacted] at acted
    cases acted
    refine .ofProceed rfl ?_ (fun key member => List.mem_insert_of_mem member) ?_ ?_
    · simp only [MultiSignPerSignerState.live, asks.phase]
    · refine .exchanging state answers.aesKey answers.hmacKey List.mem_insert_self
        answers.resultPrefix ?_ asks.plain ?_ (.waiting rfl interest rfl answers.registered)
      · rw [answers.resultPrefix]
      · obtain ⟨fetches, shorter⟩ := answers.asks sent
        refine .asked fetch parameter rfl rfl (fetches.trans named.symm) shorter ?_
          asks.registered answers.code
        · rw [answers.aesKey, answers.hmacKey]
          exact carries
    · simp [Link.work, asks.phase, fetch, interest]
  | exchanging kept aesKey hmacKey held resultPrefix resultName plain parameter result =>
    -- A result that is not final sends the remote call back to waiting.
    cases result with
    | waiting phase interest reply registered => simp [reply] at arrived
    | asked phase interest reply named fetched registered => simp [reply] at arrived
    | @processing _ _ time phase interest reply answers fetched registered read =>
      cases reply.symm.trans arrived
      have reacted : react libs world.initiator.tpm session.global.signingKeyName perSigner draw
          (.data data) = _ :=
        (react_awaitingResult phase answers).trans (congrArg some (read world.initiator.tpm held))
      rw [atInitiator_proceed running located found aligned reacted] at acted
      cases acted
      refine .ofProceed rfl ?_ (List.Subset.refl _) ?_ ?_
      · simp only [MultiSignPerSignerState.live, phase]
      · exact .exchanging kept aesKey hmacKey held resultPrefix resultName plain
          (parameter.transport fetched rfl rfl rfl rfl rfl rfl)
          (.waiting rfl interest rfl registered)
      · simp [Link.work, phase, interest, kept, registered]
        omega
    | returned phase interest reply answers fetched registered code read =>
      cases reply.symm.trans arrived
      have reacted : react libs world.initiator.tpm session.global.signingKeyName perSigner draw
          (.data data) = _ :=
        (react_awaitingResult phase answers).trans (congrArg some (read world.initiator.tpm held))
      obtain ⟨renewed, move, done⟩ := atInitiator_collect running located found aligned reacted
        fun _ _ => { link with reply := none }
      rw [done] at acted
      cases acted
      cases parameter with
      | asked waits unsent promised named asks shorter carries registered code =>
        simp [fetched] at waits
      | sent fetched sent carries processing => cases processing.symm.trans code
      | signed fetched received code piece =>
        refine .ofCollect ?_ piece move interest fetched received ?_
        · simp only [MultiSignPerSignerState.live, phase]
        · simp [Link.work, phase, interest, kept, registered]

/-- A result Interest is not taken for a sign request. -/
theorem invocationPrefix_not_isPrefixOf (tlv : Tlv) (signer : BLSSigner SecretKey)
    (requestId : Nat) (version digest : Component) :
    signer.invocationPrefix.isPrefixOf
      (((resultPrefixOf tlv signer.signerPrefix requestId).append version).append digest) =
        false := by
  -- The names differ in the component behind the signer's prefix and `mps`.
  have differ : Component.ofString "sign" ≠ Component.ofString "result" := by decide +kernel
  rw [← Bool.not_eq_true]
  intro extends'
  rw [Name.isPrefixOf, List.isPrefixOf_iff_prefix] at extends'
  simp only [BLSSigner.invocationPrefix, resultPrefixOf, Name.append, List.append_assoc,
    List.prefix_append_right_inj, List.cons_append, List.nil_append,
    List.cons_prefix_cons] at extends'
  exact differ extends'.2.1

/-- A signer acknowledges the sign request that reaches it. -/
theorem onInterest_request (lossless : libs.tlv.Lossless) (matching : libs.ssl.Matching)
    {signer : BLSSigner SecretKey} {toBeSigned : Data} {perSigner : MultiSignPerSignerState}
    {request : Interest} (asks : perSigner.Asks libs signer toBeSigned request)
    (tpm : List Buffer) (link : Link) (draw : RequestDraw) :
    ∃ (accepted : BLSSigner.Accepted) (keys : SessionKeys) (fetchInterest : Interest),
      accepted.Answers libs signer.signerPrefix request perSigner.paraData.name perSigner.ecdh keys
        draw.requestId ∧
      accepted.fetch = .ok fetchInterest ∧
      signer.onInterest libs tpm link request draw = some ({ link with
        interest := none, reply := some accepted.ack, fetch := some fetchInterest
        state := some accepted.state }, tpm) := by
  obtain ⟨keyName, nonce, requested⟩ := asks.requested
  obtain ⟨accepted, keys, answered, answers⟩ := signer.exists_accepted lossless matching requested
    asks.accepts draw
  -- The request is below the prefix for invocations, where the signer listens.
  have named : signer.invocationPrefix.isPrefixOf request.name = true := by
    rw [requested]
    exact Name.isPrefixOf_append _ _
  have single : ¬ 1 < request.name.digests := by
    rw [requested, digests_request, asks.plain]
    decide
  obtain ⟨fetchInterest, sent⟩ := answers.exists_fetch asks.expressible
  refine ⟨accepted, keys, fetchInterest, answers, sent, ?_⟩
  simp only [BLSSigner.onInterest, single, named, if_false, if_true, answered, sent]

/-- An Interest for a result of a signer whose prefix has no digest has at most the one of its
parameters. -/
theorem single_resultInterest (lossless : libs.tlv.Lossless) {signer : BLSSigner SecretKey}
    {state : SignRequestState} {requestId version : Nat} {digest : Component}
    {interest : Interest}
    (resultPrefix : state.resultPrefix = resultPrefixOf libs.tlv signer.signerPrefix requestId)
    (plain : signer.signerPrefix.digests = 0)
    (named : interest.name =
      (state.resultPrefix.append (libs.tlv.fromVersion version)).append digest) :
    ¬ 1 < interest.name.digests := by
  rw [named, resultPrefix, Name.digests_append, digests_resultName lossless, plain]
  split <;> decide

/-- A signer answers a result Interest as long as its prefix is registered. -/
theorem onInterest_result (signer : BLSSigner SecretKey) {link : Link} {state : SignRequestState}
    {requestId : Nat} {version digest : Component} {interest : Interest}
    (kept : link.state = some state) (registered : state.resultPrefixRegistered = true)
    (resultPrefix : state.resultPrefix = resultPrefixOf libs.tlv signer.signerPrefix requestId)
    (named : interest.name = (state.resultPrefix.append version).append digest)
    (single : ¬ 1 < interest.name.digests) (tpm : List Buffer) (draw : RequestDraw) :
    signer.onInterest libs tpm link interest draw = some ({ link with
      interest := none
      reply := some (libs.keyChain.signWithHmac
        (generateResultData libs.tlv libs.ssl interest.name state draw.random).2.hmacKey
        (generateResultData libs.tlv libs.ssl interest.name state draw.random).1)
      state := some (generateResultData libs.tlv libs.ssl interest.name state draw.random).2
      polls := if state.code = .processing then link.polls - 1 else link.polls },
      tpm.insert
        (generateResultData libs.tlv libs.ssl interest.name state draw.random).2.hmacKey) := by
  -- The result prefix is another one, and the name has the length that the code expects.
  have other : signer.invocationPrefix.isPrefixOf interest.name = false := by
    rw [named, resultPrefix]
    exact invocationPrefix_not_isPrefixOf libs.tlv signer requestId version digest
  have below : state.resultPrefix.isPrefixOf interest.name = true := by
    rw [named]
    simp [Name.isPrefixOf, Name.append]
  have size : interest.name.size = signer.signerPrefix.size + 5 := by
    simp only [named, resultPrefix, resultPrefixOf, Name.size_append]
  simp only [BLSSigner.onInterest, single, other, Bool.false_eq_true, if_false, kept, registered,
    below,
    Bool.and_self, if_true, BLSSigner.onResultInterest, size, ne_eq, not_true_eq_false,
    Bind.bind, Option.bind_some]

/-- The initiator's Interest reaches the signer. -/
theorem Turn.interest (lossless : libs.tlv.Lossless) (matching : libs.ssl.Matching)
    (verifies : libs.keyChain.Verifies) {toBeSigned : Data} {world after : World PublicKey}
    {session : Session} {index : Nat} {perSigner : MultiSignPerSignerState} {link : Link}
    {draw : RequestDraw} (located : world.initiator.sessions[world.session]? = some session)
    (found : session.rpcs[index]? = some perSigner)
    (stage : Stage libs (signerOf perSigner.signerKeyName) toBeSigned world.initiator.tpm
      perSigner link)
    (ordered : orderly perSigner link (.interest draw : LinkEvent Signature) = true)
    (acted : world.act libs signerOf polls index perSigner link
      (.interest draw : LinkEvent Signature) = some after) :
    Turn libs (signerOf perSigner.signerKeyName) toBeSigned world session index perSigner link
      after := by
  obtain ⟨pending, arrived, acted⟩ := Option.bind_eq_some_iff.mp acted
  obtain ⟨answer, handled, acted⟩ := Option.bind_eq_some_iff.mp acted
  cases acted
  -- An Interest is on its way as a sign request or as a poll for the result.
  cases stage with
  | acknowledged asks answers interest reply sent fetch parameter state =>
    simp [interest] at arrived
  | delivered phase interest fetch parameter => simp [interest] at arrived
  | requested asks interest reply fetch parameter state =>
    cases interest.symm.trans arrived
    obtain ⟨accepted, keys, fetchInterest, answers, sent, answered⟩ :=
      onInterest_request lossless matching asks world.initiator.tpm link draw
    cases answered.symm.trans handled
    refine .ofSigner located found (List.Subset.refl _) ?_ ?_
    · exact .acknowledged asks answers rfl rfl sent rfl parameter rfl
    · simp [Link.work, asks.phase, arrived]
  | @exchanging state requestId kept aesKey hmacKey held resultPrefix resultName plain
      parameter result =>
    -- The call has been scheduled, so only a poll that was sent can arrive.
    cases result with
    | waiting phase interest reply registered => simp [interest] at arrived
    | processing phase interest reply answers fetched registered read =>
      simp [interest] at arrived
    | returned phase interest reply answers fetched registered code read =>
      simp [interest] at arrived
    | @asked _ digest phase interest reply named fetched registered =>
      cases interest.symm.trans arrived
      rw [resultName] at named
      have answered := onInterest_result (signerOf perSigner.signerKeyName) kept registered
        resultPrefix named (single_resultInterest lossless resultPrefix plain named)
        world.initiator.tpm draw
      cases answered.symm.trans handled
      -- The signer has refused nothing, so the request is in progress or done.
      have unfinished : state.code = .processing ∨ state.code = .ok := by
        cases parameter with
        | asked waits unsent promised named asks shorter carries registered code => exact .inl code
        | sent fetched sent carries code => exact .inl code
        | signed fetched received code piece => exact .inr code
      have matched : pending.matchesData (libs.keyChain.signWithHmac state.hmacKey
          (generateResultData libs.tlv libs.ssl pending.name state draw.random).1) = true :=
        Interest.matchesData_of_name rfl
      -- A reply in progress uses up one of the polls that are left, and the final one is read.
      rcases unfinished with code | code
      · rw [generateResultData_processing code]
        refine .ofSigner located found (fun key member => List.mem_insert_of_mem member) ?_ ?_
        · refine .exchanging rfl aesKey hmacKey (List.mem_insert_of_mem held) resultPrefix
            resultName plain (parameter.transport fetched rfl rfl rfl rfl rfl rfl) ?_
          exact .processing phase rfl rfl matched fetched registered fun tpm held =>
            resultCallback_processing lossless matching verifies aesKey hmacKey code _ _ held
        · have budget : 0 < link.polls := by
            simpa [orderly, kept, code] using ordered
          simp [Link.work, phase, arrived, registered, code]
          omega
      · rw [generateResultData_ok code]
        refine .ofSigner located found (fun key member => List.mem_insert_of_mem member) ?_ ?_
        · refine .exchanging rfl aesKey hmacKey (List.mem_insert_of_mem held) resultPrefix
            resultName plain (parameter.transport fetched rfl rfl rfl rfl rfl rfl) ?_
          exact .returned phase rfl rfl matched fetched rfl code fun tpm held =>
            resultCallback_ok lossless matching verifies aesKey hmacKey code _ _ held
        · simp [Link.work, phase, arrived, code]

end World

end NdnMps
