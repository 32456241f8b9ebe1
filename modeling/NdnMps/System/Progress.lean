import NdnMps.System.Course

/-! Until a signer's exchange has ended, some event on its link can happen. -/

namespace NdnMps

variable {SecretKey PublicKey Signature : Type}

namespace World

variable {libs : Libraries SecretKey PublicKey Signature}
variable {signerOf : Name → BLSSigner SecretKey} {polls : Name → Nat}
variable {start : MultiSignGlobalState} {world : World PublicKey} {session : Session}

/-- An event in its turn is an event that the parties act on. -/
theorem next_eq {index : Nat} {perSigner : MultiSignPerSignerState} {link : Link}
    {event : LinkEvent Signature}
    (located : world.initiator.sessions[world.session]? = some session)
    (found : session.rpcs[index]? = some perSigner) (linked : world.links[index]? = some link)
    (ordered : orderly perSigner link event = true) :
    world.next libs signerOf polls (index, event) =
      world.act libs signerOf polls index perSigner link event := by
  simp only [next, World.perSigner, located, found, linked, ordered, if_true, Bind.bind,
    Option.bind_some]

/-- A Data packet in flight that the pending Interest matches is delivered as soon as the remote
call accepts it. -/
theorem reply_possible {index : Nat} {perSigner : MultiSignPerSignerState} {link : Link}
    {data : Data} {pending : Interest} {reaction : Reaction}
    (draw : Draw Signature) (running : world.initiator.liveness = .running)
    (located : world.initiator.sessions[world.session]? = some session)
    (found : session.rpcs[index]? = some perSigner)
    (aligned : world.links.length = session.rpcs.length) (reply : link.reply = some data)
    (waits : perSigner.pending = some pending) (answers : pending.matchesData data = true)
    (reacted : react libs world.initiator.tpm session.global.signingKeyName perSigner draw
      (.data data) = some reaction) (genuine : ∃ piece, reaction.Genuine piece) :
    (world.act libs signerOf polls index perSigner link (.reply draw)).isSome = true := by
  obtain ⟨piece, genuine⟩ := genuine
  simp only [act, reply, waits, answers, if_true, Bind.bind, Option.bind_some]
  -- A reaction to genuine packets goes on or hands over a signature.
  cases reaction with
  | proceed other tpm put =>
    rw [atInitiator_proceed running located found aligned reacted]
    rfl
  | collect other =>
    obtain ⟨renewed, -, done⟩ := atInitiator_collect running located found aligned reacted
      fun _ _ => { link with reply := none }
    rw [done]
    rfl
  | abandon => exact genuine.elim
  | unavailable reason => exact genuine.elim
  | stop liveness => exact genuine.elim

/-- An event of an exchange that has not ended can happen. -/
theorem OnCourse.possible (lossless : libs.tlv.Lossless) (matching : libs.ssl.Matching)
    (verifies : libs.keyChain.Verifies) (hasInfo : start.toBeSigned.signatureInfo.isSome)
    (hasValue : start.toBeSigned.signatureValue.isSome) (accepts : AcceptsData signerOf start)
    (course : world.OnCourse libs signerOf start session) (draw : Draw Signature)
    (request : RequestDraw) {index : Nat} {perSigner : MultiSignPerSignerState} {link : Link}
    (found : session.rpcs[index]? = some perSigner) (linked : world.links[index]? = some link)
    (live : perSigner.live = true) :
    ∃ event : LinkEvent Signature,
      (world.next libs signerOf polls (index, event)).isSome = true := by
  have listed : perSigner.signerKeyName ∈ start.signers := by
    rw [← course.course.keys]
    exact List.mem_map_of_mem (List.mem_of_getElem? found)
  -- An orderly event that the network can carry out is a turn of the whole system.
  have possible : ∀ event : LinkEvent Signature, orderly perSigner link event = true →
      (world.act libs signerOf polls index perSigner link event).isSome = true →
      ∃ event : LinkEvent Signature,
        (world.next libs signerOf polls (index, event)).isSome = true := by
    intro event ordered acts
    refine ⟨event, ?_⟩
    rw [next_eq course.located found linked ordered]
    exact acts
  -- The stage of the exchange says which event is due.
  cases course.stages index perSigner link found linked with
  | delivered phase interest fetch parameter => simp [MultiSignPerSignerState.live, phase] at live
  | requested asks interest reply fetch parameter state =>
    -- The sign request is on its way, so it is the signer's turn.
    obtain ⟨accepted, keys, fetchInterest, -, -, answered⟩ := onInterest_request lossless matching
      asks world.initiator.tpm link request
    refine possible (.interest request) (by simp [orderly, state]) ?_
    simp only [act, interest, answered, Bind.bind, Option.bind_some, Option.isSome_some]
  | @acknowledged pending fetchInterest accepted keys requestId asks answers interest reply sent
      fetch parameter state =>
    -- The acknowledgement is on its way back.
    obtain ⟨para, -, -, proceeds⟩ := ackCallback_reply world.initiator.tpm
      (answers.reply draw.salt draw.salt_length) asks.content
    have matched : pending.matchesData accepted.ack = true :=
      Interest.matchesData_of_name answers.acknowledges
    have reacted : react libs world.initiator.tpm session.global.signingKeyName perSigner draw
        (.data accepted.ack) = _ :=
      (react_awaitingAck asks.phase matched).trans (congrArg some proceeds)
    have waits : perSigner.pending = some pending := by
      simp only [MultiSignPerSignerState.pending, asks.phase]
    exact possible (.reply draw) rfl (reply_possible draw course.running course.located found
      course.aligned reply waits matched reacted ⟨[], trivial⟩)
  | @exchanging state requestId kept aesKey hmacKey held resultPrefix resultName plain parameter
      result =>
    -- The parameter packet comes first, since the signer signs nothing without it.
    cases parameter with
    | @asked fetch para waits unsent promised named asks shorter carries registered code =>
      have reacted : react libs world.initiator.tpm session.global.signingKeyName perSigner draw
          .paraInterest = some (.proceed perSigner world.initiator.tpm [para]) :=
        react_promised registered promised
      have asked : perSigner.paraData.name.isPrefixOf fetch.name = true := by
        rw [named, asks]
        exact Name.isPrefixOf_self _
      refine possible (.fetch draw) (by simp [orderly, promised]) ?_
      simp only [act, waits, asked, if_true, Bind.bind, Option.bind_some]
      rw [atInitiator_proceed course.running course.located found course.aligned reacted]
      rfl
    | @sent para fetched sent carries code =>
      -- The packet that the initiator has sent is one that the signer accepts.
      have signed := BLSSigner.onParameterData_carries lossless matching verifies
        (signerOf perSigner.signerKeyName) hasInfo hasValue carries (hmacKey ▸ held)
        (accepts _ listed)
      refine possible .parameter rfl ?_
      simp only [act, sent, kept, signed, Bind.bind, Option.bind_some, Option.isSome_some]
    | signed fetched received code piece =>
      -- Nothing is under way but what the result needs.
      cases result with
      | waiting phase interest reply registered =>
        have reacted : react libs world.initiator.tpm session.global.signingKeyName perSigner
            draw .fetchResult = some (resultFetchCallback libs world.initiator.tpm perSigner
              session.global.signingKeyName draw.nonce) := react_scheduled phase
        have unnamed : perSigner.nextResultName.digests = 0 := by
          rw [resultName, resultPrefix, digests_resultName lossless, plain]
        obtain ⟨resultFetchInt, digest, named, fetches⟩ := resultFetchCallback_of_plain
          world.initiator.tpm session.global.signingKeyName draw.nonce unnamed
        rw [fetches] at reacted
        refine possible (.fetchResult draw) (by simp [orderly, fetched]) ?_
        simp only [act]
        rw [atInitiator_proceed course.running course.located found course.aligned reacted]
        rfl
      | @asked pending digest phase interest reply named fetched registered =>
        rw [resultName] at named
        -- A poll is on its way, and the signer answers each one.
        have answered := onInterest_result (signerOf perSigner.signerKeyName) kept registered
          resultPrefix named (single_resultInterest lossless resultPrefix plain named)
          world.initiator.tpm request
        refine possible (.interest request) (by simp [orderly, kept, code]) ?_
        simp only [act, interest, answered, Bind.bind, Option.bind_some, Option.isSome_some]
      | @processing pending data after phase interest reply answers fetched registered read =>
        have reacted : react libs world.initiator.tpm session.global.signingKeyName perSigner
            draw (.data data) = _ :=
          (react_awaitingResult phase answers).trans (congrArg some (read world.initiator.tpm held))
        have waits : perSigner.pending = some pending := by
          simp only [MultiSignPerSignerState.pending, phase]
        exact possible (.reply draw) rfl (reply_possible draw course.running course.located found
          course.aligned reply waits answers reacted ⟨[], trivial⟩)
      | @returned pending data phase interest reply answers fetched registered final read =>
        have reacted : react libs world.initiator.tpm session.global.signingKeyName perSigner
            draw (.data data) = _ :=
          (react_awaitingResult phase answers).trans (congrArg some (read world.initiator.tpm held))
        have waits : perSigner.pending = some pending := by
          simp only [MultiSignPerSignerState.pending, phase]
        exact possible (.reply draw) rfl (reply_possible draw course.running course.located found
          course.aligned reply waits answers reacted ⟨_, rfl⟩)

/-- Where no event can happen any more, every exchange has ended. -/
theorem OnCourse.ended (lossless : libs.tlv.Lossless) (matching : libs.ssl.Matching)
    (verifies : libs.keyChain.Verifies) (hasInfo : start.toBeSigned.signatureInfo.isSome)
    (hasValue : start.toBeSigned.signatureValue.isSome) (accepts : AcceptsData signerOf start)
    (course : world.OnCourse libs signerOf start session) (draw : Draw Signature)
    (request : RequestDraw)
    (stuck : ∀ event, world.next libs signerOf polls (event : Nat × LinkEvent Signature) = none) :
    ∀ perSigner ∈ session.rpcs, perSigner.live = false := by
  intro perSigner member
  obtain ⟨index, found⟩ := List.mem_iff_getElem?.mp member
  have present := (List.getElem?_eq_some_iff.mp found).1
  have inside : index < world.links.length := by
    rw [course.aligned]
    exact present
  have linked : world.links[index]? = some world.links[index] := List.getElem?_eq_getElem inside
  -- A remote call that waits could still take a turn.
  cases live : perSigner.live with
  | false => rfl
  | true =>
    have possible : ∃ event : LinkEvent Signature,
        (world.next libs signerOf polls (index, event)).isSome = true :=
      course.possible lossless matching verifies hasInfo hasValue accepts draw request found linked
        live
    obtain ⟨event, happens⟩ := possible
    rw [stuck] at happens
    cases happens

end World

end NdnMps
