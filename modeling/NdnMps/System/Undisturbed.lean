import NdnMps.Initiator.Completion
import NdnMps.System.Agreement
import NdnMps.System.Rpc

/-! Every step of an exchange with undisturbed packets leaves both parties with the same keys and
the same count of replies. -/

namespace NdnMps

variable {SecretKey PublicKey Signature : Type}

namespace RpcExchange

variable {libs : Libraries SecretKey PublicKey Signature} {signer : BLSSigner SecretKey}
variable {signingKeyName : Name} {start : RpcExchange}
variable {recorded after : RecordedExchange Signature}

/-- The initiator's Interest reaches the signer. -/
theorem Undisturbed.interest (lossless : libs.tlv.Lossless) (matching : libs.ssl.Matching)
    (fresh : Fresh libs start) (undisturbed : Undisturbed libs signer start recorded)
    {draw : RequestDraw}
    (taken : Recorded.next (step libs signer signingKeyName) recorded (.link (.interest draw)) =
      some after) : Undisturbed libs signer start after := by
  obtain ⟨result, stepped, same⟩ := Option.map_eq_some_iff.mp taken
  obtain ⟨interest, sent, stepped⟩ := Option.bind_eq_some_iff.mp stepped
  obtain ⟨⟨further, more⟩, handled, stepped⟩ := Option.bind_eq_some_iff.mp stepped
  cases stepped
  subst same
  -- The signer listens below two prefixes, and the stage says which of them the Interest is under.
  cases undisturbed with
  | accepted unread plain answers kept same version none reply => simp [none] at sent
  | requesting unread unknown request refused =>
    obtain ⟨asked, keyName, nonce, signerPrefix, phase, requested⟩ := fresh.requested
    cases phase.symm.trans (request interest sent)
    obtain ⟨tpm, invoked, plain, either⟩ :=
      onInterest_request_cases lossless matching requested unknown handled
    -- The reply is an acknowledgement, so nothing counts as a result.
    have silent : further.parameter = recorded.state.link.parameter → Unread start
        (⟨{ recorded.state with link := further, signerTpm := more },
          recorded.past ++ [.link (.interest draw)], recorded.outputs ++
            if signer.invocationPrefix.isPrefixOf interest.name then []
            else further.reply.toList.map .data⟩ : RecordedExchange Signature) := by
      intro parameter
      refine ⟨unread.perSigner, parameter.trans unread.parameter, tpm.trans unread.signerTpm, ?_⟩
      rw [invoked, if_pos rfl, List.append_nil]
      exact unread.outputs
    rcases either with ⟨unknown, none, parameter, empty⟩ |
      ⟨accepted, keys, answers, version, kept, none, parameter, reply⟩
    · refine .requesting (silent parameter) unknown ?_ empty
      intro pending sent
      simp [none] at sent
    · refine .accepted (silent parameter) plain answers kept ⟨rfl, rfl, rfl⟩ version none ?_
      intro data sent
      exact Option.some.inj (sent.symm.trans reply)
  | @agreed state agreed counted =>
    -- From here on each Interest is a poll, whose name the initiator derived from the prefix.
    obtain ⟨requestId, resultPrefix⟩ := agreed.resultPrefix
    obtain ⟨digest, named⟩ := agreed.interest interest sent
    rw [agreed.resultName] at named
    obtain ⟨tpm, other, kept, none, parameter, reply⟩ :=
      onInterest_result_cases agreed.kept resultPrefix named handled
    have terms := BLSSigner.same_generateResultData libs.tlv libs.ssl interest.name state
      draw.random
    simp only [other, Bool.false_eq_true, if_false, reply, Option.toList_some, List.map_cons,
      List.map_nil]
    have asked : recorded.state.link.interest.isSome = true := by rw [sent]; rfl
    refine .agreed (agreed.atSigner terms kept rfl rfl (.inr parameter) (.inl none) ?_ ?_)
      (counted.answered lossless matching asked rfl rfl rfl none reply)
    · intro data sent
      cases reply.symm.trans sent
      exact .inr ⟨interest.name, state, draw.random, ⟨rfl, rfl, rfl⟩, rfl⟩
    · rw [tpm]
      simp

/-- A remote call that has read no acknowledgement and waits for something is as it started. -/
theorem Unread.waiting (unread : Unread start recorded) {pending : Interest}
    (waits : recorded.state.perSigner.pending = some pending) :
    recorded.state.perSigner = start.perSigner := by
  -- It has not ended, because it waits.
  rcases unread.perSigner with same | ended
  · exact same
  · rw [ended] at waits
    cases waits

/-- A remote call that has ended without an acknowledgement has still read none. -/
theorem Unread.ended (unread : Unread start recorded)
    (perSigner : after.state.perSigner = { recorded.state.perSigner with phase := .ended })
    (parameter : after.state.link.parameter = recorded.state.link.parameter)
    (signerTpm : after.state.signerTpm = recorded.state.signerTpm)
    (outputs : after.outputs = recorded.outputs) : Unread start after := by
  refine ⟨.inr ?_, parameter.trans unread.parameter, signerTpm.trans unread.signerTpm,
    outputs.trans unread.outputs⟩
  rcases unread.perSigner with same | ended
  · rw [perSigner, same]
  · rw [perSigner, ended]

/-- Once the acknowledgement has been read, both parties have the same keys, and nobody has asked
for the result. -/
theorem Undisturbed.of_read {request : Interest} {accepted : BLSSigner.Accepted}
    {keys : SessionKeys} {requestId time : Nat} {state : SignRequestState} {para : Data}
    (unread : Unread start recorded) (plain : signer.signerPrefix.digests = 0)
    (answers : accepted.Answers libs signer.signerPrefix request start.perSigner.paraData.name
      start.perSigner.ecdh keys requestId)
    (kept : recorded.state.link.state = some state)
    (same : BLSSigner.SameRequest accepted.state state) (version : state.version = 0)
    (interest : recorded.state.link.interest = none) (encrypted : EncryptedUnder libs keys para)
    (perSigner : after.state.perSigner = { recorded.state.perSigner with
      paraDataPromise := some para, aesKey := keys.aesKey, hmacKey := keys.hmacKey
      paraData := para
      nextResultName := (resultPrefixOf libs.tlv signer.signerPrefix requestId).append
        (libs.tlv.fromVersion 0)
      phase := .scheduled time })
    (tpm : after.state.tpm = recorded.state.tpm.insert keys.hmacKey)
    (signerTpm : after.state.signerTpm = recorded.state.signerTpm)
    (link : after.state.link = { recorded.state.link with reply := none })
    (outputs : after.outputs = recorded.outputs) : Undisturbed libs signer start after := by
  have aesKey := same.aesKey.trans answers.aesKey
  have hmacKey := same.hmacKey.trans answers.hmacKey
  have resultPrefix := same.resultPrefix.trans answers.resultPrefix
  have silent := outputs.trans unread.outputs
  -- Both parties have derived the keys from the same acknowledgement.
  have agreed : Agreed libs signer start after state := by
    refine ⟨?_, plain, ⟨requestId, resultPrefix⟩, ?_, ?_, ?_, ?_, ?_, ?_, ?_, ?_, ?_, ?_⟩
    · rw [link]
      exact kept
    · rw [perSigner, aesKey]
    · rw [perSigner, hmacKey]
    · rw [perSigner, resultPrefix]
    · intro pending waits
      rw [perSigner] at waits
      cases waits
    · -- The initiator puts the key into its TPM when it has derived it.
      rw [tpm, hmacKey]
      exact List.mem_insert_self
    · intro other promised
      rw [perSigner] at promised
      cases promised
      obtain ⟨base, random, signed⟩ := encrypted
      exact ⟨_, hmacKey ▸ signed⟩
    · intro other sent
      rw [link] at sent
      simp [unread.parameter] at sent
    · intro other sent
      rw [link] at sent
      simp [interest] at sent
    · intro other sent
      rw [link] at sent
      cases sent
    · simp [signerTpm, unread.signerTpm, silent]
  -- Nothing has been put on the faces yet.
  refine .agreed agreed ⟨?_, ?_, ?_, ?_, ?_, ?_⟩
  · intro other scheduled
    rw [link, silent]
    exact ⟨interest, rfl, rfl⟩
  · rw [link]
    simp [interest]
  · intro data sent
    rw [link] at sent
    cases sent
  · rw [silent, version]
    rfl
  · rw [silent]
    intro name last
    cases last
  · rw [silent]
    exact History.eachTime_nil

/-- The signer's Data reaches the initiator. -/
theorem Undisturbed.reply (lossless : libs.tlv.Lossless) (nothing : libs.tlv.encode [] = [])
    (fresh : Fresh libs start) (undisturbed : Undisturbed libs signer start recorded)
    {draw : Draw Signature}
    (taken : Recorded.next (step libs signer signingKeyName) recorded (.link (.reply draw)) =
      some after) : Undisturbed libs signer start after := by
  obtain ⟨result, stepped, same⟩ := Option.map_eq_some_iff.mp taken
  obtain ⟨data, sent, stepped⟩ := Option.bind_eq_some_iff.mp stepped
  obtain ⟨pending, waits, stepped⟩ := Option.bind_eq_some_iff.mp stepped
  split at stepped
  rotate_left
  · cases stepped
  obtain ⟨left, reacted, stepped⟩ := Option.bind_eq_some_iff.mp stepped
  cases stepped
  obtain ⟨reaction, responds, equal⟩ := atInitiator_cases reacted
  subst equal same
  obtain ⟨asked, keyName, nonce, signerPrefix, phase, -⟩ := fresh.requested
  -- What the initiator does with it depends on how far the exchange has come.
  cases undisturbed with
  | requesting unread unknown request refused =>
    have initial := unread.waiting waits
    -- A refusal has no content that the initiator could parse, so it stays without keys.
    have unreadable : parseAckReply libs.tlv libs.ssl recorded.state.perSigner.ecdh draw.salt data =
        .error .exception := parseAckReply_of_content lossless nothing (refused data sent) _ _
    rw [← initial] at phase
    cases responds with
    | acknowledged other read => cases unreadable.symm.trans read
    | overrun other failed => cases unreadable.symm.trans failed
    | unreadable other failed =>
      refine .requesting (unread.ended rfl rfl rfl (List.append_nil _)) unknown request ?_
      intro other sent
      cases sent
    | delayed other | returned other | refused other | discarded other | corrupted other =>
      cases phase.symm.trans other
  | @accepted request accepted keys requestId state unread plain answers kept same version none
      reply =>
    have initial := unread.waiting waits
    -- An acknowledgement is read with the keys that the signer has derived.
    have readable := answers.reply draw.salt draw.salt_length
    rw [← initial] at phase readable
    rw [← reply data sent] at readable
    cases responds with
    | unreadable other failed => cases readable.symm.trans failed
    | overrun other failed => cases readable.symm.trans failed
    | delayed other | returned other | refused other | discarded other | corrupted other =>
      cases phase.symm.trans other
    | @acknowledged _ para _ reply other read encrypted =>
      cases readable.symm.trans read
      exact .of_read unread plain answers kept same version none encrypted rfl rfl rfl rfl
        (List.append_nil _)
  | @agreed state agreed counted =>
    -- The initiator's half of the agreement does not depend on what the result says.
    have still : Agreed libs signer start ⟨⟨reaction.leaves recorded.state.perSigner,
        reaction.keys recorded.state.tpm, reaction.liveness, recorded.state.signerTpm,
        { recorded.state.link with reply := none }⟩, recorded.past ++ [.link (.reply draw)],
        recorded.outputs ++ []⟩ state :=
      agreed.initiator responds rfl rfl rfl rfl (fun para sent => .inl sent)
        (fun interest sent => .inl sent) (by simp) (by simp)
    refine .agreed still ?_
    cases responds with
    | acknowledged other | unreadable other | overrun other => exact absurd other (agreed.asked _)
    | delayed other names =>
      rw [agreed.aesKey] at names
      -- A delay names a next version, so there are as many names by now as polls.
      have even := counted.replied data sent names
      have unasked : recorded.state.link.interest = none := by
        cases asked : recorded.state.link.interest with
        | none => rfl
        | some interest =>
          have unanswered := (counted.asks (by simp [asked])).1
          simp [unanswered] at sent
      rw [List.append_nil]
      refine ⟨fun time scheduled => ⟨unasked, rfl, even⟩, ?_, ?_, counted.version, counted.latest,
        counted.order⟩
      · simp [unasked]
      · intro other sent
        cases sent
    | returned other | refused other | discarded other | corrupted other =>
      refine counted.quiet ⟨rfl, rfl, rfl⟩ rfl (List.append_nil _) ?_ rfl (by simp)
      intro time scheduled
      simp [Reaction.leaves, other] at scheduled

/-- The signer's Interest for the parameter packet reaches the initiator. -/
theorem Undisturbed.fetch (fresh : Fresh libs start)
    (undisturbed : Undisturbed libs signer start recorded) {draw : Draw Signature}
    (taken : Recorded.next (step libs signer signingKeyName) recorded (.link (.fetch draw)) =
      some after) : Undisturbed libs signer start after := by
  obtain ⟨result, stepped, same⟩ := Option.map_eq_some_iff.mp taken
  obtain ⟨interest, sent, stepped⟩ := Option.bind_eq_some_iff.mp stepped
  split at stepped
  rotate_left
  · cases stepped
  obtain ⟨left, reacted, stepped⟩ := Option.bind_eq_some_iff.mp stepped
  cases stepped
  obtain ⟨reaction, responds, equal⟩ := atInitiator_cases reacted
  subst equal same
  -- The remote call stays as it is, and before the acknowledgement it puts nothing on the face.
  have stays : reaction.leaves recorded.state.perSigner = recorded.state.perSigner := by
    cases responds <;> rfl
  have quiet : Unread start recorded → Unread start (⟨⟨reaction.leaves recorded.state.perSigner,
      reaction.keys recorded.state.tpm, reaction.liveness, recorded.state.signerTpm,
      { recorded.state.link with
        fetch := none, parameter := reaction.puts.find? interest.matchesData }⟩,
      recorded.past ++ [.link (.fetch draw)], recorded.outputs ++ []⟩ :
        RecordedExchange Signature) := by
    intro unread
    have nothing : reaction.puts = [] := by
      cases responds with
      | answers registered promised =>
        rcases unread.perSigner with same | same <;>
          simp [same, fresh.unpromised] at promised
      | broken | blocks => rfl
    refine ⟨?_, ?_, unread.signerTpm, (List.append_nil _).trans unread.outputs⟩
    · rw [stays]
      exact unread.perSigner
    · rw [nothing]
      rfl
  cases undisturbed with
  | requesting unread unknown request refused =>
    exact .requesting (quiet unread) unknown request refused
  | accepted unread plain answers kept same version none reply =>
    exact .accepted (quiet unread) plain answers kept same version none reply
  | @agreed state agreed counted =>
    refine .agreed (agreed.initiator responds rfl rfl rfl rfl ?_
      (fun interest sent => .inl sent) (fun data sent => sent) (by simp)) ?_
    · intro para sent
      exact .inr (List.mem_of_find?_eq_some sent)
    · refine counted.quiet ⟨rfl, rfl, rfl⟩ rfl (List.append_nil _) ?_ rfl (fun data sent => sent)
      intro time scheduled
      rw [stays] at scheduled
      exact scheduled

/-- The parameter packet reaches the signer. -/
theorem Undisturbed.parameter (undisturbed : Undisturbed libs signer start recorded)
    (taken : Recorded.next (step libs signer signingKeyName) recorded (.link .parameter) =
      some after) : Undisturbed libs signer start after := by
  obtain ⟨result, stepped, same⟩ := Option.map_eq_some_iff.mp taken
  obtain ⟨data, sent, stepped⟩ := Option.bind_eq_some_iff.mp stepped
  obtain ⟨kept, present, stepped⟩ := Option.bind_eq_some_iff.mp stepped
  split at stepped
  · cases stepped
  rename_i other received
  cases stepped
  subst same
  obtain ⟨terms, version⟩ := (BLSSigner.onParameterData_fetched received).same
  -- It is on its way only after the acknowledgement has been read.
  cases undisturbed with
  | requesting unread => simp [unread.parameter] at sent
  | accepted unread => simp [unread.parameter] at sent
  | @agreed state agreed counted =>
    cases agreed.kept.symm.trans present
    refine .agreed (agreed.atSigner terms rfl rfl rfl (.inl rfl) (.inr rfl)
      (fun data sent => .inl sent) ?_) ?_
    · rw [List.append_nil]
      exact agreed.imported
    · exact counted.quiet terms version (List.append_nil _) (fun time scheduled => scheduled) rfl
        (fun data sent => sent)

/-- The signer's Interest for the parameter packet fails. -/
theorem Undisturbed.parameterFailure (undisturbed : Undisturbed libs signer start recorded)
    (taken : Recorded.next (step libs signer signingKeyName) recorded .parameterFailure =
      some after) : Undisturbed libs signer start after := by
  obtain ⟨result, stepped, same⟩ := Option.map_eq_some_iff.mp taken
  obtain ⟨kept, present, stepped⟩ := Option.bind_eq_some_iff.mp stepped
  split at stepped
  rotate_left
  · cases stepped
  cases stepped
  subst same
  have terms : BLSSigner.SameRequest kept (BLSSigner.onParameterFailure kept) := ⟨rfl, rfl, rfl⟩
  -- The failure gives the request an error code, and leaves its keys and names.
  cases undisturbed with
  | requesting unread unknown => simp [unknown] at present
  | accepted unread plain answers stored same version none reply =>
    cases stored.symm.trans present
    exact .accepted ⟨unread.perSigner, rfl, unread.signerTpm,
      (List.append_nil _).trans unread.outputs⟩ plain answers rfl ⟨same.aesKey, same.hmacKey,
        same.resultPrefix⟩ version none reply
  | @agreed state agreed counted =>
    cases agreed.kept.symm.trans present
    refine .agreed (agreed.atSigner terms rfl rfl rfl (.inl rfl) (.inr rfl)
      (fun data sent => .inl sent) ?_) ?_
    · rw [List.append_nil]
      exact agreed.imported
    · exact counted.quiet terms rfl (List.append_nil _) (fun time scheduled => scheduled) rfl
        (fun data sent => sent)

/-- A remote call that has been scheduled has the name of a result that can be asked for. -/
theorem Undisturbed.signable (lossless : libs.tlv.Lossless) (fresh : Fresh libs start)
    (undisturbed : Undisturbed libs signer start recorded) {time : Nat}
    (waits : recorded.state.perSigner.phase = .scheduled time) :
    recorded.state.perSigner.nextResultName.signable = true := by
  obtain ⟨asked, keyName, nonce, signerPrefix, phase, -⟩ := fresh.requested
  -- Nobody waits to ask for a result before the acknowledgement has been read.
  have unscheduled : ¬ Unread start recorded := by
    intro unread
    rcases unread.perSigner with same | same <;> simp [same, phase] at waits
  cases undisturbed with
  | requesting unread => exact absurd unread unscheduled
  | accepted unread => exact absurd unread unscheduled
  | agreed agreed counted => simp [Name.signable, agreed.unnamed lossless]

/-- The scheduled result fetch of the initiator fires. -/
theorem Undisturbed.fetchResult (lossless : libs.tlv.Lossless) (fresh : Fresh libs start)
    (undisturbed : Undisturbed libs signer start recorded) {draw : Draw Signature}
    (taken : Recorded.next (step libs signer signingKeyName) recorded (.link (.fetchResult draw)) =
      some after) : Undisturbed libs signer start after := by
  obtain ⟨result, stepped, same⟩ := Option.map_eq_some_iff.mp taken
  obtain ⟨left, reacted, stepped⟩ := Option.bind_eq_some_iff.mp stepped
  cases stepped
  obtain ⟨reaction, responds, equal⟩ := atInitiator_cases reacted
  subst equal same
  obtain ⟨asked, keyName, nonce, signerPrefix, phase, -⟩ := fresh.requested
  have responded := responds
  cases responds with
  | unnameable waits unsignable =>
    rw [undisturbed.signable lossless fresh waits] at unsignable
    cases unsignable
  | @fetches time pending digest waits signable named =>
    -- Nobody waits to ask for a result before the acknowledgement has been read.
    have unscheduled : ¬ Unread start recorded := by
      intro unread
      rcases unread.perSigner with same | same <;> simp [same, phase] at waits
    cases undisturbed with
    | requesting unread => exact absurd unread unscheduled
    | accepted unread => exact absurd unread unscheduled
    | @agreed state agreed counted =>
      rw [Name.setDigest_of_plain (agreed.unnamed lossless)] at named
      obtain ⟨unasked, unanswered, even⟩ := counted.waits time waits
      have sum : polls (recorded.outputs ++ [.interest pending]) = polls recorded.outputs + 1 := by
        rw [polls, List.countP_append]
        rfl
      have names : resultNames libs state.aesKey (recorded.outputs ++ [.interest pending]) =
          resultNames libs state.aesKey recorded.outputs := by
        rw [resultNames, List.filterMap_append]
        exact List.append_nil _
      refine .agreed (agreed.initiator responded rfl rfl rfl rfl
        (fun para sent => .inl sent) ?_ (fun data sent => sent) ?_) ⟨?_, ?_, ?_, ?_, ?_, ?_⟩
      · intro interest sent
        cases sent
        exact .inr ⟨digest, named⟩
      · simp [Reaction.leaves, MultiSignPerSignerState.pending]
      · intro other scheduled
        cases scheduled
      · intro _
        exact ⟨unanswered, sum.trans (by rw [even, ← names]; rfl)⟩
      · intro data sent
        cases unanswered.symm.trans sent
      · exact counted.version.trans (by rw [← names]; rfl)
      · intro name last
        exact counted.latest name (names ▸ last)
      · refine History.eachTime_concat.mpr ⟨counted.order, fun interest same => ?_⟩
        cases same
        refine ⟨⟨digest, agreed.resultName ▸ named⟩, even, fun name last => ?_⟩
        rw [even, ← counted.version]
        exact counted.latest name last

/-- The initiator gives the signer up. -/
theorem Undisturbed.interrupted (undisturbed : Undisturbed libs signer start recorded)
    {event : RpcExchangeEvent Signature} {rpcEvent : RpcEvent} {draw : Draw Signature}
    (givesUp : ∀ reaction, Responds libs recorded.state.tpm recorded.state.perSigner draw rpcEvent
      reaction → ∃ reason, reaction = .unavailable reason)
    (stepped : step libs signer signingKeyName recorded.state event =
      (recorded.state.atInitiator libs signingKeyName rpcEvent draw
        fun _ _ => recorded.state.link).bind fun left => some (left, []))
    (taken : Recorded.next (step libs signer signingKeyName) recorded event = some after) :
    Undisturbed libs signer start after := by
  obtain ⟨result, happened, same⟩ := Option.map_eq_some_iff.mp taken
  obtain ⟨left, reacted, happened⟩ := Option.bind_eq_some_iff.mp (stepped.symm.trans happened)
  cases happened
  obtain ⟨reaction, responds, equal⟩ := atInitiator_cases reacted
  subst equal same
  obtain ⟨reason, given⟩ := givesUp reaction responds
  subst given
  -- The remote call ends, and nothing else changes.
  have silent := List.append_nil recorded.outputs
  cases undisturbed with
  | requesting unread unknown request refused =>
    exact .requesting (unread.ended rfl rfl rfl silent) unknown request refused
  | accepted unread plain answers kept terms version none reply =>
    exact .accepted (unread.ended rfl rfl rfl silent) plain answers kept terms version none reply
  | agreed agreed counted =>
    refine .agreed (agreed.initiator responds rfl rfl rfl rfl (fun para sent => .inl sent)
      (fun interest sent => .inl sent) (fun data sent => sent) (by simp)) ?_
    refine counted.quiet ⟨rfl, rfl, rfl⟩ rfl silent ?_ rfl (fun data sent => sent)
    intro time scheduled
    cases scheduled

/-- Every step of an exchange with undisturbed packets. -/
theorem Undisturbed.step (lossless : libs.tlv.Lossless) (matching : libs.ssl.Matching)
    (nothing : libs.tlv.encode [] = []) (fresh : Fresh libs start)
    (undisturbed : Undisturbed libs signer start recorded) {event : RpcExchangeEvent Signature}
    (taken : Recorded.next (RpcExchange.step libs signer signingKeyName) recorded event =
      some after) : Undisturbed libs signer start after := by
  -- One lemma for each event; the Nacks and timeouts only interrupt.
  cases event with
  | link event =>
    cases event with
    | interest draw => exact undisturbed.interest lossless matching fresh taken
    | reply draw => exact undisturbed.reply lossless nothing fresh taken
    | fetch draw => exact undisturbed.fetch fresh taken
    | parameter => exact undisturbed.parameter taken
    | fetchResult draw => exact undisturbed.fetchResult lossless fresh taken
  | nack draw =>
    refine undisturbed.interrupted (fun reaction responds => ?_) rfl taken
    cases responds with
    | nacked live => exact ⟨_, rfl⟩
  | timeout draw =>
    refine undisturbed.interrupted (fun reaction responds => ?_) rfl taken
    cases responds with
    | timedOut live => exact ⟨_, rfl⟩
  | parameterFailure => exact undisturbed.parameterFailure taken

/-- A new remote call has sent its sign request. -/
theorem fresh_ofRpc {initiatorPrefix signerKeyName : Name} {toBeSigned : Data} {draw : RpcDraw}
    (tpm signerTpm : List Buffer) :
    Fresh libs (ofRpc (Session.newRpc libs initiatorPrefix toBeSigned signingKeyName signerKeyName
      draw) tpm signerTpm) :=
  ⟨rfl, _, signingKeyName, draw.nonce, signerKeyName.getPrefix (-2), rfl, rfl⟩

/-- A new remote call is at the start of such an exchange. -/
theorem undisturbed_start (fresh : Fresh libs start)
    (sent : start.link = Link.ofRpc (fun _ => 0) start.perSigner) :
    Undisturbed libs signer start (.start start : RecordedExchange Signature) := by
  -- The new call waits for its sign request, and nothing has been delivered yet.
  obtain ⟨request, keyName, nonce, signerPrefix, phase, -⟩ := fresh.requested
  have pending : start.perSigner.pending = some request := by
    simp only [MultiSignPerSignerState.pending, phase]
  refine .requesting ⟨.inl rfl, ?_, rfl, rfl⟩ ?_ ?_ ?_ <;> rw [Recorded.start, sent]
  · rfl
  · rfl
  · intro interest same
    cases pending.symm.trans same
    exact phase
  · intro data same
    cases same

end RpcExchange

namespace Reference

/-- A new remote call to the signer `/a`, where neither TPM holds an HMAC key. -/
def newExchange : RpcExchange :=
  .ofRpc (Session.newRpc libraries initiator.initiatorPrefix toBeSigned (.ofTexts ["i", "KEY", "1"])
    firstKey (rpcDraws firstKey)) [] []

end Reference

end NdnMps
