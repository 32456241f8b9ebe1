import NdnMps.Initiator.Sessions
import NdnMps.System.Exchange
import NdnMps.System.World

/-! Where the exchange with one signer can stand, and what each event on its link makes of it. -/

namespace NdnMps

variable {SecretKey PublicKey Signature : Type}

/-- The events an exchange still needs at most: two for the parameter packet once it is asked for,
and three for every reply that the signer is processing. -/
def Link.work (link : Link) (perSigner : MultiSignPerSignerState) : Nat :=
  let parameterWork := if link.fetch.isSome then 2 else if link.parameter.isSome then 1 else 0
  match perSigner.phase with
  | .awaitingAck _ => (if link.interest.isSome then 4 else 3) + 3 * (link.polls + 1)
  | .scheduled _ => parameterWork + 3 * (link.polls + 1)
  | .awaitingResult _ =>
    if link.interest.isSome then parameterWork + 3 * link.polls + 2
    else if link.state.any SignRequestState.resultPrefixRegistered then
      parameterWork + 3 * link.polls + 4
    else parameterWork + 3 * link.polls + 1
  | .ended => 0

/-- A remote call whose sign request reaches its signer and is accepted, and whose parameter packet
has a name that an Interest can have. -/
structure MultiSignPerSignerState.Asks (libs : Libraries SecretKey PublicKey Signature)
    (signer : BLSSigner SecretKey) (toBeSigned : Data) (perSigner : MultiSignPerSignerState)
    (request : Interest) : Prop where
  phase : perSigner.phase = .awaitingAck request
  requested : ∃ keyName nonce, request = libs.keyChain.signInterest keyName nonce
    (prepareSignRequestInterest libs.tlv signer.signerPrefix perSigner.paraData.name
      (libs.ssl.ecdhPublic perSigner.ecdh))
  content : perSigner.paraData.content = libs.tlv.encode [libs.tlv.encodeData toBeSigned]
  registered : perSigner.paraPrefixRegistered = true
  unpromised : perSigner.paraDataPromise = none
  plain : signer.signerPrefix.digests = 0
  expressible : libs.tlv.Expressible perSigner.paraData.name (some signerTimeout)
  accepts : signer.verifySignRequest request = true

/-- Where the parameter packet of a request stands. -/
inductive ParameterStage (libs : Libraries SecretKey PublicKey Signature)
    (signer : BLSSigner SecretKey) (toBeSigned : Data) (perSigner : MultiSignPerSignerState)
    (link : Link) (state : SignRequestState) : Prop where
  /-- The Interest for it is on its way. -/
  | asked {fetch : Interest} {para : Data} (waits : link.fetch = some fetch)
      (unsent : link.parameter = none) (promised : perSigner.paraDataPromise = some para)
      (named : perSigner.paraData.name = para.name) (asks : fetch.name = para.name)
      (shorter : fetch.canBePrefix = true)
      (carries : CarriesParameter libs state.aesKey state.hmacKey toBeSigned para)
      (registered : perSigner.paraPrefixRegistered = true) (code : state.code = .processing)
  /-- The packet is on its way. -/
  | sent {para : Data} (fetched : link.fetch = none) (sent : link.parameter = some para)
      (carries : CarriesParameter libs state.aesKey state.hmacKey toBeSigned para)
      (code : state.code = .processing)
  /-- The signer has signed what it carries. -/
  | signed (fetched : link.fetch = none) (received : link.parameter = none)
      (code : state.code = .ok)
      (piece : state.signatureValue =
        libs.bls.ndnGenBLSSignature libs.tlv signer.secretKey toBeSigned)

/-- Where the result of a request stands. -/
inductive ResultStage (libs : Libraries SecretKey PublicKey Signature)
    (perSigner : MultiSignPerSignerState) (link : Link) (state : SignRequestState) : Prop where
  /-- The initiator waits before it asks for the result. -/
  | waiting {after : Nat} (phase : perSigner.phase = .scheduled after)
      (interest : link.interest = none) (reply : link.reply = none)
      (registered : state.resultPrefixRegistered = true)
  /-- The Interest for the result is on its way. -/
  | asked {pending : Interest} {digest : Component}
      (phase : perSigner.phase = .awaitingResult pending)
      (interest : link.interest = some pending) (reply : link.reply = none)
      (named : pending.name = perSigner.nextResultName.append digest)
      (fetched : link.fetch = none) (registered : state.resultPrefixRegistered = true)
  /-- The signer has replied that it is processing. -/
  | processing {pending : Interest} {data : Data} {after : Nat}
      (phase : perSigner.phase = .awaitingResult pending) (interest : link.interest = none)
      (reply : link.reply = some data) (answers : pending.matchesData data = true)
      (fetched : link.fetch = none) (registered : state.resultPrefixRegistered = true)
      (read : ∀ tpm, perSigner.hmacKey ∈ tpm → resultCallback libs tpm perSigner data =
        .proceed { perSigner with phase := .scheduled after } tpm [])
  /-- The signer has returned its signature. -/
  | returned {pending : Interest} {data : Data}
      (phase : perSigner.phase = .awaitingResult pending) (interest : link.interest = none)
      (reply : link.reply = some data) (answers : pending.matchesData data = true)
      (fetched : link.fetch = none) (registered : state.resultPrefixRegistered = false)
      (code : state.code = .ok)
      (read : ∀ tpm, perSigner.hmacKey ∈ tpm → resultCallback libs tpm perSigner data =
        .collect state.signatureValue)

/-- Where the exchange with a signer stands, given the HMAC keys in the TPM. -/
inductive Stage (libs : Libraries SecretKey PublicKey Signature) (signer : BLSSigner SecretKey)
    (toBeSigned : Data) (tpm : List Buffer) (perSigner : MultiSignPerSignerState) (link : Link) :
    Prop where
  /-- The sign request is on its way. -/
  | requested {request : Interest} (asks : perSigner.Asks libs signer toBeSigned request)
      (interest : link.interest = some request) (reply : link.reply = none)
      (fetch : link.fetch = none) (parameter : link.parameter = none)
      (state : link.state = none)
  /-- The acknowledgement is on its way, and so is the Interest for the parameter packet. -/
  | acknowledged {request fetchInterest : Interest} {accepted : BLSSigner.Accepted}
      {keys : SessionKeys} {requestId : Nat} (asks : perSigner.Asks libs signer toBeSigned request)
      (answers : accepted.Answers libs signer.signerPrefix request perSigner.paraData.name
        perSigner.ecdh keys requestId)
      (interest : link.interest = none) (reply : link.reply = some accepted.ack)
      (sent : accepted.fetch = .ok fetchInterest) (fetch : link.fetch = some fetchInterest)
      (parameter : link.parameter = none) (state : link.state = some accepted.state)
  /-- Both parties have the same keys. -/
  | exchanging {state : SignRequestState} {requestId : Nat} (kept : link.state = some state)
      (aesKey : state.aesKey = perSigner.aesKey) (hmacKey : state.hmacKey = perSigner.hmacKey)
      (held : perSigner.hmacKey ∈ tpm)
      (resultPrefix : state.resultPrefix =
        resultPrefixOf libs.tlv signer.signerPrefix requestId)
      (resultName : perSigner.nextResultName =
        state.resultPrefix.append (libs.tlv.fromVersion 0))
      (plain : signer.signerPrefix.digests = 0)
      (parameter : ParameterStage libs signer toBeSigned perSigner link state)
      (result : ResultStage libs perSigner link state)
  /-- The signature has been delivered. -/
  | delivered (phase : perSigner.phase = .ended) (interest : link.interest = none)
      (fetch : link.fetch = none) (parameter : link.parameter = none)

/-- Once the parameter packet has been asked for, it stands where it stood as long as its own part
of the link and of the signer's state is the same. -/
theorem ParameterStage.transport {libs : Libraries SecretKey PublicKey Signature}
    {signer : BLSSigner SecretKey} {toBeSigned : Data}
    {perSigner other : MultiSignPerSignerState} {link further : Link}
    {state later : SignRequestState}
    (stage : ParameterStage libs signer toBeSigned perSigner link state)
    (fetched : link.fetch = none) (sameFetch : further.fetch = link.fetch)
    (sameParameter : further.parameter = link.parameter) (aesKey : later.aesKey = state.aesKey)
    (hmacKey : later.hmacKey = state.hmacKey) (sameCode : later.code = state.code)
    (signatureValue : later.signatureValue = state.signatureValue) :
    ParameterStage libs signer toBeSigned other further later := by
  -- The stage of the parameter packet speaks of nothing else.
  cases stage with
  | asked waits unsent promised named asks shorter carries registered code =>
    simp [fetched] at waits
  | sent fetched sent carries code =>
    refine .sent (sameFetch.trans fetched) (sameParameter.trans sent) ?_ (sameCode.trans code)
    rw [aesKey, hmacKey]
    exact carries
  | signed fetched received code piece =>
    exact .signed (sameFetch.trans fetched) (sameParameter.trans received) (sameCode.trans code)
      (signatureValue.trans piece)

/-- An exchange is not affected by further keys in the TPM. -/
theorem Stage.mono {libs : Libraries SecretKey PublicKey Signature}
    {signer : BLSSigner SecretKey} {toBeSigned : Data} {tpm more : List Buffer}
    {perSigner : MultiSignPerSignerState} {link : Link}
    (stage : Stage libs signer toBeSigned tpm perSigner link) (subset : tpm ⊆ more) :
    Stage libs signer toBeSigned more perSigner link := by
  -- Only the exchange under session keys speaks of the TPM, and it needs a key to be there.
  cases stage with
  | requested asks interest reply fetch parameter state =>
    exact .requested asks interest reply fetch parameter state
  | acknowledged asks answers interest reply sent fetch parameter state =>
    exact .acknowledged asks answers interest reply sent fetch parameter state
  | exchanging kept aesKey hmacKey held resultPrefix resultName plain parameter result =>
    exact .exchanging kept aesKey hmacKey (subset held) resultPrefix resultName plain parameter
      result
  | delivered phase interest fetch parameter => exact .delivered phase interest fetch parameter

/-- What is left of a remote call by a reaction that does not start others. -/
def Reaction.remaining (perSigner : MultiSignPerSignerState) : Reaction → MultiSignPerSignerState
  | .proceed other _ _ => other
  | _ => { perSigner with phase := .ended }

/-- The remote call goes on, or it hands a given signature over. -/
def Reaction.Genuine (piece : Buffer) : Reaction → Prop
  | .proceed _ _ _ => True
  | .collect other => other = piece
  | _ => False

/-- A genuine reaction changes its own remote call only. -/
theorem Session.Move.rpcs_eq {libs : Libraries SecretKey PublicKey Signature}
    {initiatorPrefix : Name} {container after : MultipartySchemaContainer PublicKey}
    {session renewed : Session} {index : Nat} {perSigner : MultiSignPerSignerState}
    {reaction : Reaction} {piece : Buffer}
    (move : session.Move libs initiatorPrefix container index perSigner reaction after renewed)
    (genuine : reaction.Genuine piece) :
    renewed.rpcs = session.rpcs.set index (reaction.remaining perSigner) := by
  -- Signers are asked anew only after a loss.
  cases move with
  | abandoned => exact genuine.elim
  | proceeded other tpm put => rfl
  | collected missing => rfl
  | finished enough aggregated signed announced => rfl
  | failed needed => exact genuine.elim
  | replaced draws renews => exact genuine.elim

/-- An event of a remote call lets the call react. -/
theorem MPSInitiator.step_rpc {libs : Libraries SecretKey PublicKey Signature}
    {initiator : MPSInitiator PublicKey} {sessionIndex index : Nat} {session : Session}
    {perSigner : MultiSignPerSignerState} {event : RpcEvent} {draw : Draw Signature}
    {reaction : Reaction} (running : initiator.liveness = .running)
    (located : initiator.sessions[sessionIndex]? = some session)
    (found : session.rpcs[index]? = some perSigner)
    (reacted : react libs initiator.tpm session.global.signingKeyName perSigner draw event =
      some reaction) :
    initiator.step libs (.rpc sessionIndex index event draw) =
      some (initiator.act libs sessionIndex index session perSigner draw reaction) := by
  simp only [step, running, ne_eq, not_true_eq_false, if_false, located, found, reacted,
    Bind.bind, Option.bind_some]

namespace World

variable {libs : Libraries SecretKey PublicKey Signature}
variable {signerOf : Name → BLSSigner SecretKey} {polls : Name → Nat}

/-- Where the initiator starts no remote call, only the link of the event changes. -/
theorem atInitiator_eq {world : World PublicKey} {session renewed : Session} {index : Nat}
    {perSigner other : MultiSignPerSignerState} {event : RpcEvent} {draw : Draw Signature}
    {after : MPSInitiator PublicKey} {put : List Data}
    (located : world.initiator.sessions[world.session]? = some session)
    (found : session.rpcs[index]? = some perSigner)
    (aligned : world.links.length = session.rpcs.length)
    (stepped : world.initiator.step libs (.rpc world.session index event draw) =
      some (after, put))
    (sessions : after.sessions = world.initiator.sessions.set world.session renewed)
    (rpcs : renewed.rpcs = session.rpcs.set index other)
    (renew : MultiSignPerSignerState → List Data → Link) :
    world.atInitiator libs polls index event draw renew = some { world with
      initiator := after, links := world.links.set index (renew other put) } := by
  have inside := (List.getElem?_eq_some_iff.mp located).1
  have present := (List.getElem?_eq_some_iff.mp found).1
  have goesOn : after.sessions[world.session]? = some renewed := by
    rw [sessions]
    exact List.getElem?_set_self inside
  have remains : renewed.rpcs[index]? = some other := by
    rw [rpcs]
    exact List.getElem?_set_self present
  -- No remote call is behind the old ones, so no link is added.
  have none : renewed.rpcs.drop world.links.length = [] := by
    rw [List.drop_eq_nil_iff, rpcs, List.length_set, aligned]
  simp only [atInitiator, stepped, Bind.bind, Option.bind_some, goesOn, remains, none,
    List.map_nil, List.append_nil]

/-- A remote call that goes on is all that an event at the initiator changes. -/
theorem atInitiator_proceed {world : World PublicKey} {session : Session} {index : Nat}
    {perSigner other : MultiSignPerSignerState} {event : RpcEvent} {draw : Draw Signature}
    {tpm : List Buffer} {put : List Data}
    (running : world.initiator.liveness = .running)
    (located : world.initiator.sessions[world.session]? = some session)
    (found : session.rpcs[index]? = some perSigner)
    (aligned : world.links.length = session.rpcs.length)
    (reacted : react libs world.initiator.tpm session.global.signingKeyName perSigner draw event =
      some (.proceed other tpm put)) (renew : MultiSignPerSignerState → List Data → Link) :
    world.atInitiator libs polls index event draw renew = some { world with
      initiator := { world.initiator.setSession world.session (session.setRpc index other) with
        tpm }
      links := world.links.set index (renew other put) } :=
  atInitiator_eq located found aligned (MPSInitiator.step_rpc running located found reacted) rfl
    rfl renew

/-- A signature handed over moves the session, and no remote call is added. -/
theorem atInitiator_collect {world : World PublicKey} {session : Session} {index : Nat}
    {perSigner : MultiSignPerSignerState} {event : RpcEvent} {draw : Draw Signature}
    {piece : Buffer} (running : world.initiator.liveness = .running)
    (located : world.initiator.sessions[world.session]? = some session)
    (found : session.rpcs[index]? = some perSigner)
    (aligned : world.links.length = session.rpcs.length)
    (reacted : react libs world.initiator.tpm session.global.signingKeyName perSigner draw event =
      some (.collect piece)) (renew : MultiSignPerSignerState → List Data → Link) :
    ∃ renewed, session.Move libs world.initiator.initiatorPrefix world.initiator.schemaContainer
        index perSigner (.collect piece) world.initiator.schemaContainer renewed ∧
      world.atInitiator libs polls index event draw renew = some { world with
        initiator := world.initiator.setSession world.session renewed
        links := world.links.set index (renew { perSigner with phase := .ended } []) } := by
  obtain ⟨renewed, collected, move⟩ := Session.collect_move libs world.initiator.initiatorPrefix
    world.initiator.schemaContainer session index perSigner draw.aggSig draw.tempSig draw.nonce
    piece
  have acted : world.initiator.act libs world.session index session perSigner draw
      (.collect piece) = (world.initiator.setSession world.session renewed, []) := by
    rw [Session.closeRpc] at collected
    simp only [MPSInitiator.act, collected]
  -- Storing the signature moves the session and leaves its other remote calls.
  have stepped := MPSInitiator.step_rpc running located found reacted
  rw [acted] at stepped
  have genuine : (Reaction.collect piece).Genuine piece := rfl
  exact ⟨renewed, move, atInitiator_eq located found aligned stepped rfl (move.rpcs_eq genuine)
    renew⟩

end World

end NdnMps
