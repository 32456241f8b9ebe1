import NdnMps.Initiator.RemoteCalls
import NdnMps.Signer.Approval
import NdnMps.Signer.Refusal
import NdnMps.System.Turns

/-! One remote call between an initiator and a signer that have a key chain each. -/

namespace NdnMps

variable {SecretKey PublicKey Signature : Type}

namespace Reaction

/-- The Data that a reaction puts on the face. -/
def puts : Reaction → List Data
  | .proceed _ _ put => put
  | .abandon _ | .collect _ | .unavailable _ | .stop _ => []

/-- The HMAC keys in the TPM after a reaction. -/
def keys (tpm : List Buffer) : Reaction → List Buffer
  | .proceed _ tpm _ => tpm
  | .abandon _ | .collect _ | .unavailable _ | .stop _ => tpm

/-- Whether the thread of a running initiator goes on after a reaction. -/
def liveness : Reaction → Liveness
  | .stop liveness => liveness
  | .abandon _ | .collect _ | .unavailable _ | .proceed _ _ _ => .running

end Reaction

/-- A remote call of an initiator, the TPMs of the initiator and of the signer, and the packets
between the two parties. -/
structure RpcExchange where
  perSigner : MultiSignPerSignerState
  tpm : List Buffer
  liveness : Liveness
  signerTpm : List Buffer
  link : Link

/-- What may happen to a remote call and to the signer that it asks. -/
inductive RpcExchangeEvent (Signature : Type) where
  /-- A packet arrives, or the scheduled result fetch fires. -/
  | link (event : LinkEvent Signature)
  /-- A NACK of the initiator's Interest. -/
  | nack (draw : Draw Signature)
  | timeout (draw : Draw Signature)
  /-- A NACK or a timeout of the signer's Interest, whose packets are lost. -/
  | parameterFailure

/-- What is put on the faces for a result. -/
inductive ResultPacket where
  /-- The initiator asks for it. -/
  | interest (interest : Interest)
  /-- The signer replies. -/
  | data (data : Data)

/-- The name of a packet. -/
def ResultPacket.name : ResultPacket → Name
  | .interest asks => asks.name
  | .data reply => reply.name

/-- A run of a remote call with what has happened in it. -/
abbrev RecordedExchange (Signature : Type) :=
  Recorded RpcExchange (RpcExchangeEvent Signature) ResultPacket

namespace RpcExchange

/-- The sign request of a new remote call is on its way. -/
def ofRpc (perSigner : MultiSignPerSignerState) (tpm signerTpm : List Buffer) : RpcExchange :=
  ⟨perSigner, tpm, .running, signerTpm, Link.ofRpc (fun _ => 0) perSigner⟩

variable (libs : Libraries SecretKey PublicKey Signature) (signer : BLSSigner SecretKey)
variable (signingKeyName : Name)

/-- The exchange after an event of the remote call, with a link renewed by what is left of the
remote call and what is put on the face. -/
def atInitiator (exchange : RpcExchange) (event : RpcEvent) (draw : Draw Signature)
    (renew : MultiSignPerSignerState → List Data → Link) : Option RpcExchange :=
  if exchange.liveness ≠ .running then none
  else
    (react libs exchange.tpm signingKeyName exchange.perSigner draw event).map fun reaction =>
      let perSigner := reaction.leaves exchange.perSigner
      { exchange with
        perSigner, tpm := reaction.keys exchange.tpm, liveness := reaction.liveness
        link := renew perSigner reaction.puts }

/-- One step of the exchange with the packets that are put on the faces for the result. -/
def step (exchange : RpcExchange) :
    RpcExchangeEvent Signature → Option (RpcExchange × List ResultPacket)
  | .link (.interest draw) => do
    let interest ← exchange.link.interest
    let (link, signerTpm) ← signer.onInterest libs exchange.signerTpm exchange.link interest draw
    -- The reply to a sign request is an acknowledgement, and any other one is a result.
    let put := if signer.invocationPrefix.isPrefixOf interest.name then []
      else link.reply.toList.map .data
    some ({ exchange with link, signerTpm }, put)
  | .link (.reply draw) => do
    let data ← exchange.link.reply
    let pending ← exchange.perSigner.pending
    -- The face passes on only Data that the pending Interest asks for.
    if pending.matchesData data then
      let after ← exchange.atInitiator libs signingKeyName (.data data) draw fun _ _ =>
        { exchange.link with reply := none }
      some (after, [])
    else none
  | .link (.fetch draw) => do
    let interest ← exchange.link.fetch
    if exchange.perSigner.paraData.name.isPrefixOf interest.name then
      let after ← exchange.atInitiator libs signingKeyName .paraInterest draw fun _ put =>
        { exchange.link with fetch := none, parameter := put.find? interest.matchesData }
      some (after, [])
    else none
  | .link .parameter => do
    let data ← exchange.link.parameter
    let state ← exchange.link.state
    match signer.onParameterData libs exchange.signerTpm state data with
    | .error _ => none
    | .ok state =>
      some ({ exchange with
        link := { exchange.link with parameter := none, state := some state } }, [])
  | .link (.fetchResult draw) => do
    let after ← exchange.atInitiator libs signingKeyName .fetchResult draw fun perSigner _ =>
      { exchange.link with interest := perSigner.pending }
    some (after, after.perSigner.pending.toList.map .interest)
  | .nack draw => do
    let after ← exchange.atInitiator libs signingKeyName .nack draw fun _ _ => exchange.link
    some (after, [])
  | .timeout draw => do
    let after ← exchange.atInitiator libs signingKeyName .timeout draw fun _ _ => exchange.link
    some (after, [])
  | .parameterFailure => do
    let state ← exchange.link.state
    if exchange.link.fetch.isSome || exchange.link.parameter.isSome then
      some ({ exchange with link := { exchange.link with
        fetch := none, parameter := none
        state := some (BLSSigner.onParameterFailure state) } }, [])
    else none

/-- A step of the initiator's side comes from a reaction of the remote call. -/
theorem atInitiator_cases {libs : Libraries SecretKey PublicKey Signature} {signingKeyName : Name}
    {exchange after : RpcExchange} {event : RpcEvent} {draw : Draw Signature}
    {renew : MultiSignPerSignerState → List Data → Link}
    (taken : exchange.atInitiator libs signingKeyName event draw renew = some after) :
    ∃ reaction, Responds libs exchange.tpm exchange.perSigner draw event reaction ∧
      after = ⟨reaction.leaves exchange.perSigner, reaction.keys exchange.tpm, reaction.liveness,
        exchange.signerTpm, renew (reaction.leaves exchange.perSigner) reaction.puts⟩ := by
  -- A thread that does not run handles nothing.
  unfold atInitiator at taken
  split at taken
  · cases taken
  · obtain ⟨reaction, reacted, same⟩ := Option.map_eq_some_iff.mp taken
    exact ⟨reaction, react_responds reacted, same.symm⟩

end RpcExchange

/-- A packet signed with an HMAC key. -/
def HmacSigned (libs : Libraries SecretKey PublicKey Signature) (hmacKey : Buffer) (data : Data) :
    Prop :=
  ∃ unsigned, data = libs.keyChain.signWithHmac hmacKey unsigned

/-- A reply to a result Interest of a request, whatever has become of the request. -/
def RepliesTo (libs : Libraries SecretKey PublicKey Signature) (state : SignRequestState)
    (data : Data) : Prop :=
  ∃ interestName other random, BLSSigner.SameRequest state other ∧
    data = libs.keyChain.signWithHmac state.hmacKey
      (generateResultData libs.tlv libs.ssl interestName other random).1

/-- The names of the next result in the signer's replies, in their order. -/
def resultNames (libs : Libraries SecretKey PublicKey Signature) (aesKey : Buffer)
    (outputs : List ResultPacket) : List Name :=
  outputs.filterMap fun
    | .interest _ => none
    | .data data => nextNameOf libs.tlv libs.ssl aesKey data

/-- How often the initiator has asked for the result. -/
def polls (outputs : List ResultPacket) : Nat :=
  outputs.countP fun
    | .interest _ => true
    | .data _ => false

/-- A poll asks for the first version of the result, and every poll before it has been answered
with the name of the next version. -/
def AsksForFirst (libs : Libraries SecretKey PublicKey Signature) (state : SignRequestState)
    (before : List ResultPacket) (packet : ResultPacket) : Prop :=
  ∀ interest, packet = .interest interest →
    (∃ digest, interest.name = (state.resultPrefix.append (libs.tlv.fromVersion 0)).append
      ⟨Component.parametersDigestType, digest⟩) ∧
    polls before = (resultNames libs state.aesKey before).length ∧
    ∀ name, (resultNames libs state.aesKey before).getLast? = some name →
      name = state.resultPrefix.append (libs.tlv.fromVersion (polls before % 2 ^ 64))

/-- What a poll asks for depends only on what never changes about the request. -/
theorem BLSSigner.SameRequest.asksForFirst_eq {libs : Libraries SecretKey PublicKey Signature}
    {state other : SignRequestState} (same : BLSSigner.SameRequest state other) :
    AsksForFirst libs other = AsksForFirst libs state := by
  unfold AsksForFirst
  rw [same.aesKey, same.resultPrefix]

/-- A request that reaches a signer has one digest in its name, and so none is in the prefix under
which the signer is reached. -/
theorem BLSSigner.plain_of_request {libs : Libraries SecretKey PublicKey Signature}
    (signer : BLSSigner SecretKey) {keyName : Name} {nonce : Buffer} {interest request : Interest}
    (requested : request = libs.keyChain.signInterest keyName nonce interest)
    (invoked : signer.invocationPrefix.isPrefixOf request.name = true)
    (single : request.name.digests ≤ 1) : signer.signerPrefix.digests = 0 := by
  subst requested
  have sign : Component.isParametersDigest (.ofString "sign") = false := by decide +kernel
  have ends : signer.invocationPrefix.endsWithDigest = false := by
    rw [BLSSigner.invocationPrefix, Name.endsWithDigest_append, sign]
  -- The digest of the parameters is the last component of the request's name.
  have none : signer.invocationPrefix.digests = 0 :=
    Name.digests_of_isPrefixOf invoked ends rfl single
  rw [BLSSigner.invocationPrefix, Name.digests_append, Name.digests_append] at none
  omega

namespace RpcExchange

section Stages

variable (libs : Libraries SecretKey PublicKey Signature) (signer : BLSSigner SecretKey)
variable (start : RpcExchange) (recorded : RecordedExchange Signature)

/-- The remote call has not read an acknowledgement. -/
structure Unread : Prop where
  perSigner : recorded.state.perSigner = start.perSigner ∨
    recorded.state.perSigner = { start.perSigner with phase := .ended }
  parameter : recorded.state.link.parameter = none
  signerTpm : recorded.state.signerTpm = start.signerTpm
  outputs : recorded.outputs = []

/-- Both parties have the same keys, and the packets between them are signed with them. -/
structure Agreed (state : SignRequestState) : Prop where
  kept : recorded.state.link.state = some state
  plain : signer.signerPrefix.digests = 0
  resultPrefix : ∃ requestId,
    state.resultPrefix = resultPrefixOf libs.tlv signer.signerPrefix requestId
  aesKey : recorded.state.perSigner.aesKey = state.aesKey
  hmacKey : recorded.state.perSigner.hmacKey = state.hmacKey
  resultName : recorded.state.perSigner.nextResultName =
    state.resultPrefix.append (libs.tlv.fromVersion 0)
  asked : ∀ pending, recorded.state.perSigner.phase ≠ .awaitingAck pending
  held : state.hmacKey ∈ recorded.state.tpm
  promised : ∀ para, recorded.state.perSigner.paraDataPromise = some para →
    HmacSigned libs state.hmacKey para
  parameter : ∀ para, recorded.state.link.parameter = some para →
    HmacSigned libs state.hmacKey para
  interest : ∀ interest, recorded.state.link.interest = some interest → ∃ digest,
    interest.name = recorded.state.perSigner.nextResultName.append
      ⟨Component.parametersDigestType, digest⟩
  reply : ∀ data, recorded.state.link.reply = some data → RepliesTo libs state data
  /-- The signer's TPM gets the HMAC key with the first reply. -/
  imported : state.hmacKey ∈ recorded.state.signerTpm ↔
    state.hmacKey ∈ start.signerTpm ∨ ∃ data, .data data ∈ recorded.outputs

/-- How the polls and the names in the replies to them go together. -/
structure Counted (state : SignRequestState) : Prop where
  /-- While the initiator waits to ask again, every reply has named the next result. -/
  waits : ∀ after, recorded.state.perSigner.phase = .scheduled after →
    recorded.state.link.interest = none ∧ recorded.state.link.reply = none ∧
      polls recorded.outputs = (resultNames libs state.aesKey recorded.outputs).length
  asks : recorded.state.link.interest.isSome = true → recorded.state.link.reply = none ∧
    polls recorded.outputs = (resultNames libs state.aesKey recorded.outputs).length + 1
  replied : ∀ data, recorded.state.link.reply = some data →
    (nextNameOf libs.tlv libs.ssl state.aesKey data).isSome = true →
      polls recorded.outputs = (resultNames libs state.aesKey recorded.outputs).length
  version : state.version =
    (resultNames libs state.aesKey recorded.outputs).length % 2 ^ 64
  latest : ∀ name, (resultNames libs state.aesKey recorded.outputs).getLast? = some name →
    name = state.resultPrefix.append (libs.tlv.fromVersion state.version)
  order : History.EachTime (AsksForFirst libs state) recorded.outputs

/-- How far an exchange with undisturbed packets has come. -/
inductive Undisturbed : Prop where
  /-- The sign request is on its way, or it has been refused. -/
  | requesting (unread : Unread start recorded) (unknown : recorded.state.link.state = none)
      (interest : ∀ interest, recorded.state.link.interest = some interest →
        start.perSigner.phase = .awaitingAck interest)
      (refused : ∀ data, recorded.state.link.reply = some data → data.content = [])
  /-- The signer has accepted the request, and its acknowledgement has not been read. -/
  | accepted {request : Interest} {accepted : BLSSigner.Accepted} {keys : SessionKeys}
      {requestId : Nat} {state : SignRequestState} (unread : Unread start recorded)
      (plain : signer.signerPrefix.digests = 0)
      (answers : accepted.Answers libs signer.signerPrefix request
        start.perSigner.paraData.name start.perSigner.ecdh keys requestId)
      (kept : recorded.state.link.state = some state)
      (same : BLSSigner.SameRequest accepted.state state) (version : state.version = 0)
      (interest : recorded.state.link.interest = none)
      (reply : ∀ data, recorded.state.link.reply = some data → data = accepted.ack)
  /-- The initiator has read it. -/
  | agreed {state : SignRequestState} (agreed : Agreed libs signer start recorded state)
      (counted : Counted libs recorded state)

end Stages

section Lemmas

variable {libs : Libraries SecretKey PublicKey Signature} {signer : BLSSigner SecretKey}
variable {start : RpcExchange} {recorded after : RecordedExchange Signature}
variable {state other : SignRequestState}

/-- A new remote call waits for the acknowledgement of the sign request that it has sent. -/
structure Fresh (libs : Libraries SecretKey PublicKey Signature) (start : RpcExchange) : Prop where
  unpromised : start.perSigner.paraDataPromise = none
  requested : ∃ request keyName nonce signerPrefix,
    start.perSigner.phase = .awaitingAck request ∧
      request = libs.keyChain.signInterest keyName nonce
        (prepareSignRequestInterest libs.tlv signerPrefix start.perSigner.paraData.name
          (libs.ssl.ecdhPublic start.perSigner.ecdh))

/-- An acknowledgement that carries nothing is not read, where nothing is encoded as nothing. -/
theorem parseAckReply_of_content {tlv : Tlv} {ssl : Openssl} (lossless : tlv.Lossless)
    (nothing : tlv.encode [] = []) {data : Data} (content : data.content = [])
    (ecdh array : Buffer) : parseAckReply tlv ssl ecdh array data = .error .exception := by
  -- No octets are no elements, so the first one that is looked for is missing.
  have empty : tlv.parse [] = some [] := by
    rw [← nothing]
    exact lossless.parse_encode []
  simp [parseAckReply, Data.getContent, content, Tlv.elements, empty, getBlock, Bind.bind,
    Except.bind]

/-- A signer refuses the sign request that reaches it or acknowledges it. -/
theorem onInterest_request_cases (lossless : libs.tlv.Lossless) (matching : libs.ssl.Matching)
    {keyName signerPrefix paraDataName : Name} {nonce ecdh : Buffer} {request : Interest}
    (requested : request = libs.keyChain.signInterest keyName nonce
      (prepareSignRequestInterest libs.tlv signerPrefix paraDataName (libs.ssl.ecdhPublic ecdh)))
    {link further : Link} (unknown : link.state = none) {tpm more : List Buffer}
    {draw : RequestDraw}
    (handled : signer.onInterest libs tpm link request draw = some (further, more)) :
    more = tpm ∧ signer.invocationPrefix.isPrefixOf request.name = true ∧
      signer.signerPrefix.digests = 0 ∧
      ((further.state = none ∧ further.interest = none ∧ further.parameter = link.parameter ∧
          ∀ data, further.reply = some data → data.content = []) ∨
        ∃ (accepted : BLSSigner.Accepted) (keys : SessionKeys),
          accepted.Answers libs signer.signerPrefix request paraDataName ecdh keys
            draw.requestId ∧ accepted.state.version = 0 ∧ further.state = some accepted.state ∧
          further.interest = none ∧ further.parameter = link.parameter ∧
          further.reply = some accepted.ack) := by
  unfold BLSSigner.onInterest at handled
  split at handled
  · cases handled
  rename_i single
  cases invoked : signer.invocationPrefix.isPrefixOf request.name with
  | false => simp [invoked, unknown] at handled
  | true =>
    simp only [invoked, if_true] at handled
    have plain := signer.plain_of_request requested invoked (Nat.not_lt.mp single)
    -- The policy of the signer refuses, or the request is well formed and accepted.
    cases verified : signer.verifySignRequest request with
    | false =>
      have refused : signer.onSignRequest libs request draw =
          .ok (.inl (signer.refuse libs request)) := by
        simp [BLSSigner.onSignRequest, verified]
      simp only [refused, Option.some.injEq, Prod.mk.injEq] at handled
      obtain ⟨further, tpm⟩ := handled
      subst further
      refine ⟨tpm.symm, rfl, plain, .inl ⟨unknown, rfl, rfl, fun data sent => ?_⟩⟩
      rw [← Option.some.inj sent]
      exact BLSSigner.content_refuse signer request
    | true =>
      obtain ⟨accepted, keys, answered, answers⟩ := signer.exists_accepted lossless matching
        requested verified draw
      simp only [answered] at handled
      split at handled
      · cases handled
      rw [Option.some.injEq, Prod.mk.injEq] at handled
      obtain ⟨further, tpm⟩ := handled
      subst further
      obtain ⟨-, -, -, version⟩ := BLSSigner.onSignRequest_accepted answered
      exact ⟨tpm.symm, rfl, plain, .inr ⟨accepted, keys, answers, version, rfl, rfl, rfl, rfl⟩⟩

/-- A signer answers a result Interest, if it does not ignore it. -/
theorem onInterest_result_cases {link further : Link} {tpm more : List Buffer}
    {interest : Interest} {draw : RequestDraw} {requestId : Nat} {version digest : Component}
    (kept : link.state = some state)
    (resultPrefix : state.resultPrefix = resultPrefixOf libs.tlv signer.signerPrefix requestId)
    (named : interest.name = (state.resultPrefix.append version).append digest)
    (handled : signer.onInterest libs tpm link interest draw = some (further, more)) :
    more = tpm.insert state.hmacKey ∧ signer.invocationPrefix.isPrefixOf interest.name = false ∧
      further.state =
        some (generateResultData libs.tlv libs.ssl interest.name state draw.random).2 ∧
      further.interest = none ∧ further.parameter = link.parameter ∧
      further.reply = some (libs.keyChain.signWithHmac state.hmacKey
        (generateResultData libs.tlv libs.ssl interest.name state draw.random).1) := by
  -- A result name is not below the prefix for invocations.
  have other : signer.invocationPrefix.isPrefixOf interest.name = false := by
    rw [named, resultPrefix]
    exact World.invocationPrefix_not_isPrefixOf libs.tlv signer requestId version digest
  simp only [BLSSigner.onInterest, other, Bool.false_eq_true, if_false, kept, Bind.bind,
    Option.bind_some, Option.ite_none_left_eq_some] at handled
  obtain ⟨-, handled⟩ := handled
  split at handled
  · obtain ⟨answered, answer, handled⟩ := Option.bind_eq_some_iff.mp handled
    rw [Option.some.injEq, Prod.mk.injEq] at handled
    obtain ⟨further, tpm⟩ := handled
    have left := BLSSigner.onResultInterest_eq answer
    subst further tpm left
    exact ⟨rfl, other, rfl, rfl, rfl, rfl⟩
  · cases handled

/-- Once an acknowledgement has been read, a reaction changes neither the terms of the remote call
nor the TPM, and it puts nothing but the promise on the face. -/
theorem later_of_responds {tpm : List Buffer} {perSigner : MultiSignPerSignerState}
    {draw : Draw Signature} {event : RpcEvent} {reaction : Reaction}
    (responds : Responds libs tpm perSigner draw event reaction)
    (asked : ∀ pending, perSigner.phase ≠ .awaitingAck pending) :
    SameTerms perSigner (reaction.leaves perSigner) ∧ reaction.keys tpm = tpm ∧
      (∀ pending, (reaction.leaves perSigner).phase ≠ .awaitingAck pending) ∧
      ∀ data ∈ reaction.puts, perSigner.paraDataPromise = some data := by
  -- Keys and names are set by an acknowledgement only, and none is awaited any more.
  have terms : SameTerms perSigner (reaction.leaves perSigner) := by
    rcases responds.terms with ⟨ack, pending, reply, data, waits, read⟩ | same
    · exact absurd waits (asked pending)
    · exact same
  refine ⟨terms, ?_⟩
  cases responds with
  | acknowledged waits | unreadable waits | overrun waits => exact absurd waits (asked _)
  | answers registered promised => exact ⟨rfl, asked, by simp [Reaction.puts, promised]⟩
  | corrupted | broken | blocks => exact ⟨rfl, asked, by simp [Reaction.puts]⟩
  | _ => exact ⟨rfl, by simp [Reaction.leaves], by simp [Reaction.puts]⟩

/-- What happens at the initiator leaves both parties agreed. -/
theorem Agreed.initiator (agreed : Agreed libs signer start recorded state)
    {draw : Draw Signature} {event : RpcEvent} {reaction : Reaction}
    (responds : Responds libs recorded.state.tpm recorded.state.perSigner draw event reaction)
    (perSigner : after.state.perSigner = reaction.leaves recorded.state.perSigner)
    (tpm : after.state.tpm = reaction.keys recorded.state.tpm)
    (signerTpm : after.state.signerTpm = recorded.state.signerTpm)
    (kept : after.state.link.state = recorded.state.link.state)
    (parameter : ∀ para, after.state.link.parameter = some para →
      recorded.state.link.parameter = some para ∨ para ∈ reaction.puts)
    (interest : ∀ interest, after.state.link.interest = some interest →
      recorded.state.link.interest = some interest ∨ ∃ digest, interest.name =
        recorded.state.perSigner.nextResultName.append ⟨Component.parametersDigestType, digest⟩)
    (reply : ∀ data, after.state.link.reply = some data →
      recorded.state.link.reply = some data)
    (outputs : ∀ data, .data data ∈ after.outputs ↔ .data data ∈ recorded.outputs) :
    Agreed libs signer start after state := by
  -- The remote call keeps its terms, so the packets are signed as before.
  obtain ⟨terms, keys, asked, puts⟩ := later_of_responds responds agreed.asked
  rw [← perSigner] at terms asked
  refine ⟨kept.trans agreed.kept, agreed.plain, agreed.resultPrefix,
    terms.aesKey.trans agreed.aesKey, terms.hmacKey.trans agreed.hmacKey,
    terms.nextResultName.trans agreed.resultName, asked, ?_, ?_, ?_, ?_, ?_, ?_⟩
  · rw [tpm, keys]
    exact agreed.held
  · intro para promised
    exact agreed.promised para (terms.paraDataPromise.symm.trans promised)
  · intro para sent
    rcases parameter para sent with before | now
    · exact agreed.parameter para before
    · exact agreed.promised para (puts para now)
  · intro pending sent
    rw [terms.nextResultName]
    rcases interest pending sent with before | now
    · exact agreed.interest pending before
    · exact now
  · intro data sent
    exact agreed.reply data (reply data sent)
  · rw [signerTpm, agreed.imported]
    simp only [outputs]

/-- What happens at the signer leaves both parties agreed. -/
theorem Agreed.atSigner (agreed : Agreed libs signer start recorded state)
    (same : BLSSigner.SameRequest state other) (kept : after.state.link.state = some other)
    (perSigner : after.state.perSigner = recorded.state.perSigner)
    (tpm : after.state.tpm = recorded.state.tpm)
    (parameter : after.state.link.parameter = none ∨
      after.state.link.parameter = recorded.state.link.parameter)
    (interest : after.state.link.interest = none ∨
      after.state.link.interest = recorded.state.link.interest)
    (reply : ∀ data, after.state.link.reply = some data →
      recorded.state.link.reply = some data ∨ RepliesTo libs state data)
    (imported : state.hmacKey ∈ after.state.signerTpm ↔
      state.hmacKey ∈ start.signerTpm ∨ ∃ data, .data data ∈ after.outputs) :
    Agreed libs signer start after other := by
  -- The request keeps its keys and its result prefix, and the rest is the initiator's.
  refine ⟨kept, agreed.plain, ?_, ?_, ?_, ?_, ?_, ?_, ?_, ?_, ?_, ?_, ?_⟩
  · rw [same.resultPrefix]
    exact agreed.resultPrefix
  · rw [perSigner, same.aesKey]
    exact agreed.aesKey
  · rw [perSigner, same.hmacKey]
    exact agreed.hmacKey
  · rw [perSigner, same.resultPrefix]
    exact agreed.resultName
  · rw [perSigner]
    exact agreed.asked
  · rw [tpm, same.hmacKey]
    exact agreed.held
  · rw [perSigner, same.hmacKey]
    exact agreed.promised
  · rw [same.hmacKey]
    intro para sent
    -- The parameter packet is the one from before, or has been taken.
    rcases parameter with none | before
    · simp [none] at sent
    · exact agreed.parameter para (before.symm.trans sent)
  · rw [perSigner]
    intro pending sent
    rcases interest with none | before
    · simp [none] at sent
    · exact agreed.interest pending (before.symm.trans sent)
  · intro data sent
    have replies : RepliesTo libs state data := by
      rcases reply data sent with before | now
      · exact agreed.reply data before
      · exact now
    -- A reply is made from a state of the same request.
    obtain ⟨interestName, earlier, random, own, made⟩ := replies
    refine ⟨interestName, earlier, random, ⟨?_, ?_, ?_⟩, ?_⟩
    · rw [same.aesKey, own.aesKey]
    · rw [same.hmacKey, own.hmacKey]
    · rw [same.resultPrefix, own.resultPrefix]
    · rw [same.hmacKey]
      exact made
  · rw [same.hmacKey]
    exact imported

/-- The result that the parties agree on has no digest in its name. -/
theorem Agreed.unnamed (lossless : libs.tlv.Lossless)
    (agreed : Agreed libs signer start recorded state) :
    recorded.state.perSigner.nextResultName.digests = 0 := by
  obtain ⟨requestId, resultPrefix⟩ := agreed.resultPrefix
  rw [agreed.resultName, resultPrefix, digests_resultName lossless, agreed.plain]

/-- Where neither a poll nor a reply is put on a face, nothing is counted. -/
theorem Counted.quiet (counted : Counted libs recorded state)
    (same : BLSSigner.SameRequest state other) (version : other.version = state.version)
    (outputs : after.outputs = recorded.outputs)
    (phase : ∀ time, after.state.perSigner.phase = .scheduled time →
      recorded.state.perSigner.phase = .scheduled time)
    (interest : after.state.link.interest = recorded.state.link.interest)
    (reply : ∀ data, after.state.link.reply = some data →
      recorded.state.link.reply = some data) : Counted libs after other := by
  -- A reply that is on its way was on its way before.
  have silent : recorded.state.link.reply = none → after.state.link.reply = none := by
    intro none
    cases sent : after.state.link.reply with
    | none => rfl
    | some data =>
      have before := reply data sent
      rw [none] at before
      cases before
  refine ⟨?_, ?_, ?_, ?_, ?_, ?_⟩
  · intro time scheduled
    obtain ⟨unasked, unanswered, even⟩ := counted.waits time (phase time scheduled)
    rw [interest, outputs, same.aesKey]
    exact ⟨unasked, silent unanswered, even⟩
  · rw [interest, outputs, same.aesKey]
    intro asked
    obtain ⟨unanswered, odd⟩ := counted.asks asked
    exact ⟨silent unanswered, odd⟩
  · rw [outputs, same.aesKey]
    intro data sent
    exact counted.replied data (reply data sent)
  · rw [outputs, same.aesKey, version]
    exact counted.version
  · rw [outputs, same.aesKey, same.resultPrefix, version]
    exact counted.latest
  · rw [outputs, same.asksForFirst_eq]
    exact counted.order

/-- A reply counts as one more name where the signer is processing. -/
theorem Counted.answered (lossless : libs.tlv.Lossless) (matching : libs.ssl.Matching)
    (counted : Counted libs recorded state) (asked : recorded.state.link.interest.isSome = true)
    {interestName : Name} {random : Buffer} {data : Data}
    (made : data = libs.keyChain.signWithHmac state.hmacKey
      (generateResultData libs.tlv libs.ssl interestName state random).1)
    (outputs : after.outputs = recorded.outputs ++ [.data data])
    (perSigner : after.state.perSigner = recorded.state.perSigner)
    (interest : after.state.link.interest = none) (reply : after.state.link.reply = some data) :
    Counted libs after (generateResultData libs.tlv libs.ssl interestName state random).2 := by
  obtain ⟨-, odd⟩ := counted.asks asked
  have same := BLSSigner.same_generateResultData libs.tlv libs.ssl interestName state random
  have name := nextNameOf_generateResultData lossless matching interestName state random
    state.hmacKey
  rw [← made] at name
  -- A Data is not a poll.
  have sum : polls after.outputs = polls recorded.outputs := by
    rw [outputs, polls, List.countP_append]
    rfl
  have names : resultNames libs state.aesKey after.outputs =
      resultNames libs state.aesKey recorded.outputs ++
        (nextNameOf libs.tlv libs.ssl state.aesKey data).toList := by
    rw [outputs, resultNames, List.filterMap_append]
    cases named : nextNameOf libs.tlv libs.ssl state.aesKey data with
    | none => simp [resultNames, named]
    | some next => simp [resultNames, named]
  refine ⟨?_, ?_, ?_, ?_, ?_, ?_⟩
  · intro time scheduled
    -- The initiator does not wait to ask while its Interest is on the way.
    rw [perSigner] at scheduled
    have unasked := (counted.waits time scheduled).1
    simp [unasked] at asked
  · intro asks
    simp [interest] at asks
  · rw [same.aesKey, sum, names]
    intro other sent named
    cases reply.symm.trans sent
    obtain ⟨next, named⟩ := Option.isSome_iff_exists.mp named
    rw [named, odd]
    simp
  · rw [same.aesKey, names, name, BLSSigner.generateResultData_state, counted.version]
    -- The version goes up exactly when the reply names a next one.
    by_cases processing : state.code = .processing
    · simp [processing]
    · simp [processing]
  · rw [same.aesKey, names, name, BLSSigner.generateResultData_state]
    by_cases processing : state.code = .processing
    · simp only [processing, if_true, Option.toList_some, List.getLast?_concat]
      intro next last
      exact (Option.some.inj last).symm
    · simp only [processing, if_false, Option.toList_none, List.append_nil]
      exact counted.latest
  · rw [outputs, same.asksForFirst_eq]
    refine History.eachTime_concat.mpr ⟨counted.order, fun asked reply => ?_⟩
    cases reply

end Lemmas

end RpcExchange

end NdnMps
