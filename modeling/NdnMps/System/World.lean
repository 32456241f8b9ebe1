import NdnMps.Initiator
import NdnMps.Signer

/-! An initiator and the signers of one session, with the packets that travel between them. The
parties use one key chain, so its TPM holds the HMAC keys that any of them has signed with. -/

namespace NdnMps

variable {SecretKey PublicKey Signature : Type}

/-- The Interest a remote call has pending at the face. -/
def MultiSignPerSignerState.pending (perSigner : MultiSignPerSignerState) : Option Interest :=
  match perSigner.phase with
  | .awaitingAck pending | .awaitingResult pending => some pending
  | .scheduled _ | .ended => none

/-- The packets in flight between the initiator and one signer, and what the signer keeps. -/
structure Link where
  /-- The initiator's Interest on its way to the signer. -/
  interest : Option Interest
  /-- The signer's Data on its way to the initiator. -/
  reply : Option Data
  /-- The signer's Interest for the parameter packet on its way to the initiator. -/
  fetch : Option Interest
  /-- The parameter packet on its way to the signer. -/
  parameter : Option Data
  /-- What the signer keeps, once it has accepted the request. -/
  state : Option SignRequestState
  /-- How often the signer may still reply that it is processing. -/
  polls : Nat

/-- The link of a new remote call: its sign request is on the way. -/
def Link.ofRpc (polls : Name → Nat) (perSigner : MultiSignPerSignerState) : Link :=
  ⟨perSigner.pending, none, none, none, none, polls perSigner.signerKeyName⟩

/-- What may happen on a link, with the randomness of the party that it happens to. -/
inductive LinkEvent (Signature : Type) where
  /-- The initiator's Interest reaches the signer. -/
  | interest (draw : RequestDraw)
  /-- The signer's Data reaches the initiator. -/
  | reply (draw : Draw Signature)
  /-- The signer's Interest for the parameter packet reaches the initiator. -/
  | fetch (draw : Draw Signature)
  /-- The parameter packet reaches the signer. -/
  | parameter
  /-- The scheduled result fetch of the initiator fires. -/
  | fetchResult (draw : Draw Signature)

/-- The name under which a signer answers sign requests. -/
def BLSSigner.invocationPrefix (signer : BLSSigner SecretKey) : Name :=
  (signer.signerPrefix.append (.ofString "mps")).append (.ofString "sign")

/-- An Interest at a signer, which passes it to the callback whose filter it matches. -/
def BLSSigner.onInterest (libs : Libraries SecretKey PublicKey Signature)
    (signer : BLSSigner SecretKey) (tpm : List Buffer) (link : Link) (interest : Interest)
    (draw : RequestDraw) : Option (Link × List Buffer) :=
  -- An Interest whose name has several digests is not decoded.
  if 1 < interest.name.digests then none
  else if signer.invocationPrefix.isPrefixOf interest.name then
    match signer.onSignRequest libs interest draw with
    -- No run goes on after an exception out of a callback, be it before the acknowledgement or
    -- after it.
    | .error _ => none
    | .ok (.inl ack) => some ({ link with interest := none, reply := some ack }, tpm)
    | .ok (.inr accepted) =>
      match accepted.fetch with
      | .error _ => none
      | .ok fetchInterest =>
        some ({ link with
          interest := none, reply := some accepted.ack, fetch := some fetchInterest
          state := some accepted.state }, tpm)
  else do
    let state ← link.state
    -- The final reply takes the filter of the result prefix away.
    if state.resultPrefixRegistered && state.resultPrefix.isPrefixOf interest.name then
      let answered ← signer.onResultInterest libs tpm state interest draw.random
      let polls := if state.code = .processing then link.polls - 1 else link.polls
      some ({ link with
        interest := none, reply := some answered.result, state := some answered.state, polls },
        answered.tpm)
    else none

/-- One session of an initiator, and the links of its remote calls in their order. -/
structure World (PublicKey : Type) where
  initiator : MPSInitiator PublicKey
  session : Nat
  links : List Link

namespace World

variable (libs : Libraries SecretKey PublicKey Signature)
variable (signerOf : Name → BLSSigner SecretKey) (polls : Name → Nat)

/-- The world once a session has been started and nothing has been received. -/
def ofSession (initiator : MPSInitiator PublicKey) (session : Nat) : World PublicKey where
  initiator
  session
  links := match initiator.sessions[session]? with
    | none => []
    | some started => started.rpcs.map (Link.ofRpc polls)

/-- The state of a remote call of the session. -/
def perSigner (world : World PublicKey) (index : Nat) : Option MultiSignPerSignerState :=
  (world.initiator.sessions[world.session]?).bind fun session => session.rpcs[index]?

/-- An event of a remote call at the initiator, and the link that is left of it; further remote
calls have links of their own. -/
def atInitiator (world : World PublicKey) (index : Nat) (event : RpcEvent)
    (draw : Draw Signature) (renew : MultiSignPerSignerState → List Data → Link) :
    Option (World PublicKey) := do
  let (initiator, put) ← world.initiator.step libs (.rpc world.session index event draw)
  let session ← initiator.sessions[world.session]?
  let perSigner ← session.rpcs[index]?
  let links := world.links.set index (renew perSigner put)
  let further := (session.rpcs.drop world.links.length).map (Link.ofRpc polls)
  some { world with initiator, links := links ++ further }

/-- What an event on a link makes of the world. -/
def act (world : World PublicKey) (index : Nat) (perSigner : MultiSignPerSignerState)
    (link : Link) : LinkEvent Signature → Option (World PublicKey)
  | .interest draw => do
    let interest ← link.interest
    let (link, tpm) ← (signerOf perSigner.signerKeyName).onInterest libs world.initiator.tpm link
      interest draw
    some { world with
      initiator := { world.initiator with tpm }, links := world.links.set index link }
  | .reply draw => do
    let data ← link.reply
    let pending ← perSigner.pending
    -- The face passes on only Data that the pending Interest asks for.
    if pending.matchesData data then
      world.atInitiator libs polls index (.data data) draw fun _ _ => { link with reply := none }
    else none
  | .fetch draw => do
    let interest ← link.fetch
    -- The filter is set for the name of the parameter packet.
    if perSigner.paraData.name.isPrefixOf interest.name then
      world.atInitiator libs polls index .paraInterest draw fun _ put =>
        { link with fetch := none, parameter := put.find? interest.matchesData }
    else none
  | .parameter => do
    let data ← link.parameter
    let state ← link.state
    match (signerOf perSigner.signerKeyName).onParameterData libs world.initiator.tpm state
        data with
    | .error _ => none
    | .ok state =>
      some { world with
        links := world.links.set index { link with parameter := none, state := some state } }
  | .fetchResult draw =>
    world.atInitiator libs polls index .fetchResult draw fun perSigner _ =>
      { link with interest := perSigner.pending }

/-- The order of events in which nothing is lost: an acknowledgement is processed before the
matching parameter Interest, which arrives while its prefix is registered, and a signer replies
that it is processing only so many times. -/
def orderly (perSigner : MultiSignPerSignerState) (link : Link) : LinkEvent Signature → Bool
  | .interest _ => link.state.all fun state =>
    decide (state.code ≠ .processing) || decide (0 < link.polls)
  | .fetch _ => perSigner.paraDataPromise.isSome
  | .fetchResult _ => link.fetch.isNone
  | .reply _ | .parameter => true

/-- The world after an event on the link of an index, if it can happen in its turn. -/
def next (world : World PublicKey) (event : Nat × LinkEvent Signature) :
    Option (World PublicKey) := do
  let perSigner ← world.perSigner event.1
  let link ← world.links[event.1]?
  if orderly perSigner link event.2 then
    world.act libs signerOf polls event.1 perSigner link event.2
  else none

end World

end NdnMps
