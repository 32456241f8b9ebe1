import NdnMps.Data.Alongside
import NdnMps.Initiator.Attestation
import NdnMps.System.Delivery
import NdnMps.System.Passage

/-! A session in a network that may lose any packet, with signers that may refuse, and with whatever
else the initiator does: its packets are what its signers have signed. -/

namespace NdnMps

variable {SecretKey PublicKey Signature : Type}

/-- What may go wrong on a link. -/
inductive Mishap (Signature : Type) where
  | interestLost
  | replyLost
  | fetchLost
  | parameterLost
  /-- The initiator's pending Interest gets a NACK. -/
  | nack (draw : Draw Signature)
  /-- The initiator's pending Interest times out, whatever is on its way. -/
  | timeout (draw : Draw Signature)
  /-- The signer's Interest for the parameter packet gets a NACK or times out. -/
  | fetchFailed

/-- What may occur around a session. -/
inductive Occurrence (Signature : Type) where
  | link (index : Nat) (event : LinkEvent Signature)
  | mishap (index : Nat) (mishap : Mishap Signature)
  /-- The initiator does something else. -/
  | elsewhere (event : Event Signature)

/-- The session that an event belongs to. -/
def Event.session : Event Signature → Option Nat
  | .rpc session _ _ _ => some session
  | _ => none

namespace World

variable (libs : Libraries SecretKey PublicKey Signature)
variable (signerOf : Name → BLSSigner SecretKey) (polls : Name → Nat)

/-- The world with one link in another state. -/
def setLink (world : World PublicKey) (index : Nat) (link : Link) : World PublicKey :=
  { world with links := world.links.set index link }

/-- What a mishap on a link makes of the world. -/
def suffer (world : World PublicKey) (index : Nat) (link : Link) :
    Mishap Signature → Option (World PublicKey)
  | .interestLost => some (world.setLink index { link with interest := none })
  | .replyLost => some (world.setLink index { link with reply := none })
  | .fetchLost => some (world.setLink index { link with fetch := none })
  | .parameterLost => some (world.setLink index { link with parameter := none })
  | .nack draw => world.atInitiator libs polls index .nack draw fun _ _ => link
  | .timeout draw => world.atInitiator libs polls index .timeout draw fun _ _ => link
  | .fetchFailed => link.state.map fun state =>
    world.setLink index { link with state := some (BLSSigner.onParameterFailure state) }

/-- The world after an occurrence. The events on a link come in any order. -/
def occur (world : World PublicKey) : Occurrence Signature → Option (World PublicKey)
  | .link index event => do
    let perSigner ← world.perSigner index
    let link ← world.links[index]?
    world.act libs signerOf polls index perSigner link event
  | .mishap index mishap => do
    let link ← world.links[index]?
    world.suffer libs polls index link mishap
  | .elsewhere event =>
    if event.session = some world.session then none
    else (world.initiator.next libs event).map fun initiator => { world with initiator }

/-- The event that an occurrence is for the session. -/
def received (world : World PublicKey) : Occurrence Signature → Option (Event Signature)
  | .link index (.reply draw) =>
    (world.links[index]?.bind Link.reply).map fun data => .rpc world.session index (.data data) draw
  | .link index (.fetch draw) => some (.rpc world.session index .paraInterest draw)
  | .link index (.fetchResult draw) => some (.rpc world.session index .fetchResult draw)
  | .link _ (.interest _) | .link _ .parameter => none
  | .mishap index (.nack draw) => some (.rpc world.session index .nack draw)
  | .mishap index (.timeout draw) => some (.rpc world.session index .timeout draw)
  | .mishap _ _ | .elsewhere _ => none

/-- A signer that the session loses by an occurrence is one whose loss is covered. -/
def LossesCovered (world : World PublicKey) (occurrence : Occurrence Signature) : Prop :=
  ∀ event, world.received occurrence = some event →
    MPSInitiator.LossesCovered libs world.initiator event

end World

/-- What a reaction makes of the remote calls of its session. -/
theorem Session.Move.rpcs_leaves {libs : Libraries SecretKey PublicKey Signature}
    {initiatorPrefix : Name} {container after : MultipartySchemaContainer PublicKey}
    {session renewed : Session} {index : Nat} {perSigner : MultiSignPerSignerState}
    {reaction : Reaction}
    (move : session.Move libs initiatorPrefix container index perSigner reaction after renewed) :
    ∃ (names : List Name) (draws : Name → RpcDraw),
      renewed.rpcs = session.rpcs.set index (reaction.leaves perSigner) ++ names.map fun name =>
        Session.newRpc libs initiatorPrefix session.global.toBeSigned session.global.signingKeyName
          name (draws name) := by
  have unchanged : ∀ rpcs : List MultiSignPerSignerState, ∃ (names : List Name)
      (draws : Name → RpcDraw), rpcs = rpcs ++ names.map fun name => Session.newRpc libs
        initiatorPrefix session.global.toBeSigned session.global.signingKeyName name
          (draws name) := fun rpcs => ⟨[], fun _ => ⟨0, [], []⟩, (List.append_nil _).symm⟩
  cases move with
  | @replaced reason newSigners diffSigners draws renews => exact ⟨diffSigners, draws, rfl⟩
  | _ => exact unchanged _

/-- A reaction leaves a remote call its signer. -/
theorem Reaction.Fits.signerKeyName_leaves {perSigner : MultiSignPerSignerState}
    {reaction : Reaction} (fits : reaction.Fits perSigner) :
    (reaction.leaves perSigner).signerKeyName = perSigner.signerKeyName := by
  cases reaction with
  | proceed other tpm put => exact fits.1
  | _ => rfl

/-- A session stays as it is, or a remote call moves it and returns no invalid signature. -/
inductive Session.Proceeds (libs : Libraries SecretKey PublicKey Signature)
    (trusting : MultipartySchemaContainer PublicKey) (session : Session) : Session → Prop where
  | stays : Proceeds libs trusting session session
  | moves {initiatorPrefix : Name} {container after : MultipartySchemaContainer PublicKey}
      {renewed : Session} {index : Nat} {perSigner : MultiSignPerSignerState} {reaction : Reaction}
      (found : session.rpcs[index]? = some perSigner) (fits : reaction.Fits perSigner)
      (returns : session.ReturnsValid libs trusting perSigner reaction)
      (move : session.Move libs initiatorPrefix container index perSigner reaction after renewed) :
      Proceeds libs trusting session renewed

/-- No move changes what the signers of a session are to sign. -/
theorem Session.Move.presents {libs : Libraries SecretKey PublicKey Signature}
    {initiatorPrefix : Name} {container after : MultipartySchemaContainer PublicKey}
    {session renewed : Session} {index : Nat} {perSigner : MultiSignPerSignerState}
    {reaction : Reaction} {portion : Buffer}
    (move : session.Move libs initiatorPrefix container index perSigner reaction after renewed)
    (presents : Presents libs portion session.global.toBeSigned) :
    Presents libs portion renewed.global.toBeSigned := by
  cases move with
  | finished enough aggregated signed announced =>
    subst signed
    exact ⟨presents.info, rfl, presents.portion⟩
  | _ => exact ⟨presents.info, presents.value, presents.portion⟩

/-- What happens to another session, or to none, leaves a session where it is. -/
theorem MPSInitiator.Step.elsewhere {libs : Libraries SecretKey PublicKey Signature}
    {initiator after : MPSInitiator PublicKey} {event : Event Signature} {sessionIndex : Nat}
    {session : Session} (step : Step libs initiator event after)
    (apart : event.session ≠ some sessionIndex)
    (located : initiator.sessions[sessionIndex]? = some session) :
    after.sessions[sessionIndex]? = some session := by
  -- Sessions are only appended, and only the one of the event is set anew.
  cases step with
  | refused | reset => exact located
  | stopped => exact located
  | started selected =>
    rw [List.getElem?_append_left (List.getElem?_eq_some_iff.mp located).1]
    exact located
  | moved other found reacted move sessions =>
    rw [sessions, List.getElem?_set_ne fun same => apart (congrArg some same)]
    exact located

/-- A running initiator starts a session for the signers it selects. -/
theorem MPSInitiator.next_started {libs : Libraries SecretKey PublicKey Signature}
    {initiator started : MPSInitiator PublicKey} {unsignedData : Data} {schema : MultipartySchema}
    {signingKeyName : Name} {keyLocatorRandomness : Nat} {rpcs : Name → RpcDraw}
    {signers : List Name}
    (selected : initiator.schemaContainer.getAvailableSigners schema = .ok signers)
    (begun : initiator.next libs (.multiPartySign unsignedData schema signingKeyName
      keyLocatorRandomness rpcs) = some started) :
    initiator.liveness = .running ∧ started = { initiator with
      sessions := initiator.sessions ++ [initiator.startSession libs unsignedData schema
        signingKeyName keyLocatorRandomness rpcs signers] } := by
  simp only [next, step] at begun
  split at begun
  · cases begun
  · rename_i running
    simp only [selected, Option.map_some, Option.some.injEq] at begun
    exact ⟨not_not.mp running, begun.symm⟩

/-- What an initiator puts on the face is what the reaction puts there. -/
theorem MPSInitiator.act_puts (libs : Libraries SecretKey PublicKey Signature)
    (initiator : MPSInitiator PublicKey) (sessionIndex index : Nat) (session : Session)
    (perSigner : MultiSignPerSignerState) (draw : Draw Signature) (reaction : Reaction) :
    (initiator.act libs sessionIndex index session perSigner draw reaction).2 = reaction.puts := by
  cases reaction with
  | collect piece =>
    simp only [act, Reaction.puts]
    split <;> rfl
  | _ => rfl

/-- An initiator has the HMAC keys that the reaction leaves. -/
theorem MPSInitiator.act_keys (libs : Libraries SecretKey PublicKey Signature)
    (initiator : MPSInitiator PublicKey) (sessionIndex index : Nat) (session : Session)
    (perSigner : MultiSignPerSignerState) (draw : Draw Signature) (reaction : Reaction) :
    (initiator.act libs sessionIndex index session perSigner draw reaction).1.tpm =
      reaction.keys initiator.tpm := by
  cases reaction with
  | collect piece =>
    simp only [act, Reaction.keys]
    split <;> rfl
  | _ => rfl

namespace World

variable {libs : Libraries SecretKey PublicKey Signature}
variable {signerOf : Name → BLSSigner SecretKey} {polls : Name → Nat}

/-- What an event of a remote call makes of the world and of its session: the remote call reacts and
leaves its link in a further state, and further remote calls begin on links of their own. -/
structure Reacts (libs : Libraries SecretKey PublicKey Signature) (polls : Name → Nat)
    (world after : World PublicKey) (session renewed : Session) (index : Nat) (event : RpcEvent)
    (draw : Draw Signature) (renew : MultiSignPerSignerState → List Data → Link)
    (perSigner : MultiSignPerSignerState) (reaction : Reaction)
    (further : List MultiSignPerSignerState) : Prop where
  found : session.rpcs[index]? = some perSigner
  reacted : react libs world.initiator.tpm session.global.signingKeyName perSigner draw event =
    some reaction
  taken : world.initiator.next libs (.rpc world.session index event draw) = some after.initiator
  place : after.session = world.session
  located : after.initiator.sessions[world.session]? = some renewed
  keys : after.initiator.tpm = reaction.keys world.initiator.tpm
  rpcs : renewed.rpcs = session.rpcs.set index (reaction.leaves perSigner) ++ further
  links : after.links = world.links.set index (renew (reaction.leaves perSigner) reaction.puts) ++
    further.map (Link.ofRpc polls)
  begun : ∀ other ∈ further, ∃ name draw, other = Session.newRpc libs
    world.initiator.initiatorPrefix session.global.toBeSigned session.global.signingKeyName name
      draw
  /-- The session moves, unless the thread never gets past the callback. -/
  moves : (renewed = session ∧ ∃ liveness, reaction = .stop liveness) ∨
    (session.Move libs world.initiator.initiatorPrefix world.initiator.schemaContainer index
        perSigner reaction after.initiator.schemaContainer renewed ∧
      after.initiator.sessions = world.initiator.sessions.set world.session renewed)

/-- An event at the initiator lets its remote call react. -/
theorem atInitiator_reacts {world after : World PublicKey} {session : Session} {index : Nat}
    {event : RpcEvent} {draw : Draw Signature} {renew : MultiSignPerSignerState → List Data → Link}
    (located : world.initiator.sessions[world.session]? = some session)
    (aligned : world.links.length = session.rpcs.length)
    (acted : world.atInitiator libs polls index event draw renew = some after) :
    ∃ renewed perSigner reaction further, Reacts libs polls world after session renewed index event
      draw renew perSigner reaction further := by
  obtain ⟨⟨initiator, put⟩, stepped, acted⟩ := Option.bind_eq_some_iff.mp acted
  obtain ⟨renewed, place, acted⟩ := Option.bind_eq_some_iff.mp acted
  obtain ⟨other, remains, acted⟩ := Option.bind_eq_some_iff.mp acted
  cases acted
  have taken : world.initiator.next libs (.rpc world.session index event draw) =
      some initiator := by
    rw [MPSInitiator.next, stepped, Option.map_some]
  -- The step is that of the remote call's reaction.
  simp only [MPSInitiator.step, located, Bind.bind, Option.bind_some] at stepped
  split at stepped
  · cases stepped
  obtain ⟨perSigner, found, stepped⟩ := Option.bind_eq_some_iff.mp stepped
  obtain ⟨reaction, reacted, stepped⟩ := Option.bind_eq_some_iff.mp stepped
  have puts := world.initiator.act_puts libs world.session index session perSigner draw reaction
  have keys := world.initiator.act_keys libs world.session index session perSigner draw reaction
  rw [Option.some.inj stepped] at puts keys
  -- Of its links the world renews that of the remote call, and adds those of the further ones.
  have inside := (List.getElem?_eq_some_iff.mp found).1
  have links : ∀ {further}, renewed.rpcs = session.rpcs.set index (reaction.leaves perSigner) ++
      further → world.links.set index (renew other put) ++
        (renewed.rpcs.drop world.links.length).map (Link.ofRpc polls) =
          world.links.set index (renew (reaction.leaves perSigner) reaction.puts) ++
            further.map (Link.ofRpc polls) := by
    intro further rpcs
    have length : (session.rpcs.set index (reaction.leaves perSigner)).length =
        world.links.length := List.length_set.trans aligned.symm
    rw [rpcs, List.getElem?_append_left (by rwa [List.length_set]),
      List.getElem?_set_self inside] at remains
    cases remains
    rw [rpcs, List.drop_left' length, ← puts]
  cases MPSInitiator.next_step taken with
  | stopped also there stops =>
    cases also.symm.trans located
    cases there.symm.trans found
    cases stops.symm.trans reacted
    cases also.symm.trans place
    have same : session.rpcs = session.rpcs.set index perSigner ++ [] := by
      obtain ⟨_, rfl⟩ := List.getElem?_eq_some_iff.mp found
      rw [List.append_nil, List.set_getElem_self]
    exact ⟨session, perSigner, _, [], found, reacted, taken, rfl, place, keys, same, links same,
      by simp, .inl ⟨rfl, _, rfl⟩⟩
  | moved also there reacts move sessions =>
    cases also.symm.trans located
    cases there.symm.trans found
    cases reacts.symm.trans reacted
    rw [sessions, List.getElem?_set_self (List.getElem?_eq_some_iff.mp located).1] at place
    cases place
    obtain ⟨names, draws, rpcs⟩ := move.rpcs_leaves
    refine ⟨_, perSigner, reaction, _, found, reacted, taken, rfl, ?_, keys, rpcs, links rpcs,
      fun other member => ?_, .inr ⟨move, sessions⟩⟩
    · rw [sessions, List.getElem?_set_self (List.getElem?_eq_some_iff.mp located).1]
    · obtain ⟨name, -, rfl⟩ := List.mem_map.mp member
      exact ⟨name, _, rfl⟩

/-- Every exchange stands where honest signers leave it, on a link of its own. -/
structure Passages (libs : Libraries SecretKey PublicKey Signature)
    (signerOf : Name → BLSSigner SecretKey) (portion : Buffer)
    (rpcs : List MultiSignPerSignerState) (links : List Link) : Prop where
  aligned : links.length = rpcs.length
  stands : ∀ (index : Nat) (perSigner : MultiSignPerSignerState) (link : Link),
    rpcs[index]? = some perSigner → links[index]? = some link →
    Passage libs (signerOf perSigner.signerKeyName) portion perSigner link

/-- The session of a world signs what it has been asked to with the signatures of its signers, and
its exchanges stand where honest signers leave them. -/
structure Safe (libs : Libraries SecretKey PublicKey Signature)
    (signerOf : Name → BLSSigner SecretKey) (trusting : MultipartySchemaContainer PublicKey)
    (covered : Prop) (portion : Buffer) (unsignedData : Data) (schema : MultipartySchema)
    (world : World PublicKey) (session : Session) : Prop where
  same : world.initiator.schemaContainer.trustedIds = trusting.trustedIds
  named : world.initiator.schemaContainer.NamesNonempty
  located : world.initiator.sessions[world.session]? = some session
  accountable : session.Accountable libs trusting covered unsignedData schema
  presents : Presents libs portion session.global.toBeSigned
  passages : Passages libs signerOf portion session.rpcs world.links

section Steps

variable {validOf : PublicKey → Buffer → Signature}
variable {trusting : MultipartySchemaContainer PublicKey} {covered : Prop} {portion : Buffer}
variable {unsignedData : Data} {schema : MultipartySchema} {world after : World PublicKey}
variable {session : Session} {rpcs : List MultiSignPerSignerState} {links : List Link}

/-- The remote calls and the links stand side by side. -/
theorem passages_iff_forall₂ : Passages libs signerOf portion rpcs links ↔
    List.Forall₂ (fun perSigner link =>
      Passage libs (signerOf perSigner.signerKeyName) portion perSigner link) rpcs links := by
  rw [List.forall₂_iff_getElem?]
  exact ⟨fun passages => ⟨passages.aligned, passages.stands⟩, fun all => ⟨all.1, all.2⟩⟩

/-- One exchange moves on, and further ones begin. -/
theorem Passages.renew (passages : Passages libs signerOf portion rpcs links) {index : Nat}
    {left : MultiSignPerSignerState} {link : Link} {further : List MultiSignPerSignerState}
    (passage : Passage libs (signerOf left.signerKeyName) portion left link)
    (begun : ∀ other ∈ further, Passage libs (signerOf other.signerKeyName) portion other
      (Link.ofRpc polls other)) :
    Passages libs signerOf portion (rpcs.set index left ++ further)
      (links.set index link ++ further.map (Link.ofRpc polls)) :=
  passages_iff_forall₂.mpr ((passages_iff_forall₂.mp passages).renew passage index begun)

/-- One exchange moves on without its remote call. -/
theorem Passages.setLink (passages : Passages libs signerOf portion rpcs links) {index : Nat}
    {perSigner : MultiSignPerSignerState} {link : Link} (found : rpcs[index]? = some perSigner)
    (passage : Passage libs (signerOf perSigner.signerKeyName) portion perSigner link) :
    Passages libs signerOf portion rpcs (links.set index link) := by
  obtain ⟨inside, rfl⟩ := List.getElem?_eq_some_iff.mp found
  have renewed : Passages libs signerOf portion (rpcs.set index rpcs[index] ++ [])
      (links.set index link ++ [].map (Link.ofRpc fun _ => 0)) := passages.renew passage (by simp)
  rwa [List.map_nil, List.append_nil, List.append_nil, List.set_getElem_self] at renewed

/-- A change of one link keeps the world safe if its exchange still stands where a honest signer
leaves it. -/
theorem Safe.setLink (safe : Safe libs signerOf trusting covered portion unsignedData schema world
    session) {index : Nat} {perSigner : MultiSignPerSignerState} {link : Link} (tpm : List Buffer)
    (found : session.rpcs[index]? = some perSigner)
    (passage : Passage libs (signerOf perSigner.signerKeyName) portion perSigner link) :
    Safe libs signerOf trusting covered portion unsignedData schema
      { world with
        initiator := { world.initiator with tpm }, links := world.links.set index link }
      session :=
  ⟨safe.same, safe.named, safe.located, safe.accountable, safe.presents,
    safe.passages.setLink found passage⟩

/-- Every link belongs to a remote call, whose exchange stands on it. -/
theorem Passages.exists_stands (passages : Passages libs signerOf portion rpcs links) {index : Nat}
    {link : Link} (linked : links[index]? = some link) :
    ∃ perSigner, rpcs[index]? = some perSigner ∧
      Passage libs (signerOf perSigner.signerKeyName) portion perSigner link := by
  have inside := (List.getElem?_eq_some_iff.mp linked).1
  rw [passages.aligned] at inside
  have found := List.getElem?_eq_getElem inside
  exact ⟨_, found, passages.stands index _ link found linked⟩

section Honest

variable (lossless : libs.tlv.Lossless) (ideal : libs.bls.Ideal validOf)
variable (matching : libs.ssl.Matching) (nothing : libs.tlv.encode [] = [])
variable (honest : ∀ name ∈ trusting.trustedIds.names, trusting.trustedIds.find name =
  some (libs.bls.getPublicKey (signerOf name).secretKey))

include lossless ideal honest

/-- A reaction of a remote call keeps the world safe if it returns nothing but the signer's
signature, and leaves its exchange where a honest signer does. -/
theorem Safe.atInitiator
    (safe : Safe libs signerOf trusting covered portion unsignedData schema world session)
    {index : Nat} {event : RpcEvent} {draw : Draw Signature}
    {renew : MultiSignPerSignerState → List Data → Link}
    (covers : covered → MPSInitiator.LossesCovered libs world.initiator
      (.rpc world.session index event draw))
    (passage : ∀ perSigner reaction, session.rpcs[index]? = some perSigner →
      react libs world.initiator.tpm session.global.signingKeyName perSigner draw event =
        some reaction →
      (∀ piece, reaction = .collect piece →
        piece = (signerOf perSigner.signerKeyName).pieceFor libs portion) ∧
      Passage libs (signerOf perSigner.signerKeyName) portion (reaction.leaves perSigner)
        (renew (reaction.leaves perSigner) reaction.puts))
    (acted : world.atInitiator libs polls index event draw renew = some after) :
    ∃ renewed, Safe libs signerOf trusting covered portion unsignedData schema after renewed ∧
      after.session = world.session ∧ session.Proceeds libs trusting renewed := by
  obtain ⟨renewed, perSigner, reaction, further, reacts⟩ :=
    atInitiator_reacts safe.located safe.passages.aligned acted
  obtain ⟨returned, passed⟩ := passage perSigner reaction reacts.found reacts.reacted
  have fits := react_fits reacts.reacted
  have stepped := MPSInitiator.next_step reacts.taken
  have sameKeys := stepped.trustedIds_eq
  have named : after.initiator.schemaContainer.NamesNonempty := by
    rw [MultipartySchemaContainer.NamesNonempty, sameKeys]
    exact safe.named
  have passages : Passages libs signerOf portion renewed.rpcs after.links := by
    rw [reacts.rpcs, reacts.links]
    refine safe.passages.renew ?_ fun other member => ?_
    · rw [fits.signerKeyName_leaves]
      exact passed
    · obtain ⟨name, start, rfl⟩ := reacts.begun other member
      exact Passage.newRpc lossless safe.presents _ _ name start polls
  have located := reacts.located
  rw [← reacts.place] at located
  rcases reacts.moves with ⟨rfl, -⟩ | ⟨move, sessions⟩
  · exact ⟨renewed, ⟨sameKeys.trans safe.same, named, located, safe.accountable, safe.presents,
      passages⟩, reacts.place, .stays⟩
  · have accountable := safe.accountable
    -- What is returned is the signature of one of the session's signers, whose key is trusted.
    have returns : session.ReturnsValid libs trusting perSigner reaction := by
      cases reaction with
      | collect piece =>
        rw [returned piece rfl, BLSSigner.pieceFor, ← safe.presents.portion]
        exact validPiece_ndnGenBLSSignature libs.tlv ideal (honest _ (accountable.qualified.trusted
          _ (accountable.qualified.coherent.lost_listed reacts.found fits))) _
      | _ => trivial
    refine ⟨renewed, ⟨sameKeys.trans safe.same, named, located, ?_, move.presents safe.presents,
      passages⟩, reacts.place, .moves reacts.found fits returns move⟩
    refine move.accountable lossless ideal reacts.found fits safe.named safe.same
      (fun reason lost => ?_) (fun holds reason lost => ?_) returns accountable
    · subst lost
      exact MPSInitiator.next_loses reacts.taken safe.located reacts.found reacts.reacted sessions
    · subst lost
      exact covers holds _ _ _ _ ⟨_, _, _, rfl, safe.located, reacts.found, reacts.reacted⟩

/-- A mishap keeps the world safe. -/
theorem Safe.suffer
    (safe : Safe libs signerOf trusting covered portion unsignedData schema world session)
    {index : Nat} {link : Link} (linked : world.links[index]? = some link)
    {mishap : Mishap Signature}
    (covers : covered → world.LossesCovered libs (.mishap index mishap))
    (taken : world.suffer libs polls index link mishap = some after) :
    ∃ renewed, Safe libs signerOf trusting covered portion unsignedData schema after renewed ∧
      after.session = world.session ∧ session.Proceeds libs trusting renewed := by
  obtain ⟨perSigner, found, passage⟩ := safe.passages.exists_stands linked
  -- A lost packet, and a failure that the signer notices, change nothing but the link.
  have onLink : ∀ {further : Link}, some (world.setLink index further) = some after →
      Passage libs (signerOf perSigner.signerKeyName) portion perSigner further →
      ∃ renewed, Safe libs signerOf trusting covered portion unsignedData schema after renewed ∧
        after.session = world.session ∧ session.Proceeds libs trusting renewed := by
    rintro further changed stands
    cases changed
    exact ⟨session, safe.setLink _ found stands, rfl, .stays⟩
  -- A failure that the initiator notices ends the remote call.
  have ended : ∀ {event : RpcEvent} {draw : Draw Signature}, event = .nack ∨ event = .timeout →
      (covered → MPSInitiator.LossesCovered libs world.initiator
        (.rpc world.session index event draw)) →
      world.atInitiator libs polls index event draw (fun _ _ => link) = some after →
      ∃ renewed, Safe libs signerOf trusting covered portion unsignedData schema after renewed ∧
        after.session = world.session ∧ session.Proceeds libs trusting renewed := by
    intro event draw lost covers acted
    refine safe.atInitiator lossless ideal honest covers (fun other reaction there reacted => ?_)
      acted
    cases found.symm.trans there
    exact Passage.unavailable lost reacted
  cases mishap with
  | interestLost => exact onLink taken (passage.lose (.inr rfl) (.inl rfl) (.inl rfl) rfl)
  | replyLost => exact onLink taken (passage.lose (.inl rfl) (.inr rfl) (.inl rfl) rfl)
  | fetchLost => exact onLink taken (passage.lose (.inl rfl) (.inl rfl) (.inl rfl) rfl)
  | parameterLost => exact onLink taken (passage.lose (.inl rfl) (.inl rfl) (.inr rfl) rfl)
  | fetchFailed =>
    obtain ⟨state, kept, changed⟩ := Option.map_eq_some_iff.mp taken
    exact onLink (congrArg some changed) (passage.fetchFailed kept)
  | nack draw => exact ended (.inl rfl) (fun holds => covers holds _ rfl) taken
  | timeout draw => exact ended (.inr rfl) (fun holds => covers holds _ rfl) taken

include matching nothing

/-- An event on a link keeps the world safe. -/
theorem Safe.act
    (safe : Safe libs signerOf trusting covered portion unsignedData schema world session)
    {index : Nat} {perSigner : MultiSignPerSignerState} {link : Link}
    (found : session.rpcs[index]? = some perSigner) (linked : world.links[index]? = some link)
    {event : LinkEvent Signature} (covers : covered → world.LossesCovered libs (.link index event))
    (taken : world.act libs signerOf polls index perSigner link event = some after) :
    ∃ renewed, Safe libs signerOf trusting covered portion unsignedData schema after renewed ∧
      after.session = world.session ∧ session.Proceeds libs trusting renewed := by
  have passage := safe.passages.stands index perSigner link found linked
  -- What reaches the signer changes the link alone; the rest is a reaction of the remote call.
  cases event with
  | interest draw =>
    obtain ⟨interest, arrived, taken⟩ := Option.bind_eq_some_iff.mp taken
    obtain ⟨⟨further, tpm⟩, handled, taken⟩ := Option.bind_eq_some_iff.mp taken
    cases taken
    exact ⟨session, safe.setLink tpm found
      (passage.interest lossless matching nothing arrived handled), rfl, .stays⟩
  | reply draw =>
    obtain ⟨data, arrived, taken⟩ := Option.bind_eq_some_iff.mp taken
    obtain ⟨pending, waits, taken⟩ := Option.bind_eq_some_iff.mp taken
    split at taken
    · refine safe.atInitiator lossless ideal honest (fun holds => covers holds _ ?_)
        (fun other reaction there reacted => ?_) taken
      · simp [World.received, linked, arrived]
      · cases found.symm.trans there
        exact passage.data lossless matching arrived reacted
    · cases taken
  | fetch draw =>
    obtain ⟨interest, arrived, taken⟩ := Option.bind_eq_some_iff.mp taken
    split at taken
    · refine safe.atInitiator lossless ideal honest (fun holds => covers holds _ rfl)
        (fun other reaction there reacted => ?_) taken
      cases found.symm.trans there
      exact passage.fetch interest reacted
    · cases taken
  | parameter =>
    obtain ⟨data, sent, taken⟩ := Option.bind_eq_some_iff.mp taken
    obtain ⟨state, kept, taken⟩ := Option.bind_eq_some_iff.mp taken
    split at taken
    · cases taken
    · rename_i received
      cases taken
      exact ⟨session, safe.setLink _ found
        (passage.parameter lossless matching sent kept received), rfl, .stays⟩
  | fetchResult draw =>
    simp only [World.act] at taken
    refine safe.atInitiator lossless ideal honest (fun holds => covers holds _ rfl)
      (fun other reaction there reacted => ?_) taken
    cases found.symm.trans there
    exact passage.fetchResult lossless reacted

/-- Whatever occurs around a session of honest signers, it signs what it has been asked to with
their signatures. -/
theorem Safe.occur
    (safe : Safe libs signerOf trusting covered portion unsignedData schema world session)
    {occurrence : Occurrence Signature} (covers : covered → world.LossesCovered libs occurrence)
    (taken : world.occur libs signerOf polls occurrence = some after) :
    ∃ renewed, Safe libs signerOf trusting covered portion unsignedData schema after renewed ∧
      after.session = world.session ∧ session.Proceeds libs trusting renewed := by
  cases occurrence with
  | elsewhere event =>
    simp only [World.occur] at taken
    split at taken
    · cases taken
    · -- Another session, or the cache, changes neither this session nor the trusted keys.
      rename_i apart
      obtain ⟨initiator, next, rfl⟩ := Option.map_eq_some_iff.mp taken
      have stepped := MPSInitiator.next_step next
      have sameKeys := stepped.trustedIds_eq
      refine ⟨session, ⟨sameKeys.trans safe.same, ?_, ?_, safe.accountable, safe.presents,
        safe.passages⟩, rfl, .stays⟩
      · rw [MultipartySchemaContainer.NamesNonempty, sameKeys]
        exact safe.named
      · exact stepped.elsewhere apart safe.located
  | mishap index mishap =>
    obtain ⟨link, linked, taken⟩ := Option.bind_eq_some_iff.mp taken
    exact safe.suffer lossless ideal honest linked covers taken
  | link index event =>
    obtain ⟨perSigner, found, taken⟩ := Option.bind_eq_some_iff.mp taken
    obtain ⟨link, linked, taken⟩ := Option.bind_eq_some_iff.mp taken
    rw [World.perSigner, safe.located, Option.bind_some] at found
    exact safe.act lossless ideal matching nothing honest found linked covers taken

/-- In a whole run the world stays safe, and its session keeps what it keeps as it proceeds. -/
theorem Safe.run
    (inv : Session → Prop)
    (keeps : ∀ session renewed, session.Accountable libs trusting covered unsignedData schema →
      session.Proceeds libs trusting renewed → inv session → inv renewed)
    (safe : Safe libs signerOf trusting covered portion unsignedData schema world session)
    (initial : inv session) {occurrences : List (Occurrence Signature)}
    (covers : Run.EveryStep (World.occur libs signerOf polls)
      (fun state occurrence => covered → state.LossesCovered libs occurrence) occurrences world)
    (run : Run.after (World.occur libs signerOf polls) occurrences world = some after) :
    ∃ renewed, Safe libs signerOf trusting covered portion unsignedData schema after renewed ∧
      after.session = world.session ∧ inv renewed := by
  -- Each occurrence keeps both, for whatever session stands in the place then.
  have kept : ∀ (state : World PublicKey) (occurrence : Occurrence Signature)
      (next : World PublicKey),
      (∃ session, Safe libs signerOf trusting covered portion unsignedData schema state session ∧
        state.session = world.session ∧ inv session) →
      (covered → state.LossesCovered libs occurrence) →
      state.occur libs signerOf polls occurrence = some next →
      ∃ session, Safe libs signerOf trusting covered portion unsignedData schema next session ∧
        next.session = world.session ∧ inv session := by
    rintro state occurrence next ⟨session, safe, place, holds⟩ covers taken
    obtain ⟨renewed, further, same, proceeds⟩ := safe.occur lossless ideal matching nothing honest
      covers taken
    exact ⟨renewed, further, same.trans place, keeps _ _ safe.accountable proceeds holds⟩
  exact Run.invariant kept ⟨session, safe, rfl, initial⟩ covers run

end Honest

end Steps

/-- The world of a new session is safe. -/
theorem ofSession_safe (lossless : libs.tlv.Lossless) {initiator : MPSInitiator PublicKey}
    (named : initiator.schemaContainer.NamesNonempty) {unsignedData : Data}
    {schema : MultipartySchema} {signingKeyName : Name} {keyLocatorRandomness : Nat}
    {rpcs : Name → RpcDraw} {signers : List Name} {covered : Prop}
    (selected : initiator.schemaContainer.getAvailableSigners schema = .ok signers)
    {session : Session}
    (started : session = initiator.startSession libs unsignedData schema signingKeyName
      keyLocatorRandomness rpcs signers) :
    Safe libs signerOf initiator.schemaContainer covered
      (session.global.toBeSigned.unsignedPortion libs.tlv) unsignedData schema
      (ofSession polls { initiator with sessions := initiator.sessions ++ [session] }
        initiator.sessions.length) session := by
  have located : (initiator.sessions ++ [session])[initiator.sessions.length]? = some session :=
    by simp
  have presents : Presents libs (session.global.toBeSigned.unsignedPortion libs.tlv)
      session.global.toBeSigned := by
    rw [started, Session.startSession_eq]
    exact ⟨rfl, rfl, rfl⟩
  refine ⟨rfl, named, located, ?_, presents, ?_⟩
  · rw [started]
    exact Session.startSession_accountable rfl selected
  · have begun : ∃ (names : List Name), session.rpcs = names.map fun name => Session.newRpc libs
        initiator.initiatorPrefix session.global.toBeSigned session.global.signingKeyName name
          (rpcs name) := by
      rw [started, Session.startSession_eq]
      exact ⟨signers, rfl⟩
    obtain ⟨names, begun⟩ := begun
    have links : (ofSession polls { initiator with sessions := initiator.sessions ++ [session] }
        initiator.sessions.length).links = session.rpcs.map (Link.ofRpc polls) := by
      simp only [ofSession, located]
    rw [links]
    refine ⟨List.length_map _, fun index perSigner link found linked => ?_⟩
    rw [List.getElem?_map, found] at linked
    cases linked
    -- Every remote call is a new one for the session's packet.
    have member := List.mem_of_getElem? found
    rw [begun] at member
    obtain ⟨name, -, rfl⟩ := List.mem_map.mp member
    exact Passage.newRpc lossless presents _ _ name _ polls

/-- In every run of a session with honest signers the world stays safe, and the session keeps what
it keeps as it proceeds. -/
theorem safe_of_run (lossless : libs.tlv.Lossless)
    {validOf : PublicKey → Buffer → Signature} (ideal : libs.bls.Ideal validOf)
    (matching : libs.ssl.Matching) (nothing : libs.tlv.encode [] = [])
    {initiator started : MPSInitiator PublicKey}
    (named : initiator.schemaContainer.NamesNonempty)
    (honest : ∀ name ∈ initiator.schemaContainer.trustedIds.names,
      initiator.schemaContainer.trustedIds.find name =
        some (libs.bls.getPublicKey (signerOf name).secretKey))
    {unsignedData : Data} {schema : MultipartySchema} {signingKeyName : Name}
    {keyLocatorRandomness : Nat} {rpcs : Name → RpcDraw} {signers : List Name}
    (selected : initiator.schemaContainer.getAvailableSigners schema = .ok signers)
    (begun : initiator.next libs (.multiPartySign unsignedData schema signingKeyName
      keyLocatorRandomness rpcs) = some started)
    {occurrences : List (Occurrence Signature)} {world : World PublicKey} {covered : Prop}
    (covers : covered → Run.EveryStep (occur libs signerOf polls) (LossesCovered libs) occurrences
      (ofSession polls started initiator.sessions.length))
    (inv : Session → Prop)
    (keeps : ∀ session renewed, session.Accountable libs initiator.schemaContainer covered
      unsignedData schema → session.Proceeds libs initiator.schemaContainer renewed →
      inv session → inv renewed)
    (initial : inv (initiator.startSession libs unsignedData schema signingKeyName
      keyLocatorRandomness rpcs signers))
    (run : Run.after (occur libs signerOf polls) occurrences
      (ofSession polls started initiator.sessions.length) = some world) :
    ∃ session, world.initiator.sessions[initiator.sessions.length]? = some session ∧
      Safe libs signerOf initiator.schemaContainer covered
        ((initiator.startSession libs unsignedData schema signingKeyName keyLocatorRandomness rpcs
          signers).global.toBeSigned.unsignedPortion libs.tlv) unsignedData schema world session ∧
      inv session := by
  -- The started initiator is the old one with the new session at its end.
  generalize new : initiator.startSession libs unsignedData schema signingKeyName
    keyLocatorRandomness rpcs signers = session at initial ⊢
  obtain ⟨-, same⟩ := MPSInitiator.next_started selected begun
  rw [new] at same
  subst same
  obtain ⟨final, safe, place, holds⟩ := (ofSession_safe lossless named selected new.symm).run
    lossless ideal matching nothing honest inv keeps initial (Run.EveryStep.of_imp covers) run
  have located := safe.located
  have there : world.session = initiator.sessions.length := place
  rw [there] at located
  exact ⟨final, located, safe, holds⟩

/-- What the two parties of a remote call know of each other: the initiator waits for an
acknowledgement, or both have the same keys and the same prefix for results; and if the signer has
signed anything then it is the session's packet. -/
structure Agrees (libs : Libraries SecretKey PublicKey Signature) (signer : BLSSigner SecretKey)
    (toBeSigned : Data) (perSigner : MultiSignPerSignerState) (link : Link) : Prop where
  keys : (∃ request, perSigner.phase = .awaitingAck request) ∨
    ∃ state, link.state = some state ∧ state.aesKey = perSigner.aesKey ∧
      state.hmacKey = perSigner.hmacKey ∧
      perSigner.nextResultName = state.resultPrefix.append (libs.tlv.fromVersion 0)
  signed : ∀ state, link.state = some state → state.code = .ok →
    state.signatureValue = libs.bls.ndnGenBLSSignature libs.tlv signer.secretKey toBeSigned

/-- In every run of a session whose signers are honest, whatever is lost and whatever else occurs,
the two parties of each remote call that is still waited for agree. -/
theorem agrees_despite_mishaps (libs : Libraries SecretKey PublicKey Signature)
    {validOf : PublicKey → Buffer → Signature} (lossless : libs.tlv.Lossless)
    (ideal : libs.bls.Ideal validOf) (matching : libs.ssl.Matching)
    (nothing : libs.tlv.encode [] = []) (signerOf : Name → BLSSigner SecretKey)
    (polls : Name → Nat) {initiator started : MPSInitiator PublicKey}
    (named : initiator.schemaContainer.NamesNonempty)
    (honest : ∀ name ∈ initiator.schemaContainer.trustedIds.names,
      initiator.schemaContainer.trustedIds.find name =
        some (libs.bls.getPublicKey (signerOf name).secretKey))
    {unsignedData : Data} {schema : MultipartySchema} {signingKeyName : Name}
    {keyLocatorRandomness : Nat} {rpcs : Name → RpcDraw} {signers : List Name}
    (selected : initiator.schemaContainer.getAvailableSigners schema = .ok signers)
    (begun : initiator.next libs (.multiPartySign unsignedData schema signingKeyName
      keyLocatorRandomness rpcs) = some started)
    {occurrences : List (Occurrence Signature)} {world : World PublicKey}
    (run : Run.after (occur libs signerOf polls) occurrences
      (ofSession polls started initiator.sessions.length) = some world) :
    ∃ session, world.initiator.sessions[initiator.sessions.length]? = some session ∧
      world.links.length = session.rpcs.length ∧
      ∀ (index : Nat) (perSigner : MultiSignPerSignerState) (link : Link),
        session.rpcs[index]? = some perSigner → world.links[index]? = some link →
        perSigner.live = true → Agrees libs (signerOf perSigner.signerKeyName)
          session.global.toBeSigned perSigner link := by
  obtain ⟨session, located, safe, -⟩ := safe_of_run lossless ideal matching nothing named honest
    selected begun False.elim (fun _ => True) (fun _ _ _ _ => id) trivial run
  refine ⟨session, located, safe.passages.aligned, fun index perSigner link found linked live => ?_⟩
  have portion := safe.presents.portion
  -- The stage of the exchange says what is known.
  cases safe.passages.stands index perSigner link found linked with
  | concluded ended => simp [ended] at live
  | requested phase unpromised presents content requested interest reply parameter unknown =>
    exact ⟨.inl ⟨_, phase⟩, fun state kept => by simp [unknown] at kept⟩
  | acknowledged phase unpromised plain presents content interest kept answering reply parameter =>
    refine ⟨.inl ⟨_, phase⟩, fun state found final => ?_⟩
    cases kept.symm.trans found
    rw [answering.signed final, BLSSigner.pieceFor, ← portion, Bls.ndnGenBLSSignature]
  | exchanging phase promised plain conveys resultName interest kept answering reply parameter =>
    refine ⟨.inr ⟨_, kept, answering.aesKey, answering.hmacKey, ?_⟩, fun state found final => ?_⟩
    · rw [answering.resultPrefix]
      exact resultName
    · cases kept.symm.trans found
      rw [answering.signed final, BLSSigner.pieceFor, ← portion, Bls.ndnGenBLSSignature]

/-- In every run of a session whose signers are honest, whatever packets are lost, whatever timers
fire, whoever refuses, and whatever else the initiator does: what is reported as signed is the
packet that the application has asked for, under different trusted signers who meet the required
patterns of its schema, and the whole schema where every loss is covered; and every verifier with
the signers' keys accepts the packet exactly if its own rules accept the list. -/
theorem attests_despite_mishaps (libs : Libraries SecretKey PublicKey Signature)
    {validOf : PublicKey → Buffer → Signature} (lossless : libs.tlv.Lossless)
    (ideal : libs.bls.Ideal validOf) (matching : libs.ssl.Matching)
    (nothing : libs.tlv.encode [] = []) (signerOf : Name → BLSSigner SecretKey)
    (polls : Name → Nat) {initiator started : MPSInitiator PublicKey}
    (named : initiator.schemaContainer.NamesNonempty)
    (honest : ∀ name ∈ initiator.schemaContainer.trustedIds.names,
      initiator.schemaContainer.trustedIds.find name =
        some (libs.bls.getPublicKey (signerOf name).secretKey))
    {unsignedData : Data} {schema : MultipartySchema} {signingKeyName : Name}
    {keyLocatorRandomness : Nat} {rpcs : Name → RpcDraw} {signers : List Name}
    (selected : initiator.schemaContainer.getAvailableSigners schema = .ok signers)
    (begun : initiator.next libs (.multiPartySign unsignedData schema signingKeyName
      keyLocatorRandomness rpcs) = some started)
    {occurrences : List (Occurrence Signature)} {world : World PublicKey}
    (run : Run.after (occur libs signerOf polls) occurrences
      (ofSession polls started initiator.sessions.length) = some world) :
    ∃ session, world.initiator.sessions[initiator.sessions.length]? = some session ∧
      ∀ data info, .successCb data info ∈ session.history → ∃ signers,
        Attests libs initiator.schemaContainer
          (Run.EveryStep (occur libs signerOf polls) (LossesCovered libs) occurrences
            (ofSession polls started initiator.sessions.length)) unsignedData schema data info
          signers ∧
        ∀ (verifier : MultipartySchemaContainer PublicKey)
          (indeterminate : Indeterminate PublicKey Signature),
          (∀ name ∈ signers, verifier.trustedIds.find name =
            initiator.schemaContainer.trustedIds.find name) →
          BLSVerifier.verify libs.tlv libs.bls indeterminate verifier data info =
            .ok (verifier.passSchema data.name signers) := by
  obtain ⟨session, located, safe, -⟩ := safe_of_run lossless ideal matching nothing named honest
    selected begun id (fun _ => True) (fun _ _ _ _ => id) trivial run
  refine ⟨session, located, fun data info reported => ?_⟩
  -- The session is accountable for every success in its history.
  obtain ⟨before, later, split⟩ := List.append_of_mem reported
  obtain ⟨signers, attests⟩ := safe.accountable.successes before _ later split
  exact ⟨signers, attests, attests.verify⟩

end World

namespace Reference

/-- Who holds the three keys. -/
def holderOf (name : Name) : BLSSigner Nat :=
  if name = spareKey then signer (.ofTexts ["b"]) spareKey 9 else signerOf name

/-- What happens on a link until its signer has delivered. -/
def delivers (index : Nat) : List (Occurrence Nat) :=
  let request : RequestDraw := ⟨[6], List.replicate 32 2, length_salt, 11, [1]⟩
  [.link index (.interest request), .link index (.reply draw), .link index (.fetch draw),
    .link index .parameter, .link index (.fetchResult draw), .link index (.interest request),
    .link index (.reply draw)]

/-- The request to the second signer is lost, and the spare one delivers instead. -/
def lostRequest : List (Occurrence Nat) :=
  [.mishap 1 .interestLost, .mishap 1 (.timeout draw)] ++ delivers 2 ++ delivers 0

/-- The initiator that trusts three keys, with a session for two signers. -/
def spareStarted : MPSInitiator Nat :=
  { spareInitiator with sessions := [spareInitiator.startSession libraries
      (.ofName (.ofTexts ["data"])) bothSigners (.ofTexts ["i", "KEY", "1"]) 4 rpcDraws
      [firstKey, secondKey]] }

/-- The first two keys satisfy the rule. -/
theorem spare_selected : spareInitiator.schemaContainer.getAvailableSigners bothSigners =
    .ok [firstKey, secondKey] := by rfl

theorem spare_begun : spareInitiator.next libraries (sign bothSigners) = some spareStarted := by rfl

/-- The holders have the keys that the initiator trusts. -/
theorem holderOf_holds : ∀ name ∈ spareInitiator.schemaContainer.trustedIds.names,
    spareInitiator.schemaContainer.trustedIds.find name =
      some (libraries.bls.getPublicKey (holderOf name).secretKey) := by
  show ∀ name ∈ spareInitiator.schemaContainer.trustedIds.names.toList, _
  decide

/-- The run of the lost request is possible. -/
theorem lostRequest_possible : (Run.after (World.occur libraries holderOf fun _ => 1) lostRequest
    (World.ofSession (fun _ => 1) spareStarted 0)).isSome = true := by decide +kernel

end Reference

open Reference in
/-- Another signer is asked instead of the one whose request is lost. -/
theorem World.attests_despite_mishaps_lostRequest :
    ∃ world, Run.after (occur libraries holderOf fun _ => 1) lostRequest
        (ofSession (fun _ => 1) spareStarted 0) = some world ∧
      ∃ session, world.initiator.sessions[0]? = some session ∧
        ∀ data info, .successCb data info ∈ session.history → ∃ signers,
          Attests libraries spareInitiator.schemaContainer
            (Run.EveryStep (occur libraries holderOf fun _ => 1) (LossesCovered libraries)
              lostRequest (ofSession (fun _ => 1) spareStarted 0)) (.ofName (.ofTexts ["data"]))
            bothSigners data info signers ∧
          ∀ (verifier : MultipartySchemaContainer Nat) (indeterminate : Indeterminate Nat Nat),
            (∀ name ∈ signers, verifier.trustedIds.find name =
              spareInitiator.schemaContainer.trustedIds.find name) →
            BLSVerifier.verify libraries.tlv libraries.bls indeterminate verifier data info =
              .ok (verifier.passSchema data.name signers) := by
  obtain ⟨world, run⟩ := Option.isSome_iff_exists.mp lostRequest_possible
  exact ⟨world, run, attests_despite_mishaps libraries PacketFormat.tlv_lossless
    (Bls.additive_ideal checksum) openssl_matching rfl holderOf (fun _ => 1) spareInitiator_named
    holderOf_holds spare_selected spare_begun run⟩

open Reference in
/-- The parties agree while another signer is asked instead of the lost one. -/
theorem World.agrees_despite_mishaps_lostRequest :
    ∃ world, Run.after (occur libraries holderOf fun _ => 1) (lostRequest.take 6)
        (ofSession (fun _ => 1) spareStarted 0) = some world ∧
      ∃ session, world.initiator.sessions[0]? = some session ∧
        world.links.length = session.rpcs.length ∧
        ∀ (index : Nat) (perSigner : MultiSignPerSignerState) (link : Link),
          session.rpcs[index]? = some perSigner → world.links[index]? = some link →
          perSigner.live = true → Agrees libraries (holderOf perSigner.signerKeyName)
            session.global.toBeSigned perSigner link := by
  have possible : (Run.after (occur libraries holderOf fun _ => 1) (lostRequest.take 6)
      (ofSession (fun _ => 1) spareStarted 0)).isSome = true := by decide +kernel
  obtain ⟨world, run⟩ := Option.isSome_iff_exists.mp possible
  exact ⟨world, run, agrees_despite_mishaps libraries PacketFormat.tlv_lossless
    (Bls.additive_ideal checksum) openssl_matching rfl holderOf (fun _ => 1) spareInitiator_named
    holderOf_holds spare_selected spare_begun run⟩

open Reference in
/-- The two signers that deliver are handed over. -/
example : (Run.after (World.occur libraries holderOf fun _ => 1) lostRequest
    (World.ofSession (fun _ => 1) spareStarted 0)).map
      (fun world => world.initiator.sessions.map fun session =>
        (session.global.signers, (successes session.history).length)) =
    some [([firstKey, spareKey], 1)] := by
  decide +kernel

end NdnMps
