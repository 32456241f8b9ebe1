import NdnMps.Data.Past
import NdnMps.Initiator.Losses
import NdnMps.Initiator.Validity
import NdnMps.Verifier.Acceptance

/-! What a session hands over: the packet it was asked for, under a list of signers that every
verifier with their keys judges by its own rules. -/

namespace NdnMps

variable {SecretKey PublicKey Signature : Type}

/-- What the holder of a trusted key generates is a valid signature of the key. -/
theorem validPiece_ndnGenBLSSignature (tlv : Tlv) {bls : Bls SecretKey PublicKey Signature}
    {validOf : PublicKey → Buffer → Signature} (ideal : bls.Ideal validOf)
    {trustedIds : TrustedIds PublicKey} {name : Name} {secret : SecretKey}
    (trusted : trustedIds.find name = some (bls.getPublicKey secret)) (toBeSigned : Data) :
    ValidPiece bls trustedIds (toBeSigned.unsignedPortion tlv) name
      (bls.ndnGenBLSSignature tlv secret toBeSigned) :=
  ⟨bls.getPublicKey secret, _, trusted, ideal.deserialize_serialize _,
    (ideal.verify_iff _ _ _).mpr (ideal.sign_valid _ _)⟩

/-- A signer list is read from the packet whose content encodes it. -/
theorem signerListOf_wireEncode {tlv : Tlv} (lossless : tlv.Lossless) {info : Data}
    {signers : List Name}
    (content : info.content = tlv.encode [MpsSignerList.wireEncode tlv signers]) :
    signerListOf tlv info = .ok signers := by
  simp only [signerListOf, Data.getContent, content, Tlv.elements, lossless.parse_encode, Bind.bind,
    Except.bind]
  exact MpsSignerList.wireDecode_wireEncode lossless signers

/-- A packet with the aggregate of the listed signers' signatures, its info packet, and what is
known of the list: different trusted keys that meet the required patterns of the schema, and the
whole schema where the losses are covered. -/
structure Attests (libs : Libraries SecretKey PublicKey Signature)
    (trusting : MultipartySchemaContainer PublicKey) (covered : Prop) (unsignedData : Data)
    (schema : MultipartySchema) (data info : Data) (signers : List Name) : Prop where
  name : data.name = unsignedData.name
  metaInfo : data.metaInfo = unsignedData.metaInfo
  content : data.content = unsignedData.content
  nonempty : signers ≠ []
  nodup : signers.Nodup
  trusted : ∀ name ∈ signers, name ∈ trusting.trustedIds.names
  required : schema.MeetsRequired signers
  passes : covered → schema.passSchema signers = true
  locates : Locates data info
  listed : signerListOf libs.tlv info = .ok signers
  verifies : ∀ indeterminate : Indeterminate PublicKey Signature, ∃ aggKey,
    trusting.aggregateKey libs.bls.publicKeyAdd indeterminate.publicKey signers = .ok aggKey ∧
    libs.bls.ndnBLSVerify libs.tlv indeterminate.signature aggKey data = .ok true

/-- Every verifier with the signers' keys judges the packet by its rules for the list alone. -/
theorem Attests.verify {libs : Libraries SecretKey PublicKey Signature}
    {trusting : MultipartySchemaContainer PublicKey} {covered : Prop} {unsignedData : Data}
    {schema : MultipartySchema} {data info : Data} {signers : List Name}
    (attests : Attests libs trusting covered unsignedData schema data info signers)
    (verifier : MultipartySchemaContainer PublicKey)
    (indeterminate : Indeterminate PublicKey Signature)
    (agrees : ∀ name ∈ signers, verifier.trustedIds.find name = trusting.trustedIds.find name) :
    BLSVerifier.verify libs.tlv libs.bls indeterminate verifier data info =
      .ok (verifier.passSchema data.name signers) := by
  obtain ⟨aggKey, aggregated, valid⟩ := attests.verifies indeterminate
  exact BLSVerifier.verify_of_agrees attests.locates attests.listed aggregated valid agrees

namespace Session

/-- The session signs a given packet under a given schema, and its info packet is found under the
key locator. -/
structure Serves (unsignedData : Data) (schema : MultipartySchema) (session : Session) : Prop where
  schema : session.global.schema = schema
  name : session.global.toBeSigned.name = unsignedData.name
  metaInfo : session.global.toBeSigned.metaInfo = unsignedData.metaInfo
  content : session.global.toBeSigned.content = unsignedData.content
  located : session.global.toBeSigned.keyLocatorName = .ok session.global.signInfo.name

/-- The session signs its packet with valid signatures of qualified signers, and has handed over
nothing else. -/
structure Accountable (libs : Libraries SecretKey PublicKey Signature)
    (trusting : MultipartySchemaContainer PublicKey) (covered : Prop) (unsignedData : Data)
    (schema : MultipartySchema) (session : Session) : Prop where
  serves : session.Serves unsignedData schema
  qualified : session.Qualified trusting.trustedIds
  conforms : covered → session.Conforms
  collects : session.CollectsValid libs trusting
  successes : History.EachTime (AtSuccess fun _ data info => ∃ signers,
    Attests libs trusting covered unsignedData schema data info signers) session.history

/-- A new session signs the packet it is started for. -/
theorem startSession_serves (libs : Libraries SecretKey PublicKey Signature)
    (initiator : MPSInitiator PublicKey) (unsignedData : Data) (schema : MultipartySchema)
    (signingKeyName : Name) (keyLocatorRandomness : Nat) (rpcs : Name → RpcDraw)
    (signers : List Name) :
    (initiator.startSession libs unsignedData schema signingKeyName keyLocatorRandomness rpcs
      signers).Serves unsignedData schema := by
  rw [startSession_eq]
  exact ⟨rfl, rfl, rfl, rfl, rfl⟩

/-- A new session is accountable. -/
theorem startSession_accountable {libs : Libraries SecretKey PublicKey Signature}
    {initiator : MPSInitiator PublicKey} {unsignedData : Data} {schema : MultipartySchema}
    {signingKeyName : Name} {keyLocatorRandomness : Nat} {rpcs : Name → RpcDraw}
    {signers : List Name} {covered : Prop} {trusting : MultipartySchemaContainer PublicKey}
    (same : initiator.schemaContainer.trustedIds = trusting.trustedIds)
    (selected : initiator.schemaContainer.getAvailableSigners schema = .ok signers) :
    (initiator.startSession libs unsignedData schema signingKeyName keyLocatorRandomness rpcs
      signers).Accountable libs trusting covered unsignedData schema := by
  obtain ⟨qualified, conforms⟩ := startSession_qualified selected
  refine ⟨startSession_serves libs initiator _ _ _ _ _ _, same ▸ qualified, fun _ => conforms, ?_,
    startSession_atSuccess initiator _ _ _ _ _ _⟩
  intro pair member
  rw [startSession_eq] at member
  cases signers <;> simp [collectedPairs] at member

section Moves

variable {libs : Libraries SecretKey PublicKey Signature} {initiatorPrefix : Name}
variable {container after trusting : MultipartySchemaContainer PublicKey}
variable {session renewed : Session} {index : Nat} {perSigner : MultiSignPerSignerState}
variable {reaction : Reaction} {unsignedData : Data} {schema : MultipartySchema} {covered : Prop}

/-- No move changes what a session signs. -/
theorem Move.serves
    (move : session.Move libs initiatorPrefix container index perSigner reaction after renewed)
    (serves : session.Serves unsignedData schema) : renewed.Serves unsignedData schema := by
  cases move with
  | @finished piece value nonce aggSig tempSig data info enough aggregated signed announced =>
    subst signed announced
    exact ⟨serves.schema, serves.name, serves.metaInfo, serves.content, serves.located⟩
  | _ => exact ⟨serves.schema, serves.name, serves.metaInfo, serves.content, serves.located⟩

/-- A move that returns no invalid signature hands over only what verifies. -/
theorem Move.successes {validOf : PublicKey → Buffer → Signature} (lossless : libs.tlv.Lossless)
    (ideal : libs.bls.Ideal validOf)
    (move : session.Move libs initiatorPrefix container index perSigner reaction after renewed)
    (found : session.rpcs[index]? = some perSigner) (fits : reaction.Fits perSigner)
    (returns : session.ReturnsValid libs trusting perSigner reaction)
    (accountable : session.Accountable libs trusting covered unsignedData schema) :
    History.EachTime (AtSuccess fun _ data info => ∃ signers,
      Attests libs trusting covered unsignedData schema data info signers) renewed.history := by
  obtain ⟨serves, qualified, conforms, collects, successes⟩ := accountable
  cases move with
  | abandoned => exact successes
  | proceeded other tpm put => exact successes
  | collected missing => exact atSuccess_append successes (by simp)
  | failed needed => exact atSuccess_append (atSuccess_append successes (by simp)) (by simp)
  | replaced draws renews =>
    exact atSuccess_append (atSuccess_append successes (by simp)) (by simp)
  | @finished piece value nonce aggSig tempSig data info enough aggregated signed announced =>
    refine History.eachTime_concat.mpr ⟨atSuccess_append successes (by simp),
      session.global.signers, ?_⟩
    -- All signatures are there, and they are valid ones of the listed signers.
    have valid := collects.concat returns
    have perm : ((collectedPairs session.history ++
        [(perSigner.signerKeyName, piece)]).map Prod.fst).Perm session.global.signers := by
      rw [List.map_append]
      exact (qualified.coherent.last found fits enough).2
    subst signed announced
    refine ⟨serves.name, serves.metaInfo, serves.content, ?_, qualified.coherent.signers_nodup,
      qualified.trusted, serves.schema ▸ qualified.required, fun holds => ?_, ?_, ?_, ?_⟩
    · exact List.ne_nil_of_length_pos (by omega)
    · rw [← serves.schema]
      exact conforms holds
    · exact ⟨_, serves.located, Name.isPrefixOf_self _⟩
    · exact signerListOf_wireEncode lossless rfl
    · intro indeterminate
      obtain ⟨aggKey, signature, keys, sum, verified⟩ := aggregate_verifies ideal (by simp) valid
        perm indeterminate.publicKey aggSig tempSig
      rw [List.map_append, ← qualified.coherent.pieces] at sum
      refine ⟨aggKey, keys, ?_⟩
      rw [Except.ok.inj (aggregated.symm.trans sum)]
      exact ndnBLSVerify_serialize lossless ideal qualified.coherent.hasInfo verified
        indeterminate.signature

/-- A move that returns no invalid signature, and whose loss is covered where losses have to be,
keeps a session accountable. -/
theorem Move.accountable {validOf : PublicKey → Buffer → Signature} (lossless : libs.tlv.Lossless)
    (ideal : libs.bls.Ideal validOf)
    (move : session.Move libs initiatorPrefix container index perSigner reaction after renewed)
    (found : session.rpcs[index]? = some perSigner) (fits : reaction.Fits perSigner)
    (named : container.NamesNonempty) (same : container.trustedIds = trusting.trustedIds)
    (loses : ∀ reason, reaction = .unavailable reason → session.Loses container perSigner renewed)
    (covers : covered → ∀ reason, reaction = .unavailable reason →
      container.LossCovered session.global.schema session.global.signers perSigner.signerKeyName)
    (returns : session.ReturnsValid libs trusting perSigner reaction)
    (accountable : session.Accountable libs trusting covered unsignedData schema) :
    renewed.Accountable libs trusting covered unsignedData schema := by
  have qualified : session.Qualified container.trustedIds := same ▸ accountable.qualified
  have conforms : covered → renewed.Conforms := fun holds =>
    move.conforms named loses (covers holds) found fits qualified.coherent
      (accountable.conforms holds)
  exact ⟨move.serves accountable.serves, same ▸ move.qualified named loses found fits qualified,
    conforms, move.collectsValid returns accountable.collects,
    move.successes lossless ideal found fits returns accountable⟩

end Moves

end Session

namespace MPSInitiator

variable {libs : Libraries SecretKey PublicKey Signature}

/-- Every session is accountable for a packet and a schema that it has been requested for. -/
structure AllAccountable (libs : Libraries SecretKey PublicKey Signature)
    (trusting : MultipartySchemaContainer PublicKey) (covered : Prop)
    (requested : Event Signature → Prop) (initiator : MPSInitiator PublicKey) : Prop where
  same : initiator.schemaContainer.trustedIds = trusting.trustedIds
  named : initiator.schemaContainer.NamesNonempty
  sessions : ∀ session ∈ initiator.sessions,
    ∃ unsignedData schema signingKeyName keyLocatorRandomness rpcs,
      requested (.multiPartySign unsignedData schema signingKeyName keyLocatorRandomness rpcs) ∧
      session.Accountable libs trusting covered unsignedData schema

/-- What is returned is valid for containers with the same trusted keys alike. -/
theorem returnsValid_congr {left right : MultipartySchemaContainer PublicKey}
    (same : left.trustedIds = right.trustedIds) (session : Session)
    (perSigner : MultiSignPerSignerState) (reaction : Reaction) :
    session.ReturnsValid libs left perSigner reaction ↔
      session.ReturnsValid libs right perSigner reaction := by
  cases reaction with
  | collect piece => simp only [Session.ReturnsValid, same]
  | _ => exact Iff.rfl

/-- A step that is requested, returns no invalid signature, and covers its loss where losses have
to be covered keeps all sessions accountable. -/
theorem AllAccountable.step {validOf : PublicKey → Buffer → Signature}
    (lossless : libs.tlv.Lossless) (ideal : libs.bls.Ideal validOf)
    {trusting : MultipartySchemaContainer PublicKey} {covered : Prop}
    {requested : Event Signature → Prop} {initiator after : MPSInitiator PublicKey}
    {event : Event Signature} (all : AllAccountable libs trusting covered requested initiator)
    (wanted : requested event) (returns : ReturnsAreValid libs initiator event)
    (covers : covered → LossesCovered libs initiator event)
    (taken : initiator.next libs event = some after) :
    AllAccountable libs trusting covered requested after := by
  have same := (next_step taken).trustedIds_eq
  refine ⟨same.trans all.same, ?_, ?_⟩
  · rw [MultipartySchemaContainer.NamesNonempty, same]
    exact all.named
  · -- What a session was requested for never changes.
    refine keeps_lost (fun session =>
      ∃ unsignedData schema signingKeyName keyLocatorRandomness rpcs,
      requested (.multiPartySign unsignedData schema signingKeyName keyLocatorRandomness rpcs) ∧
      session.Accountable libs trusting covered unsignedData schema) taken ?_ ?_ all.sessions
    · rintro unsignedData schema signingKeyName keyLocatorRandomness rpcs signers rfl selected
      exact ⟨unsignedData, schema, signingKeyName, keyLocatorRandomness, rpcs, wanted,
        Session.startSession_accountable all.same selected⟩
    · rintro session index perSigner reaction renewed
        ⟨unsignedData, schema, signingKeyName, keyLocatorRandomness, rpcs, asked, accountable⟩
        handled move loses
      refine ⟨unsignedData, schema, signingKeyName, keyLocatorRandomness, rpcs, asked, ?_⟩
      have valid := returns session index perSigner reaction handled
      obtain ⟨_, _, _, -, -, found, reacted⟩ := id handled
      refine move.accountable lossless ideal found (react_fits reacted) all.named all.same loses
        (fun holds reason lost => ?_) ((returnsValid_congr all.same session perSigner reaction).mp
          valid) accountable
      exact covers holds session index perSigner reason (lost ▸ handled)

/-- In every run in which only valid signatures are returned, whatever is lost, whoever is asked
instead, and however many sessions there are: what is reported as signed is a packet that the
application has asked for, under different trusted signers who meet the required patterns of its
schema, and the whole schema where every loss is covered; and every verifier with the signers' keys
accepts the packet exactly if its own rules accept the list. -/
theorem attests_of_run (libs : Libraries SecretKey PublicKey Signature)
    {validOf : PublicKey → Buffer → Signature} (lossless : libs.tlv.Lossless)
    (ideal : libs.bls.Ideal validOf) {initiator final : MPSInitiator PublicKey}
    {events : List (Event Signature)} (named : initiator.schemaContainer.NamesNonempty)
    (unused : initiator.sessions = [])
    (returns : Run.EveryStep (next libs) (ReturnsAreValid libs) events initiator)
    (run : Run.after (next libs) events initiator = some final) :
    ∀ session ∈ final.sessions, ∀ data info, .successCb data info ∈ session.history →
      ∃ unsignedData schema signingKeyName keyLocatorRandomness rpcs signers,
        .multiPartySign unsignedData schema signingKeyName keyLocatorRandomness rpcs ∈ events ∧
        Attests libs initiator.schemaContainer
          (Run.EveryStep (next libs) (LossesCovered libs) events initiator) unsignedData schema data
          info signers ∧
        ∀ (verifier : MultipartySchemaContainer PublicKey)
          (indeterminate : Indeterminate PublicKey Signature),
          (∀ name ∈ signers, verifier.trustedIds.find name =
            initiator.schemaContainer.trustedIds.find name) →
          BLSVerifier.verify libs.tlv libs.bls indeterminate verifier data info =
            .ok (verifier.passSchema data.name signers) := by
  intro session member data info reported
  -- Every event of the run is one that has been requested, and covers its loss if all do.
  have requested : Run.EveryStep (next libs) (fun _ event => event ∈ events) events initiator :=
    Run.everyStep_of_forall (fun _ listed _ => listed) initiator
  have every := requested.and (returns.and (Run.EveryStep.of_imp (id :
    Run.EveryStep (next libs) (LossesCovered libs) events initiator → _)))
  have initial : AllAccountable libs initiator.schemaContainer
      (Run.EveryStep (next libs) (LossesCovered libs) events initiator) (· ∈ events) initiator :=
    ⟨rfl, named, of_unused unused _⟩
  have final := Run.invariant (fun _ _ _ all permitted taken =>
    all.step lossless ideal permitted.1 permitted.2.1 permitted.2.2 taken) initial every run
  obtain ⟨unsignedData, schema, signingKeyName, keyLocatorRandomness, rpcs, asked, accountable⟩ :=
    final.sessions session member
  obtain ⟨before, later, split⟩ := List.append_of_mem reported
  obtain ⟨signers, attests⟩ := accountable.successes before _ later split
  exact ⟨unsignedData, schema, signingKeyName, keyLocatorRandomness, rpcs, signers, asked, attests,
    attests.verify⟩

/-- The signature that an event returns, with its signer and the octets it should sign. -/
def returnedBy (libs : Libraries SecretKey PublicKey Signature)
    (initiator : MPSInitiator PublicKey) :
    Event Signature → Option (Name × Buffer × Buffer)
  | .rpc sessionIndex index event draw => do
    let session ← initiator.sessions[sessionIndex]?
    let perSigner ← session.rpcs[index]?
    match ← react libs initiator.tpm session.global.signingKeyName perSigner draw event with
    | .collect piece =>
      some (perSigner.signerKeyName, piece, session.global.toBeSigned.unsignedPortion libs.tlv)
    | _ => none
  | _ => none

/-- The signatures that the events of a run return. -/
def returned (libs : Libraries SecretKey PublicKey Signature) :
    List (Event Signature) → MPSInitiator PublicKey → List (Name × Buffer × Buffer)
  | [], _ => []
  | event :: rest, initiator => (returnedBy libs initiator event).toList ++
    ((initiator.next libs event).map (returned libs rest)).getD []

/-- All signatures of a run can be checked one by one. -/
theorem returnsAreValid_of_returned {trustedIds : TrustedIds PublicKey}
    {initiator : MPSInitiator PublicKey} {events : List (Event Signature)}
    (same : initiator.schemaContainer.trustedIds = trustedIds)
    (valid : ∀ one ∈ returned libs events initiator,
      ValidPiece libs.bls trustedIds one.2.2 one.1 one.2.1) :
    Run.EveryStep (next libs) (ReturnsAreValid libs) events initiator := by
  -- Induction on the events, each of which returns one signature at most.
  induction events generalizing initiator with
  | nil => trivial
  | cons event rest ih =>
    refine ⟨?_, fun after taken => ?_⟩
    · rintro session index perSigner reaction ⟨sessionIndex, rpcEvent, draw, rfl, located, found,
        reacted⟩
      cases reaction with
      | collect piece =>
        rw [Session.ReturnsValid, same]
        refine valid (perSigner.signerKeyName, piece,
          session.global.toBeSigned.unsignedPortion libs.tlv) (List.mem_append_left _ ?_)
        simp [returnedBy, located, found, reacted]
      | _ => trivial
    · refine ih ((next_step taken).trustedIds_eq.trans same) fun one member => ?_
      exact valid one (List.mem_append_right _ (by rwa [taken]))

end MPSInitiator

namespace Reference

/-- All trusted keys of the initiator have names. -/
theorem initiator_named : initiator.schemaContainer.NamesNonempty := by
  show ∀ name ∈ initiator.schemaContainer.trustedIds.names.toList, name.empty = false
  decide

end Reference

open Reference in
/-- The only signer asked delivers its signature. -/
theorem MPSInitiator.attests_of_run_delivery :
    ∃ final, Run.after (next libraries) (delivery (pieceOf firstSigner)) initiator = some final ∧
      ∀ session ∈ final.sessions, ∀ data info, .successCb data info ∈ session.history →
        ∃ unsignedData schema signingKeyName keyLocatorRandomness rpcs signers,
          .multiPartySign unsignedData schema signingKeyName keyLocatorRandomness rpcs ∈
            delivery (pieceOf firstSigner) ∧
          Attests libraries initiator.schemaContainer
            (Run.EveryStep (next libraries) (LossesCovered libraries)
              (delivery (pieceOf firstSigner)) initiator)
            unsignedData schema data info signers ∧
          ∀ (verifier : MultipartySchemaContainer Nat) (indeterminate : Indeterminate Nat Nat),
            (∀ name ∈ signers, verifier.trustedIds.find name =
              initiator.schemaContainer.trustedIds.find name) →
            BLSVerifier.verify libraries.tlv libraries.bls indeterminate verifier data info =
              .ok (verifier.passSchema data.name signers) := by
  have possible :
      (Run.after (next libraries) (delivery (pieceOf firstSigner)) initiator).isSome = true := by
    decide +kernel
  obtain ⟨final, run⟩ := Option.isSome_iff_exists.mp possible
  -- One signature is returned, and it is the trusted key's own.
  have pieces : returned libraries (delivery (pieceOf firstSigner)) initiator =
      [(firstKey, pieceOf firstSigner, toBeSigned.unsignedPortion libraries.tlv)] := by
    decide +kernel
  have returns : Run.EveryStep (next libraries) (ReturnsAreValid libraries)
      (delivery (pieceOf firstSigner)) initiator := by
    refine returnsAreValid_of_returned rfl fun one member => ?_
    rw [pieces] at member
    cases List.mem_singleton.mp member
    have trusted : initiator.schemaContainer.trustedIds.find firstKey =
        some (libraries.bls.getPublicKey firstSigner.secretKey) := by decide
    exact validPiece_ndnGenBLSSignature libraries.tlv (Bls.additive_ideal checksum) trusted
      toBeSigned
  exact ⟨final, run, attests_of_run libraries PacketFormat.tlv_lossless
    (Bls.additive_ideal checksum) initiator_named rfl returns run⟩

end NdnMps
