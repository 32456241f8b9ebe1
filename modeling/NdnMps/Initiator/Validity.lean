import NdnMps.BlsHelpers.Aggregation
import NdnMps.Initiator.Completion

/-! Whether the packets a session reports as signed verify, and from which pieces they are made. -/

namespace NdnMps

variable {SecretKey PublicKey Signature : Type}

/-- A packet handed over verifies under the aggregate key of the announced signers, and every piece
collected for it is a valid signature of its signer's trusted key. -/
def VerifiesAsAnnounced (libs : Libraries SecretKey PublicKey Signature)
    (container : MultipartySchemaContainer PublicKey) (before : List Call) (data info : Data) :
    Prop :=
  ∃ signers, info.content = libs.tlv.encode [MpsSignerList.wireEncode libs.tlv signers] ∧
    (∀ pair ∈ collectedPairs before, ValidPiece libs.bls container.trustedIds
      (data.unsignedPortion libs.tlv) pair.1 pair.2) ∧
    ∀ indeterminate : Indeterminate PublicKey Signature, ∃ aggKey,
      container.aggregateKey libs.bls.publicKeyAdd indeterminate.publicKey signers = .ok aggKey ∧
      libs.bls.ndnBLSVerify libs.tlv indeterminate.signature aggKey data = .ok true

namespace Session

/-- A signature that completes the session is valid for its signer's trusted key, and so are the
ones collected before. -/
def CompletesValid (libs : Libraries SecretKey PublicKey Signature)
    (container : MultipartySchemaContainer PublicKey) (session : Session)
    (perSigner : MultiSignPerSignerState) : Reaction → Prop
  | .collect piece =>
    session.global.fetchedSignatures.length + 1 = session.global.signers.length →
      ∀ pair ∈ collectedPairs session.history ++ [(perSigner.signerKeyName, piece)],
        ValidPiece libs.bls container.trustedIds
          (session.global.toBeSigned.unsignedPortion libs.tlv) pair.1 pair.2
  | _ => True

/-- A move keeps the successes verifying exactly when it completes no session with a signature
that is not valid. -/
theorem Move.keeps_verifies_iff {libs : Libraries SecretKey PublicKey Signature}
    {validOf : PublicKey → Buffer → Signature} (lossless : libs.tlv.Lossless)
    (ideal : libs.bls.Ideal validOf) {trusting : MultipartySchemaContainer PublicKey}
    {initiatorPrefix : Name} {container after : MultipartySchemaContainer PublicKey}
    {session renewed : Session} {index : Nat} {perSigner : MultiSignPerSignerState}
    {reaction : Reaction}
    (move : session.Move libs initiatorPrefix container index perSigner reaction after renewed)
    (found : session.rpcs[index]? = some perSigner) (fits : reaction.Fits perSigner)
    (coherent : session.Coherent)
    (before : History.EachTime (AtSuccess (VerifiesAsAnnounced libs trusting)) session.history) :
    History.EachTime (AtSuccess (VerifiesAsAnnounced libs trusting)) renewed.history ↔
      session.CompletesValid libs trusting perSigner reaction := by
  -- Only a move that finishes the session reports a success.
  cases move with
  | abandoned => exact ⟨fun _ => trivial, fun _ => before⟩
  | proceeded other tpm put => exact ⟨fun _ => trivial, fun _ => before⟩
  | collected missing =>
    exact ⟨fun _ enough => absurd enough missing, fun _ => atSuccess_append before (by simp)⟩
  | @finished piece value nonce aggSig tempSig data info enough aggregated signed announced =>
    have pairs := collectedPairs_collected session.history index perSigner.signerKeyName piece
    have portion : data.unsignedPortion libs.tlv =
        session.global.toBeSigned.unsignedPortion libs.tlv := by
      rw [signed]
      rfl
    have earlier : History.EachTime (AtSuccess (VerifiesAsAnnounced libs trusting))
        (session.history ++ [.collected index perSigner.signerKeyName piece]) :=
      atSuccess_append before (by simp)
    rw [History.eachTime_concat, and_iff_right earlier]
    simp only [AtSuccess, VerifiesAsAnnounced, CompletesValid, pairs, portion]
    constructor
    · rintro ⟨signers, -, valid, -⟩ -
      exact valid
    · intro completes
      have valid := completes enough
      refine ⟨session.global.signers, ?_, valid, fun indeterminate => ?_⟩
      · rw [announced]
        rfl
      · -- All pieces are valid, so their aggregate verifies under the sum of their keys.
        have perm : ((collectedPairs session.history ++
            [(perSigner.signerKeyName, piece)]).map Prod.fst).Perm session.global.signers := by
          rw [List.map_append]
          exact (coherent.last found fits enough).2
        obtain ⟨aggKey, signature, keys, sum, verified⟩ := aggregate_verifies ideal (by simp) valid
          perm indeterminate.publicKey aggSig tempSig
        rw [List.map_append, ← coherent.pieces] at sum
        have value := Except.ok.inj (aggregated.symm.trans sum)
        refine ⟨aggKey, keys, ?_⟩
        rw [signed, value]
        exact ndnBLSVerify_serialize lossless ideal coherent.hasInfo verified
          indeterminate.signature
  | failed needed =>
    exact ⟨fun _ => trivial, fun _ =>
      atSuccess_append (atSuccess_append before (by simp)) (by simp)⟩
  | replaced draws renews =>
    exact ⟨fun _ => trivial, fun _ =>
      atSuccess_append (atSuccess_append before (by simp)) (by simp)⟩

/-- Every signature collected so far is valid for its signer's trusted key. -/
def CollectsValid (libs : Libraries SecretKey PublicKey Signature)
    (container : MultipartySchemaContainer PublicKey) (session : Session) : Prop :=
  ∀ pair ∈ collectedPairs session.history, ValidPiece libs.bls container.trustedIds
    (session.global.toBeSigned.unsignedPortion libs.tlv) pair.1 pair.2

/-- A returned signature is valid for its signer's trusted key. -/
def ReturnsValid (libs : Libraries SecretKey PublicKey Signature)
    (container : MultipartySchemaContainer PublicKey) (session : Session)
    (perSigner : MultiSignPerSignerState) : Reaction → Prop
  | .collect piece => ValidPiece libs.bls container.trustedIds
      (session.global.toBeSigned.unsignedPortion libs.tlv) perSigner.signerKeyName piece
  | _ => True

/-- A session with valid signatures that gets a valid one has valid signatures. -/
theorem CollectsValid.concat {libs : Libraries SecretKey PublicKey Signature}
    {container : MultipartySchemaContainer PublicKey} {session : Session}
    (collects : session.CollectsValid libs container) {perSigner : MultiSignPerSignerState}
    {piece : Buffer} (returns : session.ReturnsValid libs container perSigner (.collect piece)) :
    ∀ pair ∈ collectedPairs session.history ++ [(perSigner.signerKeyName, piece)],
      ValidPiece libs.bls container.trustedIds
        (session.global.toBeSigned.unsignedPortion libs.tlv) pair.1 pair.2 := by
  -- The returned piece is the only new one.
  intro pair member
  rcases List.mem_append.mp member with old | new
  · exact collects pair old
  · rw [List.mem_singleton.mp new]
    exact returns

/-- A move that stores no invalid signature keeps all stored signatures valid. -/
theorem Move.collectsValid {libs : Libraries SecretKey PublicKey Signature}
    {trusting : MultipartySchemaContainer PublicKey} {initiatorPrefix : Name}
    {container after : MultipartySchemaContainer PublicKey} {session renewed : Session}
    {index : Nat} {perSigner : MultiSignPerSignerState} {reaction : Reaction}
    (move : session.Move libs initiatorPrefix container index perSigner reaction after renewed)
    (returns : session.ReturnsValid libs trusting perSigner reaction)
    (collects : session.CollectsValid libs trusting) : renewed.CollectsValid libs trusting := by
  cases move with
  | abandoned => exact collects
  | proceeded other tpm put => exact collects
  | @collected piece missing =>
    have pairs := collectedPairs_collected session.history index perSigner.signerKeyName piece
    simp only [CollectsValid, pairs]
    exact collects.concat returns
  | @finished piece value nonce aggSig tempSig data info enough aggregated signed announced =>
    have pairs : collectedPairs (session.history ++
        [.collected index perSigner.signerKeyName piece] ++ [.successCb data info]) =
          collectedPairs session.history ++ [(perSigner.signerKeyName, piece)] := by
      rw [collectedPairs_successCb, collectedPairs_collected]
    -- The signature value is no part of what the pieces sign.
    have portion : data.unsignedPortion libs.tlv =
        session.global.toBeSigned.unsignedPortion libs.tlv := by
      rw [signed]
      rfl
    simp only [CollectsValid, pairs, portion]
    exact collects.concat returns
  | @failed reason text needed =>
    have pairs : collectedPairs (session.history ++ [.onUnavailableSigner index
        perSigner.signerKeyName] ++ [.failureCb text]) = collectedPairs session.history := by
      simp [collectedPairs]
    simp only [CollectsValid, pairs]
    exact collects
  | @replaced reason newSigners diffSigners draws renews =>
    have pairs := collectedPairs_replaced session.history index perSigner.signerKeyName diffSigners
    simp only [CollectsValid, pairs]
    exact collects

end Session

namespace MPSInitiator

/-- No session is completed with a signature that is not valid. -/
def CompletionsAreValid (libs : Libraries SecretKey PublicKey Signature)
    (initiator : MPSInitiator PublicKey) (event : Event Signature) : Prop :=
  ∀ session index perSigner reaction,
    initiator.Handles libs event session index perSigner reaction →
    session.CompletesValid libs initiator.schemaContainer perSigner reaction

/-- Every returned signature is valid for its signer's trusted key. -/
def ReturnsAreValid (libs : Libraries SecretKey PublicKey Signature)
    (initiator : MPSInitiator PublicKey) (event : Event Signature) : Prop :=
  ∀ session index perSigner reaction,
    initiator.Handles libs event session index perSigner reaction →
    session.ReturnsValid libs initiator.schemaContainer perSigner reaction

/-- Where only valid signatures are returned, no session is completed with an invalid one. -/
theorem completionsAreValid_of_returns (libs : Libraries SecretKey PublicKey Signature)
    {initiator : MPSInitiator PublicKey} {events : List (Event Signature)}
    (unused : initiator.sessions = [])
    (returns : Run.EveryStep (next libs) (ReturnsAreValid libs) events initiator) :
    Run.EveryStep (next libs) (CompletionsAreValid libs) events initiator := by
  -- Every session has collected valid pieces only, and the last piece is one of them.
  refine Run.EveryStep.imp
    (fun state => ∀ session ∈ state.sessions,
      session.CollectsValid libs state.schemaContainer) ?_ ?_ ?_ returns
  · intro state event after collects returns taken
    refine (next_step taken).keeps (fun container session => session.CollectsValid libs container)
      ?_ ?_ ?_ collects
    · intro unsignedData schema signingKeyName keyLocatorRandomness rpcs signers _ pair member
      rw [Session.startSession_eq] at member
      cases signers <;> simp [collectedPairs] at member
    · intro session valid
      simpa only [Session.CollectsValid, (next_step taken).trustedIds_eq] using valid
    · intro session index perSigner reaction renewed valid handled move
      have kept := move.collectsValid (returns session index perSigner reaction handled) valid
      simpa only [Session.CollectsValid, (next_step taken).trustedIds_eq] using kept
  · intro state event collects returns session index perSigner reaction handled
    have member : session ∈ state.sessions := by
      obtain ⟨_, _, _, -, located, -, -⟩ := handled
      exact List.mem_of_getElem? located
    cases reaction with
    | collect piece =>
      exact fun _ => (collects session member).concat (returns session index perSigner _ handled)
    | _ => trivial
  · exact of_unused unused _

/-- A condition on the trusted keys is the same for containers with the same trusted keys. -/
theorem completesValid_congr {libs : Libraries SecretKey PublicKey Signature}
    {left right : MultipartySchemaContainer PublicKey} (same : left.trustedIds = right.trustedIds)
    (session : Session) (perSigner : MultiSignPerSignerState) (reaction : Reaction) :
    session.CompletesValid libs left perSigner reaction ↔
      session.CompletesValid libs right perSigner reaction := by
  cases reaction with
  | collect piece => simp only [Session.CompletesValid, same]
  | _ => exact Iff.rfl

/-- In a run every packet reported as signed verifies under the aggregate key of its announced
signers, and is made of valid pieces only, exactly when no session is completed by or after a
piece that is not valid; so it does whenever all returned signatures are valid. -/
theorem verifies_iff (libs : Libraries SecretKey PublicKey Signature)
    {validOf : PublicKey → Buffer → Signature} (lossless : libs.tlv.Lossless)
    (ideal : libs.bls.Ideal validOf) {initiator final : MPSInitiator PublicKey}
    {events : List (Event Signature)} (unused : initiator.sessions = [])
    (run : Run.after (next libs) events initiator = some final) :
    (Run.EveryState (next libs)
        (fun state => ∀ session ∈ state.sessions, History.EachTime
          (AtSuccess (VerifiesAsAnnounced libs initiator.schemaContainer)) session.history)
        events initiator ↔
      Run.EveryStep (next libs) (CompletionsAreValid libs) events initiator) ∧
    (Run.EveryStep (next libs) (ReturnsAreValid libs) events initiator →
      Run.EveryStep (next libs) (CompletionsAreValid libs) events initiator) := by
  refine ⟨?_, completionsAreValid_of_returns libs unused⟩
  -- The trusted keys stay those of the initiator at the start.
  refine Run.everyState_iff_everyStep
    (fun state => (∀ session ∈ state.sessions, session.Coherent) ∧
      state.schemaContainer.trustedIds = initiator.schemaContainer.trustedIds)
    (fun state event after kept taken => ⟨(next_step taken).coherent kept.1,
      (next_step taken).trustedIds_eq.trans kept.2⟩) ?_ ⟨of_unused unused _, rfl⟩
    (of_unused unused _) run
  rintro state event after ⟨coherent, same⟩ verifies taken
  have decided := (next_step taken).decides
    (fun session => History.EachTime
      (AtSuccess (VerifiesAsAnnounced libs initiator.schemaContainer)) session.history)
    (fun session _ perSigner reaction =>
      session.CompletesValid libs initiator.schemaContainer perSigner reaction)
    (fun _ _ _ _ _ _ _ => Session.startSession_atSuccess state _ _ _ _ _ _)
    (fun _ _ _ _ => trivial)
    (fun session index perSigner reaction renewed member found fits move =>
      move.keeps_verifies_iff lossless ideal found fits (coherent session member)
        (verifies session member))
    verifies
  refine decided.trans ?_
  simp only [CompletionsAreValid, completesValid_congr same]

end MPSInitiator

namespace Reference

/-- The only signer asked delivers some octets. -/
def delivery (piece : Buffer) : List (Event Nat) :=
  sign eitherSigner :: deliver 0 firstSigner piece

end Reference

open Reference in
/-- The equivalence for the run in which the signer delivers one octet. -/
theorem MPSInitiator.verifies_iff_delivery :
    (Run.EveryState (next libraries)
        (fun state => ∀ session ∈ state.sessions, History.EachTime
          (AtSuccess (VerifiesAsAnnounced libraries initiator.schemaContainer)) session.history)
        (delivery [1]) initiator ↔
      Run.EveryStep (next libraries) (CompletionsAreValid libraries) (delivery [1]) initiator) ∧
    (Run.EveryStep (next libraries) (ReturnsAreValid libraries) (delivery [1]) initiator →
      Run.EveryStep (next libraries) (CompletionsAreValid libraries) (delivery [1])
        initiator) := by
  have possible : (Run.after (next libraries) (delivery [1]) initiator).isSome = true := by
    decide +kernel
  obtain ⟨final, run⟩ := Option.isSome_iff_exists.mp possible
  exact verifies_iff libraries PacketFormat.tlv_lossless (Bls.additive_ideal checksum) rfl run

namespace Reference

/-- Whether a packet verifies under the aggregate key of the announced signers. -/
def verifiesAnnounced (packets : Data × Data) : Option Bool :=
  match signerListOf libraries.tlv packets.2 with
  | .error _ => none
  | .ok signers =>
    match initiator.schemaContainer.aggregateKey libraries.bls.publicKeyAdd 0 signers with
    | .error _ => none
    | .ok aggKey => (libraries.bls.ndnBLSVerify libraries.tlv 0 aggKey packets.1).toOption

end Reference

open Reference in
/-- A signature that is not the signer's is aggregated and reported as a success, and the packet
does not verify. -/
theorem MPSInitiator.invalid_success :
    ∃ final session, Run.after (next libraries) (delivery [1]) initiator = some final ∧
      session ∈ final.sessions ∧
      (firstSuccess session.history).bind verifiesAnnounced = some false := by
  have ran : (Run.after (next libraries) (delivery [1]) initiator).map
      (fun final => final.sessions.map fun session =>
        (firstSuccess session.history).bind verifiesAnnounced) = some [some false] := by
    decide +kernel
  exact exists_session ran List.mem_cons_self

end NdnMps
