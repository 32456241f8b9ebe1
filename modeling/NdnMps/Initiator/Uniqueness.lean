import NdnMps.Initiator.Sessions
import NdnMps.Libraries.Reference
import NdnMps.Signer

/-! A session asks every key at most once and aggregates one signature of each listed key. -/

namespace NdnMps

variable {SecretKey PublicKey Signature : Type}

/-- The aggregate handed over consists of one signature of each key in the info packet's list. -/
def AggregatesOnePerKey (libs : Libraries SecretKey PublicKey Signature) (before : List Call)
    (data info : Data) : Prop :=
  ∃ signers value aggSig tempSig,
    info.content = libs.tlv.encode [MpsSignerList.wireEncode libs.tlv signers] ∧
    ((collectedPairs before).map Prod.fst).Perm signers ∧ signers.Nodup ∧
    libs.bls.ndnBLSAggregateSignature aggSig tempSig ((collectedPairs before).map Prod.snd) =
      .ok value ∧
    data.signatureValue = some value

namespace Session

/-- Every key is asked at most once, the signatures come from different listed keys, and every
aggregate consists of one signature of each key that is announced. -/
structure OncePerKey (libs : Libraries SecretKey PublicKey Signature) (session : Session) :
    Prop where
  contacted_nodup : (contactedKeys session.history).Nodup
  pieces : session.global.fetchedSignatures = (collectedPairs session.history).map Prod.snd
  collected_nodup : session.collectedKeys.Nodup
  collected_listed : ∀ name ∈ session.collectedKeys, name ∈ session.global.signers
  aggregated : History.EachTime (AtSuccess (AggregatesOnePerKey libs)) session.history

/-- Every key asked so far is still listed or known to be unavailable, and was asked once. -/
structure AsksOnce (container : MultipartySchemaContainer PublicKey) (session : Session) :
    Prop where
  nodup : (contactedKeys session.history).Nodup
  accounted : ∀ name ∈ contactedKeys session.history,
    name ∈ session.global.signers ∨ name ∈ container.unavailableSigners

/-- A session that contacts nobody new and keeps its signers asks nobody twice. -/
theorem AsksOnce.of_same {container after : MultipartySchemaContainer PublicKey}
    {session renewed : Session} (once : session.AsksOnce container)
    (contacted : contactedKeys renewed.history = contactedKeys session.history)
    (signers : renewed.global.signers = session.global.signers)
    (grown : ∀ name ∈ container.unavailableSigners, name ∈ after.unavailableSigners) :
    renewed.AsksOnce after := by
  refine ⟨contacted ▸ once.nodup, fun name member => ?_⟩
  rw [contacted] at member
  rw [signers]
  exact (once.accounted name member).imp_right (grown name)

/-- Every move keeps a session from asking twice. -/
theorem Move.asksOnce {libs : Libraries SecretKey PublicKey Signature} {initiatorPrefix : Name}
    {container after : MultipartySchemaContainer PublicKey} {session renewed : Session}
    {index : Nat} {perSigner : MultiSignPerSignerState} {reaction : Reaction}
    (move : session.Move libs initiatorPrefix container index perSigner reaction after renewed)
    (once : session.AsksOnce container) : renewed.AsksOnce after := by
  have grown : ∀ name ∈ container.unavailableSigners, name ∈ after.unavailableSigners :=
    fun _ unavailable => move.unavailable_mono unavailable
  -- Only a replacement asks anybody.
  cases move with
  | abandoned => exact once.of_same rfl rfl grown
  | proceeded other tpm put => exact once.of_same rfl rfl grown
  | collected missing => exact once.of_same (by simp [contactedKeys]) rfl grown
  | finished enough aggregated signed announced =>
    exact once.of_same (by simp [contactedKeys]) rfl grown
  | failed needed => exact once.of_same (by simp [contactedKeys]) rfl grown
  | @replaced reason newSigners diffSigners draws renews =>
    have contacted : contactedKeys (session.history ++
        [.onUnavailableSigner index perSigner.signerKeyName] ++ diffSigners.map .performRPC) =
          contactedKeys session.history ++ diffSigners := by
      rw [contactedKeys_append, contactedKeys_append, contactedKeys_performRPC]
      exact congrArg (· ++ diffSigners) (List.append_nil _)
    refine ⟨?_, fun name member => ?_⟩
    · -- A new key is available and was not listed, so it has not been asked before.
      simp only [contacted]
      refine List.Nodup.append once.nodup renews.diff_nodup fun name asked new => ?_
      rcases once.accounted name asked with listed | unavailable
      · exact renews.fresh name new listed
      · have available := (MultipartySchemaContainer.mem_available _).mp
          (renews.available name new)
        exact available.2 (grown name unavailable)
    · simp only [contacted] at member
      simp only [renews.mem_iff]
      rcases List.mem_append.mp member with asked | new
      · by_cases lost : name = perSigner.signerKeyName
        · exact .inr (SortedSet.mem_insert.mpr (.inl lost))
        · rcases once.accounted name asked with listed | unavailable
          · exact .inl (.inl ⟨lost, listed⟩)
          · exact .inr (grown name unavailable)
      · exact .inl (.inr new)

/-- A new session has asked every signer once. -/
theorem startSession_asksOnce {libs : Libraries SecretKey PublicKey Signature}
    {initiator : MPSInitiator PublicKey} {unsignedData : Data} {schema : MultipartySchema}
    {signingKeyName : Name} {keyLocatorRandomness : Nat} {rpcs : Name → RpcDraw}
    {signers : List Name}
    (selected : initiator.schemaContainer.getAvailableSigners schema = .ok signers) :
    (initiator.startSession libs unsignedData schema signingKeyName keyLocatorRandomness rpcs
      signers).AsksOnce initiator.schemaContainer := by
  -- The selection lists nobody twice.
  obtain ⟨distinct, -, -⟩ := MultipartySchemaContainer.getAvailableSigners_sound selected
  have contacted : contactedKeys ((if signers.isEmpty then
      [.failureCb "No sufficient number of known signers."] else []) ++
        signers.map .performRPC) = signers := by
    rw [contactedKeys_append, contactedKeys_performRPC]
    split <;> rfl
  rw [startSession_eq]
  refine ⟨?_, fun name member => ?_⟩
  · simp only [contacted]
    exact distinct
  · simp only [contacted] at member
    exact .inl member

/-- Every move of a coherent session keeps the statement about aggregates. -/
theorem Move.aggregated {libs : Libraries SecretKey PublicKey Signature}
    {initiatorPrefix : Name} {container after : MultipartySchemaContainer PublicKey}
    {session renewed : Session} {index : Nat} {perSigner : MultiSignPerSignerState}
    {reaction : Reaction}
    (move : session.Move libs initiatorPrefix container index perSigner reaction after renewed)
    (found : session.rpcs[index]? = some perSigner) (fits : reaction.Fits perSigner)
    (coherent : session.Coherent)
    (aggregated : History.EachTime (AtSuccess (AggregatesOnePerKey libs)) session.history) :
    History.EachTime (AtSuccess (AggregatesOnePerKey libs)) renewed.history := by
  cases move with
  | abandoned => exact aggregated
  | proceeded other tpm put => exact aggregated
  | collected missing => exact atSuccess_append aggregated (by simp)
  | @finished piece value nonce aggSig tempSig data info enough agg signed announced =>
    refine History.eachTime_concat.mpr ⟨atSuccess_append aggregated (by simp), ?_⟩
    -- The collected keys are now as many as the signers, so they are exactly these.
    have pairs := collectedPairs_collected session.history index perSigner.signerKeyName piece
    refine ⟨session.global.signers, value, aggSig, tempSig, ?_, ?_, coherent.signers_nodup, ?_, ?_⟩
    · rw [announced]
      rfl
    · rw [pairs, List.map_append]
      exact (coherent.last found fits enough).2
    · rw [pairs, List.map_append, ← coherent.pieces]
      exact agg
    · rw [signed]
  | failed needed => exact atSuccess_append (atSuccess_append aggregated (by simp)) (by simp)
  | replaced draws renews =>
    exact atSuccess_append (atSuccess_append aggregated (by simp)) (by simp)

end Session

namespace MPSInitiator

/-- The facts about all sessions that carry the induction over a run. -/
def AllOncePerKey (libs : Libraries SecretKey PublicKey Signature)
    (initiator : MPSInitiator PublicKey) : Prop :=
  ∀ session ∈ initiator.sessions, session.Coherent ∧
    session.AsksOnce initiator.schemaContainer ∧
    History.EachTime (AtSuccess (AggregatesOnePerKey libs)) session.history

/-- Unless the cache is reset, every step keeps the facts about all sessions. -/
theorem Step.allOncePerKey {libs : Libraries SecretKey PublicKey Signature}
    {initiator after : MPSInitiator PublicKey} {event : Event Signature}
    (step : Step libs initiator event after) (noReset : event ≠ .resetCachedUnavailableSigners)
    (all : initiator.AllOncePerKey libs) : after.AllOncePerKey libs := by
  -- The marks of other sessions only grow, as long as nobody resets them.
  refine step.keeps (fun container session => session.Coherent ∧ session.AsksOnce container ∧
    History.EachTime (AtSuccess (AggregatesOnePerKey libs)) session.history) ?_ ?_ ?_ all
  · intro unsignedData schema signingKeyName keyLocatorRandomness rpcs signers selected
    exact ⟨Session.startSession_coherent selected, Session.startSession_asksOnce selected,
      Session.startSession_atSuccess initiator _ _ _ _ _ _⟩
  · rintro session ⟨coherent, once, aggregated⟩
    refine ⟨coherent, once.of_same rfl rfl fun name unavailable => ?_, aggregated⟩
    cases step with
    | reset => exact absurd rfl noReset
    | moved located found reacted move sessions => exact move.unavailable_mono unavailable
    | _ => exact unavailable
  · rintro session index perSigner reaction renewed ⟨coherent, once, aggregated⟩
      ⟨_, _, _, -, -, found, reacted⟩ move
    exact ⟨move.coherent found (react_fits reacted) coherent, move.asksOnce once,
      move.aggregated found (react_fits reacted) coherent aggregated⟩

/-- In every run without a reset, each session asks every key at most once, has signatures of
different listed keys, and aggregates exactly one signature of each key it announces. -/
theorem oncePerKey_of_run (libs : Libraries SecretKey PublicKey Signature)
    {initiator final : MPSInitiator PublicKey} {events : List (Event Signature)}
    (unused : initiator.sessions = [])
    (noReset : ∀ event ∈ events, event ≠ .resetCachedUnavailableSigners)
    (run : Run.after (next libs) events initiator = some final) :
    ∀ session ∈ final.sessions, session.OncePerKey libs := by
  have initial : initiator.AllOncePerKey libs := of_unused unused _
  -- The step that could ask a key again is the reset, which the run has not.
  have final := Run.invariant
    (fun state event after all permitted taken => (next_step taken).allOncePerKey permitted all)
    initial (Run.everyStep_of_forall (fun event member _ => noReset event member) initiator) run
  intro session member
  obtain ⟨coherent, once, aggregated⟩ := final session member
  exact ⟨once.nodup, coherent.pieces, (List.nodup_append.mp coherent.distinct).2.1,
    fun name collected => coherent.listed name (List.mem_append_right _ collected), aggregated⟩

end MPSInitiator

namespace Reference

/-- The same randomness for every remote call. -/
def rpcDraws (_ : Name) : RpcDraw := ⟨5, [3], [9]⟩

/-- The same randomness for every callback. -/
def draw : Draw Nat := ⟨List.replicate 32 0, rfl, List.replicate 8 1, [9], 0, 0, rpcDraws⟩

/-- The key names of two signers. -/
def firstKey : Name := .ofTexts ["a", "KEY", "1"]

def secondKey : Name := .ofTexts ["b", "KEY", "1"]

/-- An initiator that trusts both signers and has not started a session. -/
def initiator : MPSInitiator Nat where
  initiatorPrefix := .ofTexts ["i"]
  schemaContainer := ⟨[], ⟨[(firstKey, 7), (secondKey, 8)], by decide⟩, .empty⟩
  tpm := []
  sessions := []
  liveness := .running

/-- The key the initiator signs its Interests with. -/
def signingKey : Name := .ofTexts ["i", "KEY", "1"]

/-- The event that starts a session for a schema. -/
def sign (schema : MultipartySchema) : Event Nat :=
  .multiPartySign (.ofName (.ofTexts ["data"])) schema signingKey 4 rpcDraws

/-- The event that a remote call of the first session meets. -/
def meet (rpc : Nat) (event : RpcEvent) : Event Nat := .rpc 0 rpc event draw

/-- A rule that asks for one of both signers. -/
def eitherSigner : MultipartySchema :=
  ⟨.ofName (.ofTexts ["data"]), "rule", [], [.ofName firstKey, .ofName secondKey], 1⟩

/-- The packet the session started by `sign` wants signed. -/
def toBeSigned : Data :=
  (prepareUnfinishedDataAndInfoData libraries.tlv (.ofName (.ofTexts ["data"]))
    initiator.initiatorPrefix 4).1

/-- The remote call that the session starts for a signer. -/
def request (signerKeyName : Name) : MultiSignPerSignerState :=
  Session.newRpc libraries initiator.initiatorPrefix toBeSigned signingKey signerKeyName
    (rpcDraws signerKeyName)

/-- A signer that accepts everything. -/
def signer (signerPrefix keyName : Name) (secretKey : Nat) : BLSSigner Nat where
  signerPrefix := signerPrefix
  secretKey := secretKey
  keyName := keyName
  verifyToBeSigned _ := true
  verifySignRequest _ := true

/-- The two signers. -/
def firstSigner : BLSSigner Nat := signer (.ofTexts ["a"]) firstKey 7

def secondSigner : BLSSigner Nat := signer (.ofTexts ["b"]) secondKey 8

/-- The acknowledgement and the result that a signer sends, each under the name it is asked for. -/
def serve (signer : BLSSigner Nat) (piece : Buffer) (perSigner : MultiSignPerSignerState) :
    Option (Data × Data) :=
  match perSigner.phase with
  | .awaitingAck pending =>
    match signer.onSignRequest libraries pending
      ⟨[6], List.replicate 32 2, length_salt, 11, [1]⟩ with
    | .ok (.inr accepted) =>
      match resultFetchInterest libraries signingKey draw.nonce
        (accepted.state.resultPrefix.append (libraries.tlv.fromVersion 0)) with
      | .ok interest =>
        let state := { accepted.state with code := .ok, signatureValue := piece }
        (signer.onResultInterest libraries [] state interest [1]).map fun answered =>
          (accepted.ack, answered.result)
      | .error _ => none
    | _ => none
  | _ => none

/-- Data without content under the name of the Interest that a remote call waits for, as a signer
that refuses sends it. -/
def emptyReply (perSigner : MultiSignPerSignerState) : Data :=
  match perSigner.phase with
  | .awaitingAck pending | .awaitingResult pending => .ofName pending.name
  | _ => .ofName .root

/-- The replies of a signer with some octets for its signature. -/
def replies (signer : BLSSigner Nat) (piece : Buffer) : Data × Data :=
  let perSigner := request signer.keyName
  (serve signer piece perSigner).getD (emptyReply perSigner, emptyReply perSigner)

/-- The remote call of an index delivers some octets of its signer. -/
def deliver (rpc : Nat) (signer : BLSSigner Nat) (piece : Buffer) : List (Event Nat) :=
  [meet rpc (.data (replies signer piece).1), meet rpc .fetchResult,
    meet rpc (.data (replies signer piece).2)]

/-- The signature of a signer. -/
def pieceOf (signer : BLSSigner Nat) : Buffer :=
  libraries.bls.ndnGenBLSSignature libraries.tlv signer.secretKey toBeSigned

/-- The packets that the success callback receives first. -/
def firstSuccess (history : List Call) : Option (Data × Data) :=
  history.findSome? fun
    | .successCb data info => some (data, info)
    | _ => none

/-- The first signer is lost, and the second one signs in its place. -/
def replacement : List (Event Nat) :=
  sign eitherSigner :: meet 0 .timeout :: deliver 1 secondSigner (pieceOf secondSigner)

end Reference

open Reference in
/-- A session replaces its signer and then succeeds, and has asked each of both once. -/
theorem MPSInitiator.oncePerKey_of_run_replaced :
    ∃ final, Run.after (next libraries) replacement initiator = some final ∧
      (final.sessions.map fun session => (contactedKeys session.history, session.collectedKeys,
        (firstSuccess session.history).isSome)) = [([firstKey, secondKey], [secondKey], true)] ∧
      ∀ session ∈ final.sessions, session.OncePerKey libraries := by
  have ran : (Run.after (next libraries) replacement initiator).map (fun final =>
      final.sessions.map fun session => (contactedKeys session.history, session.collectedKeys,
        (firstSuccess session.history).isSome)) =
      some [([firstKey, secondKey], [secondKey], true)] := by decide +kernel
  obtain ⟨final, run, counts⟩ := Option.map_eq_some_iff.mp ran
  exact ⟨final, run, counts,
    oncePerKey_of_run libraries rfl (by simp [replacement, deliver, sign, meet]) run⟩

end NdnMps
