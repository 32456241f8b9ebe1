import NdnMps.Initiator.Handover
import NdnMps.Signer

/-! Whether a session that has every signature it asks for has called back. -/

namespace NdnMps

variable {SecretKey PublicKey Signature : Type}

namespace Session

/-- Every listed signer has delivered its signature. -/
def Complete (session : Session) : Prop :=
  ∀ name ∈ session.global.signers, name ∈ session.collectedKeys

/-- A callback has been invoked. -/
def HasCalledBack (session : Session) : Prop := session.HasSucceeded ∨ session.HasFailed

/-- A complete session has called back. -/
def Reports (session : Session) : Prop := session.Complete → session.HasCalledBack

/-- The lost signer is the only one without a signature, and nobody has to take its place. -/
def LosesLastMissing (container : MultipartySchemaContainer PublicKey) (session : Session)
    (perSigner : MultiSignPerSignerState) : Prop :=
  container.Dispensable session.global.schema session.global.signers perSigner.signerKeyName ∧
    ∀ name ∈ session.global.signers, name ≠ perSigner.signerKeyName →
      name ∈ session.collectedKeys

/-- A session that has not called back does not lose its last missing signer for good. -/
def LossLeavesWork (container : MultipartySchemaContainer PublicKey) (session : Session)
    (perSigner : MultiSignPerSignerState) : Reaction → Prop
  | .unavailable _ => ¬ session.HasCalledBack → ¬ session.LosesLastMissing container perSigner
  | _ => True

/-- A coherent session is complete exactly when it has as many signatures as signers. -/
theorem Coherent.complete_iff {session : Session} (coherent : session.Coherent) :
    session.Complete ↔
      session.global.fetchedSignatures.length = session.global.signers.length := by
  have distinct := (List.nodup_append.mp coherent.distinct).2.1
  have inside : ∀ name ∈ session.collectedKeys, name ∈ session.global.signers :=
    fun name member => coherent.listed name (List.mem_append_right _ member)
  have bound := coherent.length_fetched_le
  rw [coherent.length_fetched] at bound ⊢
  constructor
  · intro complete
    -- Different signers, all of them collected, are at most as many as the signatures.
    have other := (coherent.signers_nodup.subperm complete).length_le
    omega
  · -- As many different collected keys among the signers are all the signers.
    intro same name listed
    exact ((distinct.subperm inside).perm_of_length_le (by omega)).mem_iff.mpr listed

/-- A move keeps a complete session reporting exactly when it does not lose the last missing
signer for good. -/
theorem Move.keeps_reports_iff {libs : Libraries SecretKey PublicKey Signature}
    {initiatorPrefix : Name} {container after : MultipartySchemaContainer PublicKey}
    {session renewed : Session} {index : Nat} {perSigner : MultiSignPerSignerState}
    {reaction : Reaction}
    (move : session.Move libs initiatorPrefix container index perSigner reaction after renewed)
    (found : session.rpcs[index]? = some perSigner) (fits : reaction.Fits perSigner)
    (coherent : session.Coherent) (before : session.Reports) :
    renewed.Reports ↔ session.LossLeavesWork container perSigner reaction := by
  have renewedCoherent := move.coherent found fits coherent
  -- Only a move that makes the session complete without calling back can break the promise.
  cases move with
  | abandoned => exact ⟨fun _ => trivial, fun _ => before⟩
  | proceeded other tpm put => exact ⟨fun _ => trivial, fun _ => before⟩
  | collected missing =>
    refine ⟨fun _ => trivial, fun _ complete => ?_⟩
    -- The signature just stored is not the last one.
    have same := renewedCoherent.complete_iff.mp complete
    simp only [List.length_append, List.length_singleton] at same
    exact absurd same missing
  | @finished piece value nonce aggSig tempSig data info enough aggregated signed announced =>
    exact ⟨fun _ => trivial, fun _ _ => .inl ⟨data, info, by simp⟩⟩
  | @failed reason text needed =>
    refine ⟨fun _ _ lost => needed lost.1, fun _ _ => .inr ⟨text, by simp⟩⟩
  | @replaced reason newSigners diffSigners draws renews =>
    have pairs := collectedPairs_replaced session.history index perSigner.signerKeyName diffSigners
    have succeeded : ∀ data info, (.successCb data info ∈ session.history ++
        [.onUnavailableSigner index perSigner.signerKeyName] ++ diffSigners.map .performRPC ↔
          .successCb data info ∈ session.history) := by simp
    have failed : ∀ reason, (.failureCb reason ∈ session.history ++
        [.onUnavailableSigner index perSigner.signerKeyName] ++ diffSigners.map .performRPC ↔
          .failureCb reason ∈ session.history) := by simp
    -- Nothing is collected and nobody is called back, so the list of signers decides.
    by_cases nobody : diffSigners = []
    · -- The list shrinks to the other signers.
      have idle := renews.dispensable_iff.mp nobody
      have complete : ∀ name ∈ newSigners, name ∈ session.global.signers ∧
          name ≠ perSigner.signerKeyName := by
        intro name member
        rcases (renews.mem_iff name).mp member with ⟨other, listed⟩ | new
        · exact ⟨listed, other⟩
        · rw [nobody] at new
          cases new
      simp only [Reports, Complete, HasCalledBack, HasSucceeded, HasFailed, LossLeavesWork,
        LosesLastMissing, collectedKeys, pairs, succeeded, failed]
      constructor
      · intro reports silent lost
        refine silent (reports fun name member => ?_)
        obtain ⟨listed, other⟩ := complete name member
        exact lost.2 name listed other
      · intro work all
        by_contra silent
        refine work silent ⟨idle, fun name listed other => all name ?_⟩
        exact (renews.mem_iff name).mpr (.inl ⟨other, listed⟩)
    · -- A new signer has not delivered, because only listed ones have.
      have needed : ¬ container.Dispensable session.global.schema session.global.signers
          perSigner.signerKeyName := fun idle => nobody (renews.dispensable_iff.mpr idle)
      refine ⟨fun _ _ lost => needed lost.1, fun _ complete => ?_⟩
      obtain ⟨name, new⟩ := List.exists_mem_of_ne_nil diffSigners nobody
      have delivered := complete name ((renews.mem_iff name).mpr (.inr new))
      simp only [collectedKeys, pairs] at delivered
      have listed := coherent.listed name (List.mem_append_right _ delivered)
      exact absurd listed (renews.fresh name new)

/-- A new session is complete only if there is nobody to ask, and then it has failed. -/
theorem startSession_reports {libs : Libraries SecretKey PublicKey Signature}
    (initiator : MPSInitiator PublicKey) (unsignedData : Data) (schema : MultipartySchema)
    (signingKeyName : Name) (keyLocatorRandomness : Nat) (rpcs : Name → RpcDraw)
    (signers : List Name) :
    (initiator.startSession libs unsignedData schema signingKeyName keyLocatorRandomness rpcs
      signers).Reports := by
  -- With a signer to ask, its signature is still missing.
  intro complete
  rw [startSession_eq] at complete ⊢
  cases signers with
  | nil => exact .inr ⟨_, List.mem_cons_self⟩
  | cons first rest =>
    have delivered := complete first List.mem_cons_self
    simp [collectedKeys, collectedPairs] at delivered

end Session

namespace MPSInitiator

/-- No session that has not called back loses its last missing signer for good. -/
def LossesLeaveWork (libs : Libraries SecretKey PublicKey Signature)
    (initiator : MPSInitiator PublicKey) (event : Event Signature) : Prop :=
  ∀ session index perSigner reaction,
    initiator.Handles libs event session index perSigner reaction →
    session.LossLeavesWork initiator.schemaContainer perSigner reaction

/-- In a run every complete session has called back exactly when no session loses its last missing
signer, without anybody to take its place, before it has called back. -/
theorem reports_iff (libs : Libraries SecretKey PublicKey Signature)
    {initiator final : MPSInitiator PublicKey} {events : List (Event Signature)}
    (unused : initiator.sessions = [])
    (run : Run.after (next libs) events initiator = some final) :
    Run.EveryState (next libs)
        (fun initiator => ∀ session ∈ initiator.sessions, session.Reports) events initiator ↔
      Run.EveryStep (next libs) (LossesLeaveWork libs) events initiator := by
  -- Coherent sessions are the invariant, with the loss of a signer as the step that decides.
  refine Run.everyState_iff_everyStep
    (fun initiator => ∀ session ∈ initiator.sessions, session.Coherent)
    (fun initiator event after coherent taken => (next_step taken).coherent coherent) ?_
    (of_unused unused _) (of_unused unused _) run
  intro initiator event after coherent reports taken
  refine (next_step taken).decides Session.Reports
    (fun session _ perSigner reaction =>
      session.LossLeavesWork initiator.schemaContainer perSigner reaction)
    ?_ (fun _ _ _ _ => trivial) ?_ reports
  · intro unsignedData schema signingKeyName keyLocatorRandomness rpcs signers _
    exact Session.startSession_reports initiator _ _ _ _ _ _
  · intro session index perSigner reaction renewed member found fits move
    exact move.keeps_reports_iff found fits (coherent session member) (reports session member)

end MPSInitiator

namespace Reference

/-- The first signer delivers, and the second one is lost. -/
def deliveryThenLoss : List (Event Nat) :=
  sign ⟨.ofName (.ofTexts ["data"]), "rule", [], [.ofName firstKey, .ofName secondKey], 2⟩ ::
    deliver 0 firstSigner (pieceOf firstSigner) ++ [meet 1 .timeout]

end Reference

open Reference in
/-- The equivalence for the run in which the second signer is lost last. -/
theorem MPSInitiator.reports_iff_deliveryThenLoss :
    Run.EveryState (next libraries)
        (fun initiator => ∀ session ∈ initiator.sessions, session.Reports) deliveryThenLoss
        initiator ↔
      Run.EveryStep (next libraries) (LossesLeaveWork libraries) deliveryThenLoss initiator := by
  have possible : (Run.after (next libraries) deliveryThenLoss initiator).isSome = true := by
    decide +kernel
  obtain ⟨final, run⟩ := Option.isSome_iff_exists.mp possible
  exact reports_iff libraries rfl run

open Reference in
/-- The session has the signature of its only signer left, and has called nobody back. -/
theorem MPSInitiator.complete_silent :
    ∃ final session, Run.after (next libraries) deliveryThenLoss initiator = some final ∧
      session ∈ final.sessions ∧ session.global.signers = [firstKey] ∧
      session.global.fetchedSignatures = [pieceOf firstSigner] ∧
      session.rpcs.map MultiSignPerSignerState.live = [false, false] ∧
      session.history = [.performRPC firstKey, .performRPC secondKey,
        .collected 0 firstKey (pieceOf firstSigner), .onUnavailableSigner 1 secondKey] ∧
      ¬ session.Reports := by
  have ran : (Run.after (next libraries) deliveryThenLoss initiator).any (fun final =>
      final.sessions.any fun session =>
        session.global.signers = [firstKey] ∧
        session.global.fetchedSignatures = [pieceOf firstSigner] ∧
        session.rpcs.map MultiSignPerSignerState.live = [false, false] ∧
        session.history = [.performRPC firstKey, .performRPC secondKey,
          .collected 0 firstKey (pieceOf firstSigner), .onUnavailableSigner 1 secondKey]) := by
    decide +kernel
  obtain ⟨final, run, shown⟩ := (Option.any_eq_true _ _).mp ran
  obtain ⟨session, member, same⟩ := List.any_eq_true.mp shown
  obtain ⟨signers, fetched, ended, history⟩ := of_decide_eq_true same
  refine ⟨final, session, run, member, signers, fetched, ended, history, fun reports => ?_⟩
  -- The list has shrunk to the signer whose signature is there.
  have complete : session.Complete := by
    intro name listed
    rw [signers] at listed
    rw [List.mem_singleton.mp listed, Session.collectedKeys, history]
    exact List.mem_cons_self
  -- Neither callback is in the history.
  rcases reports complete with ⟨data, info, called⟩ | ⟨reason, called⟩
  · simp [history] at called
  · simp [history] at called

end NdnMps
