import NdnMps.Initiator.Uniqueness

/-! How often a session calls back, and what it still does after it has reported its failure. -/

namespace NdnMps

variable {SecretKey PublicKey Signature : Type}

/-- The call is one to a callback of the application. -/
def Call.isCallback : Call → Bool
  | .successCb _ _ | .failureCb _ => true
  | _ => false

/-- A remote call starts only while no failure has been reported. -/
def StartsBeforeFailure (before : List Call) : Call → Prop
  | .performRPC _ => ∀ reason, .failureCb reason ∉ before
  | _ => True

namespace Session

/-- The session has reported its failure. -/
def HasFailed (session : Session) : Prop := ∃ reason, .failureCb reason ∈ session.history

/-- The session has reported its success. -/
def HasSucceeded (session : Session) : Prop := ∃ data info, .successCb data info ∈ session.history

/-- At most one callback is invoked, and no remote call starts after a reported failure. -/
structure CallsBackOnce (session : Session) : Prop where
  once : session.history.countP Call.isCallback ≤ 1
  quiet : History.EachTime StartsBeforeFailure session.history

/-- A session that has succeeded waits for nothing, and one that has failed can never have as many
signatures as signers, because one signer is neither asked nor has answered. -/
structure Settled (session : Session) : Prop where
  coherent : session.Coherent
  succeeded : session.HasSucceeded → liveKeys session.rpcs = []
  failed : session.HasFailed → liveKeys session.rpcs = [] ∨
    ∃ name ∈ session.global.signers, name ∉ liveKeys session.rpcs ++ session.collectedKeys

/-- The key of a waiting remote call is among the live ones. -/
theorem mem_liveKeys {rpcs : List MultiSignPerSignerState} {index : Nat}
    {perSigner : MultiSignPerSignerState} (found : rpcs[index]? = some perSigner)
    (live : perSigner.live = true) : perSigner.signerKeyName ∈ liveKeys rpcs :=
  List.mem_map_of_mem (List.mem_filter.mpr ⟨List.mem_of_getElem? found, live⟩)

namespace Settled

variable {session : Session} {index : Nat} {perSigner : MultiSignPerSignerState}

/-- A session with a waiting remote call has not succeeded. -/
theorem not_succeeded (settled : session.Settled) (found : session.rpcs[index]? = some perSigner)
    (live : perSigner.live = true) : ¬ session.HasSucceeded := by
  -- After a success nobody is asked any more.
  intro succeeded
  have member := mem_liveKeys found live
  rw [settled.succeeded succeeded] at member
  cases member

/-- In a failed session with a waiting remote call, some other signer never answers. -/
theorem missing (settled : session.Settled) (found : session.rpcs[index]? = some perSigner)
    (live : perSigner.live = true) (failed : session.HasFailed) :
    ∃ name ∈ session.global.signers, name ≠ perSigner.signerKeyName ∧
      name ∉ liveKeys session.rpcs ++ session.collectedKeys := by
  -- The signer that can never answer is not the one that is asked.
  have member := mem_liveKeys found live
  rcases settled.failed failed with empty | ⟨name, listed, absent⟩
  · rw [empty] at member
    cases member
  · refine ⟨name, listed, fun same => ?_, absent⟩
    exact absent (List.mem_append_left _ (same ▸ member))

/-- What is neither asked nor has answered stays so when a remote call ends. -/
theorem absent_closed (found : session.rpcs[index]? = some perSigner)
    (live : perSigner.live = true) {name : Name}
    (absent : name ∉ liveKeys session.rpcs ++ session.collectedKeys) :
    name ∉ liveKeys (session.closeRpc index perSigner).rpcs ++ session.collectedKeys := by
  -- Ending the remote call only takes a key away.
  intro member
  apply absent
  rcases List.mem_append.mp member with asked | answered
  · exact List.mem_append_left _
      ((liveKeys_close found live).mem_iff.mpr (List.mem_cons_of_mem _ asked))
  · exact List.mem_append_right _ answered

/-- The last missing signature arrives only in a session that has not called back. -/
theorem not_called_back (settled : session.Settled)
    (found : session.rpcs[index]? = some perSigner) (live : perSigner.live = true)
    (enough : session.global.fetchedSignatures.length + 1 = session.global.signers.length) :
    ¬ session.HasFailed := by
  -- The signatures would be those of all signers, and the missing one among them has none.
  intro failed
  obtain ⟨name, listed, other, absent⟩ := settled.missing found live failed
  have member := (settled.coherent.last found live enough).2.mem_iff.mpr listed
  rcases List.mem_append.mp member with collected | lost
  · exact absent (List.mem_append_right _ collected)
  · exact other (List.mem_singleton.mp lost)

end Settled

/-- A new session has failed only if there is nobody to ask. -/
theorem startSession_settled {libs : Libraries SecretKey PublicKey Signature}
    {initiator : MPSInitiator PublicKey} {unsignedData : Data} {schema : MultipartySchema}
    {signingKeyName : Name} {keyLocatorRandomness : Nat} {rpcs : Name → RpcDraw}
    {signers : List Name}
    (selected : initiator.schemaContainer.getAvailableSigners schema = .ok signers) :
    (initiator.startSession libs unsignedData schema signingKeyName keyLocatorRandomness rpcs
      signers).Settled := by
  -- A session starts with a failure or with remote calls, so it has not succeeded.
  refine ⟨startSession_coherent selected, ?_, ?_⟩
  · rintro ⟨data, info, member⟩
    rw [startSession_eq] at member
    cases signers <;> simp at member
  · rintro ⟨reason, member⟩
    rw [startSession_eq] at member ⊢
    cases signers with
    | nil => exact .inl rfl
    | cons first rest => simp at member

/-- A session whose further calls report no success has already succeeded before them. -/
theorem HasSucceeded.before {session renewed : Session} (succeeded : renewed.HasSucceeded)
    (silent : ∀ data info, .successCb data info ∈ renewed.history →
      .successCb data info ∈ session.history) : session.HasSucceeded := by
  obtain ⟨data, info, member⟩ := succeeded
  exact ⟨data, info, silent data info member⟩

/-- Every move keeps a session settled. -/
theorem Move.settled {libs : Libraries SecretKey PublicKey Signature} {initiatorPrefix : Name}
    {container after : MultipartySchemaContainer PublicKey} {session renewed : Session}
    {index : Nat} {perSigner : MultiSignPerSignerState} {reaction : Reaction}
    (move : session.Move libs initiatorPrefix container index perSigner reaction after renewed)
    (found : session.rpcs[index]? = some perSigner) (fits : reaction.Fits perSigner)
    (settled : session.Settled) : renewed.Settled := by
  have coherent := move.coherent found fits settled.coherent
  -- A move that only ends a remote call reports nothing, so an old report is all there is.
  cases move with
  | abandoned paraPrefixRegistered =>
    refine ⟨coherent, fun succeeded => ?_, fun failed => ?_⟩
    · exact absurd succeeded (settled.not_succeeded found fits)
    · obtain ⟨name, listed, -, absent⟩ := settled.missing found fits failed
      refine .inr ⟨name, listed, ?_⟩
      rw [liveKeys_closeRpc]
      exact Settled.absent_closed found fits absent
  | proceeded other tpm put =>
    -- The same signers are asked and have delivered.
    have same := liveKeys_proceed found fits.1 fits.2
    refine ⟨coherent, fun succeeded => ?_, fun failed => ?_⟩
    · simp only [setRpc, same]
      exact settled.succeeded succeeded
    · simp only [setRpc, collectedKeys, same]
      exact settled.failed failed
  | @collected piece missing =>
    refine ⟨coherent, ?_, ?_⟩
    · intro succeeded
      exact absurd (succeeded.before (by simp)) (settled.not_succeeded found fits)
    · rintro ⟨reason, member⟩
      have old : session.HasFailed := ⟨reason, by simpa using member⟩
      obtain ⟨name, listed, other, absent⟩ := settled.missing found fits old
      refine .inr ⟨name, listed, fun member => ?_⟩
      -- The signer that is missing is not the one that has just delivered.
      have keys : (collectedPairs (session.history ++
          [.collected index perSigner.signerKeyName piece])).map Prod.fst =
            session.collectedKeys ++ [perSigner.signerKeyName] := by
        rw [collectedPairs_collected, List.map_append]
        rfl
      simp only [collectedKeys, keys, ← List.append_assoc] at member
      rcases List.mem_append.mp member with old | new
      · exact Settled.absent_closed found fits absent old
      · exact other (List.mem_singleton.mp new)
  | finished enough aggregated signed announced =>
    -- Success is reported when nobody is asked any more.
    have empty := (settled.coherent.last found fits enough).1
    exact ⟨coherent, fun _ => empty, fun _ => .inl empty⟩
  | failed needed =>
    refine ⟨coherent, ?_, fun _ => ?_⟩
    · intro succeeded
      exact absurd (succeeded.before (by simp)) (settled.not_succeeded found fits)
    · -- The lost signer stays listed, although it will never answer.
      obtain ⟨distinct, listed⟩ := settled.coherent.closed found fits
      refine .inr ⟨perSigner.signerKeyName, listed _ List.mem_cons_self, ?_⟩
      have lost := (List.nodup_cons.mp distinct).1
      simpa [collectedKeys, collectedPairs] using lost
  | @replaced reason newSigners diffSigners draws renews =>
    refine ⟨coherent, ?_, ?_⟩
    · intro succeeded
      exact absurd (succeeded.before (by simp)) (settled.not_succeeded found fits)
    · rintro ⟨reason, member⟩
      have old : session.HasFailed := ⟨reason, by simpa using member⟩
      obtain ⟨name, listed, other, absent⟩ := settled.missing found fits old
      refine .inr ⟨name, (renews.mem_iff name).mpr (.inl ⟨other, listed⟩), fun member => ?_⟩
      -- A replacement asks new signers only, and the missing one was listed before.
      have keys : (collectedPairs (session.history ++ [.onUnavailableSigner index
          perSigner.signerKeyName] ++ diffSigners.map .performRPC)).map Prod.fst =
            session.collectedKeys := by
        rw [collectedPairs_replaced]
        rfl
      simp only [collectedKeys, keys, liveKeys_append, liveKeys_newRpcs] at member
      have closed := Settled.absent_closed found fits absent
      rcases List.mem_append.mp member with asked | collected
      · rcases List.mem_append.mp asked with old | new
        · exact closed (List.mem_append_left _ old)
        · exact renews.fresh name new listed
      · exact closed (List.mem_append_right _ collected)

/-- Entries that start nothing keep the statement about starts. -/
theorem quiet_append {history further : List Call}
    (quiet : History.EachTime StartsBeforeFailure history)
    (idle : ∀ name, .performRPC name ∉ further) :
    History.EachTime StartsBeforeFailure (history ++ further) := by
  refine quiet.append fun call member before => ?_
  cases call with
  | performRPC name => exact absurd member (idle name)
  | _ => trivial

/-- Remote calls started after some history respect it exactly when it has no failure. -/
theorem quiet_append_performRPC {history : List Call} {names : List Name}
    (quiet : History.EachTime StartsBeforeFailure history) (nonempty : names ≠ []) :
    History.EachTime StartsBeforeFailure (history ++ names.map .performRPC) ↔
      ∀ reason, .failureCb reason ∉ history := by
  constructor
  · intro each
    -- The first start already comes after the whole history.
    cases names with
    | nil => exact absurd rfl nonempty
    | cons name rest => exact each history (.performRPC name) (rest.map .performRPC) rfl
  · -- Each further start leaves the history without a failure.
    clear nonempty
    intro clear
    induction names generalizing history with
    | nil => exact (List.append_nil history).symm ▸ quiet
    | cons name rest ih =>
      have one : History.EachTime StartsBeforeFailure (history ++ [.performRPC name]) :=
        History.eachTime_concat.mpr ⟨quiet, clear⟩
      have still : ∀ reason, .failureCb reason ∉ history ++ [.performRPC name] := by
        intro reason member
        rcases List.mem_append.mp member with old | new
        · exact clear reason old
        · cases List.mem_singleton.mp new
      have all := ih one still
      rwa [List.append_assoc] at all

/-- A session without a callback has neither succeeded nor failed. -/
theorem countP_isCallback_eq_zero {session : Session} (noSuccess : ¬ session.HasSucceeded)
    (noFailure : ¬ session.HasFailed) : session.history.countP Call.isCallback = 0 := by
  -- Only these two calls count.
  refine List.countP_eq_zero.mpr fun call member => ?_
  cases call with
  | successCb data info => exact absurd ⟨data, info, member⟩ noSuccess
  | failureCb reason => exact absurd ⟨reason, member⟩ noFailure
  | _ => exact Bool.false_ne_true

/-- A signer lost after the session has reported its failure needs no replacement. -/
def LateLossIsIdle (container : MultipartySchemaContainer PublicKey) (session : Session)
    (perSigner : MultiSignPerSignerState) : Reaction → Prop
  | .unavailable _ => session.HasFailed → container.Dispensable session.global.schema
      session.global.signers perSigner.signerKeyName
  | _ => True

/-- A move keeps the callbacks at one exactly when it is no late loss that needs a replacement. -/
theorem Move.keeps_callsBackOnce_iff {libs : Libraries SecretKey PublicKey Signature}
    {initiatorPrefix : Name} {container after : MultipartySchemaContainer PublicKey}
    {session renewed : Session} {index : Nat} {perSigner : MultiSignPerSignerState}
    {reaction : Reaction}
    (move : session.Move libs initiatorPrefix container index perSigner reaction after renewed)
    (found : session.rpcs[index]? = some perSigner) (fits : reaction.Fits perSigner)
    (settled : session.Settled) (before : session.CallsBackOnce) :
    renewed.CallsBackOnce ↔ session.LateLossIsIdle container perSigner reaction := by
  cases move with
  | abandoned => exact ⟨fun _ => trivial, fun _ => ⟨before.once, before.quiet⟩⟩
  | proceeded other tpm put => exact ⟨fun _ => trivial, fun _ => ⟨before.once, before.quiet⟩⟩
  | collected missing =>
    refine ⟨fun _ => trivial, fun _ => ⟨?_, quiet_append before.quiet (by simp)⟩⟩
    simpa [List.countP_append, Call.isCallback] using before.once
  | finished enough aggregated signed announced =>
    refine ⟨fun _ => trivial, fun _ => ⟨?_, ?_⟩⟩
    · -- Nothing has called back before the last signature arrives.
      have none := countP_isCallback_eq_zero (settled.not_succeeded found fits)
        (settled.not_called_back found fits enough)
      simp [List.countP_append, Call.isCallback, none]
    · exact quiet_append (quiet_append before.quiet (by simp)) (by simp)
  | failed needed =>
    constructor
    · intro once failed
      -- The first failure and this one are two callbacks.
      obtain ⟨reason, member⟩ := failed
      have positive := List.countP_pos_iff.mpr
        ⟨Call.failureCb reason, member, (rfl : (Call.failureCb reason).isCallback = true)⟩
      have bound : session.history.countP Call.isCallback + 1 ≤ 1 := by
        simpa [List.countP_append, Call.isCallback] using once.once
      omega
    · intro idle
      have none := countP_isCallback_eq_zero (settled.not_succeeded found fits)
        fun failed => needed (idle failed)
      refine ⟨?_, quiet_append (quiet_append before.quiet (by simp)) (by simp)⟩
      simp [List.countP_append, Call.isCallback, none]
  | @replaced reason newSigners diffSigners draws renews =>
    -- A replacement calls nobody back by itself.
    have silent : (session.history ++ [Call.onUnavailableSigner index perSigner.signerKeyName] ++
        diffSigners.map Call.performRPC).countP Call.isCallback =
          session.history.countP Call.isCallback := by
      simp [List.countP_append, List.countP_map, Call.isCallback, Function.comp_def]
    have quiet : History.EachTime StartsBeforeFailure
        (session.history ++ [.onUnavailableSigner index perSigner.signerKeyName]) :=
      quiet_append before.quiet (by simp)
    -- It starts a remote call exactly when the others do not suffice.
    by_cases nobody : diffSigners = []
    · refine ⟨fun _ _ => renews.dispensable_iff.mp nobody, fun _ => ⟨?_, ?_⟩⟩
      · exact silent.le.trans before.once
      · simpa [nobody] using quiet
    · have starts := quiet_append_performRPC quiet nobody
      constructor
      · rintro once ⟨reason, member⟩
        exact absurd (List.mem_append_left _ member) (starts.mp once.quiet reason)
      · intro idle
        refine ⟨silent.le.trans before.once, starts.mpr fun reason member => ?_⟩
        have failed : session.HasFailed := ⟨reason, by simpa using member⟩
        exact nobody (renews.dispensable_iff.mpr (idle failed))

/-- A new session has called back at most once. -/
theorem startSession_callsBackOnce {libs : Libraries SecretKey PublicKey Signature}
    (initiator : MPSInitiator PublicKey) (unsignedData : Data) (schema : MultipartySchema)
    (signingKeyName : Name) (keyLocatorRandomness : Nat) (rpcs : Name → RpcDraw)
    (signers : List Name) :
    (initiator.startSession libs unsignedData schema signingKeyName keyLocatorRandomness rpcs
      signers).CallsBackOnce := by
  -- It reports a failure where there is nobody to ask, and otherwise only starts.
  rw [startSession_eq]
  cases signers with
  | nil =>
    refine ⟨by simp [Call.isCallback], ?_⟩
    exact History.eachTime_concat.mpr ⟨History.eachTime_nil, trivial⟩
  | cons first rest =>
    refine ⟨by simp [List.countP_map, Call.isCallback, Function.comp_def], ?_⟩
    exact (quiet_append_performRPC History.eachTime_nil (List.cons_ne_nil first rest)).mpr
      fun reason => List.not_mem_nil

end Session

namespace MPSInitiator

/-- Every signer that a session loses after it has reported its failure needs no replacement. -/
def LateLossesAreIdle (libs : Libraries SecretKey PublicKey Signature)
    (initiator : MPSInitiator PublicKey) (event : Event Signature) : Prop :=
  ∀ session index perSigner reaction,
    initiator.Handles libs event session index perSigner reaction →
    session.LateLossIsIdle initiator.schemaContainer perSigner reaction

/-- Every step keeps all sessions settled. -/
theorem Step.settled {libs : Libraries SecretKey PublicKey Signature}
    {initiator after : MPSInitiator PublicKey} {event : Event Signature}
    (step : Step libs initiator event after)
    (all : ∀ session ∈ initiator.sessions, session.Settled) :
    ∀ session ∈ after.sessions, session.Settled := by
  refine step.keeps (fun _ session => session.Settled)
    (fun _ _ _ _ _ _ selected => Session.startSession_settled selected)
    (fun _ settled => settled) ?_ all
  rintro session index perSigner reaction renewed settled ⟨_, _, _, -, -, found, reacted⟩ move
  exact move.settled found (react_fits reacted) settled

/-- In a run every session calls back at most once, and starts nothing after a reported failure,
exactly when no signer is lost after that which needs a replacement. -/
theorem callsBackOnce_iff (libs : Libraries SecretKey PublicKey Signature)
    {initiator final : MPSInitiator PublicKey} {events : List (Event Signature)}
    (unused : initiator.sessions = [])
    (run : Run.after (next libs) events initiator = some final) :
    Run.EveryState (next libs)
        (fun initiator => ∀ session ∈ initiator.sessions, session.CallsBackOnce) events
        initiator ↔
      Run.EveryStep (next libs) (LateLossesAreIdle libs) events initiator := by
  -- Settled sessions are the invariant; a step decides the statement for the session that it moves.
  refine Run.everyState_iff_everyStep
    (fun initiator => ∀ session ∈ initiator.sessions, session.Settled)
    (fun initiator event after settled taken => (next_step taken).settled settled) ?_
    (of_unused unused _) (of_unused unused _) run
  intro initiator event after settled once taken
  -- Only a handled event can break it, by losing a signer too late.
  refine (next_step taken).decides Session.CallsBackOnce
    (fun session _ perSigner reaction =>
      session.LateLossIsIdle initiator.schemaContainer perSigner reaction)
    ?_ (fun _ _ _ _ => trivial) ?_ once
  · intro unsignedData schema signingKeyName keyLocatorRandomness rpcs signers _
    exact Session.startSession_callsBackOnce initiator _ _ _ _ _ _
  · intro session index perSigner reaction renewed member found fits move
    exact move.keeps_callsBackOnce_iff found fits (settled session member) (once session member)

end MPSInitiator

namespace Reference

/-- A third key, of the second signer. -/
def spareKey : Name := .ofTexts ["b", "KEY", "2"]

/-- An initiator that trusts three keys and has not started a session. -/
def spareInitiator : MPSInitiator Nat :=
  { initiator with schemaContainer :=
      ⟨[], ⟨[(firstKey, 7), (secondKey, 8), (spareKey, 9)], by decide⟩, .empty⟩ }

/-- A rule that requires the first signer, and the second one with any of its keys. -/
def bothSigners : MultipartySchema :=
  ⟨.ofName (.ofTexts ["data"]), "rule",
    [.ofName firstKey, .ofName ⟨[.ofString "b", .ofString "KEY", ⟨wildcardNameType, []⟩]⟩], [], 0⟩

/-- The first signer and then both keys of the second one are lost. -/
def threeLosses : List (Event Nat) :=
  [sign bothSigners, meet 0 .timeout, meet 1 .timeout, meet 2 .timeout]

/-- What the session has done after the three losses. -/
def threeLossesHistory : List Call :=
  [.performRPC firstKey, .performRPC secondKey,
    .onUnavailableSigner 0 firstKey,
    .failureCb ("Interest timeout when requesting signer /a" ++
      " And we cannot find replacements for the unavailable signer"),
    .onUnavailableSigner 1 secondKey, .performRPC spareKey,
    .onUnavailableSigner 2 spareKey,
    .failureCb ("Interest timeout when requesting signer /b" ++
      " And we cannot find replacements for the unavailable signer")]

end Reference

open Reference in
/-- The equivalence for the run that loses all signers. -/
theorem MPSInitiator.callsBackOnce_iff_threeLosses :
    Run.EveryState (next libraries)
        (fun initiator => ∀ session ∈ initiator.sessions, session.CallsBackOnce) threeLosses
        spareInitiator ↔
      Run.EveryStep (next libraries) (LateLossesAreIdle libraries) threeLosses spareInitiator := by
  have possible : (Run.after (next libraries) threeLosses spareInitiator).isSome = true := by rfl
  obtain ⟨final, run⟩ := Option.isSome_iff_exists.mp possible
  exact callsBackOnce_iff libraries rfl run

open Reference in
/-- After its first failure a session asks a further signer, and fails again. -/
theorem MPSInitiator.failureCb_again :
    ∃ final session, Run.after (next libraries) threeLosses spareInitiator = some final ∧
      session ∈ final.sessions ∧ session.history = threeLossesHistory ∧
      session.history.countP Call.isCallback = 2 ∧
      ¬ History.EachTime StartsBeforeFailure session.history := by
  have ran : (Run.after (next libraries) threeLosses spareInitiator).map
      (fun final => final.sessions.map Session.history) = some [threeLossesHistory] := by rfl
  -- The history of the run is known, so the session is the one that has it.
  obtain ⟨final, session, run, member, same⟩ := exists_session ran List.mem_cons_self
  refine ⟨final, session, run, member, same, ?_, ?_⟩
  · rw [same]
    rfl
  · -- The sixth entry starts a remote call, and the fourth one reports the failure.
    intro quiet
    rw [same] at quiet
    refine quiet (threeLossesHistory.take 5) (.performRPC spareKey) (threeLossesHistory.drop 6)
      rfl ("Interest timeout when requesting signer /a" ++
        " And we cannot find replacements for the unavailable signer") ?_
    exact List.mem_of_getElem? (i := 3) rfl

end NdnMps
