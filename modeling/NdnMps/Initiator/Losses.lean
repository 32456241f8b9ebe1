import NdnMps.Initiator.Completion
import NdnMps.Schema.Conformity

/-! What the losses of a run leave of the schemas: which lists still conform, and when a session is
given up. -/

namespace NdnMps

variable {SecretKey PublicKey Signature : Type}

namespace Session

/-- The failures the session has reported. -/
def failures (session : Session) : Nat :=
  session.history.countP fun
    | .failureCb _ => true
    | _ => false

/-- What the container's answer to a loss makes of a session. -/
inductive Loses (container : MultipartySchemaContainer PublicKey) (session : Session)
    (perSigner : MultiSignPerSignerState) (renewed : Session) : Prop where
  /-- Nobody is found, so the list stays, and the session fails. -/
  | failed (schema : renewed.global.schema = session.global.schema)
      (nobody : (container.replaceSigner session.global.signers perSigner.signerKeyName
        session.global.schema).2.1 = [])
      (signers : renewed.global.signers = session.global.signers)
  /-- The list is renewed, and the session goes on. -/
  | replaced (schema : renewed.global.schema = session.global.schema)
      (found : (container.replaceSigner session.global.signers perSigner.signerKeyName
        session.global.schema).2.1 ≠ [])
      (signers : renewed.global.signers = (container.replaceSigner session.global.signers
        perSigner.signerKeyName session.global.schema).2.1)
      (failures : renewed.failures = session.failures)

/-- The session follows the container's answer to the loss. -/
theorem onUnavailableSigner_loses (libs : Libraries SecretKey PublicKey Signature)
    (initiatorPrefix : Name) (draws : Name → RpcDraw)
    (container : MultipartySchemaContainer PublicKey) (session : Session) (index : Nat)
    (perSigner : MultiSignPerSignerState) (reason : String) :
    session.Loses container perSigner ((session.closeRpc index perSigner).onUnavailableSigner libs
      initiatorPrefix draws container reason index perSigner.signerKeyName).2 := by
  -- An empty list is the only thing that the session takes for a failure.
  by_cases nobody : (container.replaceSigner session.global.signers perSigner.signerKeyName
      session.global.schema).2.1 = []
  · refine .failed ?_ nobody ?_
    all_goals simp [onUnavailableSigner, record, closeRpc, setRpc, nobody]
  · refine .replaced ?_ nobody ?_ ?_
    all_goals simp [onUnavailableSigner, record, closeRpc, setRpc, nobody, performRPCs_eq, failures,
      List.countP_map, Function.comp_def]

/-- Apart from losses no move changes the list or reports a failure. -/
theorem Move.frame {libs : Libraries SecretKey PublicKey Signature} {initiatorPrefix : Name}
    {container after : MultipartySchemaContainer PublicKey} {session renewed : Session}
    {index : Nat} {perSigner : MultiSignPerSignerState} {reaction : Reaction}
    (move : session.Move libs initiatorPrefix container index perSigner reaction after renewed)
    (kept : ∀ reason, reaction ≠ .unavailable reason) :
    renewed.global.schema = session.global.schema ∧
      renewed.global.signers = session.global.signers ∧ renewed.failures = session.failures := by
  cases move with
  | failed needed => exact absurd rfl (kept _)
  | replaced draws renews => exact absurd rfl (kept _)
  | abandoned => exact ⟨rfl, rfl, rfl⟩
  | proceeded other tpm put => exact ⟨rfl, rfl, rfl⟩
  | collected missing => exact ⟨rfl, rfl, by simp [failures]⟩
  | finished enough aggregated signed announced => exact ⟨rfl, rfl, by simp [failures]⟩

/-- A loss marks the signer's key as unavailable. -/
theorem Move.marks_lost {libs : Libraries SecretKey PublicKey Signature} {initiatorPrefix : Name}
    {container after : MultipartySchemaContainer PublicKey} {session renewed : Session}
    {index : Nat} {perSigner : MultiSignPerSignerState} {reason : String}
    (move : session.Move libs initiatorPrefix container index perSigner (.unavailable reason) after
      renewed) : after = container.markUnavailable perSigner.signerKeyName := by
  cases move with
  | failed needed => rfl
  | replaced draws renews => rfl

end Session

namespace MPSInitiator

variable {libs : Libraries SecretKey PublicKey Signature}

/-- In a step that loses a signer, the session follows the container's answer. -/
theorem next_loses {initiator after : MPSInitiator PublicKey} {sessionIndex index : Nat}
    {event : RpcEvent} {draw : Draw Signature} {session renewed : Session}
    {perSigner : MultiSignPerSignerState} {reason : String}
    (taken : initiator.next libs (.rpc sessionIndex index event draw) = some after)
    (located : initiator.sessions[sessionIndex]? = some session)
    (found : session.rpcs[index]? = some perSigner)
    (reacted : react libs initiator.tpm session.global.signingKeyName perSigner draw event =
      some (.unavailable reason))
    (sessions : after.sessions = initiator.sessions.set sessionIndex renewed) :
    session.Loses initiator.schemaContainer perSigner renewed := by
  obtain ⟨⟨result, put⟩, stepped, same⟩ := Option.map_eq_some_iff.mp taken
  cases same
  simp only [step] at stepped
  split at stepped
  · cases stepped
  simp only [located, found, reacted, Bind.bind, Option.bind_some, Option.some.injEq] at stepped
  have loses := session.onUnavailableSigner_loses libs initiator.initiatorPrefix draw.rpcs
    initiator.schemaContainer index perSigner reason
  -- Both lists of sessions have the renewed one in its place.
  have place := (List.getElem?_eq_some_iff.mp located).1
  have there : result.sessions[sessionIndex]? = some renewed := by
    dsimp only at sessions
    rw [sessions]
    exact List.getElem?_set_self place
  have computed := congrArg (fun outcome => outcome.1.sessions[sessionIndex]?) stepped
  simp only [act, setSession, List.getElem?_set_self place, there] at computed
  rw [← Option.some.inj computed]
  exact loses

/-- A statement about sessions holds after a step if new sessions have it and losses and other moves
keep it, and it does not depend on what other sessions do to the container. -/
theorem keeps_lost (inv : Session → Prop) {initiator after : MPSInitiator PublicKey}
    {event : Event Signature} (taken : initiator.next libs event = some after)
    (start : ∀ unsignedData schema signingKeyName keyLocatorRandomness rpcs signers,
      event = .multiPartySign unsignedData schema signingKeyName keyLocatorRandomness rpcs →
      initiator.schemaContainer.getAvailableSigners schema = .ok signers →
      inv (initiator.startSession libs unsignedData schema signingKeyName keyLocatorRandomness rpcs
        signers))
    (move : ∀ session index perSigner reaction renewed, inv session →
      initiator.Handles libs event session index perSigner reaction →
      session.Move libs initiator.initiatorPrefix initiator.schemaContainer index perSigner
        reaction after.schemaContainer renewed →
      (∀ reason, reaction = .unavailable reason →
        session.Loses initiator.schemaContainer perSigner renewed) → inv renewed)
    (all : ∀ session ∈ initiator.sessions, inv session) :
    ∀ session ∈ after.sessions, inv session := by
  -- A session afterwards is an old one, the new one, or the one that moved.
  cases next_step taken with
  | refused | reset | stopped => exact all
  | started selected =>
    intro session member
    rcases List.mem_append.mp member with old | new
    · exact all session old
    · rw [List.mem_singleton.mp new]
      exact start _ _ _ _ _ _ rfl selected
  | moved located found reacted moved sessions =>
    intro session member
    rw [sessions] at member
    rcases List.mem_or_eq_of_mem_set member with old | new
    · exact all session old
    · rw [new]
      refine move _ _ _ _ _ (all _ (List.mem_of_getElem? located))
        ⟨_, _, _, rfl, located, found, reacted⟩ moved ?_
      rintro reason rfl
      exact next_loses taken located found reacted sessions

/-- A reaction that does not stop the thread renews its session. -/
theorem exists_renewed {initiator after : MPSInitiator PublicKey} {event : Event Signature}
    {session : Session} {index : Nat} {perSigner : MultiSignPerSignerState} {reason : String}
    (taken : initiator.next libs event = some after)
    (handled : initiator.Handles libs event session index perSigner (.unavailable reason)) :
    ∃ renewed ∈ after.sessions, session.Loses initiator.schemaContainer perSigner renewed := by
  obtain ⟨sessionIndex, rpcEvent, draw, same, located, found, reacted⟩ := handled
  subst same
  -- The step is that of the reaction, and losing a signer stops nothing.
  cases next_step taken with
  | stopped otherLocated otherFound otherReacted =>
    cases located.symm.trans otherLocated
    cases found.symm.trans otherFound
    cases reacted.symm.trans otherReacted
  | @moved _ _ _ renewed _ _ _ _ _ otherLocated otherFound otherReacted move sessions =>
    have place := (List.getElem?_eq_some_iff.mp located).1
    refine ⟨renewed, ?_, next_loses taken located found reacted sessions⟩
    rw [sessions]
    exact List.mem_set place renewed

end MPSInitiator

namespace Session

/-- The list of the session passes its schema. -/
def Conforms (session : Session) : Prop :=
  session.global.schema.passSchema session.global.signers = true

/-- The signers of the session are different trusted ones that meet the required patterns. -/
structure Qualified (trustedIds : TrustedIds PublicKey) (session : Session) : Prop where
  coherent : session.Coherent
  trusted : ∀ name ∈ session.global.signers, name ∈ trustedIds.names
  required : session.global.schema.MeetsRequired session.global.signers

/-- The lost signer is one of the session's. -/
theorem Coherent.lost_listed {session : Session} (coherent : session.Coherent) {index : Nat}
    {perSigner : MultiSignPerSignerState} (found : session.rpcs[index]? = some perSigner)
    (live : perSigner.live = true) : perSigner.signerKeyName ∈ session.global.signers :=
  (coherent.closed found live).2 _ List.mem_cons_self

/-- A new session is qualified, and its list passes. -/
theorem startSession_qualified {libs : Libraries SecretKey PublicKey Signature}
    {initiator : MPSInitiator PublicKey} {unsignedData : Data} {schema : MultipartySchema}
    {signingKeyName : Name} {keyLocatorRandomness : Nat} {rpcs : Name → RpcDraw}
    {signers : List Name}
    (selected : initiator.schemaContainer.getAvailableSigners schema = .ok signers) :
    (initiator.startSession libs unsignedData schema signingKeyName keyLocatorRandomness rpcs
        signers).Qualified initiator.schemaContainer.trustedIds ∧
      (initiator.startSession libs unsignedData schema signingKeyName keyLocatorRandomness rpcs
        signers).Conforms := by
  have coherent : (initiator.startSession libs unsignedData schema signingKeyName
    keyLocatorRandomness rpcs signers).Coherent := startSession_coherent selected
  -- The selection is available and passes the schema, required patterns included.
  obtain ⟨-, inside, accepted⟩ := MultipartySchemaContainer.getAvailableSigners_sound selected
  have passes := (schema.passSchema_iff signers).mpr accepted
  rw [startSession_eq] at coherent ⊢
  refine ⟨⟨coherent, fun name member => ?_, ?_⟩, passes⟩
  · exact ((MultipartySchemaContainer.mem_available _).mp (inside name member)).1
  · exact MultipartySchema.meetsRequired_of_passSchema passes

/-- Every move keeps a session qualified. -/
theorem Move.qualified {libs : Libraries SecretKey PublicKey Signature} {initiatorPrefix : Name}
    {container after : MultipartySchemaContainer PublicKey} {session renewed : Session}
    {index : Nat} {perSigner : MultiSignPerSignerState} {reaction : Reaction}
    (move : session.Move libs initiatorPrefix container index perSigner reaction after renewed)
    (named : container.NamesNonempty)
    (loses : ∀ reason, reaction = .unavailable reason → session.Loses container perSigner renewed)
    (found : session.rpcs[index]? = some perSigner) (fits : reaction.Fits perSigner)
    (qualified : session.Qualified container.trustedIds) :
    renewed.Qualified container.trustedIds := by
  have coherent := move.coherent found fits qualified.coherent
  by_cases kept : ∀ reason, reaction ≠ .unavailable reason
  · obtain ⟨schema, signers, -⟩ := move.frame kept
    refine ⟨coherent, ?_, ?_⟩
    · rw [signers]
      exact qualified.trusted
    · rw [schema, signers]
      exact qualified.required
  · -- Whoever comes in for a lost signer is trusted, and refills the required patterns.
    push Not at kept
    obtain ⟨reason, rfl⟩ := kept
    have listed := qualified.coherent.lost_listed found fits
    cases loses reason rfl with
    | failed schema nobody signers =>
      refine ⟨coherent, ?_, ?_⟩
      · rw [signers]
        exact qualified.trusted
      · rw [schema, signers]
        exact qualified.required
    | replaced schema found' signers failures =>
      refine ⟨coherent, fun name member => ?_, ?_⟩
      · cases move with
        | failed needed => exact qualified.trusted name member
        | replaced draws renews =>
          rcases (renews.mem_iff name).mp member with ⟨-, old⟩ | new
          · exact qualified.trusted name old
          · exact ((MultipartySchemaContainer.mem_available _).mp (renews.available name new)).1
      · rw [schema, signers]
        exact MultipartySchemaContainer.replaceSigner_meetsRequired named
          qualified.coherent.signers_nodup listed qualified.required found'

/-- After a loss a session still conforms exactly when the loss is covered. -/
theorem Loses.conforming_iff {container : MultipartySchemaContainer PublicKey}
    {session renewed : Session} {perSigner : MultiSignPerSignerState}
    (loses : session.Loses container perSigner renewed) (named : container.NamesNonempty)
    (distinct : session.global.signers.Nodup)
    (listed : perSigner.signerKeyName ∈ session.global.signers) (conforms : session.Conforms) :
    renewed.Conforms ↔ container.LossCovered session.global.schema session.global.signers
      perSigner.signerKeyName := by
  rw [← MultipartySchemaContainer.replaceSigner_passes_iff_covered named distinct listed conforms]
  -- Without a replacement the list stays, and with one it is what the container returned.
  cases loses with
  | failed schema nobody signers =>
    rw [Conforms, schema, signers]
    exact ⟨fun _ => .inl nobody, fun _ => conforms⟩
  | replaced schema found signers failures =>
    rw [Conforms, schema, signers]
    exact (or_iff_right found).symm

/-- A session that conforms does so after a move that covers its loss, if it is one. -/
theorem Move.conforms {libs : Libraries SecretKey PublicKey Signature} {initiatorPrefix : Name}
    {container after : MultipartySchemaContainer PublicKey} {session renewed : Session}
    {index : Nat} {perSigner : MultiSignPerSignerState} {reaction : Reaction}
    (move : session.Move libs initiatorPrefix container index perSigner reaction after renewed)
    (named : container.NamesNonempty)
    (loses : ∀ reason, reaction = .unavailable reason → session.Loses container perSigner renewed)
    (covers : ∀ reason, reaction = .unavailable reason →
      container.LossCovered session.global.schema session.global.signers perSigner.signerKeyName)
    (found : session.rpcs[index]? = some perSigner) (fits : reaction.Fits perSigner)
    (coherent : session.Coherent) (conforms : session.Conforms) : renewed.Conforms := by
  by_cases kept : ∀ reason, reaction ≠ .unavailable reason
  · -- Without a loss the list stays.
    obtain ⟨schema, signers, -⟩ := move.frame kept
    rw [Conforms, schema, signers]
    exact conforms
  · push Not at kept
    obtain ⟨reason, rfl⟩ := kept
    have listed := coherent.lost_listed found fits
    exact ((loses reason rfl).conforming_iff named coherent.signers_nodup listed conforms).mpr
      (covers reason rfl)

end Session

namespace MPSInitiator

variable {libs : Libraries SecretKey PublicKey Signature}

/-- Every session is qualified by the keys trusted at the start, all of them with names. -/
structure AllQualified (trustedIds : TrustedIds PublicKey) (initiator : MPSInitiator PublicKey) :
    Prop where
  same : initiator.schemaContainer.trustedIds = trustedIds
  named : initiator.schemaContainer.NamesNonempty
  qualified : ∀ session ∈ initiator.sessions, session.Qualified trustedIds

/-- Every step keeps all sessions qualified. -/
theorem AllQualified.step {trustedIds : TrustedIds PublicKey}
    {initiator after : MPSInitiator PublicKey} {event : Event Signature}
    (all : AllQualified trustedIds initiator) (taken : initiator.next libs event = some after) :
    AllQualified trustedIds after := by
  have same := (next_step taken).trustedIds_eq.trans all.same
  have named := all.named
  obtain ⟨rfl, -, qualified⟩ := all
  refine ⟨same, ?_, ?_⟩
  · rw [MultipartySchemaContainer.NamesNonempty, same]
    exact named
  · refine keeps_lost (Session.Qualified initiator.schemaContainer.trustedIds) taken ?_ ?_ qualified
    · intro unsignedData schema signingKeyName keyLocatorRandomness rpcs signers _ selected
      exact (Session.startSession_qualified selected).1
    · rintro session index perSigner reaction renewed qualified ⟨_, _, _, -, -, found, reacted⟩ move
        loses
      exact move.qualified named loses found (react_fits reacted) qualified

/-- Every lost signer's worth to the optional signers is covered. -/
def LossesCovered (libs : Libraries SecretKey PublicKey Signature)
    (initiator : MPSInitiator PublicKey) (event : Event Signature) : Prop :=
  ∀ session index perSigner reason,
    initiator.Handles libs event session index perSigner (.unavailable reason) →
    initiator.schemaContainer.LossCovered session.global.schema session.global.signers
      perSigner.signerKeyName

/-- In every run the signers of every session are different trusted ones that meet all required
patterns of its schema, whoever was lost or forgotten as lost; and the lists pass the whole schema
exactly as long as every loss is covered. -/
theorem conforms_iff (libs : Libraries SecretKey PublicKey Signature)
    {initiator final : MPSInitiator PublicKey} {events : List (Event Signature)}
    (named : initiator.schemaContainer.NamesNonempty) (unused : initiator.sessions = [])
    (run : Run.after (next libs) events initiator = some final) :
    (∀ session ∈ final.sessions, session.Qualified initiator.schemaContainer.trustedIds) ∧
      (Run.EveryState (next libs) (fun state => ∀ session ∈ state.sessions, session.Conforms) events
          initiator ↔
        Run.EveryStep (next libs) (LossesCovered libs) events initiator) := by
  have initial : AllQualified initiator.schemaContainer.trustedIds initiator :=
    ⟨rfl, named, of_unused unused _⟩
  have final : AllQualified initiator.schemaContainer.trustedIds final :=
    Run.always (fun _ _ _ all taken => all.step taken) initial run
  refine ⟨final.qualified, Run.everyState_iff_everyStep
    (AllQualified initiator.schemaContainer.trustedIds) (fun _ _ _ all taken => all.step taken) ?_
    initial (of_unused unused _) run⟩
  intro state event after all conforms taken
  constructor
  · intro afterwards session index perSigner reason handled
    -- The session that lost the signer is among those that still conform.
    obtain ⟨renewed, member, loses⟩ := exists_renewed taken handled
    obtain ⟨_, _, _, -, located, found, reacted⟩ := handled
    have present := List.mem_of_getElem? located
    have coherent := (all.qualified session present).coherent
    exact (loses.conforming_iff all.named coherent.signers_nodup
      (coherent.lost_listed found (react_fits reacted)) (conforms session present)).mp
      (afterwards renewed member)
  · intro covered
    have both : ∀ session ∈ state.sessions, session.Coherent ∧ session.Conforms :=
      fun session member => ⟨(all.qualified session member).coherent, conforms session member⟩
    have kept := keeps_lost (fun session => session.Coherent ∧ session.Conforms) taken ?_ ?_ both
    · exact fun session member => (kept session member).2
    · intro unsignedData schema signingKeyName keyLocatorRandomness rpcs signers _ selected
      obtain ⟨qualified, passes⟩ := Session.startSession_qualified selected
      exact ⟨qualified.coherent, passes⟩
    · rintro session index perSigner reaction renewed ⟨coherent, conforms⟩ handled move loses
      have covers : ∀ reason, reaction = .unavailable reason →
          state.schemaContainer.LossCovered session.global.schema session.global.signers
            perSigner.signerKeyName :=
        fun reason lost => covered session index perSigner reason (lost ▸ handled)
      obtain ⟨_, _, _, -, -, found, reacted⟩ := handled
      have fits := react_fits reacted
      exact ⟨move.coherent found fits coherent,
        move.conforms all.named loses covers found fits coherent conforms⟩

/-- The failures reported by the session in a place, if there is one. -/
def failuresAt (initiator : MPSInitiator PublicKey) (position : Nat) : Nat :=
  (initiator.sessions[position]?).elim 0 Session.failures

/-- Where the event lets a session report a failure, and its schema asks for anybody, no different
keys that are trusted and available then satisfy the schema. -/
def FailsInNeed (libs : Libraries SecretKey PublicKey Signature)
    (initiator : MPSInitiator PublicKey) (event : Event Signature) : Prop :=
  ∀ after, initiator.next libs event = some after →
    ∀ (position : Nat) (renewed : Session), after.sessions[position]? = some renewed →
      initiator.failuresAt position < renewed.failures →
      renewed.global.schema.passSchema [] = false →
      ∀ selection : List Name, selection.Nodup →
        (∀ name ∈ selection, name ∈ after.schemaContainer.available) →
        renewed.global.schema.passSchema selection = false

/-- A new session has failed only where its schema asks for nobody. -/
theorem startSession_failures (libs : Libraries SecretKey PublicKey Signature)
    (initiator : MPSInitiator PublicKey) (unsignedData : Data) (schema : MultipartySchema)
    (signingKeyName : Name) (keyLocatorRandomness : Nat) (rpcs : Name → RpcDraw)
    {signers : List Name} (nonempty : signers ≠ []) :
    (initiator.startSession libs unsignedData schema signingKeyName keyLocatorRandomness rpcs
      signers).failures = 0 := by
  rw [Session.startSession_eq]
  simp [Session.failures, nonempty, List.countP_map, Function.comp_def]

/-- From a state with qualified sessions no event makes a session fail without need. -/
theorem AllQualified.failsInNeed {trustedIds : TrustedIds PublicKey}
    {initiator : MPSInitiator PublicKey} (all : AllQualified trustedIds initiator)
    (event : Event Signature) : FailsInNeed libs initiator event := by
  intro after taken position renewed place more asks selection distinct inside
  -- Sessions that the event does not touch report nothing.
  have untouched : ∀ session, initiator.sessions[position]? = some session →
      renewed.failures = session.failures → False := by
    intro session located same
    simp [failuresAt, located, same] at more
  cases next_step taken with
  | refused | reset | stopped => exact (untouched renewed place rfl).elim
  | @started unsignedData schema signingKeyName keyLocatorRandomness rpcs signers selected =>
    rw [List.getElem?_append] at place
    split at place
    · exact (untouched renewed place rfl).elim
    · -- The new session would have been started with nobody to ask.
      have same := List.mem_singleton.mp (List.mem_of_getElem? place)
      by_cases nobody : signers = []
      · obtain ⟨-, -, accepted⟩ := MultipartySchemaContainer.getAvailableSigners_sound selected
        have passes := (schema.passSchema_iff signers).mpr accepted
        rw [same, Session.startSession_eq] at asks
        rw [nobody, show schema.passSchema [] = false from asks] at passes
        cases passes
      · rw [same, startSession_failures libs initiator _ _ _ _ _ nobody] at more
        cases more
  | @moved sessionIndex index session moved perSigner rpcEvent draw reaction _ located found
      reacted move sessions =>
    rw [sessions] at place
    by_cases other : sessionIndex = position
    rotate_left
    · rw [List.getElem?_set_ne other] at place
      exact (untouched renewed place rfl).elim
    subst other
    rw [List.getElem?_set_self (List.getElem?_eq_some_iff.mp located).1] at place
    cases place
    by_cases kept : ∀ reason, reaction ≠ .unavailable reason
    · exact (untouched session located (move.frame kept).2.2).elim
    · push Not at kept
      obtain ⟨reason, rfl⟩ := kept
      cases next_loses taken located found reacted sessions with
      | replaced schema found' signers failures => exact (untouched session located failures).elim
      | failed schema nobody signers =>
        -- The container found nobody, so there is nobody.
        have qualified := all.qualified session (List.mem_of_getElem? located)
        rw [schema] at asks ⊢
        rw [move.marks_lost] at inside
        exact MultipartySchemaContainer.nobody_conforms all.named asks qualified.required nobody
          distinct inside

/-- In every run, with any resets of the cache and whatever was lost before, a session reports a
failure only when no different keys that are trusted and available satisfy its schema, unless the
schema asks for nobody. -/
theorem failsInNeed_of_run (libs : Libraries SecretKey PublicKey Signature)
    {initiator : MPSInitiator PublicKey} (events : List (Event Signature))
    (named : initiator.schemaContainer.NamesNonempty) (unused : initiator.sessions = []) :
    Run.EveryStep (next libs) (FailsInNeed libs) events initiator := by
  have initial : AllQualified initiator.schemaContainer.trustedIds initiator :=
    ⟨rfl, named, of_unused unused _⟩
  -- Every state of the run has qualified sessions only.
  have every : Run.EveryStep (next libs) (fun _ _ => True) events initiator :=
    Run.everyStep_of_forall (fun _ _ _ => trivial) initiator
  exact Run.EveryStep.imp (AllQualified initiator.schemaContainer.trustedIds)
    (fun _ _ _ all _ taken => all.step taken) (fun _ event all _ => all.failsInNeed event) initial
    every

end MPSInitiator

namespace Reference

/-- All trusted keys of the initiator with a spare signer have names. -/
theorem spareInitiator_named : spareInitiator.schemaContainer.NamesNonempty := by
  -- The keys are listed, so their names can be looked at one by one.
  show ∀ name ∈ spareInitiator.schemaContainer.trustedIds.names.toList, name.empty = false
  decide

end Reference

open Reference in
/-- The lists of the run that loses all signers. -/
theorem MPSInitiator.conforms_iff_threeLosses :
    ∃ final, Run.after (next libraries) threeLosses spareInitiator = some final ∧
      (∀ session ∈ final.sessions,
        session.Qualified spareInitiator.schemaContainer.trustedIds) ∧
      (Run.EveryState (next libraries) (fun state => ∀ session ∈ state.sessions, session.Conforms)
          threeLosses spareInitiator ↔
        Run.EveryStep (next libraries) (LossesCovered libraries) threeLosses spareInitiator) := by
  have possible : (Run.after (next libraries) threeLosses spareInitiator).isSome = true := by rfl
  obtain ⟨final, run⟩ := Option.isSome_iff_exists.mp possible
  exact ⟨final, run, conforms_iff libraries spareInitiator_named rfl run⟩

open Reference in
/-- The failures of the run that loses all signers. -/
theorem MPSInitiator.failsInNeed_of_run_threeLosses :
    Run.EveryStep (next libraries) (FailsInNeed libraries) threeLosses spareInitiator :=
  failsInNeed_of_run libraries threeLosses spareInitiator_named rfl

end NdnMps
