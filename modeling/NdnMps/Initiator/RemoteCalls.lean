import NdnMps.Initiator.Sessions

/-! What one step of the initiator does to each remote call, and what a remote call owes to the
packets delivered to it. -/

namespace NdnMps

variable {SecretKey PublicKey Signature : Type}

/-- What a reaction leaves of the remote call it comes from. -/
def Reaction.leaves (perSigner : MultiSignPerSignerState) : Reaction → MultiSignPerSignerState
  | .proceed other _ _ => other
  | .stop _ => perSigner
  | .abandon paraPrefixRegistered => { perSigner with paraPrefixRegistered, phase := .ended }
  | .collect _ | .unavailable _ => { perSigner with phase := .ended }

/-- The same terms of a remote call: its signer, its own key, its promise, the keys of it, and the
name of the result. -/
structure SameTerms (perSigner other : MultiSignPerSignerState) : Prop where
  signerKeyName : other.signerKeyName = perSigner.signerKeyName
  ecdh : other.ecdh = perSigner.ecdh
  paraDataPromise : other.paraDataPromise = perSigner.paraDataPromise
  aesKey : other.aesKey = perSigner.aesKey
  hmacKey : other.hmacKey = perSigner.hmacKey
  nextResultName : other.nextResultName = perSigner.nextResultName

/-- Only an acknowledgement that is read changes the terms of a remote call. -/
theorem Responds.terms {libs : Libraries SecretKey PublicKey Signature} {tpm : List Buffer}
    {perSigner : MultiSignPerSignerState} {draw : Draw Signature} {event : RpcEvent}
    {reaction : Reaction} (responds : Responds libs tpm perSigner draw event reaction) :
    (∃ ack pending reply, event = .data ack ∧ perSigner.phase = .awaitingAck pending ∧
      parseAckReply libs.tlv libs.ssl perSigner.ecdh draw.salt ack = .ok reply) ∨
    SameTerms perSigner (reaction.leaves perSigner) := by
  -- Every other reaction changes the phase only, or the registration of the prefix.
  cases responds with
  | acknowledged waits read => exact .inl ⟨_, _, _, rfl, waits, read⟩
  | _ => exact .inr ⟨rfl, rfl, rfl, rfl, rfl, rfl⟩

/-- The remote call changes in place, and the further ones of a session are new. -/
theorem Session.Move.rpcs_cases {libs : Libraries SecretKey PublicKey Signature}
    {initiatorPrefix : Name} {container after : MultipartySchemaContainer PublicKey}
    {session renewed : Session} {index : Nat} {perSigner : MultiSignPerSignerState}
    {reaction : Reaction}
    (move : session.Move libs initiatorPrefix container index perSigner reaction after renewed) :
    ∃ further, renewed.rpcs = session.rpcs.set index (reaction.leaves perSigner) ++ further ∧
      ∀ other ∈ further, ∃ toBeSigned signingKeyName signerKeyName draw,
        other = newRpc libs initiatorPrefix toBeSigned signingKeyName signerKeyName draw := by
  -- Only a replacement starts further remote calls.
  have alone : ∀ other ∈ ([] : List MultiSignPerSignerState),
      ∃ toBeSigned signingKeyName signerKeyName draw,
        other = newRpc libs initiatorPrefix toBeSigned signingKeyName signerKeyName draw := by
    intro other member
    cases member
  cases move with
  | abandoned => exact ⟨[], (List.append_nil _).symm, alone⟩
  | proceeded other tpm put => exact ⟨[], (List.append_nil _).symm, alone⟩
  | collected missing => exact ⟨[], (List.append_nil _).symm, alone⟩
  | finished enough aggregated signed announced => exact ⟨[], (List.append_nil _).symm, alone⟩
  | failed needed => exact ⟨[], (List.append_nil _).symm, alone⟩
  | @replaced reason newSigners diffSigners draws renews =>
    refine ⟨_, rfl, fun other member => ?_⟩
    obtain ⟨name, -, same⟩ := List.mem_map.mp member
    exact ⟨_, _, name, _, same.symm⟩

namespace MPSInitiator

variable {libs : Libraries SecretKey PublicKey Signature}
variable {initiator after : MPSInitiator PublicKey} {event : Event Signature} {put : List Data}

/-- The remote call of an index in the session of an index. -/
def rpcAt (initiator : MPSInitiator PublicKey) (sessionIndex index : Nat) :
    Option MultiSignPerSignerState :=
  (initiator.sessions[sessionIndex]?).bind fun session => session.rpcs[index]?

/-- A remote call is found in its session. -/
theorem rpcAt_of_getElem? {sessionIndex index : Nat} {session : Session}
    {perSigner : MultiSignPerSignerState}
    (located : initiator.sessions[sessionIndex]? = some session)
    (found : session.rpcs[index]? = some perSigner) :
    initiator.rpcAt sessionIndex index = some perSigner := by
  rw [rpcAt, located, Option.bind_some, found]

/-- A remote call that is there has a session. -/
theorem getElem?_of_rpcAt {sessionIndex index : Nat} {perSigner : MultiSignPerSignerState}
    (found : initiator.rpcAt sessionIndex index = some perSigner) :
    ∃ session, initiator.sessions[sessionIndex]? = some session ∧
      session.rpcs[index]? = some perSigner :=
  Option.bind_eq_some_iff.mp found

/-- What one step of the initiator makes of a remote call. -/
inductive RpcStep (libs : Libraries SecretKey PublicKey Signature)
    (initiator after : MPSInitiator PublicKey) (event : Event Signature)
    (sessionIndex index : Nat) (other : MultiSignPerSignerState) : Prop where
  /-- The event is not one of the remote call. -/
  | untouched (found : initiator.rpcAt sessionIndex index = some other)
      (apart : ∀ rpcEvent draw, event ≠ .rpc sessionIndex index rpcEvent draw)
  /-- The remote call has just been started. -/
  | started {toBeSigned : Data} {signingKeyName signerKeyName : Name} {draw : RpcDraw}
      (absent : initiator.rpcAt sessionIndex index = none)
      (apart : ∀ rpcEvent draw, event ≠ .rpc sessionIndex index rpcEvent draw)
      (new : other = Session.newRpc libs initiator.initiatorPrefix toBeSigned signingKeyName
        signerKeyName draw)
  /-- The remote call has reacted. -/
  | reacted {perSigner : MultiSignPerSignerState} {rpcEvent : RpcEvent} {draw : Draw Signature}
      {signingKeyName : Name} {reaction : Reaction}
      (found : initiator.rpcAt sessionIndex index = some perSigner)
      (same : event = .rpc sessionIndex index rpcEvent draw)
      (reacted : react libs initiator.tpm signingKeyName perSigner draw rpcEvent = some reaction)
      (left : other = reaction.leaves perSigner)
      (stops : ∀ liveness, reaction = .stop liveness → after.liveness = liveness)

/-- Every remote call that is there after a step was there before it or has been started by it. -/
theorem rpcAt_step (taken : initiator.next libs event = some after) {sessionIndex index : Nat}
    {other : MultiSignPerSignerState} (found : after.rpcAt sessionIndex index = some other) :
    RpcStep libs initiator after event sessionIndex index other := by
  cases next_step taken with
  | refused => exact .untouched found (by intro _ _ same; cases same)
  | reset => exact .untouched found (by intro _ _ same; cases same)
  | @started unsignedData schema signingKeyName keyLocatorRandomness rpcs signers selected =>
    obtain ⟨session, located, present⟩ := getElem?_of_rpcAt found
    have apart : ∀ (rpcEvent : RpcEvent) (draw : Draw Signature),
        Event.multiPartySign unsignedData schema signingKeyName keyLocatorRandomness rpcs ≠
          .rpc sessionIndex index rpcEvent draw := by
      intro rpcEvent draw same
      cases same
    by_cases old : sessionIndex < initiator.sessions.length
    · rw [List.getElem?_append_left old] at located
      exact .untouched (rpcAt_of_getElem? located present) apart
    · -- The session is the one that has just been started.
      have absent : initiator.rpcAt sessionIndex index = none := by
        rw [rpcAt, List.getElem?_eq_none (Nat.le_of_not_lt old), Option.bind_none]
      rw [List.getElem?_append_right (Nat.le_of_not_lt old)] at located
      have new := List.mem_of_getElem? located
      rw [List.mem_singleton] at new
      rw [new, Session.startSession_eq] at present
      obtain ⟨name, -, same⟩ := List.mem_map.mp (List.mem_of_getElem? present)
      exact .started absent apart same.symm
  | @stopped stoppedSession stopped session perSigner rpcEvent draw liveness located present
      reacted =>
    by_cases same : sessionIndex = stoppedSession ∧ index = stopped
    · obtain ⟨sameSession, sameIndex⟩ := same
      -- It is the remote call whose reaction has stopped the thread.
      subst sameSession sameIndex
      have before := rpcAt_of_getElem? located present
      have equal : other = perSigner := Option.some.inj (found.symm.trans before)
      refine .reacted before rfl reacted equal ?_
      intro other stop
      cases stop
      rfl
    · refine .untouched found ?_
      intro _ _ event
      cases event
      exact same ⟨rfl, rfl⟩
  | @moved movedSession moved session renewed perSigner rpcEvent draw reaction after located
      present reacted move sessions =>
    obtain ⟨further, rpcs, new⟩ := move.rpcs_cases
    obtain ⟨there, locatedAfter, presentAfter⟩ := getElem?_of_rpcAt found
    have apart : ¬ (sessionIndex = movedSession ∧ index = moved) →
        ∀ (otherEvent : RpcEvent) (otherDraw : Draw Signature),
          Event.rpc movedSession moved rpcEvent draw ≠
            .rpc sessionIndex index otherEvent otherDraw := by
      intro differ _ _ event
      cases event
      exact differ ⟨rfl, rfl⟩
    rw [sessions] at locatedAfter
    by_cases sameSession : sessionIndex = movedSession
    · subst sameSession
      have inside := (List.getElem?_eq_some_iff.mp located).1
      rw [List.getElem?_set_self inside] at locatedAfter
      rw [← Option.some.inj locatedAfter, rpcs] at presentAfter
      have within := (List.getElem?_eq_some_iff.mp present).1
      -- The session keeps its old remote calls in their places, all but one unchanged.
      by_cases old : index < session.rpcs.length
      · rw [List.getElem?_append_left (by rwa [List.length_set])] at presentAfter
        by_cases sameIndex : index = moved
        · subst sameIndex
          rw [List.getElem?_set_self within] at presentAfter
          refine .reacted (rpcAt_of_getElem? located present) rfl reacted
            (Option.some.inj presentAfter).symm ?_
          intro liveness stop
          rw [stop] at move
          cases move
        · rw [List.getElem?_set_ne (Ne.symm sameIndex)] at presentAfter
          -- Another remote call of the same session.
          exact .untouched (rpcAt_of_getElem? located presentAfter)
            (apart fun both => sameIndex both.2)
      · -- Behind the old remote calls there are only new ones.
        have absent : initiator.rpcAt sessionIndex index = none := by
          rw [rpcAt, located, Option.bind_some, List.getElem?_eq_none (Nat.le_of_not_lt old)]
        rw [List.getElem?_append_right (by
          rw [List.length_set]
          exact Nat.le_of_not_lt old)] at presentAfter
        obtain ⟨toBeSigned, signingKeyName, signerKeyName, rpcDraw, same⟩ :=
          new other (List.mem_of_getElem? presentAfter)
        refine .started absent (apart fun both => ?_) same
        rw [both.2] at old
        exact old within
    · -- Another session.
      rw [List.getElem?_set_ne (Ne.symm sameSession)] at locatedAfter
      exact .untouched (rpcAt_of_getElem? locatedAfter presentAfter)
        (apart fun both => sameSession both.1)

/-- No step takes a remote call away. -/
theorem rpcAt_isSome (taken : initiator.next libs event = some after) {sessionIndex index : Nat}
    {perSigner : MultiSignPerSignerState}
    (found : initiator.rpcAt sessionIndex index = some perSigner) :
    ∃ other, after.rpcAt sessionIndex index = some other := by
  obtain ⟨session, located, present⟩ := getElem?_of_rpcAt found
  cases next_step taken with
  | refused => exact ⟨perSigner, found⟩
  | reset => exact ⟨perSigner, found⟩
  | stopped => exact ⟨perSigner, found⟩
  | started selected =>
    have inside := (List.getElem?_eq_some_iff.mp located).1
    exact ⟨perSigner, rpcAt_of_getElem?
      ((List.getElem?_append_left inside).trans located) present⟩
  | @moved movedSession moved other renewed reactor rpcEvent draw reaction after movedLocated
      movedPresent reacted move sessions =>
    obtain ⟨further, rpcs, -⟩ := move.rpcs_cases
    by_cases same : sessionIndex = movedSession
    · subst same
      cases located.symm.trans movedLocated
      -- The list of remote calls only grows.
      have within := (List.getElem?_eq_some_iff.mp present).1
      have longer : index < renewed.rpcs.length := by
        rw [rpcs, List.length_append, List.length_set]
        omega
      refine ⟨renewed.rpcs[index], rpcAt_of_getElem? ?_ (List.getElem?_eq_getElem longer)⟩
      rw [sessions]
      exact List.getElem?_set_self (List.getElem?_eq_some_iff.mp located).1
    · refine ⟨perSigner, rpcAt_of_getElem? ?_ present⟩
      rw [sessions, List.getElem?_set_ne (Ne.symm same)]
      exact located

/-- An event of a remote call happens to one that is there. -/
theorem rpcAt_of_next {sessionIndex index : Nat} {rpcEvent : RpcEvent} {draw : Draw Signature}
    (taken : initiator.next libs (.rpc sessionIndex index rpcEvent draw) = some after) :
    ∃ perSigner, initiator.rpcAt sessionIndex index = some perSigner := by
  cases next_step taken with
  | stopped located found reacted => exact ⟨_, rpcAt_of_getElem? located found⟩
  | moved located found reacted move sessions => exact ⟨_, rpcAt_of_getElem? located found⟩

/-- Only a running initiator takes a step. -/
theorem running_of_step (stepped : initiator.step libs event = some (after, put)) :
    initiator.liveness = .running := by
  by_contra stopped
  simp [step, stopped] at stepped

/-- A step is one whatever it puts on the face. -/
theorem next_of_step (stepped : initiator.step libs event = some (after, put)) :
    initiator.next libs event = some after := by
  simp only [next, stepped, Option.map_some]

/-- Only the promise of a remote call is ever put on the face. -/
theorem put_cases (stepped : initiator.step libs event = some (after, put)) {data : Data}
    (member : data ∈ put) : ∃ sessionIndex index perSigner draw,
      event = .rpc sessionIndex index .paraInterest draw ∧
      initiator.rpcAt sessionIndex index = some perSigner ∧
      perSigner.paraDataPromise = some data := by
  unfold step at stepped
  split at stepped
  · cases stepped
  cases event with
  | multiPartySign unsignedData schema signingKeyName keyLocatorRandomness rpcs =>
    dsimp only at stepped
    split at stepped <;> cases stepped <;> cases member
  | resetCachedUnavailableSigners =>
    cases stepped
    cases member
  | rpc sessionIndex index event draw =>
    obtain ⟨session, located, stepped⟩ := Option.bind_eq_some_iff.mp stepped
    obtain ⟨perSigner, found, stepped⟩ := Option.bind_eq_some_iff.mp stepped
    obtain ⟨reaction, reacted, stepped⟩ := Option.bind_eq_some_iff.mp stepped
    rw [Option.some.injEq] at stepped
    -- Of all reactions only the one with a promise puts something on the face.
    cases react_responds reacted with
    | answers registered promised =>
      cases stepped
      rw [List.mem_singleton] at member
      exact ⟨sessionIndex, index, perSigner, draw, rfl, rpcAt_of_getElem? located found,
        member ▸ promised⟩
    | returned waits =>
      simp only [act] at stepped
      split at stepped <;> cases stepped <;> cases member
    | _ =>
      cases stepped
      cases member

/-- The thread blocks only on an Interest for a parameter packet that nobody has promised yet. -/
theorem blocked_cases (stepped : initiator.step libs event = some (after, put))
    (blocked : after.liveness = .blocked) : ∃ sessionIndex index draw perSigner,
      event = .rpc sessionIndex index .paraInterest draw ∧
      initiator.rpcAt sessionIndex index = some perSigner ∧
      perSigner.paraPrefixRegistered = true ∧ perSigner.paraDataPromise = none := by
  unfold step at stepped
  split at stepped
  · cases stepped
  rename_i running
  rw [ne_eq, not_not] at running
  -- A step that leaves the liveness alone does not block.
  have goesOn : ∀ {liveness : Liveness}, liveness = initiator.liveness →
      liveness ≠ .blocked := by
    intro liveness same blocks
    rw [same, running] at blocks
    cases blocks
  cases event with
  | multiPartySign unsignedData schema signingKeyName keyLocatorRandomness rpcs =>
    dsimp only at stepped
    split at stepped <;> cases stepped <;> exact absurd blocked (goesOn rfl)
  | resetCachedUnavailableSigners =>
    cases stepped
    exact absurd blocked (goesOn rfl)
  | rpc sessionIndex index event draw =>
    obtain ⟨session, located, stepped⟩ := Option.bind_eq_some_iff.mp stepped
    obtain ⟨perSigner, found, stepped⟩ := Option.bind_eq_some_iff.mp stepped
    obtain ⟨reaction, reacted, stepped⟩ := Option.bind_eq_some_iff.mp stepped
    rw [Option.some.injEq] at stepped
    -- Of all the reactions only one blocks, and another three may stop the thread.
    cases react_responds reacted with
    | blocks registered unset waits =>
      exact ⟨sessionIndex, index, draw, perSigner, rfl, rpcAt_of_getElem? located found,
        registered, unset⟩
    | overrun | corrupted =>
      cases stepped
      cases blocked
    | returned waits =>
      simp only [act] at stepped
      split at stepped <;> cases stepped
      · cases blocked
      · exact absurd blocked (goesOn rfl)
    | _ =>
      cases stepped
      exact absurd blocked (goesOn rfl)

end MPSInitiator

/-- An acknowledgement that a remote call can read has been delivered to it. -/
def Acknowledged (libs : Libraries SecretKey PublicKey Signature) (past : List (Event Signature))
    (sessionIndex index : Nat) (ecdh : Buffer) (ack : Data) (reply : AckReply) : Prop :=
  ∃ draw, .rpc sessionIndex index (.data ack) draw ∈ past ∧
    parseAckReply libs.tlv libs.ssl ecdh draw.salt ack = .ok reply

/-- The remote call asks for a result, or will ask for it. -/
def MultiSignPerSignerState.acknowledged (perSigner : MultiSignPerSignerState) : Bool :=
  match perSigner.phase with
  | .scheduled _ | .awaitingResult _ => true
  | .awaitingAck _ | .ended => false

/-- What a remote call owes to the packets delivered to it. -/
structure Informed (libs : Libraries SecretKey PublicKey Signature)
    (past : List (Event Signature)) (sessionIndex index : Nat)
    (perSigner : MultiSignPerSignerState) : Prop where
  /-- No packet has been delivered while an acknowledgement is awaited. -/
  silent : ∀ pending, perSigner.phase = .awaitingAck pending →
    ∀ data draw, .rpc sessionIndex index (.data data) draw ∉ past
  /-- The promise and the keys come from an acknowledgement. -/
  promised : ∀ para, perSigner.paraDataPromise = some para → ∃ ack reply,
    Acknowledged libs past sessionIndex index perSigner.ecdh ack reply ∧
      perSigner.aesKey = reply.keys.aesKey ∧ perSigner.hmacKey = reply.keys.hmacKey ∧
      EncryptedUnder libs reply.keys para
  /-- Without a promise there was no such acknowledgement. -/
  unset : perSigner.paraDataPromise = none → perSigner.acknowledged = false ∧
    ∀ ack reply, ¬ Acknowledged libs past sessionIndex index perSigner.ecdh ack reply

section Informed

variable {libs : Libraries SecretKey PublicKey Signature} {past : List (Event Signature)}
variable {sessionIndex index : Nat} {event : Event Signature}

/-- What has been delivered stays delivered. -/
theorem Acknowledged.mono {ecdh : Buffer} {ack : Data} {reply : AckReply}
    (acknowledged : Acknowledged libs past sessionIndex index ecdh ack reply) :
    Acknowledged libs (past ++ [event]) sessionIndex index ecdh ack reply := by
  obtain ⟨draw, delivered, read⟩ := acknowledged
  exact ⟨draw, List.mem_append_left _ delivered, read⟩

/-- An acknowledgement delivered so far was delivered before or just now. -/
theorem acknowledged_concat {ecdh : Buffer} {ack : Data} {reply : AckReply} :
    Acknowledged libs (past ++ [event]) sessionIndex index ecdh ack reply ↔
      Acknowledged libs past sessionIndex index ecdh ack reply ∨
        ∃ draw, event = .rpc sessionIndex index (.data ack) draw ∧
          parseAckReply libs.tlv libs.ssl ecdh draw.salt ack = .ok reply := by
  -- The last event is the new one, and all the others were there before.
  constructor
  · intro ⟨draw, delivered, read⟩
    rcases List.mem_append.mp delivered with before | now
    · exact .inl ⟨draw, before, read⟩
    · exact .inr ⟨draw, (List.mem_singleton.mp now).symm, read⟩
  · intro either
    rcases either with before | ⟨draw, now, read⟩
    · exact before.mono
    · exact ⟨draw, List.mem_append_right _ (List.mem_singleton.mpr now.symm), read⟩

/-- An event of something else tells a remote call nothing. -/
theorem Informed.untouched {perSigner : MultiSignPerSignerState}
    (informed : Informed libs past sessionIndex index perSigner)
    (apart : ∀ data draw, event ≠ .rpc sessionIndex index (.data data) draw) :
    Informed libs (past ++ [event]) sessionIndex index perSigner := by
  -- Each part is about Data for this remote call, and the new event brings none.
  refine ⟨?_, ?_, ?_⟩
  · intro pending waits data draw member
    rcases List.mem_append.mp member with before | now
    · exact informed.silent pending waits data draw before
    · exact apart data draw (List.mem_singleton.mp now).symm
  · intro para promised
    obtain ⟨ack, reply, acknowledged, keys⟩ := informed.promised para promised
    exact ⟨ack, reply, acknowledged.mono, keys⟩
  · intro unset
    obtain ⟨phase, never⟩ := informed.unset unset
    refine ⟨phase, fun ack reply acknowledged => ?_⟩
    rcases acknowledged_concat.mp acknowledged with before | ⟨draw, now, -⟩
    · exact never ack reply before
    · exact apart ack draw now

/-- A new remote call has been told nothing. -/
theorem informed_newRpc {initiatorPrefix signingKeyName signerKeyName : Name} {toBeSigned : Data}
    {rpcDraw : RpcDraw} (never : ∀ data draw, .rpc sessionIndex index (.data data) draw ∉ past) :
    Informed libs past sessionIndex index
      (Session.newRpc libs initiatorPrefix toBeSigned signingKeyName signerKeyName rpcDraw) := by
  -- It waits for its first packet, and so nothing has been promised.
  refine ⟨fun _ _ => never, ?_, ?_⟩
  · intro para promised
    cases promised
  · intro _
    refine ⟨rfl, fun ack reply acknowledged => ?_⟩
    obtain ⟨draw, delivered, -⟩ := acknowledged
    exact never ack draw delivered

/-- A remote call that ends keeps its promise or never gets one. -/
theorem Informed.closed {perSigner : MultiSignPerSignerState}
    (informed : Informed libs past sessionIndex index perSigner) :
    Informed libs past sessionIndex index { perSigner with phase := .ended } := by
  refine ⟨?_, informed.promised, fun unset => ⟨rfl, (informed.unset unset).2⟩⟩
  intro pending waits
  cases waits

/-- After an acknowledgement the promise stays as it is. -/
theorem Informed.later {perSigner other : MultiSignPerSignerState}
    (informed : Informed libs past sessionIndex index perSigner)
    (asked : perSigner.acknowledged = true) (ecdh : other.ecdh = perSigner.ecdh)
    (promise : other.paraDataPromise = perSigner.paraDataPromise)
    (aesKey : other.aesKey = perSigner.aesKey) (hmacKey : other.hmacKey = perSigner.hmacKey)
    (phase : ∀ pending, other.phase ≠ .awaitingAck pending) :
    Informed libs (past ++ [event]) sessionIndex index other := by
  refine ⟨fun pending waits => absurd waits (phase pending), ?_, ?_⟩
  · intro para promised
    rw [promise] at promised
    obtain ⟨ack, reply, acknowledged, keys⟩ := informed.promised para promised
    rw [ecdh, aesKey, hmacKey]
    exact ⟨ack, reply, acknowledged.mono, keys⟩
  · intro unset
    rw [promise] at unset
    -- The remote call would not ask for a result without a promise.
    rw [(informed.unset unset).1] at asked
    cases asked

/-- A reaction after which the thread goes on leaves the remote call informed. -/
theorem Informed.reacted {perSigner : MultiSignPerSignerState} {rpcEvent : RpcEvent}
    {draw : Draw Signature} {tpm : List Buffer} {reaction : Reaction}
    (informed : Informed libs past sessionIndex index perSigner)
    (responds : Responds libs tpm perSigner draw rpcEvent reaction)
    (goesOn : ∀ liveness, reaction ≠ .stop liveness) :
    Informed libs (past ++ [.rpc sessionIndex index rpcEvent draw]) sessionIndex index
      (reaction.leaves perSigner) := by
  have apart : (∀ data, rpcEvent ≠ .data data) → ∀ data (other : Draw Signature),
      Event.rpc sessionIndex index rpcEvent draw ≠ .rpc sessionIndex index (.data data) other := by
    intro differ data other same
    cases same
    exact differ data rfl
  cases responds with
  | @acknowledged ack para pending reply waits read encrypted =>
    refine ⟨?_, ?_, ?_⟩
    · intro pending waits
      cases waits
    · intro para promised
      cases promised
      exact ⟨ack, reply, acknowledged_concat.mpr (.inr ⟨draw, rfl, read⟩), rfl, rfl, encrypted⟩
    · intro unset
      cases unset
  | @unreadable ack pending waits failed =>
    refine ⟨?_, ?_, ?_⟩
    · intro pending waits
      cases waits
    · intro para promised
      obtain ⟨ack, reply, acknowledged, keys⟩ := informed.promised para promised
      exact ⟨ack, reply, acknowledged.mono, keys⟩
    · intro unset
      refine ⟨rfl, fun other reply acknowledged => ?_⟩
      -- Neither an earlier acknowledgement nor this one has been read.
      rcases acknowledged_concat.mp acknowledged with before | ⟨draw, now, read⟩
      · exact (informed.unset unset).2 other reply before
      · cases now
        exact absurd (failed.symm.trans read) (by simp)
  | delayed waits | returned waits | refused waits | discarded waits | fetches waits
  | unnameable waits =>
    refine informed.later (by simp [MultiSignPerSignerState.acknowledged, waits]) rfl rfl rfl rfl ?_
    intro pending waits
    cases waits
  | nacked live => exact (informed.untouched (apart (by simp))).closed
  | timedOut live => exact (informed.untouched (apart (by simp))).closed
  | answers | broken => exact informed.untouched (apart (by simp))
  | overrun | corrupted | blocks => exact absurd rfl (goesOn _)

/-- The promise of a remote call is kept exactly when it has read an acknowledgement. -/
theorem Informed.isSome_iff {perSigner : MultiSignPerSignerState}
    (informed : Informed libs past sessionIndex index perSigner) :
    perSigner.paraDataPromise.isSome = true ↔
      ∃ ack reply, Acknowledged libs past sessionIndex index perSigner.ecdh ack reply := by
  -- A promise and an acknowledgement that has been read come together.
  cases promise : perSigner.paraDataPromise with
  | none =>
    have never := (informed.unset promise).2
    simp [never]
  | some para =>
    obtain ⟨ack, reply, acknowledged, -⟩ := informed.promised para promise
    exact ⟨fun _ => ⟨ack, reply, acknowledged⟩, fun _ => rfl⟩

end Informed

namespace MPSInitiator

variable {libs : Libraries SecretKey PublicKey Signature}

/-- A run of an initiator with what has happened in it. -/
abbrev RecordedInitiator (PublicKey Signature : Type) :=
  Recorded (MPSInitiator PublicKey) (Event Signature) Data

/-- While the initiator runs, every remote call is informed, and nothing has happened to one that
is not there. -/
def AllInformed (libs : Libraries SecretKey PublicKey Signature)
    (recorded : RecordedInitiator PublicKey Signature) : Prop :=
  recorded.state.liveness = .running →
    (∀ sessionIndex index perSigner, recorded.state.rpcAt sessionIndex index = some perSigner →
      Informed libs recorded.past sessionIndex index perSigner) ∧
    ∀ sessionIndex index, recorded.state.rpcAt sessionIndex index = none →
      ∀ rpcEvent draw, .rpc sessionIndex index rpcEvent draw ∉ recorded.past

/-- Without sessions there is nobody to inform. -/
theorem allInformed_start {initiator : MPSInitiator PublicKey} (unused : initiator.sessions = []) :
    AllInformed libs (Recorded.start initiator) := by
  -- The history is empty as well.
  intro _
  refine ⟨fun sessionIndex index perSigner found => ?_, fun _ _ _ _ _ => List.not_mem_nil⟩
  simp [Recorded.start, rpcAt, unused] at found

/-- Every step keeps the remote calls informed. -/
theorem AllInformed.step {recorded after : RecordedInitiator PublicKey Signature}
    {event : Event Signature} (informed : AllInformed libs recorded)
    (taken : Recorded.next (MPSInitiator.step libs) recorded event = some after) :
    AllInformed libs after := by
  intro running
  obtain ⟨put, stepped, past, -⟩ := Recorded.next_cases taken
  have next := next_of_step stepped
  obtain ⟨all, absent⟩ := informed (running_of_step stepped)
  constructor
  · intro sessionIndex index other found
    rw [past]
    cases rpcAt_step next found with
    | untouched found apart =>
      exact (all _ _ _ found).untouched fun data => apart (.data data)
    | started none apart new =>
      rw [new]
      refine informed_newRpc fun data draw member => ?_
      rcases List.mem_append.mp member with before | now
      · exact absent _ _ none _ _ before
      · exact apart _ _ (List.mem_singleton.mp now).symm
    | reacted found same reacted left stops =>
      rw [left, same]
      refine (all _ _ _ found).reacted (react_responds reacted) fun liveness stop => ?_
      -- A reaction that stops the thread stops the initiator, but that is running.
      have stopped := stops liveness stop
      cases react_responds reacted <;> cases stop <;> rw [running] at stopped <;> cases stopped
  · intro sessionIndex index none rpcEvent draw member
    rw [past] at member
    cases before : recorded.state.rpcAt sessionIndex index with
    | some perSigner =>
      obtain ⟨other, found⟩ := rpcAt_isSome next before
      rw [none] at found
      cases found
    | none =>
      rcases List.mem_append.mp member with earlier | now
      · exact absent _ _ before _ _ earlier
      · rw [← List.mem_singleton.mp now] at next
        obtain ⟨perSigner, found⟩ := rpcAt_of_next next
        rw [before] at found
        cases found

end MPSInitiator

end NdnMps
