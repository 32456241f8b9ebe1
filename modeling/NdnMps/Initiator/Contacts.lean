import NdnMps.Data.Past
import NdnMps.Initiator.Losses

/-! Whom the sessions of a run ask: nobody who is known to be lost, and only so many. -/

namespace NdnMps

variable {SecretKey PublicKey Signature : Type}

/-- The call records what has become of a remote call. -/
def Call.isConclusion : Call → Bool
  | .collected _ _ _ | .onUnavailableSigner _ _ => true
  | _ => false

/-- Every call starts a remote call, concludes one, or is one to the application. -/
theorem length_history (history : List Call) :
    history.length = (contactedKeys history).length + history.countP Call.isConclusion +
      history.countP Call.isCallback := by
  -- Induction on the history, by the kind of its first call.
  induction history with
  | nil => rfl
  | cons call rest ih =>
    rw [List.length_cons, List.countP_cons, List.countP_cons, ih]
    cases call <;> simp [contactedKeys, Call.isConclusion, Call.isCallback] <;> omega

namespace Session

/-- A session concludes only remote calls that it has started and that wait no longer, and calls
back only when it starts or with a conclusion. -/
structure Bounded (session : Session) : Prop where
  rpcs : session.rpcs.length = (contactedKeys session.history).length
  conclusions : session.history.countP Call.isConclusion + (liveKeys session.rpcs).length ≤
    session.rpcs.length
  callbacks : session.history.countP Call.isCallback ≤
    session.history.countP Call.isConclusion + 1

/-- The history of a bounded session is no longer than its remote calls allow. -/
theorem Bounded.length_le {session : Session} (bounded : session.Bounded) :
    session.history.countP Call.isCallback ≤ (contactedKeys session.history).length + 1 ∧
      session.history.length ≤ 3 * (contactedKeys session.history).length + 1 := by
  have length := length_history session.history
  have conclusions := bounded.conclusions
  have callbacks := bounded.callbacks
  rw [bounded.rpcs] at conclusions
  omega

/-- A new session has concluded nothing. -/
theorem startSession_bounded (libs : Libraries SecretKey PublicKey Signature)
    (initiator : MPSInitiator PublicKey) (unsignedData : Data) (schema : MultipartySchema)
    (signingKeyName : Name) (keyLocatorRandomness : Nat) (rpcs : Name → RpcDraw)
    (signers : List Name) :
    (initiator.startSession libs unsignedData schema signingKeyName keyLocatorRandomness rpcs
      signers).Bounded := by
  -- It has called back at most once, where it has nobody to ask.
  rw [startSession_eq]
  refine ⟨?_, ?_, ?_⟩
  · cases signers <;> simp [contactedKeys, List.filterMap_map]
  · simp only [liveKeys_newRpcs, List.length_map]
    cases signers <;> simp [Call.isConclusion, List.countP_map, Function.comp_def]
  · cases signers <;>
      simp [Call.isConclusion, Call.isCallback, List.countP_map, Function.comp_def]

/-- The remote calls that wait are one fewer once one of them has ended. -/
theorem length_liveKeys_close {session : Session} {index : Nat}
    {perSigner : MultiSignPerSignerState} (found : session.rpcs[index]? = some perSigner)
    (live : perSigner.live = true) :
    (liveKeys session.rpcs).length =
      (liveKeys (session.closeRpc index perSigner).rpcs).length + 1 :=
  (liveKeys_close found live).length_eq

section Moves

variable {libs : Libraries SecretKey PublicKey Signature} {initiatorPrefix : Name}
variable {container after : MultipartySchemaContainer PublicKey} {session renewed : Session}
variable {index : Nat} {perSigner : MultiSignPerSignerState} {reaction : Reaction}

/-- A session stays bounded if every conclusion is that of a remote call that waits no longer, and
pays for at most one callback. -/
theorem Bounded.append (bounded : session.Bounded) {calls : List Call}
    (history : renewed.history = session.history ++ calls)
    (started : renewed.rpcs.length = session.rpcs.length + (contactedKeys calls).length)
    (ended : calls.countP Call.isConclusion + (liveKeys renewed.rpcs).length ≤
      (liveKeys session.rpcs).length + (contactedKeys calls).length)
    (paid : calls.countP Call.isCallback ≤ calls.countP Call.isConclusion) : renewed.Bounded := by
  obtain ⟨rpcs, conclusions, callbacks⟩ := bounded
  refine ⟨?_, ?_, ?_⟩
  all_goals simp only [history, contactedKeys_append, List.length_append, List.countP_append]
  all_goals omega

/-- Every move keeps a session bounded. -/
theorem Move.bounded
    (move : session.Move libs initiatorPrefix container index perSigner reaction after renewed)
    (found : session.rpcs[index]? = some perSigner) (fits : reaction.Fits perSigner)
    (bounded : session.Bounded) : renewed.Bounded := by
  -- A remote call that concludes is one of those that have waited.
  have closed : (session.closeRpc index perSigner).rpcs.length = session.rpcs.length :=
    List.length_set
  have fewer := fun live => length_liveKeys_close found live
  cases move with
  | abandoned paraPrefixRegistered =>
    have fewer := fewer fits
    refine bounded.append (List.append_nil _).symm List.length_set ?_ le_rfl
    simp only [liveKeys_closeRpc, contactedKeys, List.countP_nil, List.filterMap_nil,
      List.length_nil]
    omega
  | proceeded other tpm put =>
    refine bounded.append (List.append_nil _).symm List.length_set ?_ le_rfl
    simp [setRpc, liveKeys_proceed found fits.1 fits.2]
  | @collected piece missing =>
    have fewer := fewer fits
    refine bounded.append rfl closed ?_ (by simp [Call.isCallback])
    simp [contactedKeys, Call.isConclusion]
    omega
  | @finished piece value nonce aggSig tempSig data info enough aggregated signed announced =>
    have fewer := fewer fits
    refine bounded.append (List.append_assoc _ _ _) closed ?_ ?_
    · simp [contactedKeys, Call.isConclusion, List.countP_cons]
      omega
    · simp [Call.isConclusion, Call.isCallback]
  | @failed reason text needed =>
    have fewer := fewer fits
    refine bounded.append (List.append_assoc _ _ _) closed ?_ ?_
    · simp [contactedKeys, Call.isConclusion, List.countP_cons]
      omega
    · simp [Call.isConclusion, Call.isCallback]
  | @replaced reason newSigners diffSigners draws renews =>
    -- One call has ended, and as many begin as signers are contacted.
    have fewer := fewer fits
    refine bounded.append (List.append_assoc _ _ _) ?_ ?_ ?_
    · simp [contactedKeys, List.filterMap_map, closed]
    · simp [contactedKeys, List.filterMap_map, liveKeys_append, liveKeys_newRpcs,
        Call.isConclusion, List.countP_cons, List.countP_map, Function.comp_def]
      omega
    · simp [Call.isCallback, List.countP_map, Function.comp_def]

/-- A move asks trusted keys only that are not marked as unavailable then, each once, and none of
the signers. -/
theorem Move.asks
    (move : session.Move libs initiatorPrefix container index perSigner reaction after renewed) :
    ∃ asked, contactedKeys renewed.history = contactedKeys session.history ++ asked ∧
      asked.Nodup ∧ (∀ name ∈ asked, name ∈ after.available ∧ name ∉ session.global.signers) ∧
      ∀ name, name ∈ session.global.signers ∨ name ∈ asked →
        name ∈ renewed.global.signers ∨ name ∈ after.unavailableSigners := by
  cases move with
  | @replaced reason newSigners diffSigners draws renews =>
    refine ⟨diffSigners, ?_, renews.diff_nodup,
      fun name new => ⟨renews.available name new, renews.fresh name new⟩, fun name known => ?_⟩
    · simp [contactedKeys, List.filterMap_map]
    · -- Only the lost signer leaves the list, and it is marked.
      by_cases lost : name = perSigner.signerKeyName
      · exact .inr (SortedSet.mem_insert.mpr (.inl lost))
      · exact .inl ((renews.mem_iff name).mpr (known.imp_left fun old => ⟨lost, old⟩))
  | abandoned | proceeded =>
    exact ⟨[], (List.append_nil _).symm, by simp, by simp,
      fun name known => .inl (known.resolve_right List.not_mem_nil)⟩
  | collected | finished | failed =>
    exact ⟨[], by simp [contactedKeys], by simp, by simp,
      fun name known => .inl (known.resolve_right List.not_mem_nil)⟩

/-- Apart from losses no move changes the container. -/
theorem Move.container_eq
    (move : session.Move libs initiatorPrefix container index perSigner reaction after renewed)
    (kept : ∀ reason, reaction ≠ .unavailable reason) : after = container := by
  cases move with
  | failed needed => exact absurd rfl (kept _)
  | replaced draws renews => exact absurd rfl (kept _)
  | _ => rfl

end Moves

/-- After some earlier ones a session has asked different trusted keys only, each of them listed or
marked as unavailable. -/
def AsksSince (earlier : List Name) (container : MultipartySchemaContainer PublicKey)
    (session : Session) : Prop :=
  ∃ recent, contactedKeys session.history = earlier ++ recent ∧ recent.Nodup ∧
    ∀ name ∈ recent, name ∈ container.trustedIds.names ∧
      (name ∈ session.global.signers ∨ name ∈ container.unavailableSigners)

/-- So it is with the keys a session has asked since the last of some resets, and before each reset
there were not more. -/
def AsksPerReset (resets : Nat) (container : MultipartySchemaContainer PublicKey)
    (session : Session) : Prop :=
  ∃ earlier, earlier.length ≤ container.trustedIds.names.toList.length * resets ∧
    session.AsksSince earlier container

section Resets

variable {resets : Nat} {earlier : List Name}
variable {container after : MultipartySchemaContainer PublicKey} {session renewed : Session}

/-- Nobody has been asked after all those who have been asked. -/
theorem asksSince_self (container : MultipartySchemaContainer PublicKey) (session : Session) :
    session.AsksSince (contactedKeys session.history) container :=
  ⟨[], (List.append_nil _).symm, by simp, by simp⟩

/-- No more keys are asked between two resets than are trusted. -/
theorem AsksPerReset.length_le (asks : session.AsksPerReset resets container) :
    (contactedKeys session.history).length ≤
      container.trustedIds.names.toList.length * (resets + 1) := by
  obtain ⟨earlier, bound, recent, split, distinct, known⟩ := asks
  have few : recent.length ≤ container.trustedIds.names.toList.length :=
    (distinct.subperm fun name member => (known name member).1).length_le
  rw [split, List.length_append, Nat.mul_add_one]
  omega

/-- After a reset the session may ask all keys again. -/
theorem AsksPerReset.reset (asks : session.AsksPerReset resets container) :
    session.AsksPerReset (resets + 1) container.resetCachedUnavailableSigners :=
  ⟨contactedKeys session.history, asks.length_le, asksSince_self _ session⟩

/-- Further marks change nothing. -/
theorem AsksSince.mono (asks : session.AsksSince earlier container)
    (trusted : after.trustedIds = container.trustedIds)
    (grown : ∀ name ∈ container.unavailableSigners, name ∈ after.unavailableSigners) :
    session.AsksSince earlier after := by
  obtain ⟨recent, split, distinct, known⟩ := asks
  refine ⟨recent, split, distinct, fun name member => ?_⟩
  rw [trusted]
  exact (known name member).imp_right (Or.imp_right (grown name))

/-- A new session has asked every signer once. -/
theorem startSession_asksSince {libs : Libraries SecretKey PublicKey Signature}
    {initiator : MPSInitiator PublicKey} {unsignedData : Data} {schema : MultipartySchema}
    {signingKeyName : Name} {keyLocatorRandomness : Nat} {rpcs : Name → RpcDraw}
    {signers : List Name}
    (selected : initiator.schemaContainer.getAvailableSigners schema = .ok signers) :
    (initiator.startSession libs unsignedData schema signingKeyName keyLocatorRandomness rpcs
      signers).AsksSince [] initiator.schemaContainer := by
  obtain ⟨distinct, inside, -⟩ := MultipartySchemaContainer.getAvailableSigners_sound selected
  rw [startSession_eq]
  refine ⟨signers, ?_, distinct, fun name member => ⟨?_, .inl member⟩⟩
  · cases signers <;> simp [contactedKeys, List.filterMap_map]
  · exact ((MultipartySchemaContainer.mem_available _).mp (inside name member)).1

/-- Every move keeps a session from asking twice between two resets. -/
theorem Move.asksSince {libs : Libraries SecretKey PublicKey Signature} {initiatorPrefix : Name}
    {index : Nat} {perSigner : MultiSignPerSignerState} {reaction : Reaction}
    (move : session.Move libs initiatorPrefix container index perSigner reaction after renewed)
    (asks : session.AsksSince earlier container) : renewed.AsksSince earlier after := by
  -- Those asked now are appended to those asked since the last reset.
  obtain ⟨recent, split, distinct, known⟩ := asks
  obtain ⟨asked, contacted, asksOnce, new, accounted⟩ := move.asks
  have trusted := move.trustedIds_eq
  have marked : ∀ name ∈ container.unavailableSigners, name ∈ after.unavailableSigners :=
    fun name unavailable => move.unavailable_mono unavailable
  refine ⟨recent ++ asked, by rw [contacted, split, List.append_assoc],
    List.Nodup.append distinct asksOnce fun name old fresh => ?_, fun name member => ?_⟩
  · -- A key that is asked now is neither listed nor marked.
    obtain ⟨available, unlisted⟩ := new name fresh
    rcases (known name old).2 with listed | unavailable
    · exact unlisted listed
    · exact ((MultipartySchemaContainer.mem_available _).mp available).2 (marked name unavailable)
  · rcases List.mem_append.mp member with old | fresh
    · obtain ⟨trust, listed | unavailable⟩ := known name old
      · exact ⟨trusted ▸ trust, accounted name (.inl listed)⟩
      · exact ⟨trusted ▸ trust, .inr (marked name unavailable)⟩
    · exact ⟨((MultipartySchemaContainer.mem_available _).mp (new name fresh).1).1,
        accounted name (.inr fresh)⟩

end Resets

end Session

namespace MPSInitiator

variable {libs : Libraries SecretKey PublicKey Signature}

/-- Every session is bounded, and asks no key twice between two resets. -/
structure AllBounded (trustedIds : TrustedIds PublicKey) (resets : Nat)
    (initiator : MPSInitiator PublicKey) : Prop where
  same : initiator.schemaContainer.trustedIds = trustedIds
  sessions : ∀ session ∈ initiator.sessions, session.Bounded ∧
    session.AsksPerReset resets initiator.schemaContainer

/-- The event forgets who is lost. -/
def Event.isReset : Event Signature → Bool
  | .resetCachedUnavailableSigners => true
  | _ => false

/-- Only a reset takes marks away. -/
theorem Step.keeps_marks {initiator after : MPSInitiator PublicKey} {event : Event Signature}
    (step : Step libs initiator event after) (kept : event ≠ .resetCachedUnavailableSigners) :
    ∀ name ∈ initiator.schemaContainer.unavailableSigners,
      name ∈ after.schemaContainer.unavailableSigners := by
  intro name unavailable
  cases step with
  | reset => exact absurd rfl kept
  | moved located found reacted move sessions => exact move.unavailable_mono unavailable
  | _ => exact unavailable

/-- Every step keeps all sessions bounded, and counts the resets. -/
theorem AllBounded.step {trustedIds : TrustedIds PublicKey} {resets : Nat}
    {initiator after : MPSInitiator PublicKey} {event : Event Signature}
    (all : AllBounded trustedIds resets initiator)
    (taken : initiator.next libs event = some after) :
    AllBounded trustedIds (resets + [event].countP Event.isReset) after := by
  have stepped := next_step taken
  refine ⟨stepped.trustedIds_eq.trans all.same, ?_⟩
  by_cases reset : event = .resetCachedUnavailableSigners
  · -- A reset renews no session.
    subst reset
    cases stepped with
    | reset =>
      exact fun session member =>
        (all.sessions session member).imp_right fun asks => asks.reset
  · have none : [event].countP Event.isReset = 0 := by
      cases event with
      | resetCachedUnavailableSigners => exact absurd rfl reset
      | _ => rfl
    rw [none, Nat.add_zero]
    -- A session that does not move only sees further marks.
    refine stepped.keeps (fun container session => session.Bounded ∧
      session.AsksPerReset resets container) ?_ ?_ ?_ all.sessions
    · intro unsignedData schema signingKeyName keyLocatorRandomness rpcs signers selected
      exact ⟨Session.startSession_bounded libs initiator _ _ _ _ _ _, [], by simp,
        Session.startSession_asksSince selected⟩
    · rintro session ⟨bounded, earlier, few, asks⟩
      exact ⟨bounded, earlier, stepped.trustedIds_eq ▸ few,
        asks.mono stepped.trustedIds_eq (stepped.keeps_marks reset)⟩
    · rintro session index perSigner reaction renewed ⟨bounded, earlier, few, asks⟩
        ⟨_, _, _, -, -, found, reacted⟩ move
      exact ⟨move.bounded found (react_fits reacted) bounded, earlier,
        stepped.trustedIds_eq ▸ few, move.asksSince asks⟩

/-- The keys that the session in a place has asked. -/
def contactsAt (initiator : MPSInitiator PublicKey) (position : Nat) : List Name :=
  initiator.sessions[position]?.elim [] fun session => contactedKeys session.history

/-- After what they had asked in an earlier state all sessions have asked different trusted keys
only. -/
structure AsksFrom (origin initiator : MPSInitiator PublicKey) : Prop where
  trusted : initiator.schemaContainer.trustedIds = origin.schemaContainer.trustedIds
  kept : origin.sessions.length ≤ initiator.sessions.length
  sessions : ∀ (position : Nat) (session : Session),
    initiator.sessions[position]? = some session →
      session.AsksSince (origin.contactsAt position) initiator.schemaContainer

/-- Steps without a reset keep all sessions from asking anybody twice. -/
theorem AsksFrom.step {origin initiator after : MPSInitiator PublicKey} {event : Event Signature}
    (asks : AsksFrom origin initiator) (kept : event ≠ .resetCachedUnavailableSigners)
    (taken : initiator.next libs event = some after) : AsksFrom origin after := by
  have stepped := next_step taken
  refine ⟨stepped.trustedIds_eq.trans asks.trusted, ?_, ?_⟩
  · refine asks.kept.trans ?_
    cases stepped with
    | refused | reset | stopped => exact le_rfl
    | started selected => simp
    | moved located found reacted move sessions => simp [sessions]
  · refine stepped.keeps_at (fun position container session =>
      session.AsksSince (origin.contactsAt position) container) ?_ ?_ ?_ asks.sessions
    · intro unsignedData schema signingKeyName keyLocatorRandomness rpcs signers selected
      -- Nobody had been asked for a session that did not exist.
      have nobody : origin.contactsAt initiator.sessions.length = [] := by
        rw [contactsAt, List.getElem?_eq_none asks.kept, Option.elim_none]
      rw [nobody]
      exact Session.startSession_asksSince selected
    · exact fun position session since =>
        since.mono stepped.trustedIds_eq (stepped.keeps_marks kept)
    · exact fun position session index perSigner reaction renewed since _ move =>
        move.asksSince since

/-- In a part of a run without a reset no session asks a key twice, and all whom it asks are
trusted. -/
theorem asksOnce_of_run {middle late : MPSInitiator PublicKey} {events : List (Event Signature)}
    (unreset : events.countP Event.isReset = 0)
    (run : Run.after (next libs) events middle = some late) (position : Nat) :
    ∃ asked, late.contactsAt position = middle.contactsAt position ++ asked ∧ asked.Nodup ∧
      ∀ name ∈ asked, name ∈ middle.schemaContainer.trustedIds.names := by
  have initial : AsksFrom middle middle := by
    refine ⟨rfl, le_rfl, fun position session located => ?_⟩
    rw [contactsAt, located, Option.elim_some]
    exact Session.asksSince_self _ session
  have allowed : Run.EveryStep (next libs)
      (fun _ event => event ≠ .resetCachedUnavailableSigners) events middle := by
    refine Run.everyStep_of_forall (fun event member _ same => ?_) middle
    have counted := List.countP_eq_zero.mp unreset event member
    simp [same, Event.isReset] at counted
  have asks := Run.invariant
    (fun _ _ _ asks kept taken => asks.step kept taken) initial allowed run
  cases located : late.sessions[position]? with
  | none =>
    -- A session that there is not has not been there before either.
    have beyond := List.getElem?_eq_none_iff.mp located
    have before : middle.sessions[position]? = none :=
      List.getElem?_eq_none (asks.kept.trans beyond)
    exact ⟨[], by simp [contactsAt, located, before], by simp, by simp⟩
  | some session =>
    obtain ⟨asked, split, distinct, known⟩ := asks.sessions position session located
    refine ⟨asked, ?_, distinct, fun name member => asks.trusted ▸ (known name member).1⟩
    rw [contactsAt, located, Option.elim_some]
    exact split

/-- In every run, whatever the network and the signers do, a session asks each trusted key at most
once between two resets of the cache, so it starts only so many remote calls, calls back only so
often, and does only so much altogether. -/
theorem contacts_le (libs : Libraries SecretKey PublicKey Signature)
    {initiator final : MPSInitiator PublicKey} {events : List (Event Signature)}
    (unused : initiator.sessions = [])
    (run : Run.after (next libs) events initiator = some final) :
    (∀ (earlier between later : List (Event Signature)) (middle late : MPSInitiator PublicKey),
      events = earlier ++ between ++ later → between.countP Event.isReset = 0 →
      Run.after (next libs) earlier initiator = some middle →
      Run.after (next libs) between middle = some late →
      ∀ position, ∃ asked, late.contactsAt position = middle.contactsAt position ++ asked ∧
        asked.Nodup ∧ ∀ name ∈ asked, name ∈ initiator.schemaContainer.trustedIds.names) ∧
    ∀ session ∈ final.sessions,
      (contactedKeys session.history).length ≤
          initiator.schemaContainer.trustedIds.names.toList.length *
            (events.countP Event.isReset + 1) ∧
        session.rpcs.length = (contactedKeys session.history).length ∧
        session.history.countP Call.isCallback ≤ (contactedKeys session.history).length + 1 ∧
        session.history.length ≤ 3 * (contactedKeys session.history).length + 1 := by
  have initial : AllBounded initiator.schemaContainer.trustedIds 0 initiator :=
    ⟨rfl, of_unused unused _⟩
  -- The resets of a run are those of the events before the last one, and the last one.
  have bounded : AllBounded initiator.schemaContainer.trustedIds (events.countP Event.isReset)
      final := by
    have kept : ∀ (past : List (Event Signature)) (state : MPSInitiator PublicKey)
        (event : Event Signature) (after : MPSInitiator PublicKey),
        Run.after (next libs) past initiator = some state →
        AllBounded initiator.schemaContainer.trustedIds (past.countP Event.isReset) state →
        state.next libs event = some after →
        AllBounded initiator.schemaContainer.trustedIds
          ((past ++ [event]).countP Event.isReset) after := by
      intro past state event after _ all taken
      rw [List.countP_append]
      exact all.step taken
    exact Run.always_past kept initial run
  refine ⟨fun earlier between later middle late split unreset begun went position => ?_,
    fun session member => ?_⟩
  · -- The trusted keys are the same in the middle of the run.
    have trusts : middle.schemaContainer.trustedIds = initiator.schemaContainer.trustedIds :=
      Run.always (fun _ _ _ same taken => (next_step taken).trustedIds_eq.trans same) rfl begun
    rw [← trusts]
    exact asksOnce_of_run unreset went position
  obtain ⟨counted, asks⟩ := bounded.sessions session member
  have few := asks.length_le
  rw [bounded.same] at few
  exact ⟨few, counted.rpcs, counted.length_le⟩

/-- The event loses a signer of some session. -/
def Loses (libs : Libraries SecretKey PublicKey Signature) (name : Name)
    (initiator : MPSInitiator PublicKey) (event : Event Signature) : Prop :=
  ∃ session index perSigner reason,
    initiator.Handles libs event session index perSigner (.unavailable reason) ∧
    perSigner.signerKeyName = name

/-- A step marks the signer it loses, and only a reset takes marks away. -/
theorem marked_iff {initiator after : MPSInitiator PublicKey} {event : Event Signature}
    (taken : initiator.next libs event = some after) (name : Name) :
    name ∈ after.schemaContainer.unavailableSigners ↔ Loses libs name initiator event ∨
      (name ∈ initiator.schemaContainer.unavailableSigners ∧
        ¬ event = .resetCachedUnavailableSigners) := by
  cases next_step taken with
  | refused | started =>
    -- No remote call handles the event.
    refine ⟨fun marked => .inr ⟨marked, by simp⟩, ?_⟩
    rintro (⟨_, _, _, _, ⟨_, _, _, impossible, -⟩, -⟩ | ⟨marked, -⟩)
    · cases impossible
    · exact marked
  | reset =>
    refine ⟨fun marked => absurd marked (SortedSet.not_mem_empty name), ?_⟩
    rintro (⟨_, _, _, _, ⟨_, _, _, impossible, -⟩, -⟩ | ⟨-, kept⟩)
    · cases impossible
    · exact absurd rfl kept
  | stopped located found reacted =>
    refine ⟨fun marked => .inr ⟨marked, by simp⟩, ?_⟩
    rintro (⟨_, _, _, _, ⟨_, _, _, same, otherLocated, otherFound, otherReacted⟩, -⟩ | ⟨marked, -⟩)
    · cases same
      cases located.symm.trans otherLocated
      cases found.symm.trans otherFound
      cases reacted.symm.trans otherReacted
    · exact marked
  | @moved sessionIndex index session renewed perSigner rpcEvent draw reaction _ located found
      reacted move sessions =>
    -- Whoever is lost is the signer of the remote call that reacts.
    have only : Loses libs name initiator (.rpc sessionIndex index rpcEvent draw) ↔
        (∃ reason, reaction = .unavailable reason) ∧ perSigner.signerKeyName = name := by
      constructor
      · rintro ⟨_, _, _, reason, ⟨_, _, _, same, otherLocated, otherFound, otherReacted⟩, lost⟩
        cases same
        cases located.symm.trans otherLocated
        cases found.symm.trans otherFound
        exact ⟨⟨reason, Option.some.inj (reacted.symm.trans otherReacted)⟩, lost⟩
      · rintro ⟨⟨reason, rfl⟩, lost⟩
        exact ⟨session, index, perSigner, reason, ⟨_, _, _, rfl, located, found, reacted⟩, lost⟩
    rw [only]
    by_cases kept : ∃ reason, reaction = .unavailable reason
    · obtain ⟨reason, rfl⟩ := kept
      rw [move.marks_lost]
      simp [MultipartySchemaContainer.markUnavailable, SortedSet.mem_insert, eq_comm]
    · rw [move.container_eq fun reason same => kept ⟨reason, same⟩]
      simp [kept]

/-- What a step has newly asked on behalf of the session in a place. -/
def Asks (position : Nat) (name : Name) (initiator after : MPSInitiator PublicKey) : Prop :=
  ∃ asked, (after.sessions[position]?.elim [] fun session => contactedKeys session.history) =
      (initiator.sessions[position]?.elim [] fun session => contactedKeys session.history) ++
        asked ∧ name ∈ asked

/-- Whoever a step asks is trusted and not marked as unavailable after it. -/
theorem Asks.available {initiator after : MPSInitiator PublicKey} {event : Event Signature}
    {position : Nat} {name : Name} (asks : Asks position name initiator after)
    (taken : initiator.next libs event = some after) : name ∈ after.schemaContainer.available := by
  obtain ⟨asked, contacted, member⟩ := asks
  -- A session that the event does not touch asks nobody.
  have idle : after.sessions[position]? = initiator.sessions[position]? → False := by
    intro same
    rw [same, List.self_eq_append_right] at contacted
    simp [contacted] at member
  cases next_step taken with
  | refused | reset | stopped => exact (idle rfl).elim
  | @started unsignedData schema signingKeyName keyLocatorRandomness rpcs signers selected =>
    obtain ⟨-, inside, -⟩ := MultipartySchemaContainer.getAvailableSigners_sound selected
    rcases Nat.lt_trichotomy position initiator.sessions.length with old | rfl | beyond
    · exact (idle (List.getElem?_append_left old)).elim
    · -- The new session has asked everybody who has been selected for it.
      rw [List.getElem?_concat_length, List.getElem?_eq_none le_rfl, Session.startSession_eq]
        at contacted
      have everybody : contactedKeys ((if signers.isEmpty then
          [.failureCb "No sufficient number of known signers."] else []) ++
            signers.map .performRPC) = signers := by
        cases signers <;> simp [contactedKeys, List.filterMap_map]
      simp only [Option.elim_some, Option.elim_none, everybody, List.nil_append] at contacted
      exact inside name (contacted ▸ member)
    · have nobody := List.getElem?_eq_none beyond.le
      refine (idle (.trans (List.getElem?_eq_none ?_) nobody.symm)).elim
      simpa using Nat.succ_le_of_lt beyond
  | @moved sessionIndex index session renewed perSigner rpcEvent draw reaction _ located found
      reacted move sessions =>
    by_cases other : sessionIndex = position
    · subst other
      have place := (List.getElem?_eq_some_iff.mp located).1
      obtain ⟨new, more, -, fresh, -⟩ := move.asks
      rw [sessions, List.getElem?_set_self place, located, Option.elim_some, Option.elim_some, more]
        at contacted
      exact (fresh name (List.append_cancel_left contacted ▸ member)).1
    · exact (idle (by rw [sessions, List.getElem?_set_ne other])).elim

/-- The key has been lost in a run since the cache was reset last, or is marked from before the run
and the cache has not been reset. -/
def LostSince (libs : Libraries SecretKey PublicKey Signature) (initiator : MPSInitiator PublicKey)
    (events : List (Event Signature)) (name : Name) : Prop :=
  Run.Marked (next libs) (Loses libs name) (fun event => event = .resetCachedUnavailableSigners)
    events initiator (name ∈ initiator.schemaContainer.unavailableSigners)

/-- In every run exactly the keys lost since the last reset are marked as unavailable; and at every
step a session asks trusted keys only, and none that has been lost since the last reset, be it on
behalf of another session or in that very step. -/
theorem asks_nobody_lost (libs : Libraries SecretKey PublicKey Signature)
    {initiator final : MPSInitiator PublicKey} {events : List (Event Signature)}
    (run : Run.after (next libs) events initiator = some final) :
    (∀ name, name ∈ final.schemaContainer.unavailableSigners ↔
        LostSince libs initiator events name) ∧
      ∀ event after, final.next libs event = some after → ∀ position name,
        Asks position name final after →
        name ∈ initiator.schemaContainer.trustedIds.names ∧
          ¬ LostSince libs initiator (events ++ [event]) name := by
  -- The marks of the container are those that the losses of the run have set.
  have exact' : ∀ {past : List (Event Signature)} {state : MPSInitiator PublicKey},
      Run.after (next libs) past initiator = some state → ∀ name,
        name ∈ state.schemaContainer.unavailableSigners ↔ LostSince libs initiator past name := by
    intro past state begun name
    have decided : ∀ (state : MPSInitiator PublicKey) (event : Event Signature)
        (after : MPSInitiator PublicKey), next libs state event = some after →
        (name ∈ after.schemaContainer.unavailableSigners ↔ Loses libs name state event ∨
          (name ∈ state.schemaContainer.unavailableSigners ∧
            ¬ event = .resetCachedUnavailableSigners)) :=
      fun state event after taken => marked_iff taken name
    exact Run.flag_iff_marked decided begun
  have kept : ∀ (state : MPSInitiator PublicKey) (event : Event Signature)
      (after : MPSInitiator PublicKey),
      state.schemaContainer.trustedIds = initiator.schemaContainer.trustedIds →
      next libs state event = some after →
      after.schemaContainer.trustedIds = initiator.schemaContainer.trustedIds :=
    fun _ _ _ same taken => (next_step taken).trustedIds_eq.trans same
  have trusts := Run.always kept rfl run
  refine ⟨exact' run, fun event after taken position name asks => ?_⟩
  -- Whom a step asks is available after it, and therefore not marked in the longer run.
  have longer : Run.after (next libs) (events ++ [event]) initiator = some after := by
    rw [Run.after_concat, run, Option.bind_some, taken]
  have available := (MultipartySchemaContainer.mem_available _).mp (asks.available taken)
  rw [(next_step taken).trustedIds_eq, trusts, exact' longer] at available
  exact available

end MPSInitiator

namespace Reference

/-- The second signer is lost, the cache is reset, and its replacement is lost as well. -/
def forgottenLoss : List (Event Nat) :=
  [sign bothSigners, meet 1 .timeout, .resetCachedUnavailableSigners, meet 2 .nack]

end Reference

open Reference in
/-- The remote calls of the run in which a loss is forgotten. -/
theorem MPSInitiator.contacts_le_forgottenLoss :
    ∃ final, Run.after (next libraries) forgottenLoss spareInitiator = some final ∧
      (∀ (earlier between later : List (Event Nat)) (middle late : MPSInitiator Nat),
        forgottenLoss = earlier ++ between ++ later → between.countP Event.isReset = 0 →
        Run.after (next libraries) earlier spareInitiator = some middle →
        Run.after (next libraries) between middle = some late →
        ∀ position, ∃ asked, late.contactsAt position = middle.contactsAt position ++ asked ∧
          asked.Nodup ∧
          ∀ name ∈ asked, name ∈ spareInitiator.schemaContainer.trustedIds.names) ∧
      ∀ session ∈ final.sessions,
        (contactedKeys session.history).length ≤
            spareInitiator.schemaContainer.trustedIds.names.toList.length *
              (forgottenLoss.countP Event.isReset + 1) ∧
          session.rpcs.length = (contactedKeys session.history).length ∧
          session.history.countP Call.isCallback ≤ (contactedKeys session.history).length + 1 ∧
          session.history.length ≤ 3 * (contactedKeys session.history).length + 1 := by
  have possible : (Run.after (next libraries) forgottenLoss spareInitiator).isSome = true := by rfl
  obtain ⟨final, run⟩ := Option.isSome_iff_exists.mp possible
  exact ⟨final, run, contacts_le libraries rfl run⟩

open Reference in
/-- The marks of the run in which a loss is forgotten, and whom its next steps ask. -/
theorem MPSInitiator.asks_nobody_lost_forgottenLoss :
    ∃ final, Run.after (next libraries) forgottenLoss spareInitiator = some final ∧
      (∀ name, name ∈ final.schemaContainer.unavailableSigners ↔
        LostSince libraries spareInitiator forgottenLoss name) ∧
      ∀ event after, final.next libraries event = some after → ∀ position name,
        Asks position name final after →
        name ∈ spareInitiator.schemaContainer.trustedIds.names ∧
          ¬ LostSince libraries spareInitiator (forgottenLoss ++ [event]) name := by
  have possible : (Run.after (next libraries) forgottenLoss spareInitiator).isSome = true := by rfl
  obtain ⟨final, run⟩ := Option.isSome_iff_exists.mp possible
  exact ⟨final, run, asks_nobody_lost libraries run⟩

open Reference in
/-- After the reset the second signer is asked once more. -/
example : (Run.after (MPSInitiator.next libraries) forgottenLoss spareInitiator).map
    (fun final => final.sessions.map fun session => contactedKeys session.history) =
      some [[firstKey, secondKey, spareKey, secondKey]] := by
  decide +kernel

end NdnMps
