import NdnMps.Initiator.Callbacks

/-! Whether a remote call that ended without a signature has handed its signer over. -/

namespace NdnMps

variable {SecretKey PublicKey Signature : Type}

/-- The call stores the signature of a remote call or gives its signer up. -/
def Call.concludes (index : Nat) : Call → Bool
  | .collected rpc _ _ | .onUnavailableSigner rpc _ => rpc == index
  | _ => false

/-- A remote call that waits for nothing and whose signature has not been stored has given its
signer up exactly once. -/
def Concluded (history : List Call) (index : Nat) (perSigner : MultiSignPerSignerState) : Prop :=
  perSigner.live = false →
    (∀ piece, .collected index perSigner.signerKeyName piece ∉ history) →
    history.count (.onUnavailableSigner index perSigner.signerKeyName) = 1

/-- Calls that conclude other remote calls leave this one as it was. -/
theorem concluded_append {history further : List Call} {index : Nat}
    {perSigner : MultiSignPerSignerState}
    (other : ∀ call ∈ further, call.concludes index = false) :
    Concluded (history ++ further) index perSigner ↔ Concluded history index perSigner := by
  -- Neither a signature nor a loss of this remote call is among the further calls.
  have noneStored : ∀ piece, .collected index perSigner.signerKeyName piece ∉ further := by
    intro piece member
    have concluded := other _ member
    simp [Call.concludes] at concluded
  have noneLost : further.count (.onUnavailableSigner index perSigner.signerKeyName) = 0 := by
    refine List.count_eq_zero.mpr fun member => ?_
    have concluded := other _ member
    simp [Call.concludes] at concluded
  simp only [Concluded, List.mem_append, not_or, noneStored, not_false_eq_true, and_true,
    List.count_append, noneLost, Nat.add_zero]

namespace Session

/-- Every remote call that ended without a signature has given its signer up exactly once. -/
def HandsOver (session : Session) : Prop :=
  ∀ index perSigner, session.rpcs[index]? = some perSigner →
    Concluded session.history index perSigner

/-- No call concludes a remote call that still waits or has not been started. -/
def Unconcluded (session : Session) : Prop :=
  ∀ index, (∀ perSigner, session.rpcs[index]? = some perSigner → perSigner.live = true) →
    ∀ call ∈ session.history, call.concludes index = false

/-- A session renewed in one remote call, with further ones that wait, and with further calls that
conclude only this one. -/
structure RenewsOne (session renewed : Session) (index : Nat) (other : MultiSignPerSignerState)
    (extra : List MultiSignPerSignerState) (further : List Call) : Prop where
  rpcs : renewed.rpcs = session.rpcs.set index other ++ extra
  history : renewed.history = session.history ++ further
  waiting : ∀ perSigner ∈ extra, perSigner.live = true
  only : ∀ another, another ≠ index → ∀ call ∈ further, call.concludes another = false

namespace RenewsOne

variable {session renewed : Session} {index : Nat} {perSigner other : MultiSignPerSignerState}
  {extra : List MultiSignPerSignerState} {further : List Call}

/-- Another remote call is one of the old ones or one of the further ones. -/
theorem lookup (one : RenewsOne session renewed index other extra further) {another : Nat}
    (different : another ≠ index) {found : MultiSignPerSignerState}
    (located : renewed.rpcs[another]? = some found) :
    session.rpcs[another]? = some found ∨ found ∈ extra := by
  rw [one.rpcs, List.getElem?_append] at located
  split at located
  · rw [List.getElem?_set_ne (Ne.symm different)] at located
    exact .inl located
  · exact .inr (List.mem_of_getElem? located)

/-- An old remote call other than the renewed one is found where it was. -/
theorem lookup_old (one : RenewsOne session renewed index other extra further) {another : Nat}
    (different : another ≠ index) {found : MultiSignPerSignerState}
    (located : session.rpcs[another]? = some found) : renewed.rpcs[another]? = some found := by
  have inside := (List.getElem?_eq_some_iff.mp located).1
  rw [one.rpcs, List.getElem?_append_left (by rwa [List.length_set]),
    List.getElem?_set_ne (Ne.symm different)]
  exact located

/-- The renewed remote call is found in its place. -/
theorem lookup_self (one : RenewsOne session renewed index other extra further)
    (found : session.rpcs[index]? = some perSigner) : renewed.rpcs[index]? = some other := by
  have inside := (List.getElem?_eq_some_iff.mp found).1
  rw [one.rpcs, List.getElem?_append_left (by rwa [List.length_set]),
    List.getElem?_set_self inside]

/-- Only the renewed remote call decides whether the session still hands over. -/
theorem keeps_handsOver_iff (one : RenewsOne session renewed index other extra further)
    (found : session.rpcs[index]? = some perSigner) (before : session.HandsOver) :
    renewed.HandsOver ↔ Concluded renewed.history index other := by
  constructor
  · exact fun handsOver => handsOver index other (one.lookup_self found)
  · intro concluded another candidate located
    -- Any other remote call is an old one with its conclusions, or a new one that waits.
    by_cases same : another = index
    · rw [same, one.lookup_self found] at located
      cases located
      exact same ▸ concluded
    · rcases one.lookup same located with old | new
      · rw [one.history, concluded_append (one.only another same)]
        exact before another candidate old
      · intro ended
        rw [one.waiting candidate new] at ended
        cases ended

/-- No call concludes a waiting remote call of the renewed session. -/
theorem unconcluded (one : RenewsOne session renewed index other extra further)
    (found : session.rpcs[index]? = some perSigner) (before : session.Unconcluded)
    (self : other.live = true → perSigner.live = true ∧ further = []) : renewed.Unconcluded := by
  intro another live call member
  rw [one.history] at member
  -- Only the renewed remote call may be concluded, and then it no longer waits.
  by_cases same : another = index
  · subst same
    obtain ⟨wasLive, nothing⟩ := self (live other (one.lookup_self found))
    rw [nothing, List.append_nil] at member
    refine before another (fun candidate located => ?_) call member
    cases found.symm.trans located
    exact wasLive
  · rcases List.mem_append.mp member with old | new
    · exact before another (fun candidate located =>
        live candidate (one.lookup_old same located)) call old
    · exact one.only another same call new

end RenewsOne

/-- The remote call in its state after a move, and what the move adds. -/
theorem Move.renewsOne {libs : Libraries SecretKey PublicKey Signature} {initiatorPrefix : Name}
    {container after : MultipartySchemaContainer PublicKey} {session renewed : Session}
    {index : Nat} {perSigner : MultiSignPerSignerState} {reaction : Reaction}
    (move : session.Move libs initiatorPrefix container index perSigner reaction after renewed)
    (fits : reaction.Fits perSigner) :
    ∃ other extra further, RenewsOne session renewed index other extra further ∧
      other.signerKeyName = perSigner.signerKeyName ∧
      (other.live = true → perSigner.live = true ∧ further = []) ∧
      match reaction with
      | .abandon _ => perSigner.live = true ∧ other.live = false ∧ further = []
      | .proceed _ _ _ => other.live = perSigner.live ∧ further = []
      | .collect piece => .collected index perSigner.signerKeyName piece ∈ further
      | .unavailable _ => perSigner.live = true ∧
        further.count (.onUnavailableSigner index perSigner.signerKeyName) = 1
      | .stop _ => True := by
  have ended : ({ perSigner with phase := .ended } : MultiSignPerSignerState).live = false := rfl
  -- Each move replaces the remote call, adds calls about it, and a replacement starts others.
  cases move with
  | abandoned paraPrefixRegistered =>
    have abandons : ({ perSigner with paraPrefixRegistered, phase := .ended } :
        MultiSignPerSignerState).live = false := rfl
    refine ⟨{ perSigner with paraPrefixRegistered, phase := .ended }, [], [],
      ⟨?_, ?_, by simp, by simp⟩, rfl, by simp [abandons], fits, abandons, rfl⟩
    · exact (List.append_nil _).symm
    · exact (List.append_nil _).symm
  | proceeded other tpm put =>
    refine ⟨other, [], [], ⟨?_, ?_, by simp, by simp⟩, fits.1,
      fun live => ⟨fits.2 ▸ live, rfl⟩, fits.2, rfl⟩
    · exact (List.append_nil _).symm
    · exact (List.append_nil _).symm
  | @collected piece missing =>
    -- The report of success comes last and concerns no remote call.
    refine ⟨{ perSigner with phase := .ended }, [],
      [.collected index perSigner.signerKeyName piece], ⟨?_, rfl, by simp, ?_⟩, rfl,
      by simp [ended], List.mem_cons_self⟩
    · exact (List.append_nil _).symm
    · intro another different call member
      -- The only call that is made concerns this remote call.
      cases List.mem_singleton.mp member
      exact beq_false_of_ne (Ne.symm different)
  | @finished piece value nonce aggSig tempSig data info enough aggregated signed announced =>
    refine ⟨{ perSigner with phase := .ended }, [],
      [.collected index perSigner.signerKeyName piece, .successCb data info],
      ⟨?_, ?_, by simp, ?_⟩, rfl, by simp [ended], List.mem_cons_self⟩
    · exact (List.append_nil _).symm
    · exact List.append_assoc _ _ _
    · intro another different call member
      rcases List.mem_cons.mp member with first | second
      · rw [first]
        exact beq_false_of_ne (Ne.symm different)
      · cases List.mem_singleton.mp second
        rfl
  | @failed reason text needed =>
    refine ⟨{ perSigner with phase := .ended }, [],
      [.onUnavailableSigner index perSigner.signerKeyName, .failureCb text],
      ⟨?_, ?_, by simp, ?_⟩, rfl, by simp [ended], fits, by simp⟩
    · exact (List.append_nil _).symm
    · exact List.append_assoc _ _ _
    · intro another different call member
      rcases List.mem_cons.mp member with first | second
      · rw [first]
        exact beq_false_of_ne (Ne.symm different)
      · cases List.mem_singleton.mp second
        rfl
  | @replaced reason newSigners diffSigners draws renews =>
    refine ⟨{ perSigner with phase := .ended }, _,
      .onUnavailableSigner index perSigner.signerKeyName :: diffSigners.map .performRPC,
      ⟨rfl, ?_, ?_, ?_⟩, rfl, by simp [ended], fits, ?_⟩
    · simp
    · intro candidate member
      obtain ⟨name, -, same⟩ := List.mem_map.mp member
      rw [← same]
      rfl
    · intro another different call member
      rcases List.mem_cons.mp member with first | started
      · rw [first]
        exact beq_false_of_ne (Ne.symm different)
      · obtain ⟨name, -, same⟩ := List.mem_map.mp started
        rw [← same]
        rfl
    · have none : (diffSigners.map Call.performRPC).count
          (.onUnavailableSigner index perSigner.signerKeyName) = 0 :=
        List.count_eq_zero.mpr (by simp)
      rw [List.count_cons_self, none]

/-- The remote call a packet concludes has not been concluded before. -/
theorem Unconcluded.count_eq_zero {session : Session} {index : Nat}
    {perSigner : MultiSignPerSignerState} (before : session.Unconcluded)
    (found : session.rpcs[index]? = some perSigner) (live : perSigner.live = true) (name : Name) :
    session.history.count (.onUnavailableSigner index name) = 0 := by
  -- The remote call waits, so no call about it has been made.
  have free := before index fun candidate located => by
    cases found.symm.trans located
    exact live
  refine List.count_eq_zero.mpr fun member => ?_
  have concluded := free _ member
  simp [Call.concludes] at concluded

/-- A move keeps the handing over exactly when it does not abandon its remote call. -/
theorem Move.keeps_handsOver_iff {libs : Libraries SecretKey PublicKey Signature}
    {initiatorPrefix : Name} {container after : MultipartySchemaContainer PublicKey}
    {session renewed : Session} {index : Nat} {perSigner : MultiSignPerSignerState}
    {reaction : Reaction}
    (move : session.Move libs initiatorPrefix container index perSigner reaction after renewed)
    (found : session.rpcs[index]? = some perSigner) (fits : reaction.Fits perSigner)
    (free : session.Unconcluded) (before : session.HandsOver) :
    renewed.HandsOver ↔ ∀ registered, reaction ≠ .abandon registered := by
  obtain ⟨other, extra, further, one, sameKey, -, effect⟩ := move.renewsOne fits
  rw [one.keeps_handsOver_iff found before, one.history]
  cases reaction with
  | abandon registered =>
    obtain ⟨live, ended, nothing⟩ := effect
    -- Nothing has been recorded about the remote call that just ended.
    have notLost := free.count_eq_zero found live other.signerKeyName
    have notStored : ∀ piece, .collected index other.signerKeyName piece ∉ session.history := by
      intro piece member
      have concluded := free index (fun candidate located => by
        cases found.symm.trans located
        exact live) _ member
      simp [Call.concludes] at concluded
    simp [Concluded, nothing, ended, notStored, notLost]
  | proceed perSigner' tpm put =>
    obtain ⟨sameLive, nothing⟩ := effect
    have old := before index perSigner found
    simp only [Concluded, nothing, List.append_nil, sameLive, sameKey]
    exact ⟨fun _ => by simp, fun _ => old⟩
  | collect piece =>
    refine ⟨fun _ => by simp, fun _ _ absent => ?_⟩
    exact absurd (List.mem_append_right _ (sameKey ▸ effect)) (absent piece)
  | unavailable reason =>
    refine ⟨fun _ => by simp, fun _ _ _ => ?_⟩
    rw [sameKey, List.count_append, free.count_eq_zero found effect.1, effect.2]
  | stop liveness => cases move

/-- Every move keeps waiting remote calls without a conclusion. -/
theorem Move.unconcluded {libs : Libraries SecretKey PublicKey Signature}
    {initiatorPrefix : Name} {container after : MultipartySchemaContainer PublicKey}
    {session renewed : Session} {index : Nat} {perSigner : MultiSignPerSignerState}
    {reaction : Reaction}
    (move : session.Move libs initiatorPrefix container index perSigner reaction after renewed)
    (found : session.rpcs[index]? = some perSigner) (fits : reaction.Fits perSigner)
    (before : session.Unconcluded) : renewed.Unconcluded := by
  obtain ⟨other, extra, further, one, -, self, -⟩ := move.renewsOne fits
  exact one.unconcluded found before self

/-- A new session has concluded nothing. -/
theorem startSession_unconcluded {libs : Libraries SecretKey PublicKey Signature}
    (initiator : MPSInitiator PublicKey) (unsignedData : Data) (schema : MultipartySchema)
    (signingKeyName : Name) (keyLocatorRandomness : Nat) (rpcs : Name → RpcDraw)
    (signers : List Name) :
    (initiator.startSession libs unsignedData schema signingKeyName keyLocatorRandomness rpcs
      signers).Unconcluded := by
  intro index _ call member
  rw [startSession_eq] at member
  -- It consists of a report and of starts, and neither concludes anything.
  rcases List.mem_append.mp member with reported | started
  · split at reported
    · cases List.mem_singleton.mp reported
      rfl
    · cases reported
  · obtain ⟨name, -, same⟩ := List.mem_map.mp started
    rw [← same]
    rfl

/-- All remote calls of a new session wait. -/
theorem startSession_handsOver {libs : Libraries SecretKey PublicKey Signature}
    (initiator : MPSInitiator PublicKey) (unsignedData : Data) (schema : MultipartySchema)
    (signingKeyName : Name) (keyLocatorRandomness : Nat) (rpcs : Name → RpcDraw)
    (signers : List Name) :
    (initiator.startSession libs unsignedData schema signingKeyName keyLocatorRandomness rpcs
      signers).HandsOver := by
  -- None of them has ended.
  intro index perSigner located ended
  rw [startSession_eq] at located
  obtain ⟨name, -, same⟩ := List.mem_map.mp (List.mem_of_getElem? located)
  rw [← same] at ended
  cases ended

end Session

namespace MPSInitiator

/-- Every step keeps waiting remote calls without a conclusion. -/
theorem Step.unconcluded {libs : Libraries SecretKey PublicKey Signature}
    {initiator after : MPSInitiator PublicKey} {event : Event Signature}
    (step : Step libs initiator event after)
    (all : ∀ session ∈ initiator.sessions, session.Unconcluded) :
    ∀ session ∈ after.sessions, session.Unconcluded := by
  refine step.keeps (fun _ session => session.Unconcluded)
    (fun _ _ _ _ _ _ _ => Session.startSession_unconcluded initiator _ _ _ _ _ _)
    (fun _ free => free) ?_ all
  rintro session index perSigner reaction renewed free ⟨_, _, _, -, -, found, reacted⟩ move
  exact move.unconcluded found (react_fits reacted) free

end MPSInitiator

namespace Reference

/-- The only signer asked answers with an empty acknowledgement. -/
def refusal : List (Event Nat) :=
  [sign eitherSigner, meet 0 (.data (emptyReply (request firstKey)))]

end Reference

end NdnMps
