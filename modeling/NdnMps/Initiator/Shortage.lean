import NdnMps.Initiator.Uniqueness

/-! What `multiPartySign` does when there are not enough keys, or when nobody is selected. -/

namespace NdnMps

variable {SecretKey PublicKey Signature : Type}

namespace MultipartySchemaContainer

/-- A required pattern matches fewer available keys than it asks for, or the optional patterns
together do not reach the minimum, each with no more keys than it asks for. -/
def Insufficient {κ : Type} (container : MultipartySchemaContainer κ)
    (schema : MultipartySchema) : Prop :=
  (∃ pattern ∈ schema.signers, (container.getMatchedKeys pattern).length < pattern.times) ∨
    (schema.optionalSigners.map fun pattern =>
      min (container.getMatchedKeys pattern).length pattern.times).sum < schema.minOptionalSigners

variable {κ : Type} {container : MultipartySchemaContainer κ} {schema : MultipartySchema}

/-- Sufficient keys are those that satisfy the policy together. -/
theorem accepts_available_iff :
    schema.policy.Accepts container.available.toList ↔ ¬ container.Insufficient schema := by
  have total : (schema.optionalSigners.map fun pattern =>
      min (container.getMatchedKeys pattern).length pattern.times).sum =
        schema.policy.optionalTotal container.available.toList := by
    rw [← pooled_optionalSigners]
    simp only [pooled, container.getMatchedKeys_length, Quota.capped, WildCardName.quota_count,
      WildCardName.quota_times]
  -- The matched keys are the available keys that a pattern accepts.
  unfold Insufficient
  rw [total, not_or, not_lt]
  refine and_congr ?_ Iff.rfl
  -- The required quotas are those of the required patterns.
  constructor
  · rintro reached ⟨pattern, listed, short⟩
    have enough := reached pattern.quota (List.mem_map_of_mem listed)
    rw [container.getMatchedKeys_length] at short
    simp only [WildCardName.quota_times, WildCardName.quota_count] at enough
    omega
  · -- Conversely every quota of the policy belongs to a pattern, which is not short.
    intro enough quota member
    obtain ⟨pattern, listed, same⟩ := List.mem_map.mp member
    subst same
    by_contra short
    refine enough ⟨pattern, listed, ?_⟩
    rw [container.getMatchedKeys_length]
    exact not_le.mp short

/-- The required loop stops with an exception only. -/
theorem selectRequired_onlyThrows (container : MultipartySchemaContainer κ)
    (patterns : List WildCardName) (set : SortedSet Name) :
    OnlyThrows (container.selectRequired patterns set) := by
  -- Induction on the patterns, where the first one that is short of keys throws.
  induction patterns generalizing set with
  | nil => exact .ok _
  | cons pattern rest ih =>
    simp only [selectRequired]
    split
    · exact .throw
    · exact ih _

/-- The selection stops with an exception only. -/
theorem getAvailableSigners_onlyThrows (container : MultipartySchemaContainer κ)
    (schema : MultipartySchema) : OnlyThrows (container.getAvailableSigners schema) := by
  -- Both loops are plain, and the last comparison throws or returns.
  refine (container.selectRequired_onlyThrows _ _).bind fun resultSet => ?_
  dsimp only
  split
  · exact .throw
  · exact .ok _

/-- The selection throws exactly where the keys are insufficient. -/
theorem getAvailableSigners_error_iff :
    container.getAvailableSigners schema = .error .exception ↔ container.Insufficient schema := by
  constructor
  · intro thrown
    by_contra sufficient
    -- Sufficient keys would have given a list.
    obtain ⟨signers, selected⟩ := getAvailableSigners_complete
      (accepts_available_iff.mpr sufficient)
    rw [selected] at thrown
    cases thrown
  · intro insufficient
    cases outcome : container.getAvailableSigners schema with
    | ok signers =>
      -- A returned list would show that the keys suffice.
      obtain ⟨distinct, inside, accepted⟩ := getAvailableSigners_sound outcome
      have together := accepted.mono (distinct.subperm inside)
      exact absurd insufficient (accepts_available_iff.mp together)
    | error fault => rw [container.getAvailableSigners_onlyThrows schema fault outcome]

end MultipartySchemaContainer

namespace MPSInitiator

variable (libs : Libraries SecretKey PublicKey Signature)

/-- `MPSInitiator::multiPartySign`: the session it starts, or the exception of the selection. -/
def multiPartySign (initiator : MPSInitiator PublicKey) (unsignedData : Data)
    (schema : MultipartySchema) (signingKeyName : Name) (keyLocatorRandomness : Nat)
    (rpcs : Name → RpcDraw) : Except Fault Session := do
  let signers ← initiator.schemaContainer.getAvailableSigners schema
  .ok (initiator.startSession libs unsignedData schema signingKeyName keyLocatorRandomness rpcs
    signers)

/-- The initiator keeps the session of a call that returns, and nothing of one that throws. -/
theorem step_multiPartySign {initiator : MPSInitiator PublicKey}
    (running : initiator.liveness = .running) (unsignedData : Data) (schema : MultipartySchema)
    (signingKeyName : Name) (keyLocatorRandomness : Nat) (rpcs : Name → RpcDraw) :
    initiator.step libs (.multiPartySign unsignedData schema signingKeyName keyLocatorRandomness
        rpcs) =
      match initiator.multiPartySign libs unsignedData schema signingKeyName keyLocatorRandomness
        rpcs with
      | .error _ => some (initiator, [])
      | .ok session =>
        some ({ initiator with sessions := initiator.sessions ++ [session] }, []) := by
  -- The running initiator does nothing before the selection.
  simp only [step, running, ne_eq, not_true_eq_false, if_false, multiPartySign, Bind.bind,
    Except.bind]
  cases initiator.schemaContainer.getAvailableSigners schema with
  | error fault => rfl
  | ok signers => rfl

/-- The call returns, the failure callback has been called once and nothing else, and no remote
call has been started. -/
def StopsWithFailure (initiator : MPSInitiator PublicKey) (unsignedData : Data)
    (schema : MultipartySchema) (signingKeyName : Name) (keyLocatorRandomness : Nat)
    (rpcs : Name → RpcDraw) : Prop :=
  ∃ session, initiator.multiPartySign libs unsignedData schema signingKeyName
      keyLocatorRandomness rpcs = .ok session ∧
    session.history = [.failureCb "No sufficient number of known signers."] ∧ session.rpcs = []

/-- An empty selection stops after the failure callback. -/
theorem stopsWithFailure_of_nil {initiator : MPSInitiator PublicKey} {schema : MultipartySchema}
    (nobody : initiator.schemaContainer.getAvailableSigners schema = .ok []) (unsignedData : Data)
    (signingKeyName : Name) (keyLocatorRandomness : Nat) (rpcs : Name → RpcDraw) :
    initiator.StopsWithFailure libs unsignedData schema signingKeyName keyLocatorRandomness
      rpcs := by
  -- The failure callback does not end the call, but there is no signer to go on with.
  refine ⟨_, by simp only [multiPartySign, nobody, Bind.bind, Except.bind]; rfl, ?_, ?_⟩
  · rw [Session.startSession_eq]
    rfl
  · rw [Session.startSession_eq]
    rfl

/-- Both without sufficient keys and without a selected signer the call stops with one failure,
exactly where the keys are sufficient: for the others it throws before any callback. -/
theorem stopsWithFailure_iff (initiator : MPSInitiator PublicKey) (unsignedData : Data)
    (schema : MultipartySchema) (signingKeyName : Name) (keyLocatorRandomness : Nat)
    (rpcs : Name → RpcDraw) :
    ((initiator.schemaContainer.Insufficient schema →
        initiator.StopsWithFailure libs unsignedData schema signingKeyName keyLocatorRandomness
          rpcs) ∧
      (initiator.schemaContainer.getAvailableSigners schema = .ok [] →
        initiator.StopsWithFailure libs unsignedData schema signingKeyName keyLocatorRandomness
          rpcs)) ↔
      ¬ initiator.schemaContainer.Insufficient schema := by
  constructor
  · intro ⟨stops, _⟩ insufficient
    -- The exception of the selection leaves the call.
    obtain ⟨session, returned, -⟩ := stops insufficient
    have thrown := MultipartySchemaContainer.getAvailableSigners_error_iff.mpr insufficient
    simp [multiPartySign, thrown, Bind.bind, Except.bind] at returned
  · intro sufficient
    refine ⟨fun insufficient => absurd insufficient sufficient, fun nobody => ?_⟩
    exact stopsWithFailure_of_nil libs nobody unsignedData signingKeyName keyLocatorRandomness rpcs

open Reference in
/-- Where three signers are asked for and two are known, the call throws, no callback is called, and
the initiator is left as it was. -/
theorem multiPartySign_throws :
    initiator.schemaContainer.Insufficient { eitherSigner with minOptionalSigners := 3 } ∧
      initiator.multiPartySign libraries (.ofName (.ofTexts ["data"]))
          { eitherSigner with minOptionalSigners := 3 } (.ofTexts ["i", "KEY", "1"]) 4 rpcDraws =
        .error .exception ∧
      (initiator.step libraries (sign { eitherSigner with minOptionalSigners := 3 })).map
          (fun outcome => outcome.1.sessions.length) = some 0 := by
  refine ⟨.inr (by decide), rfl, rfl⟩

end MPSInitiator

end NdnMps
