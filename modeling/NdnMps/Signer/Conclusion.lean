import NdnMps.Signer.Approval

/-! How the fetch of a parameter packet ends, and whether the replies to the request end with it. -/

namespace NdnMps

variable {SecretKey PublicKey Signature : Type}

/-- The next reply to a request is its last one: the request is no longer in progress, after the
reply result Interests are not answered, and an initiator with the request's key polls no more. -/
structure SignRequestState.Terminal (libs : Libraries SecretKey PublicKey Signature)
    (state : SignRequestState) : Prop where
  code : state.code ≠ .processing
  last : ∀ interestName random,
    (generateResultData libs.tlv libs.ssl interestName state random).2.resultPrefixRegistered =
      false
  stops : ∀ interestName random hmacKey tpm (perSigner : MultiSignPerSignerState),
    perSigner.aesKey = state.aesKey → ∀ further kept put,
      resultCallback libs tpm perSigner (libs.keyChain.signWithHmac hmacKey
        (generateResultData libs.tlv libs.ssl interestName state random).1) ≠
          .proceed further kept put

/-- The initiator goes on with a remote call only where it reads the status of a request in
progress. -/
theorem resultCallback_stops {libs : Libraries SecretKey PublicKey Signature} {tpm : List Buffer}
    {perSigner : MultiSignPerSignerState} {result : Data} {code : ReplyCode} {rest : List Block}
    (parsed : parseResultData libs.tlv libs.ssl perSigner.aesKey result =
      .ok (⟨Tlv.status, code.text⟩ :: rest)) (concluded : code ≠ .processing)
    (further : MultiSignPerSignerState) (kept : List Buffer) (put : List Data) :
    resultCallback libs tpm perSigner result ≠ .proceed further kept put := by
  -- No two reply codes have the same number.
  have other : code.text ≠ asciiBytes "102" := by
    revert concluded
    cases code <;> decide +kernel
  unfold resultCallback readResult
  rw [parsed]
  cases libs.keyChain.verifySignature tpm perSigner.hmacKey result with
  | false => simp
  | true =>
    simp only [Bool.not_true, Bool.false_eq_true, if_false, Bind.bind, Except.bind,
      getBlock_front, other, ne_eq, not_false_eq_true, if_true]
    by_cases signed : code.text = asciiBytes "200"
    · rw [if_pos signed]
      -- A final reply is collected, or its signature is missing.
      cases getBlock (⟨Tlv.status, code.text⟩ :: rest) Tlv.blsSigValue with
      | error fault => cases fault <;> simp
      | ok sigBlock => simp
    · rw [if_neg signed]
      simp

/-- Any reply code but the one in progress is terminal. -/
theorem SignRequestState.terminal_iff {libs : Libraries SecretKey PublicKey Signature}
    (lossless : libs.tlv.Lossless) (matching : libs.ssl.Matching) (state : SignRequestState) :
    state.Terminal libs ↔ state.code ≠ .processing := by
  refine ⟨Terminal.code, fun concluded => ⟨concluded, fun interestName random => ?_, ?_⟩⟩
  · rw [BLSSigner.generateResultData_state]
    simp [concluded]
  · -- What the signer has encrypted is what the initiator reads, status first.
    intro interestName random hmacKey tpm perSigner same further kept put
    have parsed := parseResultData_generateResultData lossless matching interestName state random
      hmacKey
    obtain ⟨rest, front⟩ := exists_resultElements libs.tlv state
    rw [front, ← same] at parsed
    exact resultCallback_stops parsed concluded further kept put

namespace BLSSigner

section Statements

variable (libs : Libraries SecretKey PublicKey Signature) (signer : BLSSigner SecretKey)

/-- The signer after an event, if the event can happen. -/
def next (signerState : SignerState) (event : SignerEvent) : Option SignerState :=
  (signer.step libs signerState event).map Prod.fst

/-- Every request whose parameter fetch has ended gives a last reply. -/
def Concludes (signerState : SignerState) : Prop :=
  ∀ request ∈ signerState.requests, request.fetch = none →
    request.state.Terminal libs

/-- Every request whose parameter fetch has not ended is in progress. -/
def InProgress (signerState : SignerState) : Prop :=
  ∀ request ∈ signerState.requests, request.fetch.isSome = true →
    request.state.code = .processing

/-- A parameter packet that is delivered to a request verifies under the request's HMAC key with
the keys that the signer's TPM holds by then. -/
def DeliversVerified (signerState : SignerState) : SignerEvent → Prop
  | .parameterData index data => ∀ request, signerState.requests[index]? = some request →
      libs.keyChain.verifySignature signerState.tpm request.state.hmacKey data = true
  | .signRequest _ _ | .parameterNack _ | .parameterTimeout _ | .resultInterest _ _ _ => True

end Statements

variable {libs : Libraries SecretKey PublicKey Signature} {signer : BLSSigner SecretKey}

/-- The parameter packet ends the progress of a request exactly where its HMAC verifies. -/
theorem onParameterData_code {tpm : List Buffer} {state after : SignRequestState} {data : Data}
    (progress : state.code = .processing)
    (handled : signer.onParameterData libs tpm state data = .ok after) :
    after.code ≠ .processing ↔
      libs.keyChain.verifySignature tpm state.hmacKey data = true := by
  rcases onParameterData_cases handled with
    ⟨unverified, same⟩ | ⟨verified, ⟨code, -, other, same⟩ | ⟨unsigned, -, -, same⟩⟩
  · -- The exit for a packet that does not verify sets no reply code.
    simp [unverified, same, progress]
  · -- A verified packet is refused or signed, and either sets a reply code.
    simp [verified, same, other]
  · simp [verified, same]

/-- Where one request is set, it is what a statement about all requests has to be checked for. -/
theorem forall_setRequest {signerState : SignerState} {index : Nat} {other : SignRequest}
    {holds : SignRequest → Prop} (all : ∀ request ∈ signerState.requests, holds request)
    (here : holds other) : ∀ request ∈ (signerState.setRequest index other).requests,
      holds request := by
  -- A request of the new list is an old one or the one that was set.
  intro request member
  rcases List.mem_or_eq_of_mem_set member with old | same
  · exact all request old
  · exact same ▸ here

/-- A request that is found is among the requests after it has been set. -/
theorem mem_setRequest {signerState : SignerState} {index : Nat} {request : SignRequest}
    (found : signerState.requests[index]? = some request) (other : SignRequest) :
    other ∈ (signerState.setRequest index other).requests :=
  List.mem_of_getElem? ((getElem?_setRequest found index).trans (if_pos rfl))

/-- Requests stay in progress: only the end of the fetch sets another reply code. -/
theorem InProgress.step {signerState after : SignerState} {event : SignerEvent}
    {outputs : List SignerOutput} (progress : InProgress signerState)
    (step : Step libs signer signerState event after outputs) : InProgress after := by
  cases step with
  | refused | ignored => exact progress
  | accepted accepts =>
    intro request member pending
    rcases List.mem_append.mp member with old | new
    · exact progress request old pending
    · rw [List.mem_singleton.mp new]
      exact (onSignRequest_accepted accepts).2.2.1
  -- At its end there is no fetch any more.
  | fetched found => exact forall_setRequest progress fun pending => by cases pending
  | failed found => exact forall_setRequest progress fun pending => by cases pending
  -- A result Interest sets neither the fetch nor the reply code.
  | @answered index interest random request found =>
    have before := progress request (List.mem_of_getElem? found)
    refine forall_setRequest progress fun pending => ?_
    rw [generateResultData_state]
    exact before pending

/-- A step without a parameter packet lets the replies of ended fetches be the last ones. -/
theorem Concludes.step (lossless : libs.tlv.Lossless) (matching : libs.ssl.Matching)
    {signerState after : SignerState} {event : SignerEvent}
    {outputs : List SignerOutput} (concludes : Concludes libs signerState)
    (other : ∀ index data, event ≠ .parameterData index data)
    (step : Step libs signer signerState event after outputs) : Concludes libs after := by
  cases step with
  | refused | ignored => exact concludes
  -- The fetch of a new request has not ended.
  | accepted accepts =>
    intro request member ended
    rcases List.mem_append.mp member with old | new
    · exact concludes request old ended
    · rw [List.mem_singleton.mp new] at ended
      cases ended
  | fetched found => exact absurd rfl (other _ _)
  -- A fetch that fails sets a reply code of its own.
  | failed found =>
    refine forall_setRequest concludes fun _ => ?_
    rw [SignRequestState.terminal_iff lossless matching]
    simp [onParameterFailure]
  | @answered index interest random request found =>
    -- A reply leaves the reply code as it was.
    have before := concludes request (List.mem_of_getElem? found)
    refine forall_setRequest concludes fun ended => ?_
    rw [SignRequestState.terminal_iff lossless matching, generateResultData_state]
    exact (before ended).code

/-- A step lets the replies of ended fetches be the last ones exactly where a parameter packet that
is delivered in it verifies. -/
theorem concludes_next_iff (lossless : libs.tlv.Lossless) (matching : libs.ssl.Matching)
    {signerState after : SignerState} {event : SignerEvent}
    (progress : InProgress signerState) (concludes : Concludes libs signerState)
    (taken : signer.next libs signerState event = some after) :
    Concludes libs after ↔ DeliversVerified libs signerState event := by
  obtain ⟨⟨state, outputs⟩, stepped, same⟩ := Option.map_eq_some_iff.mp taken
  cases same
  cases event with
  | parameterData index data =>
    obtain ⟨request, code, found, pending, handled, same, -⟩ := step_parameterData stepped
    -- The request was in progress, so its new reply code depends on the check alone.
    have waiting := progress request (List.mem_of_getElem? found)
      (SignRequest.isSome_fetch pending)
    have decided := onParameterData_code waiting handled
    cases same
    constructor
    · intro ended other otherFound
      rw [found] at otherFound
      cases otherFound
      exact decided.mp (ended _ (mem_setRequest found _) rfl).code
    · intro verified
      refine forall_setRequest concludes fun _ => ?_
      rw [SignRequestState.terminal_iff lossless matching]
      exact decided.mpr (verified request found)
  -- No other event delivers a parameter packet.
  | signRequest | parameterNack | parameterTimeout | resultInterest =>
    exact ⟨fun _ => trivial,
      fun _ => concludes.step lossless matching (by simp) (step_cases stepped)⟩

/-- In every state of a run the replies of ended fetches are the last ones exactly where every
parameter packet of the run verifies when it is delivered: the exit for a packet that does not
verify leaves the request in progress for ever. -/
theorem concludes_iff (libs : Libraries SecretKey PublicKey Signature)
    (lossless : libs.tlv.Lossless) (matching : libs.ssl.Matching) (signer : BLSSigner SecretKey)
    {tpm : List Buffer} {events : List SignerEvent} {final : SignerState}
    (run : Run.after (signer.next libs) events ⟨tpm, []⟩ = some final) :
    Run.EveryState (signer.next libs) (Concludes libs) events ⟨tpm, []⟩ ↔
      Run.EveryStep (signer.next libs) (DeliversVerified libs) events ⟨tpm, []⟩ := by
  -- Along the run requests with a fetch are in progress, which the step lemma needs.
  refine Run.everyState_iff_everyStep InProgress ?_ ?_ ?_ ?_ run
  · intro signerState event after progress taken
    obtain ⟨⟨state, outputs⟩, stepped, same⟩ := Option.map_eq_some_iff.mp taken
    exact same ▸ progress.step (step_cases stepped)
  · intro signerState event after progress concludes taken
    exact concludes_next_iff lossless matching progress concludes taken
  · exact fun request member => absurd member List.not_mem_nil
  · exact fun request member => absurd member List.not_mem_nil

end BLSSigner

open Reference in
/-- The statement for a run whose parameter packet verifies between two polls. -/
theorem BLSSigner.concludes_iff_signEvents :
    (Run.after (anySigner.next libraries) signEvents ⟨[], []⟩).isSome = true ∧
      (Run.EveryState (anySigner.next libraries) (Concludes libraries) signEvents ⟨[], []⟩ ↔
        Run.EveryStep (anySigner.next libraries) (DeliversVerified libraries) signEvents
          ⟨[], []⟩) := by
  have possible : (Run.after (anySigner.next libraries) signEvents ⟨[], []⟩).isSome = true := by
    decide +kernel
  obtain ⟨final, run⟩ := Option.isSome_iff_exists.mp possible
  exact ⟨possible, concludes_iff libraries PacketFormat.tlv_lossless openssl_matching anySigner run⟩

namespace Reference

/-- A sign request, a poll, and a parameter packet that is signed with another key. -/
def forgedParameter : List SignerEvent :=
  match anySigner.onSignRequest libraries signRequest signDraw with
  | .ok (.inr ⟨_, state, .ok fetchInterest⟩) =>
    [.signRequest signRequest signDraw, pollResult state,
      .parameterData 0 (libraries.keyChain.signWithHmac [0] (.ofName fetchInterest.name))]
  | _ => []

end Reference

open Reference in
/-- After a parameter packet that does not verify nothing is pending, and the request is still in
progress. -/
theorem BLSSigner.forgedParameter_in_progress :
    ∃ final, Run.after (anySigner.next libraries) forgedParameter ⟨[], []⟩ = some final ∧
      (final.requests.map fun request => (request.fetch.isSome, request.state.code)) =
        [(false, .processing)] ∧
      ¬ Run.EveryState (anySigner.next libraries) (Concludes libraries) forgedParameter
        ⟨[], []⟩ := by
  have ran : (Run.after (anySigner.next libraries) forgedParameter ⟨[], []⟩).map (fun final =>
      final.requests.map fun request => (request.fetch.isSome, request.state.code)) =
        some [(false, .processing)] := by
    decide +kernel
  obtain ⟨final, run, left⟩ := Option.map_eq_some_iff.mp ran
  refine ⟨final, run, left, Run.not_everyState run fun concludes => ?_⟩
  -- The last state is one of the run, and its request gives no last reply.
  obtain ⟨request, single, same⟩ := List.map_eq_singleton_iff.mp left
  have member : request ∈ final.requests := by simp [single]
  obtain ⟨ended, progress⟩ := Prod.mk.inj same
  have none := Option.isNone_iff_eq_none.mp (Option.isSome_eq_false_iff.mp ended)
  exact (concludes request member none).code progress

end NdnMps
